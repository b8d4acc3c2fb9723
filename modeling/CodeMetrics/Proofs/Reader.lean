import CodeMetrics.Text.Digit

/-!
# A reader of documents

The grammar of JSON: nothing is accepted that it does not allow, such as a comma behind the last
item, zeros in front of a number, a control character in a text, or a NaN. Half a surrogate pair
stands for no character, so it is refused as well. A whole number is read as an integer; any other
number is kept as it is written, and the members of a table keep their order.

The fuel bounds the nesting. A value is nested less deeply than its text is long, so the length of
the text is always enough.
-/

namespace CodeMetrics.Report.Json

/-- What a document says. -/
inductive Tree where
  | null
  | bool (b : Bool)
  | whole (n : Int)
  /-- A number with places or an exponent, as it is written. -/
  | decimal (literal : String)
  | text (s : String)
  | list (items : List Tree)
  | table (members : List (String × Tree))

/-! ## Numbers -/

/-- The digits at the front, one at least, and what is behind them. -/
def digits? (cs : List Char) : Option (List Char × List Char) :=
  let found := cs.takeWhile Char.isDigit
  if found = [] then none else some (found, cs.dropWhile Char.isDigit)

/-- The digits in front of the point. A zero is the only one, if it is the first one. -/
def wholePart? (cs : List Char) : Option (List Char × List Char) := do
  let (found, rest) ← digits? cs
  if found.head? = some '0' ∧ 1 < found.length then none else some (found, rest)

/-- What is behind a point and its digits, if there is a point. -/
def behindPlaces? : List Char → Option (List Char)
  | '.' :: rest => (digits? rest).map Prod.snd
  | cs => some cs

/-- What is behind an exponent, if there is one. It can have a sign. -/
def behindExponent? : List Char → Option (List Char)
  | 'e' :: '+' :: rest | 'E' :: '+' :: rest => (digits? rest).map Prod.snd
  | 'e' :: '-' :: rest | 'E' :: '-' :: rest => (digits? rest).map Prod.snd
  | 'e' :: rest | 'E' :: rest => (digits? rest).map Prod.snd
  | cs => some cs

/-- The number that is written without its sign. -/
def unsigned? (negative : Bool) (literal : String) (cs : List Char) : Option Tree := do
  let (found, rest) ← wholePart? cs
  let magnitude : Int := Nat.ofDigitChars 10 found 0
  if rest = [] then return .whole (if negative then -magnitude else magnitude)
  let rest ← behindPlaces? rest
  let rest ← behindExponent? rest
  if rest = [] then some (.decimal literal) else none

def number? : List Char → Option Tree
  | '-' :: cs => unsigned? true (String.ofList ('-' :: cs)) cs
  | cs => unsigned? false (String.ofList cs) cs

/-- Digits behind a zero are no number, and neither is a point without digits. -/
example : number? ['0', '1'] = none ∧ number? ['1', '.'] = none := by cbv

/-! ## Texts -/

/-- A part of a text: a character, or a UTF-16 unit that is written by its number. -/
inductive Part where
  | char (c : Char)
  | unit (n : Nat)

/-- The character that is written by a backslash and another one. -/
def escaped? : Char → Option Char
  | '\x22' => some '\x22'
  | '\\' => some '\\'
  | '/' => some '/'
  | 'b' => some '\x08'
  | 'f' => some '\x0C'
  | 'n' => some '\n'
  | 'r' => some '\r'
  | 't' => some '\t'
  | _ => none

/-- The number of a unit, in hexadecimal digits. -/
def unit? (digits : List Char) : Option Nat :=
  if digits.all fun c => (Text.hexValue? c).isSome then some (Text.hexValue digits) else none

/-- The parts up to the closing quote, and what is behind it. -/
def readParts : List Char → Option (List Part × List Char)
  | [] => none
  | '\x22' :: left => some ([], left)
  | '\\' :: 'u' :: a :: b :: c :: d :: rest => do
      let n ← unit? [a, b, c, d]
      let (parts, left) ← readParts rest
      return (.unit n :: parts, left)
  | '\\' :: c :: rest => do
      let meant ← escaped? c
      let (parts, left) ← readParts rest
      return (.char meant :: parts, left)
  | c :: rest => do
      if c = '\\' ∨ c.toNat < 0x20 then none
      let (parts, left) ← readParts rest
      return (.char c :: parts, left)

/-- The first unit of a pair. -/
def isHigh (n : Nat) : Bool := 0xD800 ≤ n && n < 0xDC00

/-- The second unit of a pair. -/
def isLow (n : Nat) : Bool := 0xDC00 ≤ n && n < 0xE000

/-- The character of a pair of units. -/
def paired (high low : Nat) : Char := Char.ofNat (0x10000 + 1024 * (high - 0xD800) + (low - 0xDC00))

/-- The characters of the parts. A pair of units is one character. -/
def joinParts : List Part → Option (List Char)
  | [] => some []
  | .char c :: rest => (joinParts rest).map (c :: ·)
  | .unit n :: rest =>
      if isHigh n then
        match rest with
        | .unit m :: more => if isLow m then (joinParts more).map (paired n m :: ·) else none
        | _ => none
      else if isLow n then none
      else (joinParts rest).map (Char.ofNat n :: ·)

example : joinParts [.unit 0xD83D, .unit 0xDE00] = some ['😀'] := by rfl

/-- The text behind an opening quote, and what is behind the closing one. -/
def readText (cs : List Char) : Option (String × List Char) := do
  let (parts, left) ← readParts cs
  let meant ← joinParts parts
  return (String.ofList meant, left)

/-! ## Values -/

def isSpace (c : Char) : Bool := c = ' ' || c = '\t' || c = '\n' || c = '\r'

/-- The next character that is no space, and what is behind it. -/
def next? (cs : List Char) : Option (Char × List Char) :=
  match cs.dropWhile isSpace with
  | [] => none
  | c :: rest => some (c, rest)

/-- A character of a word or a number. -/
def isWordChar (c : Char) : Bool := c.isAlphanum || c = '+' || c = '-' || c = '.'

def word? (cs : List Char) : Option Tree :=
  if cs = "null".toList then some .null
  else if cs = "true".toList then some (.bool true)
  else if cs = "false".toList then some (.bool false)
  else number? cs

def readWord (cs : List Char) : Option (Tree × List Char) := do
  let tree ← word? (cs.takeWhile isWordChar)
  return (tree, cs.dropWhile isWordChar)

mutual

/-- A value, and what is behind it. -/
def readValue : Nat → List Char → Option (Tree × List Char)
  | 0, _ => none
  | fuel + 1, cs => do
      let (c, rest) ← next? cs
      if c = '\x22' then
        let (s, left) ← readText rest
        return (.text s, left)
      else if c = '[' then
        let (first, left) ← next? rest
        if first = ']' then return (.list [], left)
        let (items, left) ← readItems fuel rest
        return (.list items, left)
      else if c = '\x7b' then
        let (first, left) ← next? rest
        if first = '\x7d' then return (.table [], left)
        let (members, left) ← readMembers fuel rest
        return (.table members, left)
      else readWord (c :: rest)

/-- The items of a list, one at least, and what is behind the list. -/
def readItems : Nat → List Char → Option (List Tree × List Char)
  | 0, _ => none
  | fuel + 1, cs => do
      let (item, rest) ← readValue fuel cs
      let (c, rest) ← next? rest
      if c = ',' then
        let (items, left) ← readItems fuel rest
        return (item :: items, left)
      else if c = ']' then return ([item], rest)
      else none

/-- The members of a table, one at least, and what is behind the table. -/
def readMembers : Nat → List Char → Option (List (String × Tree) × List Char)
  | 0, _ => none
  | fuel + 1, cs => do
      let (quote, rest) ← next? cs
      if quote ≠ '\x22' then none
      let (key, rest) ← readText rest
      let (colon, rest) ← next? rest
      if colon ≠ ':' then none
      let (member, rest) ← readValue fuel rest
      let (c, rest) ← next? rest
      if c = ',' then
        let (members, left) ← readMembers fuel rest
        return ((key, member) :: members, left)
      else if c = '\x7d' then return ([(key, member)], rest)
      else none

end

/-- What a text says, if it is a document. Only spaces are behind the value. -/
def read (text : String) : Option Tree := do
  let (tree, left) ← readValue (text.length + 1) text.toList
  if left.all isSpace then some tree else none

end CodeMetrics.Report.Json
