import CodeMetrics.Number.Literal
import CodeMetrics.Value

/-!
# Scalars of TOML

Strings, numbers and keys. Every reader takes the characters from where it starts and gives what
it read with the characters behind it. Carriage returns before line feeds are gone by then.
-/

namespace CodeMetrics.Toml

inductive Error where
  | malformed
  /-- A decimal integer with more digits than are converted. -/
  | tooManyDigits (count : Nat)
  deriving DecidableEq, Repr

def isBlank (c : Char) : Bool := c == ' ' || c == '\t'

def isBlankOrBreak (c : Char) : Bool := isBlank c || c == '\n'

/-- Controls other than the tab stand in no line of a document. -/
def isIllegal (c : Char) : Bool := (c.toNat < 0x20 && c != '\t') || c.toNat == 0x7F

/-- Controls other than tab and line feed stand in no text of several lines. -/
def isIllegalInBlock (c : Char) : Bool := isIllegal c && c != '\n'

def skipBlanks (cs : List Char) : List Char := cs.dropWhile isBlank

/-- A comment runs to the end of its line. -/
def skipComment : List Char → Except Error (List Char)
  | '#' :: rest =>
      if (rest.takeWhile (· != '\n')).any isIllegal then .error .malformed
      else .ok (rest.dropWhile (· != '\n'))
  | cs => .ok cs

/-! ## Strings -/

/-- The characters up to an apostrophe, as they stand. -/
def literalText (cs : List Char) : Except Error (List Char × List Char) :=
  match cs.span (· != '\x27') with
  | (_, []) => .error .malformed
  | (inside, _ :: rest) => if inside.any isIllegal then .error .malformed else .ok (inside, rest)

/-- The characters up to three apostrophes, as they stand. -/
def literalBlock : List Char → Except Error (List Char × List Char)
  | [] => .error .malformed
  | '\x27' :: '\x27' :: '\x27' :: rest => .ok ([], rest)
  | c :: rest =>
      if isIllegalInBlock c then .error .malformed
      else do
        let (inside, rest) ← literalBlock rest
        return (c :: inside, rest)

/-- The character of a number of hexadecimal digits; surrogates are none. -/
def hexCharacter (size : Nat) (cs : List Char) : Except Error (Char × List Char) :=
  match (cs.take size).mapM Text.hexValue? with
  | none => .error .malformed
  | some digits =>
      let code := digits.foldl (fun value digit => 16 * value + digit) 0
      if digits.length = size ∧ (code < 0xD800 ∨ (0xE000 ≤ code ∧ code < 0x110000)) then
        .ok (Char.ofNat code, cs.drop size)
      else .error .malformed

/-- The character behind a backslash, escapes by number aside. -/
def shortEscape? : Char → Option Char
  | 'b' => some '\x08'
  | 't' => some '\t'
  | 'n' => some '\n'
  | 'f' => some '\x0C'
  | 'r' => some '\r'
  | '\x22' => some '\x22'
  | '\\' => some '\\'
  | _ => none

/-- An escape whose backslash is read. In a text of several lines a backslash at the end of a line
takes the blanks and breaks behind it away. -/
def escape (block : Bool) : List Char → Except Error (List Char × List Char)
  | [] => .error .malformed
  | c :: rest =>
      if block && c == '\n' then .ok ([], rest.dropWhile isBlankOrBreak)
      else if block && isBlank c then
        match skipBlanks rest with
        | [] => .ok ([], [])
        | '\n' :: rest => .ok ([], rest.dropWhile isBlankOrBreak)
        | _ => .error .malformed
      else if c = 'u' then do
        let (char, rest) ← hexCharacter 4 rest
        return ([char], rest)
      else if c = 'U' then do
        let (char, rest) ← hexCharacter 8 rest
        return ([char], rest)
      else match shortEscape? c with
        | some char => .ok ([char], rest)
        | none => .error .malformed

/-- The characters up to a closing quote, with escapes; `fuel` bounds the characters left. -/
def basicText (fuel : Nat) (begun : List Char) (cs : List Char) :
    Except Error (List Char × List Char) :=
  match fuel, cs with
  | fuel + 1, '\\' :: rest => do
      let (chars, rest) ← escape false rest
      basicText fuel (chars.reverse ++ begun) rest
  | fuel + 1, c :: rest =>
      if c = '\x22' then .ok (begun.reverse, rest)
      else if isIllegal c then .error .malformed
      else basicText fuel (c :: begun) rest
  | _, _ => .error .malformed

/-- The characters up to three closing quotes, with escapes. -/
def basicBlock (fuel : Nat) (begun : List Char) (cs : List Char) :
    Except Error (List Char × List Char) :=
  match fuel, cs with
  | _, '\x22' :: '\x22' :: '\x22' :: rest => .ok (begun.reverse, rest)
  | fuel + 1, '\\' :: rest => do
      let (chars, rest) ← escape true rest
      basicBlock fuel (chars.reverse ++ begun) rest
  | fuel + 1, c :: rest =>
      if isIllegalInBlock c then .error .malformed else basicBlock fuel (c :: begun) rest
  | _, _ => .error .malformed

/-- A block may end with one or two more of its quotes, which belong to the text. -/
def closingQuotes (quote : Char) (text : List Char) : List Char → List Char × List Char
  | a :: b :: rest =>
      if a = quote ∧ b = quote then (text ++ [quote, quote], rest)
      else if a = quote then (text ++ [quote], b :: rest)
      else (text, a :: b :: rest)
  | [a] => if a = quote then (text ++ [quote], []) else (text, [a])
  | [] => (text, [])

/-- A break right behind the opening quotes of a block does not belong to the text. -/
def skipBreak : List Char → List Char
  | '\n' :: rest => rest
  | cs => cs

/-- A string in any of its four forms. -/
def string? (cs : List Char) : Option (Except Error (List Char × List Char)) :=
  match cs with
  | '\x22' :: '\x22' :: '\x22' :: rest => some do
      let (text, rest) ← basicBlock (rest.length + 1) [] (skipBreak rest)
      return closingQuotes '\x22' text rest
  | '\x22' :: rest => some (basicText (rest.length + 1) [] rest)
  | '\x27' :: '\x27' :: '\x27' :: rest => some do
      let (text, rest) ← literalBlock (skipBreak rest)
      return closingQuotes '\x27' text rest
  | '\x27' :: rest => some (literalText rest)
  | _ => none

/-! ## Keys -/

def isKeyChar (c : Char) : Bool := c.isAlphanum || c == '-' || c == '_'

/-- A part of a key: bare characters, or a string on one line. -/
def keyPart : List Char → Except Error (String × List Char)
  | '\x27' :: rest => do
      let (text, rest) ← literalText rest
      return (String.ofList text, rest)
  | '\x22' :: rest => do
      let (text, rest) ← basicText (rest.length + 1) [] rest
      return (String.ofList text, rest)
  | cs =>
      match cs.span isKeyChar with
      | ([], _) => .error .malformed
      | (bare, rest) => .ok (String.ofList bare, rest)

/-- The parts of a key behind the first one, each after a point; `fuel` bounds the parts. -/
def keyRest (fuel : Nat) (cs : List Char) : Except Error (List String × List Char) :=
  match fuel, skipBlanks cs with
  | fuel + 1, '.' :: rest => do
      let (part, rest) ← keyPart (skipBlanks rest)
      let (parts, rest) ← keyRest fuel rest
      return (part :: parts, rest)
  | _, rest => .ok ([], rest)

/-- A key with at least one part, and the characters behind it and its blanks. -/
def key (cs : List Char) : Except Error (List String × List Char) := do
  let (part, rest) ← keyPart cs
  let (parts, rest) ← keyRest (rest.length + 1) rest
  return (part :: parts, rest)

/-! ## Numbers -/

/-- A digit, then digits that may each have an underscore in front. -/
def digits (isDigit : Char → Bool) : List Char → List Char × List Char
  | c :: '_' :: d :: rest =>
      if isDigit c && isDigit d then
        let (more, rest) := digits isDigit (d :: rest)
        (c :: more, rest)
      else if isDigit c then ([c], '_' :: d :: rest)
      else ([], c :: '_' :: d :: rest)
  | c :: rest =>
      if isDigit c then
        let (more, rest) := digits isDigit rest
        (c :: more, rest)
      else ([], c :: rest)
  | [] => ([], [])

/-- An integer in another base, behind its leading zero. -/
def based? : List Char → Option (Int × List Char)
  | mark :: rest =>
      let base := if mark = 'x' then 16 else if mark = 'o' then 8 else if mark = 'b' then 2 else 0
      let isDigit (c : Char) : Bool := (Text.hexValue? c).any (· < base)
      match digits isDigit rest with
      | ([], _) => none
      | (found, rest) =>
          let value := (found.filterMap Text.hexValue?).foldl (fun n digit => base * n + digit) 0
          some ((value : Int), rest)
  | [] => none

/-- The integer part of a decimal number: a single zero, or digits that start with none. -/
def integerPart (cs : List Char) : List Char × List Char :=
  match cs with
  | '0' :: rest => (['0'], rest)
  | cs => digits Char.isDigit cs

/-- A point with digits behind it; without digits the point is left. -/
def fraction (cs : List Char) : List Char × List Char :=
  match cs with
  | '.' :: rest =>
      match digits Char.isDigit rest with
      | ([], _) => ([], cs)
      | (places, rest) => ('.' :: places, rest)
  | _ => ([], cs)

/-- The mark of an exponent, its sign and digits; without digits the mark is left. -/
def exponent (cs : List Char) : List Char × List Char :=
  match cs with
  | mark :: rest =>
      if mark = 'e' ∨ mark = 'E' then
        let sign := rest.takeWhile (fun c => c == '+' || c == '-') |>.take 1
        match digits Char.isDigit (rest.drop sign.length) with
        | ([], _) => ([], cs)
        | (power, rest) => ('e' :: sign ++ power, rest)
      else ([], cs)
  | [] => ([], cs)

/-- A decimal number behind its sign: a real if it has a fraction or an exponent. -/
def decimal? (sign : List Char) (cs : List Char) : Option (Except Error (Value × List Char)) :=
  match integerPart cs with
  | ([], _) => none
  | (whole, rest) =>
      let (places, rest) := fraction rest
      let (power, rest) := exponent rest
      let written := sign ++ whole ++ places ++ power
      if places.isEmpty && power.isEmpty then
        match Number.readInteger written with
        | .ok n => some (.ok (.int n, rest))
        | .error (.tooManyDigits count) => some (.error (.tooManyDigits count))
        | .error .malformed => none
      else (Number.readReal? written).map fun x => .ok (.real x, rest)

/-- The reals that are no numbers, or beyond all numbers. -/
def special? (cs : List Char) : Option (Value × List Char) :=
  match cs with
  | 'i' :: 'n' :: 'f' :: rest | '+' :: 'i' :: 'n' :: 'f' :: rest =>
      some (.real Number.infinity, rest)
  | '-' :: 'i' :: 'n' :: 'f' :: rest => some (.real (-Number.infinity), rest)
  | 'n' :: 'a' :: 'n' :: rest | '+' :: 'n' :: 'a' :: 'n' :: rest
  | '-' :: 'n' :: 'a' :: 'n' :: rest => some (.real (0.0 / 0.0), rest)
  | _ => none

/-- A number; of a text that starts like one, the longest start that is. -/
def number? (cs : List Char) : Option (Except Error (Value × List Char)) :=
  let unsigned : Option (Except Error (Value × List Char)) := match cs with
    | '+' :: rest => decimal? ['+'] rest
    | '-' :: rest => decimal? ['-'] rest
    | rest => decimal? [] rest
  let based : Option (Int × List Char) := match cs with
    | '0' :: rest => based? rest
    | _ => none
  match based with
  | some (n, rest) => some (.ok (.int n, rest))
  | none =>
      match unsigned with
      | some read => some read
      | none => (special? cs).map .ok

end CodeMetrics.Toml
