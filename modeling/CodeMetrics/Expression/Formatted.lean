import CodeMetrics.Expression.Quotation

/-!
# Formatted texts

A formatted text has fields in braces: an expression, perhaps an equals sign, a conversion behind
an exclamation mark, and a format behind a colon, which may have fields itself. A doubled brace
stands for a brace. Texts that follow one another are joined, and texts of octets join only with
their own kind.
-/

namespace CodeMetrics.Expression

/-- A part of a formatted text without fields. -/
structure Literal where
  text : List Char
  /-- The part ends in a doubled brace. -/
  isDoubled : Bool
  /-- What follows, from the brace on if it is not doubled. -/
  rest : List Char

/-- The part without fields in front of a text. Braces that name a character open no field. Braces
are doubled outside formats only. -/
def literalAt (isRaw isFormat inName : Bool) (begun : List Char) :
    List Char → Except Error Literal
  | [] => .ok ⟨begun.reverse, false, []⟩
  | c :: rest =>
      if inName then literalAt isRaw isFormat (c != '\x7d') (c :: begun) rest
      else if c = '\\' ∧ !isRaw then
        match rest with
        | 'N' :: next :: behind =>
            literalAt isRaw isFormat (next == '\x7b') (next :: 'N' :: '\\' :: begun) behind
        | next :: behind =>
            if next = '\x7b' ∨ next = '\x7d' then
              literalAt isRaw isFormat false ('\\' :: begun) (next :: behind)
            else literalAt isRaw isFormat false (next :: '\\' :: begun) behind
        | [] => .ok ⟨('\\' :: begun).reverse, false, []⟩
      else if c ≠ '\x7b' ∧ c ≠ '\x7d' then literalAt isRaw isFormat false (c :: begun) rest
      else if isFormat then .ok ⟨begun.reverse, false, c :: rest⟩
      else if rest.head? = some c then .ok ⟨(c :: begun).reverse, true, rest.drop 1⟩
      else if c = '\x7d' then .error .loneBrace
      else .ok ⟨begun.reverse, false, c :: rest⟩

/-- A comparison that is written with an equals sign. -/
def isComparison (c next : Char) : Bool := ['!', '=', '<', '>'].contains c && next == '='

/-- A bracket that closes the last one opened. -/
def closeBracket (c : Char) : List Char → Except Error (List Char)
  | [] => .error (.fieldUnmatched c)
  | opening :: others =>
      if [('(', ')'), ('[', ']'), ('\x7b', '\x7d')].contains (opening, c) then .ok others
      else .error (.fieldMismatched c opening)

/-- How far the expression of a field is read. -/
structure FieldReading where
  /-- The characters that belong to what was read before. -/
  skipped : Nat
  /-- The quote that is open, and whether it is one of three. -/
  quote : Option (Char × Bool)
  /-- The brackets that are open, the last one first. -/
  opened : List Char

/-- The end of a text inside the expression of a field. -/
def FieldReading.unfinished (reading : FieldReading) : Error :=
  match reading.quote, reading.opened with
  | some _, _ => .fieldQuote
  | none, bracket :: _ => .fieldUnmatched bracket
  | none, [] => .openField

/-- A character inside quotes; `threefold` tells that it stands three times. -/
def FieldReading.inQuote (reading : FieldReading) (mark : Char) (isThreefold : Bool) (c : Char)
    (threefold : Bool) : FieldReading :=
  if c ≠ mark ∨ (isThreefold && !threefold) then reading
  else { reading with skipped := if isThreefold then 2 else 0, quote := none }

/-- A character outside quotes, or nothing when it ends the expression. -/
def FieldReading.step (reading : FieldReading) (c : Char) (threefold : Bool) (next : Option Char) :
    Except Error (Option FieldReading) := do
  if c = '\x22' ∨ c = '\x27' then
    return some { reading with skipped := if threefold then 2 else 0, quote := some (c, threefold) }
  else if ['(', '[', '\x7b'].contains c then
    if 200 ≤ reading.opened.length then throw .fieldTooNested
    return some { reading with opened := c :: reading.opened }
  else if c = '#' then throw .fieldComment
  else if reading.opened.isEmpty && ['!', ':', '\x7d', '=', '<', '>'].contains c then
    if next.any (isComparison c) then return some { reading with skipped := 1 }
    else return if c = '<' ∨ c = '>' then some reading else none
  else if [')', ']', '\x7d'].contains c then
    return some { reading with opened := ← closeBracket c reading.opened }
  else return some reading

/-- The expression in front of a field, and what ends it. -/
def fieldAt (reading : FieldReading) (begun : List Char) :
    List Char → Except Error (List Char × List Char)
  | [] => .error reading.unfinished
  | c :: rest =>
      if reading.skipped ≠ 0 then
        fieldAt { reading with skipped := reading.skipped - 1 } (c :: begun) rest
      else if c = '\\' then .error .fieldBackslash
      else
        let threefold := rest.take 2 == [c, c]
        match reading.quote with
        | some (mark, isThreefold) =>
            fieldAt (reading.inQuote mark isThreefold c threefold) (c :: begun) rest
        | none =>
            match reading.step c threefold rest.head? with
            | .ok (some reading) => fieldAt reading (c :: begun) rest
            | .ok none => .ok (begun.reverse, c :: rest)
            | .error error => .error error

/-- The expression of a field, in brackets. -/
def checkExpression (read : List Char → Except Error Unit) (cs rest : List Char) :
    Except Error Unit :=
  if cs.all fun c => [' ', '\t', '\n', '\x0c'].contains c then
    .error (.emptyField (rest.head?.filter (· != '\x7d')))
  else read ('(' :: cs ++ [')'])

/-- What follows the equals sign and the conversion of a field. -/
def conversionEnd (cs : List Char) : Except Error (List Char) :=
  let behind :=
    if cs.head? = some '=' then
      (cs.drop 1).dropWhile fun c => c == ' ' || (9 ≤ c.toNat && c.toNat ≤ 13)
    else cs
  match behind with
  | '!' :: conversion :: rest =>
      if ['s', 'r', 'a'].contains conversion then .ok rest else .error .badConversion
  | ['!'] => .error .openField
  | _ => .ok behind

/-- The fields of a text can be read by `read`. What follows the text, which is a closing brace when
it is a format. Formats are nested to a `level`; `fuel` bounds the parts that are left. -/
def checkFields (read : List Char → Except Error Unit) (isRaw : Bool) (fuel level : Nat)
    (cs : List Char) : Except Error (List Char) :=
  match fuel with
  | 0 => .ok cs
  | fuel + 1 => do
      let literal ← literalAt isRaw (level != 0) false [] cs
      checkText isRaw literal.text
      match literal.isDoubled, literal.rest with
      | true, rest => checkFields read isRaw fuel level rest
      | false, '\x7b' :: inside =>
          if 2 ≤ level then throw .nestedFields
          let (expression, rest) ← fieldAt ⟨0, none, []⟩ [] inside
          checkExpression read expression rest
          let formatted ← match ← conversionEnd rest with
            | [':'] => throw .openField
            | ':' :: format => checkFields read isRaw fuel (level + 1) format
            | rest => pure rest
          match formatted with
          | '\x7d' :: rest => checkFields read isRaw fuel level rest
          | _ => throw .openField
      | false, rest => if level ≠ 0 ∧ rest.isEmpty then throw .openField else return rest

/-! ## Joined texts -/

/-- Texts that follow one another, the first of them in octets or not. -/
def checkJoined (read : List Char → Except Error Unit) (isBytes : Bool) :
    List Quotation → Except Error Unit
  | [] => .ok ()
  | text :: rest => do
      text.check
      if text.isBytes != isBytes then throw .mixedTexts
      if text.isFormatted then
        discard (checkFields read text.isRaw (text.inside.length + 1) 0 text.inside)
      checkJoined read isBytes rest

def checkQuotations (read : List Char → Except Error Unit) (texts : List Quotation) :
    Except Error Unit :=
  checkJoined read (texts.head?.any (·.isBytes)) texts

end CodeMetrics.Expression
