import CodeMetrics.Expression.Word
import CodeMetrics.Text.Line
import CodeMetrics.Text.Unprintable

/-!
# Reading words

The words of a text, as far as it can be read. Most errors count even when nobody reads up to
them; a bracket that is never closed and a backslash out of place show only to those who do.
-/

namespace CodeMetrics.Expression

open Text

/-! ## Quoted texts -/

/-- The number of line feeds. -/
def breaks (cs : List Char) : Nat := cs.count '\n'

/-- What stands inside the quotes of a text on one line, and what follows them. A backslash takes
the character behind it along, even a line feed. -/
def lineInside (quote : Char) (begun : List Char) :
    List Char → Except (List Char) (List Char × List Char)
  | [] => .error []
  | '\\' :: c :: rest => lineInside quote (c :: '\\' :: begun) rest
  | c :: rest =>
      if c = quote then .ok (begun.reverse, rest)
      else if c = '\n' then .error (c :: rest)
      else lineInside quote (c :: begun) rest

/-- What stands inside three quotes, and what follows them. -/
def blockInside (quote : Char) (begun : List Char) :
    List Char → Except (List Char) (List Char × List Char)
  | [] => .error []
  | '\\' :: c :: rest => blockInside quote (c :: '\\' :: begun) rest
  | c :: rest =>
      if c = quote ∧ rest.take 2 = [quote, quote] then .ok (begun.reverse, rest.drop 2)
      else blockInside quote (c :: begun) rest

/-- The inside of a quoted text, from its first quote on, and what follows it. When it does not end,
so that the line is known where that shows, what is left of the text. -/
def quotedAt (quote : Char) (cs : List Char) :
    Except (Bool × List Char) (List Char × List Char) :=
  let block := cs.take 3 == [quote, quote, quote]
  let found := if block then blockInside quote [] (cs.drop 3) else lineInside quote [] (cs.drop 1)
  found.mapError fun rest => (block, rest)

/-- What stands in front of a quoted text tells how it is read. -/
def quotation? (front : List Char) (inside : List Char) : Option Quotation :=
  match front.map Char.toLower with
  | [] | ['u'] => some ⟨false, false, false, inside⟩
  | ['r'] => some ⟨false, true, false, inside⟩
  | ['b'] => some ⟨true, false, false, inside⟩
  | ['b', 'r'] | ['r', 'b'] => some ⟨true, true, false, inside⟩
  | ['f'] => some ⟨false, false, true, inside⟩
  | ['f', 'r'] | ['r', 'f'] => some ⟨false, true, true, inside⟩
  | _ => none

/-! ## Names -/

/-- The first character of a name that cannot stand there. -/
def strayChar? : List Char → Option Char
  | [] => none
  | first :: rest =>
      if startsName first then rest.find? fun c => !continuesName c else some first

def checkName (name : List Char) : Except Error Unit :=
  match strayChar? name with
  | none => .ok ()
  | some c => .error (if within unprintableRanges c.toNat then .unprintable c else .badCharacter c)

/-! ## Lines -/

/-- The lines of a text. A line feed at its end starts no further one. -/
def lineCount (text : List Char) : Nat :=
  breaks text + if text.getLast?.any (· != '\n') then 1 else 0

/-- The line on which what is left of a text starts. -/
def lineAt (text left : List Char) : Nat :=
  min (lineCount text) (breaks text - breaks left + 1)

/-- How far the first word of a line stands from its start, and the text from that word on. The
first backslash that leads on to another line settles the distance if it stands off the start. -/
def columnFrom (settled column : Nat) : List Char → Nat × List Char
  | ' ' :: rest => columnFrom settled (column + 1) rest
  | '\t' :: rest => columnFrom settled (8 * (column / 8 + 1)) rest
  | '\x0c' :: rest => columnFrom settled 0 rest
  | '\\' :: '\n' :: c :: rest =>
      columnFrom (if settled = 0 then column else settled) column (c :: rest)
  | cs => (if settled = 0 then column else settled, cs)

/-! ## Words -/

/-- How far a text is read. -/
structure Reading where
  /-- The words so far, backwards. -/
  words : List Word
  /-- The brackets that are open, the last one first, with their lines. -/
  brackets : List (Char × Nat)
  /-- The distances from the start of the line that hold, the largest one first. -/
  columns : List Nat
  /-- No word stands on the line yet. -/
  isFresh : Bool

/-- The end of a word shows only in what follows it, quoted texts and the longest marks aside. -/
def Shape.needsMore : Shape → Bool
  | .quotation text => text.inside.isEmpty
  | .mark text => text.length < 3
  | _ => true

/-- The next word, with the text behind it. -/
def Reading.push (reading : Reading) (line : Nat) (shape : Shape) (behind : List Char) : Reading :=
  let word : Word := ⟨shape, line, reading.brackets.length, behind.isEmpty && shape.needsMore⟩
  { reading with words := word :: reading.words, isFresh := false }

def Reading.stop (reading : Reading) (broken : Option Break) : Words :=
  ⟨reading.words.reverse.toArray, broken, reading.brackets.head?⟩

/-- The words in front of an error. -/
def Reading.fail (reading : Reading) (error : Error) : Words := reading.stop (some ⟨error, true⟩)

/-- The words in front of an error that shows only to those who read on. -/
def Reading.breakOff (reading : Reading) (error : Error) : Words :=
  reading.stop (some ⟨error, false⟩)

/-- The most brackets that are open at one time. -/
def bracketLimit : Nat := 200

def closingOf : Char → Char
  | '(' => ')'
  | '[' => ']'
  | _ => '\x7d'

/-- A bracket on a line, with the text behind it. -/
def Reading.bracket (reading : Reading) (line : Nat) (c : Char) (behind : List Char) :
    Except Error Reading :=
  if c = '(' ∨ c = '[' ∨ c = '\x7b' then
    if bracketLimit ≤ reading.brackets.length then .error .tooNested
    else
      let nested := { reading with brackets := (c, line) :: reading.brackets }
      .ok (nested.push line (.mark c.toString) behind)
  else
    match reading.brackets with
    | [] => .error (.unmatched c)
    | (opening, opened) :: others =>
        if closingOf opening = c then
          .ok ({ reading with brackets := others }.push line (.mark c.toString) behind)
        else .error (.mismatched c opening (if opened = line then none else some opened))

/-- The brackets as characters. -/
def brackets : List Char := ['(', ')', '[', ']', '\x7b', '\x7d']

/-- The end of a text. A bracket that is still open shows only to those who read on. -/
def Reading.finish (reading : Reading) (lines : Nat) : Words :=
  match reading.brackets with
  | (opening, _) :: _ => reading.breakOff (.neverClosed opening)
  | [] => (reading.push lines .finish []).stop none

/-- A backslash that leads nowhere, since the text ends behind it. -/
def Reading.finishEarly (reading : Reading) : Words :=
  match reading.brackets with
  | (opening, _) :: _ => reading.breakOff (.neverClosed opening)
  | [] => reading.breakOff .ended

/-- The start of a line whose first word has a distance. A smaller distance than before has to be
one that held already. -/
def Reading.indent (reading : Reading) (line column : Nat) : Option Reading :=
  let last := reading.columns.head?.getD 0
  if last < column then
    some ({ reading with columns := column :: reading.columns }.push line .indent [])
  else if reading.columns.contains column then
    some { reading with columns := reading.columns.dropWhile (column < ·), isFresh := false }
  else none

/-- The mark at the start of a text. -/
def markAt (c : Char) (cs : List Char) : String :=
  (longMarks.find? fun mark => mark.toList.isPrefixOf cs).getD c.toString

/-- What follows blanks. -/
def dropBlanks (cs : List Char) : List Char :=
  cs.dropWhile fun c => c == ' ' || c == '\t' || c == '\x0c'

/-- The shape of the number, the quoted text or the name at the start of a text, if one stands
there, and what follows it. -/
def shapeAt? (text cs : List Char) : Except Error (Option (Shape × List Char)) := do
  let start := cs.head?.getD ' '
  if start.isDigit || (start == '.' && (cs.drop 1).head?.any Char.isDigit) then
    let (numeral, rest) ← numberAt cs
    return some (.number numeral, rest)
  let name := cs.takeWhile isNameChar
  let behind := cs.dropWhile isNameChar
  if behind.head?.any (fun c => c == '\x22' || c == '\x27') && (quotation? name []).isSome then
    match quotedAt (behind.head?.getD ' ') behind with
    | .ok (inside, rest) =>
        return (quotation? name inside).map fun quotation => (.quotation quotation, rest)
    | .error (block, left) => throw (.unterminated block (lineAt text left))
  if name.isEmpty then return none
  checkName name
  return some (.ofName (String.ofList name), behind)

/-- The words of a text behind those that are read; `fuel` bounds the characters that are left. -/
def scanFrom (text : List Char) (fuel : Nat) (reading : Reading) (cs : List Char) : Words :=
  match fuel with
  | 0 => reading.finish (lineCount text)
  | fuel + 1 =>
      let line := lineAt text cs
      let (column, first) := columnFrom 0 0 cs
      let startsLine := reading.isFresh && reading.brackets.isEmpty &&
        !first.head?.any fun c => c == '#' || c == '\n' || c == '\\'
      if startsLine then
        match reading.indent (lineAt text first) column with
        | some reading => scanFrom text fuel reading first
        | none => reading.breakOff .unexpectedIndent
      else
        match cs with
        | [] => reading.finish (lineCount text)
        | '\\' :: rest =>
            match rest with
            | ['\n'] => reading.finishEarly
            | '\n' :: rest => scanFrom text fuel reading rest
            | _ => reading.breakOff .backslash
        | c :: rest =>
            if c = '\n' then
              if reading.brackets.isEmpty && !reading.isFresh then
                scanFrom text fuel { reading.push line .lineEnd rest with isFresh := true } rest
              else scanFrom text fuel reading rest
            else if c = ' ' ∨ c = '\t' ∨ c = '\x0c' then
              scanFrom text fuel reading (dropBlanks rest)
            else if c = '#' then scanFrom text fuel reading (rest.dropWhile (· != '\n'))
            else
              match shapeAt? text cs with
              | .error error => reading.fail error
              | .ok (some (shape, rest)) => scanFrom text fuel (reading.push line shape rest) rest
              | .ok none =>
                  if brackets.contains c then
                    match reading.bracket line c rest with
                    | .ok reading => scanFrom text fuel reading rest
                    | .error error => reading.fail error
                  else if within unprintableRanges c.toNat then reading.fail (.unprintable c)
                  else
                    let mark := markAt c cs
                    let behind := cs.drop mark.length
                    scanFrom text fuel (reading.push line (.mark mark) behind) behind

/-- The words of a text. -/
def scan (text : List Char) : Words := scanFrom text (2 * text.length + 2) ⟨[], [], [0], true⟩ text

end CodeMetrics.Expression
