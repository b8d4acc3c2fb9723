import CodeMetrics.Expression.Error
import CodeMetrics.Text.Name

/-!
# Numbers in expressions

Numbers are read for where they end and for their kind; only of integers the digits are kept. A
letter right behind a number is an error, unless it starts one of a few keywords.
-/

namespace CodeMetrics.Expression

open Text

/-- The character belongs to a name, as far as reading a word goes. -/
def isNameChar (c : Char) : Bool := c.isAlphanum || c == '_' || 0x80 ≤ c.toNat

/-- The text starts with a keyword that can stand right behind a number. Of the shortest ones the
start is enough. -/
def startsKeyword (cs : List Char) : Bool :=
  (["if", "in", "is"].any fun word => word.toList.isPrefixOf cs) ||
    ["and", "else", "for", "or", "not"].any fun word =>
      word.toList.isPrefixOf cs && !(cs.drop word.length).head?.any isNameChar

/-- Nothing in ASCII that belongs to a name stands behind a number, keywords aside. -/
def checkEnd (kind : String) (cs : List Char) : Except Error Unit :=
  if !cs.head?.any (fun c => isNameChar c && c.toNat < 0x80) || startsKeyword cs then .ok ()
  else .error (.badNumber kind)

/-- What follows a run of digits, of which an underscore may stand between any two. -/
def decimalTail : List Char → Except Error (List Char)
  | [] => .ok []
  | '_' :: rest =>
      if rest.head?.any Char.isDigit then decimalTail rest else .error (.badNumber "decimal")
  | c :: rest => if c.isDigit then decimalTail rest else .ok (c :: rest)

/-- The end of a number, with the mark of an imaginary one. -/
def numberEnd (cs : List Char) : Except Error (Bool × List Char) :=
  match cs with
  | 'j' :: rest | 'J' :: rest => (checkEnd "imaginary" rest).map fun _ => (true, rest)
  | _ => (checkEnd "decimal" cs).map fun _ => (false, cs)

/-- The rest of a number from its exponent on. -/
def exponentEnd (cs : List Char) : Except Error (Bool × List Char) :=
  match cs with
  | mark :: rest =>
      if mark ≠ 'e' ∧ mark ≠ 'E' then numberEnd cs
      else
        let signed := rest.head? = some '+' ∨ rest.head? = some '-'
        let digits := if signed then rest.drop 1 else rest
        if digits.head?.any Char.isDigit then do numberEnd (← decimalTail digits)
        else if signed then .error (.badNumber "decimal")
        else (checkEnd "decimal" cs).map fun _ => (false, cs)
  | [] => numberEnd cs

/-- The rest of a number behind its point. -/
def fractionEnd (cs : List Char) : Except Error (Bool × List Char) := do
  if cs.head?.any Char.isDigit then exponentEnd (← decimalTail cs) else exponentEnd cs

/-- The rest of a number behind its whole part. -/
def wholeEnd (cs : List Char) : Except Error (Bool × List Char) :=
  match cs with
  | '.' :: rest => fractionEnd rest
  | _ => exponentEnd cs

/-- What follows the digits of a number in another base. An underscore may stand before each;
`ready` tells that one may stand here. -/
def basedTail (kind : String) (isDigit : Char → Bool) (begun ready : Bool) :
    List Char → Except Error (List Char)
  | [] => if begun then .ok [] else .error (.badNumber kind)
  | c :: rest =>
      if isDigit c then basedTail kind isDigit true true rest
      else if c = '_' ∧ ready then basedTail kind isDigit false false rest
      else if c.isDigit ∧ kind ≠ "hexadecimal" then .error (.badDigit c kind)
      else if begun then .ok (c :: rest)
      else .error (.badNumber kind)

/-- A number in another base, behind its mark. -/
def basedEnd (kind : String) (isDigit : Char → Bool) (cs : List Char) :
    Except Error (Bool × List Char) := do
  let rest ← basedTail kind isDigit false true cs
  checkEnd kind rest
  return (false, rest)

/-- What follows the zeros at the start of a number. -/
def zerosTail : List Char → Except Error (List Char)
  | [] => .ok []
  | '_' :: rest =>
      if rest.head?.any Char.isDigit then zerosTail rest else .error (.badNumber "decimal")
  | c :: rest => if c = '0' then zerosTail rest else .ok (c :: rest)

/-- A number that starts with a zero. Digits may follow zeros only in front of a point, an
exponent or the mark of an imaginary number. -/
def zeroEnd (cs : List Char) : Except Error (Bool × List Char) := do
  let behindZeros ← zerosTail cs
  if behindZeros.head?.any Char.isDigit then
    let rest ← decimalTail behindZeros
    if rest.head?.any fun c => ['.', 'e', 'E', 'j', 'J'].contains c then wholeEnd rest
    else .error .leadingZeros
  else wholeEnd behindZeros

/-- Whether the number at the start is imaginary, and what follows it. -/
def numberEndAt (cs : List Char) : Except Error (Bool × List Char) :=
  match cs with
  | '0' :: mark :: rest =>
      if mark = 'x' ∨ mark = 'X' then basedEnd "hexadecimal" (fun c => (hexValue? c).isSome) rest
      else if mark = 'o' ∨ mark = 'O' then basedEnd "octal" (fun c => '0' ≤ c && c ≤ '7') rest
      else if mark = 'b' ∨ mark = 'B' then basedEnd "binary" (fun c => c == '0' || c == '1') rest
      else zeroEnd cs
  | '0' :: _ => zeroEnd cs
  | '.' :: rest => fractionEnd rest
  | _ => do wholeEnd (← decimalTail cs)

inductive Numeral where
  | integer (base : Nat) (digits : List Char)
  | real
  | imaginary
  deriving DecidableEq, Repr

/-- A number that is not imaginary, as it is written. -/
def Numeral.ofWritten (written : List Char) : Numeral :=
  let integer (base : Nat) (digits : List Char) : Numeral :=
    .integer base (digits.filter (· != '_'))
  match written with
  | '0' :: 'x' :: digits | '0' :: 'X' :: digits => integer 16 digits
  | '0' :: 'o' :: digits | '0' :: 'O' :: digits => integer 8 digits
  | '0' :: 'b' :: digits | '0' :: 'B' :: digits => integer 2 digits
  | digits => if digits.all fun c => c.isDigit || c == '_' then integer 10 digits else .real

/-- The number at the start, and what follows it. -/
def numberAt (cs : List Char) : Except Error (Numeral × List Char) := do
  let (imaginary, rest) ← numberEndAt cs
  let written := cs.take (cs.length - rest.length)
  return (if imaginary then .imaginary else .ofWritten written, rest)

/-- Decimal integers have a limited number of digits. Zeros do not count. -/
def Numeral.check : Numeral → Except Error Unit
  | .integer 10 digits =>
      if Number.digitLimit < digits.length && digits.head? != some '0' then
        .error (.longInteger digits.length)
      else .ok ()
  | _ => .ok ()

/-- The value of an integer. -/
def Numeral.value? : Numeral → Option Nat
  | .integer base digits =>
      some ((digits.filterMap hexValue?).foldl (fun value digit => base * value + digit) 0)
  | _ => none

end CodeMetrics.Expression
