import CodeMetrics.Text.Case
import CodeMetrics.Text.Digit
import CodeMetrics.Number.Decimal

/-!
# Number literals

Reading integers and reals as people write them into settings: blanks around the number, a sign,
digits of any script, and a single underscore between two digits.
-/

namespace CodeMetrics.Number

open Text

/-- The blanks that may stand around a number: all but the four separators of data. -/
def isMargin (c : Char) : Bool := isBlank c && !within [(0x1C, 0x1F)] c.toNat

def trimMargin (cs : List Char) : List Char :=
  ((cs.dropWhile isMargin).reverse.dropWhile isMargin).reverse

/-- The digits at the start, and the rest. An underscore is passed over when digits stand on
both sides of it. -/
def spanDigits : List Char → List Nat × List Char
  | [] => ([], [])
  | c :: rest =>
      match digit? c with
      | none => ([], c :: rest)
      | some digit =>
          match rest with
          | [] => ([digit], [])
          | '_' :: next :: more =>
              if isDigit next then
                let (digits, left) := spanDigits (next :: more)
                (digit :: digits, left)
              else ([digit], '_' :: next :: more)
          | other =>
              let (digits, left) := spanDigits other
              (digit :: digits, left)

/-- The sign of a number and what follows it. -/
def spanSign : List Char → Bool × List Char
  | '-' :: rest => (true, rest)
  | '+' :: rest => (false, rest)
  | cs => (false, cs)

inductive IntegerError where
  | malformed
  | tooManyDigits (count : Nat)
  deriving DecidableEq, Repr

/-- An integer. Underscores that are out of place count before the number of digits does, and
other characters only after it. -/
def readInteger (text : List Char) : Except IntegerError Int :=
  let (negative, unsigned) := spanSign (trimMargin text)
  match spanDigits unsigned with
  | ([], _) => .error .malformed
  | (_, '_' :: _) => .error .malformed
  | (digits, rest) =>
      if digitLimit < digits.length then .error (.tooManyDigits digits.length)
      else if !rest.isEmpty then .error .malformed
      else .ok (if negative then -(valueOf digits : Int) else valueOf digits)

/-- The exponent part of a real: none at all, or a mark, a sign and digits. -/
def readExponent? : List Char → Option Int
  | [] => some 0
  | mark :: rest =>
      if mark = 'e' ∨ mark = 'E' then
        let (negative, unsigned) := spanSign rest
        match spanDigits unsigned with
        | ([], _) => none
        | (_, _ :: _) => none
        | (digits, []) => some (if negative then -(valueOf digits : Int) else valueOf digits)
      else none

/-- The double closest to `digits * 10 ^ exponent`. Exponents far outside the range of doubles
are decided without computing the power. -/
def ofDecimal (digits : Nat) (exponent : Int) : Float :=
  let size := (digits.log2 : Int) / 3 + 1
  if digits = 0 ∨ exponent + size < -330 then 0.0
  else if exponent > 310 then infinity
  else if exponent < 0 then nearest digits (Nat.pow 10 (-exponent).toNat)
  else nearest (digits * Nat.pow 10 exponent.toNat) 1

/-- Digits, an optional point with more digits, an optional exponent; a digit on one side of the
point is enough. -/
def readMagnitude? (unsigned : List Char) : Option Float :=
  let (whole, rest) := spanDigits unsigned
  let (places, rest) := match rest with
    | '.' :: more => spanDigits more
    | other => ([], other)
  if whole.isEmpty && places.isEmpty then none
  else (readExponent? rest).map fun exponent =>
    ofDecimal (valueOf (whole ++ places)) (exponent - places.length)

def readReal? (text : List Char) : Option Float :=
  let (negative, unsigned) := spanSign (trimMargin text)
  let signed (x : Float) : Float := if negative then -x else x
  match lower (String.ofList unsigned) with
  | "inf" | "infinity" => some (signed infinity)
  | "nan" => some (0.0 / 0.0)
  | _ => (readMagnitude? unsigned).map signed

end CodeMetrics.Number
