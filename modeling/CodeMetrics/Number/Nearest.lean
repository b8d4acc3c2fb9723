/-!
# Nearest doubles

The double closest to a quotient of naturals, and back: the exact value of a double. All of it is
arithmetic on naturals, so that nothing is rounded twice.
-/

namespace CodeMetrics.Number

/-- The integer closest to a quotient; a half goes to the even neighbour. -/
def roundHalfEven (num den : Nat) : Nat :=
  let whole := num / den
  match compare (2 * (num % den)) den with
  | .lt => whole
  | .gt => whole + 1
  | .eq => if whole % 2 = 0 then whole else whole + 1

/-- `num / den / 2 ^ e` as a quotient of naturals. -/
def scaled (num den : Nat) (e : Int) : Nat × Nat :=
  if e < 0 then (num * Nat.pow 2 (-e).toNat, den) else (num, den * Nat.pow 2 e.toNat)

/-- The digit in front of the 52 binary digits that a normal number stores. -/
def leadingBit : Nat := 0x10000000000000

/-- The exponent of the last place of the double closest to a quotient: 53 binary digits, or as
many as the smallest exponent leaves. -/
def lastPlace (num den : Nat) : Int :=
  let guess := max ((num.log2 : Int) - den.log2 - 53) (-1074)
  let (n, d) := scaled num den guess
  if n / d < 2 * leadingBit then guess else guess + 1

/-- The bits of infinity. -/
def infiniteBits : Nat := 0x7FF0000000000000

/-- The bits of the double closest to a positive quotient. The exponent field counts the last
places from the smallest one, and the leading digit of a normal number carries into it. -/
def nearestBits (num den : Nat) : Nat :=
  let e := lastPlace num den
  let (n, d) := scaled num den e
  min ((e + 1074).toNat * leadingBit + roundHalfEven n d) infiniteBits

/-- The quotient lies beyond the largest double, once it is rounded. -/
def isBeyond (num den : Nat) : Bool := num != 0 && nearestBits num den == infiniteBits

/-- The double closest to `num / den`; infinity when it lies beyond the largest one. -/
def nearest (num den : Nat) : Float :=
  if num = 0 then 0.0 else Float.ofBits (UInt64.ofNat (nearestBits num den))

def infinity : Float := Float.ofBits (UInt64.ofNat infiniteBits)

/-- The bit of the sign. -/
def signBit : Nat := 0x8000000000000000

/-- A finite non-negative double, as `mantissa * 2 ^ exponent`. -/
structure Binary where
  mantissa : Nat
  exponent : Int
  /-- The neighbour below is half as far away as the neighbour above. -/
  narrowBelow : Bool
  deriving DecidableEq, Repr

/-- The magnitude of a finite double. -/
def Binary.ofFloat (x : Float) : Binary :=
  let bits : Nat := x.toBits.toNat % signBit
  let field : Nat := bits / leadingBit
  let fraction := bits % leadingBit
  if field = 0 then ⟨fraction, -1074, false⟩
  else ⟨leadingBit + fraction, (field : Int) - 1075, fraction == 0 && field > 1⟩

/-- The value as a quotient of naturals. -/
def Binary.quotient (x : Binary) : Nat × Nat :=
  if x.exponent < 0 then (x.mantissa, Nat.pow 2 (-x.exponent).toNat)
  else (x.mantissa * Nat.pow 2 x.exponent.toNat, 1)

/-- The sign of a double; the negative zero has one as well. -/
def isNegative (x : Float) : Bool := signBit ≤ x.toBits.toNat

/-- The exact value of a finite double, rounded toward zero. -/
def truncate (x : Float) : Int :=
  let (num, den) := (Binary.ofFloat x).quotient
  if isNegative x then -((num / den : Nat) : Int) else (num / den : Nat)

/-- The double closest to an integer; infinite when it lies beyond the largest one. -/
def ofInt (n : Int) : Float :=
  if n < 0 then -(nearest n.natAbs 1) else nearest n.natAbs 1

/-- The exact order of an integer and a double: `none` when the double is NaN. -/
def compareInt (n : Int) (x : Float) : Option Ordering :=
  if x.isNaN then none
  else if x.isInf then some (if isNegative x then .gt else .lt)
  else
    let (num, den) := (Binary.ofFloat x).quotient
    some (compare (n * den) (if isNegative x then -(num : Int) else num))

end CodeMetrics.Number
