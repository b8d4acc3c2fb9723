import CodeMetrics.Number.Nearest

/-!
# Decimal texts of doubles

Two written forms. The short form has the fewest digits that read back as the same double, the
closest to it of those. The fixed form has a set number of places, rounded from the exact value.
-/

namespace CodeMetrics.Number

/-- `digits * 10 ^ exponent` -/
structure Decimal where
  digits : Nat
  exponent : Int
  deriving DecidableEq, Repr

/-- The order of `a * 10 ^ i` and `b * 2 ^ j`. -/
def compareScaled (a : Nat) (i : Int) (b : Nat) (j : Int) : Ordering :=
  compare (a * Nat.pow 10 i.toNat * Nat.pow 2 (-j).toNat)
    (b * Nat.pow 2 j.toNat * Nat.pow 10 (-i).toNat)

/-- The decimal lies among the reals that round to the double: up to halfway to its neighbours,
the ends included when the mantissa is even. -/
def Binary.readsBack (x : Binary) (d : Decimal) : Bool :=
  let low := if x.narrowBelow then 4 * x.mantissa - 1 else 4 * x.mantissa - 2
  let even := x.mantissa % 2 == 0
  let fromLow := compareScaled d.digits d.exponent low (x.exponent - 2)
  let fromHigh := compareScaled d.digits d.exponent (4 * x.mantissa + 2) (x.exponent - 2)
  (fromLow == .gt || (even && fromLow == .eq)) && (fromHigh == .lt || (even && fromHigh == .eq))

/-- Digits of a natural, at least one. -/
def digitsOf (n : Nat) : List Char := Nat.toDigits 10 n

/-- The least `k` with `num / den < 10 ^ k`, for a positive quotient. -/
def scaleOf (num den : Nat) : Int :=
  if den ≤ num then (digitsOf (num / den)).length
  else
    let places := (digitsOf (den / num)).length
    if num * Nat.pow 10 (places - 1) = den then 2 - places else 1 - places

/-- The value's two neighbours on the grid of multiples of `10 ^ exponent` that read back: the
closer one, or the even one when both are as close. -/
def Binary.onGrid (x : Binary) (exponent : Int) : Option Decimal :=
  let (n, d) := x.quotient
  let (num, den) :=
    if exponent < 0 then (n * Nat.pow 10 (-exponent).toNat, d)
    else (n, d * Nat.pow 10 exponent.toNat)
  let below := num / den
  let order := compare (2 * (num % den)) den
  let lowFirst := order == .lt || (order == .eq && below % 2 == 0)
  let candidates := if lowFirst then [below, below + 1] else [below + 1, below]
  (candidates.map fun digits => (⟨digits, exponent⟩ : Decimal)).find? x.readsBack

/-- Trailing zeros of the digits move into the exponent; at most `fuel` of them. -/
def Decimal.strip : Nat → Decimal → Decimal
  | 0, d => d
  | fuel + 1, d =>
      if d.digits % 10 = 0 ∧ d.digits ≠ 0 then strip fuel ⟨d.digits / 10, d.exponent + 1⟩ else d

/-- The exact decimal value of a double. -/
def Binary.exact (x : Binary) : Decimal :=
  if x.exponent < 0 then ⟨x.mantissa * Nat.pow 5 (-x.exponent).toNat, x.exponent⟩
  else ⟨x.mantissa * Nat.pow 2 x.exponent.toNat, 0⟩

/-- The shortest decimal that reads back as a positive double: the first grid with a hit, from
one digit to seventeen. -/
def Binary.shortest (x : Binary) : Decimal :=
  let (num, den) := x.quotient
  let scale := scaleOf num den
  let hit := (List.range 17).findSome? fun (i : Nat) => x.onGrid (scale - (i + 1))
  (hit.getD x.exact).strip 20

def zeros (n : Nat) : List Char := List.replicate n '0'

/-- The exponent of a text: its sign, and at least two digits. -/
def exponentText (e : Int) : List Char :=
  let digits := digitsOf e.natAbs
  (if e < 0 then '-' else '+') :: zeros (2 - digits.length) ++ digits

/-- A decimal is written positionally, with at least one place, when its first digit stands for
`10 ^ -4` to `10 ^ 15`, and with an exponent otherwise. -/
def Decimal.text (d : Decimal) : List Char :=
  let digits := digitsOf d.digits
  let leading := d.exponent + digits.length - 1
  if -4 ≤ leading ∧ leading < 16 then
    if 0 ≤ d.exponent then digits ++ zeros d.exponent.toNat ++ ['.', '0']
    else if 0 ≤ leading then
      let whole := (leading + 1).toNat
      digits.take whole ++ '.' :: digits.drop whole
    else '0' :: '.' :: zeros (-leading - 1).toNat ++ digits
  else
    match digits with
    | [] => []
    | [digit] => digit :: 'e' :: exponentText leading
    | digit :: more => digit :: '.' :: more ++ 'e' :: exponentText leading

/-- The short form of a double. -/
def shortText (x : Float) : String :=
  if x.isNaN then "nan"
  else if x.isInf then if isNegative x then "-inf" else "inf"
  else
    let b := Binary.ofFloat x
    let text := if b.mantissa = 0 then ['0', '.', '0'] else b.shortest.text
    String.ofList (if isNegative x then '-' :: text else text)

/-- A natural with a point before its last `places` digits. -/
def withPoint (places n : Nat) : List Char :=
  if places = 0 then digitsOf n
  else
    let digits := digitsOf n
    let padded := zeros (places + 1 - digits.length) ++ digits
    padded.take (padded.length - places) ++ '.' :: padded.drop (padded.length - places)

/-- The most places that are not zero: the last one of the smallest double. -/
def deepestPlace : Nat := 1074

/-- The magnitude of a double with a set number of places; a half goes to the even neighbour. -/
def fixedMagnitude (places : Nat) (x : Float) : List Char :=
  if x.isNaN then "nan".toList
  else if x.isInf then "inf".toList
  else
    let (num, den) := (Binary.ofFloat x).quotient
    let exact := min places deepestPlace
    withPoint exact (roundHalfEven (num * Nat.pow 10 exact) den) ++ zeros (places - exact)

/-- An integer in decimal digits. -/
def integerText (n : Int) : String :=
  String.ofList (if n < 0 then '-' :: digitsOf n.natAbs else digitsOf n.natAbs)

/-- Longer runs of digits are not converted, in either direction. -/
def digitLimit : Nat := 4300

/-- The advice behind every message about too many digits. -/
def digitAdvice : String := "use sys.set_int_max_str_digits() to increase the limit"

/-- The message about digits that are too many to be read. -/
def tooManyDigits (count : Nat) : String :=
  s!"Exceeds the limit ({digitLimit} digits) for integer string conversion: " ++
    s!"value has {count} digits; {digitAdvice}"

/-- An integer with too many digits to be written out. The size in binary digits decides all but
the closest cases. -/
def tooLong (n : Int) : Bool :=
  n.natAbs.log2 > 14000 && n.natAbs ≥ Nat.pow 10 digitLimit

end CodeMetrics.Number
