import CodeMetrics.Metric.Quantity

/-!
# Statistics of a batch

The distribution of the values of one metric over the files of a batch, and the files that stand
out of it. The definitions hold for any ordered arithmetic: over the rationals they are exact, over
the doubles they round at every step, in the order written here.

Means, medians and percentiles are those of `numpy`, as it documents them: the mean adds doubles in
pairs, the median is the mean of the middle values, and a percentile lies on the line between the
two values next to it. That the library computes these is assumed. What is proved of summaries and
of outliers rests on it, and on nothing else about the library.
-/

namespace CodeMetrics

/-- An ordered arithmetic to compute statistics in. -/
class Arithmetic (α : Type) extends Add α, Sub α, Mul α, Div α where
  ofNat : Nat → α
  /-- The largest natural that is not above. -/
  floor : α → Nat
  less : α → α → Bool

instance : Arithmetic Float where
  ofNat n := Number.nearest n 1
  floor x := (Number.truncate x).toNat
  less x y := x < y

instance : Arithmetic Rat where
  ofNat n := n
  floor x := x.floor.toNat
  less x y := x < y

namespace Statistics

variable {α : Type} [Arithmetic α]

def zero : α := Arithmetic.ofNat 0

/-- Ascending values; equal ones keep their order. -/
def sorted (values : List α) : List α :=
  values.mergeSort fun x y => !Arithmetic.less y x

/-- The value at a place of the ascending values. -/
def place (ascending : List α) (i : Nat) : α := ascending.getD i zero

def plainSum (values : List α) : α := values.foldl (· + ·) zero

/-- Whole blocks of eight values are added to eight running sums; fewer than eight are left. -/
def addBlocks (sums values : List α) : List α × List α :=
  if 8 ≤ values.length then addBlocks (List.zipWith (· + ·) sums (values.take 8)) (values.drop 8)
  else (sums, values)
  termination_by values.length

/-- Eight running sums, added in pairs, and then the values behind the last block. -/
def blockSum (values : List α) : α :=
  match addBlocks (values.take 8) (values.drop 8) with
  | ([a, b, c, d, e, f, g, h], rest) =>
      rest.foldl (· + ·) (((a + b) + (c + d)) + ((e + f) + (g + h)))
  | _ => plainSum values

/-- The sum, halved until the parts are short: each value meets few others, so that rounding adds
up slowly. -/
def sum (values : List α) : α :=
  if values.length < 8 then plainSum values
  else if values.length ≤ 128 then blockSum values
  else
    let half := values.length / 2 / 8 * 8
    sum (values.take half) + sum (values.drop half)
  termination_by values.length
  decreasing_by all_goals simp_all; omega

def mean (values : List α) : α := (zero + sum values) / Arithmetic.ofNat values.length

/-- The middle value, or the mean of the two middle ones. -/
def median (ascending : List α) : α :=
  let middle := ascending.length / 2
  if ascending.length % 2 = 1 then mean [place ascending middle]
  else mean [place ascending (middle - 1), place ascending middle]

/-- The point of the way from `a` to `b`, measured from the closer end. -/
def between (a b t : α) : α :=
  let way := b - a
  if Arithmetic.less t (Arithmetic.ofNat 1 / Arithmetic.ofNat 2) then a + way * t
  else b - way * (Arithmetic.ofNat 1 - t)

/-- The percentile `q` of ascending values, which need not be one of them. At the last value the
way leads nowhere, and is measured at its end. -/
def percentile (q : Nat) (ascending : List α) : α :=
  let last := ascending.length - 1
  let rank : α := Arithmetic.ofNat last * (Arithmetic.ofNat q / Arithmetic.ofNat 100)
  let i := Arithmetic.floor rank
  if last ≤ i then between (place ascending last) (place ascending last) (Arithmetic.ofNat 1)
  else between (place ascending i) (place ascending (i + 1)) (rank - Arithmetic.ofNat i)

/-- The fence above the upper quartile: `multiplier` times the distance of the quartiles away. -/
def fence (multiplier : α) (ascending : List α) : α :=
  let lower := percentile 25 ascending
  let upper := percentile 75 ascending
  upper + multiplier * (upper - lower)

/-- The values above the fence, of four values at least. -/
def outliers (multiplier : α) (values : List α) : List Bool :=
  if values.length < 4 then values.map fun _ => false
  else
    let bound := fence multiplier (sorted values)
    values.map fun x => Arithmetic.less bound x

structure Summary (α : Type) where
  count : Nat
  minimum : α
  maximum : α
  mean : α
  median : α
  p90 : α
  deriving Repr

/-- The distribution of some values; none of no values. -/
def summarize (values : List α) : Option (Summary α) :=
  if values.isEmpty then none
  else
    let ascending := sorted values
    some {
      count := values.length
      minimum := place ascending 0
      maximum := place ascending (values.length - 1)
      mean := mean values
      median := median ascending
      p90 := percentile 90 ascending }

end Statistics

/-- The distribution of doubles: a NaN among them spreads to every figure. -/
def summarize (values : List Float) : Option (Statistics.Summary Float) :=
  if values.any Float.isNaN then
    let nan : Float := 0.0 / 0.0
    some ⟨values.length, nan, nan, nan, nan, nan⟩
  else Statistics.summarize values

/-- The outliers among doubles: with a NaN among them there is no fence. -/
def outliers (multiplier : Float) (values : List Float) : List Bool :=
  if values.any Float.isNaN then values.map fun _ => false
  else Statistics.outliers multiplier values

/-- A value that doubles are multiplied by. -/
def Value.factor : Value → Except Fault Float
  | .text _ | .torn _ | .list _ => .error .fractionalTimes
  | value@.null | value@(.table _) | value@(.moment _) =>
      .error (.unsupported "*" value.kindName "float")
  | number => number.toReal

/-- The distribution of the doubles that values stand for. -/
def summarizeValues (values : List Value) : Except Fault (Option (Statistics.Summary Float)) := do
  return summarize (← values.mapM Value.toReal)

/-- The outliers among the doubles that values stand for. The multiplier does not matter as long
as there are too few values. -/
def outliersOfValues (multiplier : Value) (values : List Value) : Except Fault (List Bool) := do
  let numbers ← values.mapM Value.toReal
  if numbers.length < 4 then return numbers.map fun _ => false
  return outliers (← multiplier.factor) numbers

/-- The multiplier of the fence that marks unusual files. -/
def usualMultiplier : Float := 1.5

end CodeMetrics
