import Mathlib.Data.Prod.Lex
import CodeMetrics.Statistics

/-!
# The order of the doubles

Doubles that are numbers stand in a line: first by their sign, then by their exponent, then by their
mantissa, and the two zeros stand in one place. All comparisons of doubles are comparisons of their
places. A NaN has no place in the line and is neither above nor below anything.

Results:
1. `compare_eq`: two numbers compare as their places do.
2. `lt_iff`, `le_iff`, `beq_iff`: the comparisons of doubles by their places.
3. `isNegative_iff`, `sign?_mul`: the first bit is the sign, and products have the product of signs.
-/

namespace CodeMetrics.Number

open Float.Model (UnpackedFloat)

/-- Where a double stands. Below zero larger magnitudes come first. -/
def placeOf : UnpackedFloat → ℤ ×ₗ ℤ ×ₗ ℤ
  | .infinity .negative => toLex (-2, toLex (0, 0))
  | .finite .negative mantissa exponent _ => toLex (-1, toLex (-exponent, -mantissa))
  | .zero _ | .notANumber => toLex (0, toLex (0, 0))
  | .finite .positive mantissa exponent _ => toLex (1, toLex (exponent, mantissa))
  | .infinity .positive => toLex (2, toLex (0, 0))

def place (x : Float) : ℤ ×ₗ ℤ ×ₗ ℤ := placeOf x.toModel.unpack

theorem compare_toLex (a b c a' b' c' : ℤ) :
    compare (toLex (a, toLex (b, c))) (toLex (a', toLex (b', c'))) =
      (compare a a').then ((compare b b').then (compare c c')) := by
  simp [Prod.Lex.compare_def, compareLex, compareOn]

theorem compare_neg_neg (a b : ℤ) : compare (-a) (-b) = (compare a b).swap := by
  rw [← cmp_eq_compare, ← cmp_eq_compare, cmp_swap, cmp, cmp]
  simp [cmpUsing]

theorem compare_natCast (m n : Nat) : compare (m : ℤ) n = compare m n := by
  rcases lt_trichotomy m n with less | rfl | greater
  · rw [compare_lt_iff_lt.2 less, compare_lt_iff_lt.2 (Int.ofNat_lt.2 less)]
  · rw [compare_eq_iff_eq.2 rfl, compare_eq_iff_eq.2 rfl]
  · rw [compare_gt_iff_gt.2 greater, compare_gt_iff_gt.2 (Int.ofNat_lt.2 greater)]

/-- Numbers compare as their places do. -/
theorem compare_eq {x y : UnpackedFloat} (left : x ≠ .notANumber) (right : y ≠ .notANumber) :
    x.compare y = some (compare (placeOf x) (placeOf y)) := by
  cases x with
  | notANumber => exact absurd rfl left
  | infinity s =>
      cases y with
      | notANumber => exact absurd rfl right
      | infinity t | zero t | finite t => cases s <;> cases t <;> rfl
  | zero s =>
      cases y with
      | notANumber => exact absurd rfl right
      | zero t => rfl
      | infinity t | finite t => cases t <;> rfl
  | finite s m e =>
      cases y with
      | notANumber => exact absurd rfl right
      | infinity t | zero t => cases s <;> cases t <;> rfl
      | finite t m' e' =>
          -- Only magnitudes of one sign are compared, and below zero the other way round.
          cases s with
          | negative =>
              cases t with
              | positive => rfl
              | negative =>
                  show some ((compare e e').then (compare m m')).swap =
                    some (compare (toLex ((-1 : ℤ), toLex (-e, -(m : ℤ))))
                      (toLex ((-1 : ℤ), toLex (-e', -(m' : ℤ)))))
                  rw [compare_toLex, compare_neg_neg e, compare_neg_neg (m : ℤ), compare_natCast,
                    Ordering.swap_then]
                  rfl
          | positive =>
              cases t with
              | negative => rfl
              | positive =>
                  show some ((compare e e').then (compare m m')) =
                    some (compare (toLex ((1 : ℤ), toLex (e, (m : ℤ))))
                      (toLex ((1 : ℤ), toLex (e', (m' : ℤ)))))
                  rw [compare_toLex, compare_natCast]
                  rfl

variable {x y : Float}

theorem isNaN_eq_false : x.isNaN = false ↔ x.toModel.unpack ≠ .notANumber := by
  show x.toModel.unpack.isNaN = false ↔ _
  cases x.toModel.unpack with
  | notANumber => exact iff_of_false Bool.noConfusion fun different => different rfl
  | infinity | zero | finite => exact iff_of_true rfl UnpackedFloat.noConfusion

theorem compare_unpack (left : x.isNaN = false) (right : y.isNaN = false) :
    x.toModel.unpack.compare y.toModel.unpack = some (compare (place x) (place y)) :=
  compare_eq (isNaN_eq_false.1 left) (isNaN_eq_false.1 right)

theorem lt_iff (left : x.isNaN = false) (right : y.isNaN = false) :
    x < y ↔ place x < place y := by
  have unpacked : x < y ↔ (x.toModel.unpack.compare y.toModel.unpack == some .lt) = true := by
    show decide _ = true ↔ _
    rw [decide_eq_true_iff]
    rfl
  rw [unpacked, compare_unpack left right]
  simp [compare_lt_iff_lt]

theorem le_iff (left : x.isNaN = false) (right : y.isNaN = false) :
    x ≤ y ↔ place x ≤ place y := by
  have unpacked : x ≤ y ↔ (x.toModel.unpack.compare y.toModel.unpack).any (·.isLE) = true := by
    show decide _ = true ↔ _
    rw [decide_eq_true_iff]
    rfl
  rw [unpacked, compare_unpack left right, Option.any_some, Ordering.isLE_iff_ne_gt,
    compare_gt_iff_gt.not, not_lt]

theorem beq_iff (left : x.isNaN = false) (right : y.isNaN = false) :
    (x == y) = true ↔ place x = place y := by
  have unpacked : (x == y) = (x.toModel.unpack.compare y.toModel.unpack == some .eq) := rfl
  rw [unpacked, compare_unpack left right]
  simp [compare_eq_iff_eq]

/-- Nothing equals a NaN. -/
theorem isNaN_of_beq (equal : (x == y) = true) : y.isNaN = false := by
  rw [isNaN_eq_false]
  intro nan
  have compared : (x.toModel.unpack.compare y.toModel.unpack == some .eq) = true := equal
  rw [nan] at compared
  cases unpacked : x.toModel.unpack <;> rw [unpacked] at compared <;> cases compared

/-- A NaN is below nothing. -/
theorem isNaN_of_lt (less : x < y) : x.isNaN = false := by
  rw [isNaN_eq_false]
  intro nan
  have compared : (x.toModel.unpack.compare y.toModel.unpack == some .lt) = true :=
    of_decide_eq_true less
  rw [nan] at compared
  cases unpacked : y.toModel.unpack <;> rw [unpacked] at compared <;> cases compared

theorem lt_of_lt_of_le {z : Float} (numberY : y.isNaN = false) (numberZ : z.isNaN = false)
    (less : x < y) (below : y ≤ z) : x < z := by
  have numberX := isNaN_of_lt less
  rw [lt_iff numberX numberY] at less
  rw [le_iff numberY numberZ] at below
  exact (lt_iff numberX numberZ).2 (less.trans_le below)

theorem isNaN_of_isFinite (finite : x.isFinite = true) : x.isNaN = false := by
  rw [isNaN_eq_false]
  intro nan
  have unpacked : x.toModel.unpack.isFinite = true := finite
  rw [nan] at unpacked
  cases unpacked

/-- A double is no number, infinite or finite. -/
theorem isInf_eq (number : x.isNaN = false) : x.isInf = !x.isFinite := by
  rw [isNaN_eq_false] at number
  show x.toModel.unpack.isInf = !x.toModel.unpack.isFinite
  cases unpacked : x.toModel.unpack with
  | notANumber => exact absurd unpacked number
  | infinity | zero | finite => rfl

/-! ## Signs -/

open Float.Model (Format)
open Float.Model.UnpackedFloat (Sign pack unpack unpackExponent unpackMantissa unpackSign
  packComponents)

/-- The sign of a double. A NaN has none. -/
def sign? : UnpackedFloat → Option Sign
  | .notANumber => none
  | .infinity s | .zero s | .finite s .. => some s

theorem unpackSign_packComponents (s : Sign) (e : BitVec 11) (m : BitVec 52) :
    @unpackSign Format.binary64 (packComponents Format.binary64 s e m) = s.toBitVec := by
  show (s.toBitVec ++ e ++ m).extractLsb' 63 1 = s.toBitVec
  rw [BitVec.extractLsb'_append_eq_of_le (by decide),
    BitVec.extractLsb'_append_eq_of_le (by decide)]
  cases s <;> rfl

/-- Rounding and unpacking end with a zero or with a finite number, of one sign. -/
theorem sign?_zero_or_finite {zero : Prop} [Decidable zero] {s : Sign} {m : Nat} {e : ℤ}
    (positive : ¬ zero → 0 < m) :
    sign? (if h : zero then .zero s else .finite s m e (positive h)) = some s := by
  by_cases h : zero
  · rw [dif_pos h]
    rfl
  · rw [dif_neg h]
    rfl

theorem sign?_unpack {bits : BitVec 64} {s : Sign}
    (signed : sign? (unpack Format.binary64 bits) = some s) :
    s = Sign.ofBitVec (@unpackSign Format.binary64 bits) := by
  unfold unpack at signed
  dsimp only at signed
  by_cases full : @unpackExponent Format.binary64 bits = -1#11
  · rw [if_pos full] at signed
    by_cases zero : @unpackMantissa Format.binary64 bits = 0#52
    · rw [if_pos zero] at signed
      exact (Option.some.inj signed).symm
    · rw [if_neg zero] at signed
      cases signed
  · rw [if_neg full] at signed
    by_cases subnormal : @unpackExponent Format.binary64 bits = 0#11
    · rw [if_pos subnormal, sign?_zero_or_finite] at signed
      exact (Option.some.inj signed).symm
    · rw [if_neg subnormal] at signed
      exact (Option.some.inj signed).symm

/-- The sign of what is packed, if it still has one, is the sign it had. -/
theorem sign?_unpack_pack {u : UnpackedFloat} {s : Sign}
    (signed : sign? (unpack Format.binary64 (pack Format.binary64 u)) = some s) :
    sign? u = some s := by
  have kept (t : Sign) (e : BitVec 11) (m : BitVec 52)
      (signed : sign? (unpack Format.binary64 (packComponents Format.binary64 t e m)) = some s) :
      some t = some s := by
    rw [sign?_unpack signed, unpackSign_packComponents]
    cases t <;> rfl
  cases u with
  | notANumber => cases signed
  | infinity t => exact kept t _ _ signed
  | zero t => exact kept t _ _ signed
  | finite t m e positive =>
      unfold pack at signed
      dsimp only at signed
      split_ifs at signed <;> exact kept t _ _ signed

/-- A product has the product of the signs, if it has a sign. -/
theorem sign?_mul {u v : UnpackedFloat} {s : Sign}
    (signed : sign? (UnpackedFloat.mul Format.binary64 u v) = some s) :
    ∃ a b, sign? u = some a ∧ sign? v = some b ∧ a * b = s := by
  have rounded (t : Sign) (m : Nat) (e : ℤ) :
      sign? (UnpackedFloat.roundWithAccuracy Format.binary64 t m e .exact) = some t := by
    rw [UnpackedFloat.roundWithAccuracy]
    exact sign?_zero_or_finite _
  cases u with
  | notANumber => cases v <;> cases signed
  | infinity a =>
      cases v with
      | notANumber | zero => cases signed
      | infinity b | finite b => exact ⟨a, b, rfl, rfl, Option.some.inj signed⟩
  | zero a =>
      cases v with
      | notANumber | infinity => cases signed
      | zero b | finite b => exact ⟨a, b, rfl, rfl, Option.some.inj signed⟩
  | finite a =>
      cases v with
      | notANumber => cases signed
      | infinity b | zero b => exact ⟨a, b, rfl, rfl, Option.some.inj signed⟩
      | finite b => exact ⟨a, b, rfl, rfl, Option.some.inj ((rounded _ _ _).symm.trans signed)⟩

/-- The sign is the first bit. -/
theorem isNegative_iff {s : Sign} (signed : sign? x.toModel.unpack = some s) :
    isNegative x = true ↔ s = .negative := by
  have first : (@unpackSign Format.binary64 x.toModel.toBits.toBitVec).toNat =
      x.toBits.toNat >>> 63 % 2 := rfl
  have bound : x.toBits.toNat < 2 ^ 64 := BitVec.isLt _
  rw [Nat.shiftRight_eq_div_pow] at first
  have negative : s = .negative ↔ signBit ≤ x.toBits.toNat := by
    rw [sign?_unpack signed, Sign.ofBitVec, signBit]
    split_ifs with positive
    · rw [positive] at first
      have zero : (0#1).toNat = 0 := rfl
      simp only [false_iff]
      omega
    · have nonzero : (@unpackSign Format.binary64 x.toModel.toBits.toBitVec).toNat ≠ 0 :=
        fun equal => positive (BitVec.eq_of_toNat_eq equal)
      simp only [true_iff]
      omega
  rw [negative, isNegative, decide_eq_true_iff]

/-- What is not negative, or no number, has no negative product. -/
theorem sign?_mul_ne_negative (left : sign? x.toModel.unpack ≠ some .negative)
    (right : sign? y.toModel.unpack = some .positive) :
    sign? (x * y).toModel.unpack ≠ some .negative := by
  intro negative
  obtain ⟨a, b, first, second, product⟩ := sign?_mul (sign?_unpack_pack negative)
  cases right.symm.trans second
  cases a with
  | negative => exact left first
  | positive => cases product

end CodeMetrics.Number
