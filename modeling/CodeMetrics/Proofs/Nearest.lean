import Mathlib.Algebra.Order.Field.Power
import Mathlib.Algebra.Order.Field.Rat
import Mathlib.Tactic.FieldSimp
import Mathlib.Tactic.Linarith
import Mathlib.Tactic.NormNum
import Mathlib.Tactic.Positivity
import Mathlib.Tactic.Ring
import CodeMetrics.Number.Nearest

/-!
# The end of the doubles

A quotient is beyond the doubles when it is closer to the next power of two than to the largest
double, or as close to both. So whether it is can be told from one bound, and less is beyond them
only if more is.

Results:
1. `le_roundHalfEven_iff`: what rounds to a number or above it.
2. `lastPlace_bounds`: at its last place a quotient has 53 binary digits, unless it is very small.
3. `isBeyond_iff`: a quotient is beyond the doubles from `2 ^ 1024 - 2 ^ 970` on.
4. `isFinite_nearest`: what is not beyond them is close to a finite double.
-/

namespace CodeMetrics.Number

/-- Twice a quotient, cut to a whole number. -/
theorem double_div {num den : Nat} (positive : 0 < den) :
    2 * num / den = 2 * (num / den) + if 2 * (num % den) < den then 0 else 1 := by
  have split : 2 * num = 2 * (num % den) + den * (2 * (num / den)) := by
    conv_lhs => rw [← Nat.mod_add_div num den]
    ring
  have below := Nat.mod_lt num positive
  rw [split, Nat.add_mul_div_left _ _ positive, Nat.add_comm]
  congr 1
  split_ifs with low
  · exact Nat.div_eq_of_lt low
  · exact Nat.div_eq_of_lt_le (by omega) (by omega)

/-- What rounds to an even number or above it. The half below an even number goes up to it. -/
theorem le_roundHalfEven_iff {num den bound : Nat} (positive : 0 < den) (even : bound % 2 = 0) :
    bound ≤ roundHalfEven num den ↔ (2 * bound - 1) * den ≤ 2 * num := by
  rw [← Nat.le_div_iff_mul_le positive, double_div positive, roundHalfEven]
  cases side : compare (2 * (num % den)) den with
  | lt =>
      rw [if_pos (Nat.compare_eq_lt.1 side)]
      dsimp only
      omega
  | gt =>
      rw [if_neg (Nat.lt_asymm (Nat.compare_eq_gt.1 side))]
      dsimp only
      omega
  | eq =>
      rw [if_neg (Nat.compare_eq_eq.1 side).not_lt]
      dsimp only
      split_ifs <;> omega

/-- A number keeps its value when it is scaled. -/
theorem scaled_value (num : Nat) {den : Nat} (positive : 0 < den) (e : Int) :
    0 < (scaled num den e).2 ∧
      ((scaled num den e).1 : ℚ) / (scaled num den e).2 = num / den / 2 ^ e := by
  rw [scaled]
  split
  · next negative =>
    refine ⟨positive, ?_⟩
    have power : (2 : ℚ) ^ (-e).toNat = (2 ^ e)⁻¹ := by
      rw [← zpow_natCast, Int.toNat_of_nonneg (by omega), zpow_neg]
    simp only [Nat.pow_eq, Nat.cast_mul, Nat.cast_pow, Nat.cast_ofNat, power]
    ring
  · next nonneg =>
    have power : (2 : ℚ) ^ e.toNat = 2 ^ e := by
      rw [← zpow_natCast, Int.toNat_of_nonneg (by omega)]
    refine ⟨Nat.mul_pos positive (Nat.pow_pos (by decide)), ?_⟩
    simp only [Nat.pow_eq, Nat.cast_mul, Nat.cast_pow, Nat.cast_ofNat, power]
    rw [div_div]

/-- The binary digits of a quotient are known up to one from those of its two numbers. -/
theorem quotient_bounds {num den : Nat} (nonzero : 0 < num) (positive : 0 < den) :
    (2 : ℚ) ^ ((num.log2 : ℤ) - den.log2 - 1) < num / den ∧
      (num / den : ℚ) < 2 ^ ((num.log2 : ℤ) - den.log2 + 1) := by
  have numLower : (2 : ℚ) ^ (num.log2 : ℤ) ≤ num := by
    exact_mod_cast Nat.log2_self_le nonzero.ne'
  have numUpper : (num : ℚ) < 2 ^ ((num.log2 : ℤ) + 1) := by
    exact_mod_cast @Nat.lt_log2_self num
  have denLower : (2 : ℚ) ^ (den.log2 : ℤ) ≤ den := by
    exact_mod_cast Nat.log2_self_le positive.ne'
  have denUpper : (den : ℚ) < 2 ^ ((den.log2 : ℤ) + 1) := by
    exact_mod_cast @Nat.lt_log2_self den
  have denPositive : (0 : ℚ) < den := by exact_mod_cast positive
  have two : (2 : ℚ) ≠ 0 := by norm_num
  constructor
  · rw [lt_div_iff₀ denPositive]
    calc (2 : ℚ) ^ ((num.log2 : ℤ) - den.log2 - 1) * den
        < 2 ^ ((num.log2 : ℤ) - den.log2 - 1) * 2 ^ ((den.log2 : ℤ) + 1) := by gcongr
      _ = 2 ^ (num.log2 : ℤ) := by rw [← zpow_add₀ two]; congr 1; omega
      _ ≤ num := numLower
  · rw [div_lt_iff₀ denPositive]
    calc (num : ℚ) < 2 ^ ((num.log2 : ℤ) + 1) := numUpper
      _ = 2 ^ ((num.log2 : ℤ) - den.log2 + 1) * 2 ^ (den.log2 : ℤ) := by
        rw [← zpow_add₀ two]; congr 1; omega
      _ ≤ 2 ^ ((num.log2 : ℤ) - den.log2 + 1) * den := by gcongr

/-- At its last place a quotient has 53 binary digits, unless the place is the smallest one. -/
theorem lastPlace_bounds {num den : Nat} (nonzero : 0 < num) (positive : 0 < den) :
    (num / den / 2 ^ lastPlace num den : ℚ) < 2 ^ 53 ∧
      (lastPlace num den ≠ -1074 → 2 ^ 52 ≤ (num / den / 2 ^ lastPlace num den : ℚ)) := by
  obtain ⟨lower, upper⟩ := quotient_bounds nonzero positive
  have two : (2 : ℚ) ≠ 0 := by norm_num
  rw [lastPlace]
  generalize guessed : max ((num.log2 : ℤ) - den.log2 - 53) (-1074) = guess
  dsimp only
  obtain ⟨scaledPositive, value⟩ := scaled_value num positive guess
  have denPositive : (0 : ℚ) < (scaled num den guess).2 := by exact_mod_cast scaledPositive
  have power : (0 : ℚ) < 2 ^ guess := by positivity
  split_ifs with fits
  · have fewer : ((scaled num den guess).1 : ℚ) < 2 ^ 53 * (scaled num den guess).2 := by
      exact_mod_cast (Nat.div_lt_iff_lt_mul scaledPositive).1 fits
    refine ⟨?_, fun larger => ?_⟩
    · rw [← value, div_lt_iff₀ denPositive]
      exact fewer
    · rw [le_div_iff₀ power]
      calc (2 : ℚ) ^ 52 * 2 ^ guess = 2 ^ ((num.log2 : ℤ) - den.log2 - 1) := by
            rw [← zpow_natCast, ← zpow_add₀ two]; congr 1; omega
        _ ≤ num / den := lower.le
  · have more : 2 ^ 53 * ((scaled num den guess).2 : ℚ) ≤ (scaled num den guess).1 := by
      exact_mod_cast (Nat.le_div_iff_mul_le scaledPositive).1 (Nat.le_of_not_lt fits)
    have half : (num / den / 2 ^ (guess + 1) : ℚ) = num / den / 2 ^ guess / 2 := by
      rw [zpow_add₀ two, zpow_one, ← div_div]
    have wide : (num / den / 2 ^ guess : ℚ) < 2 ^ 54 := by
      rw [div_lt_iff₀ power]
      calc (num / den : ℚ) < 2 ^ ((num.log2 : ℤ) - den.log2 + 1) := upper
        _ ≤ 2 ^ (54 + guess) := zpow_le_zpow_right₀ (by norm_num) (by omega)
        _ = 2 ^ 54 * 2 ^ guess := by rw [zpow_add₀ two]; rfl
    have long : (2 : ℚ) ^ 53 ≤ num / den / 2 ^ guess := by
      rw [← value, le_div_iff₀ denPositive]
      exact more
    rw [half]
    exact ⟨by linarith, fun _ => by linarith⟩

/-- What rounds to an even number or above it, at a place. -/
theorem le_round_scaled_iff {num den bound : Nat} (positive : 0 < den) (e : Int)
    (even : bound % 2 = 0) (nonzero : 0 < bound) :
    bound ≤ roundHalfEven (scaled num den e).1 (scaled num den e).2 ↔
      (bound - 1 / 2 : ℚ) ≤ num / den / 2 ^ e := by
  obtain ⟨scaledPositive, value⟩ := scaled_value num positive e
  have denPositive : (0 : ℚ) < (scaled num den e).2 := by exact_mod_cast scaledPositive
  have odd : ((2 * bound - 1 : Nat) : ℚ) = 2 * bound - 1 := by
    rw [Nat.cast_sub (by omega)]
    push_cast
    ring
  rw [le_roundHalfEven_iff scaledPositive even, ← value, le_div_iff₀ denPositive,
    ← @Nat.cast_le ℚ, Nat.cast_mul, odd, Nat.cast_mul]
  constructor <;> intro rounded <;> push_cast at * <;> linarith

/-- A power of two: half of the last place of the largest double. -/
def halfPlace : Nat := 970

/-- The first whole number beyond the doubles, half of the last place above the largest of them. -/
def firstBeyond : Nat := (2 ^ 54 - 1) * 2 ^ halfPlace

theorem firstBeyond_pos : 0 < firstBeyond := Nat.mul_pos (by decide) (pow_pos (by decide) _)

theorem firstBeyond_cast : (firstBeyond : ℚ) = (2 ^ 54 - 1) * 2 ^ (970 : ℤ) := by
  have factor : ((2 ^ 54 - 1 : Nat) : ℚ) = 2 ^ 54 - 1 := by norm_num
  have exponent : (halfPlace : ℤ) = 970 := rfl
  rw [firstBeyond, Nat.cast_mul, factor, Nat.cast_pow, Nat.cast_ofNat, ← exponent, zpow_natCast]

-- Nobody has to see the digits of the bound again.
attribute [irreducible] firstBeyond

/-- A quotient is beyond the doubles from `2 ^ 1024 - 2 ^ 970` on. -/
theorem isBeyond_iff {num den : Nat} (positive : 0 < den) :
    isBeyond num den = true ↔ firstBeyond * den ≤ num := by
  rcases Nat.eq_zero_or_pos num with rfl | nonzero
  · have more : 0 < firstBeyond * den := Nat.mul_pos firstBeyond_pos positive
    exact ⟨nofun, fun less => absurd more (Nat.not_lt.2 less)⟩
  have two : (2 : ℚ) ≠ 0 := by norm_num
  have bits : isBeyond num den = true ↔
      infiniteBits ≤ (lastPlace num den + 1074).toNat * leadingBit +
        roundHalfEven (scaled num den (lastPlace num den)).1
          (scaled num den (lastPlace num den)).2 := by
    simp [isBeyond, nearestBits, nonzero.ne']
  have bound : firstBeyond * den ≤ num ↔ ((2 ^ 54 - 1) * 2 ^ (970 : ℤ) : ℚ) ≤ num / den := by
    have denPositive : (0 : ℚ) < den := by exact_mod_cast positive
    rw [le_div_iff₀ denPositive, ← firstBeyond_cast, ← Nat.cast_mul, Nat.cast_le]
  obtain ⟨below, above⟩ := lastPlace_bounds nonzero positive
  have rounds := fun bound => @le_round_scaled_iff num den bound positive (lastPlace num den)
  have power : (0 : ℚ) < 2 ^ lastPlace num den := by positivity
  rw [bits, bound]
  generalize lastPlace num den = e at *
  rw [div_lt_iff₀ power] at below
  simp only [le_div_iff₀ power] at above rounds
  generalize roundHalfEven (scaled num den e).1 (scaled num den e).2 = rounded at *
  generalize (num / den : ℚ) = q at *
  -- The powers of two that matter are known from one of them.
  have unitPositive : (0 : ℚ) < 2 ^ (970 : ℤ) := by positivity
  have small : e ≤ 970 → (2 : ℚ) ^ e ≤ 2 ^ (970 : ℤ) := fun less =>
    zpow_le_zpow_right₀ (by norm_num) less
  have next : e = 971 → (2 : ℚ) ^ e = 2 * 2 ^ (970 : ℤ) := by
    rintro rfl
    rw [← zpow_one_add₀ two]
    rfl
  have large : 972 ≤ e → 4 * (2 : ℚ) ^ (970 : ℤ) ≤ 2 ^ e := fun more =>
    calc 4 * (2 : ℚ) ^ (970 : ℤ) = 2 ^ (2 : ℤ) * 2 ^ (970 : ℤ) := by norm_num
      _ = 2 ^ (2 + 970 : ℤ) := (zpow_add₀ two _ _).symm
      _ ≤ 2 ^ e := zpow_le_zpow_right₀ (by norm_num) (by omega)
  generalize (2 : ℚ) ^ (970 : ℤ) = unit at *
  generalize (2 : ℚ) ^ e = place at *
  have cast (k : Nat) : ((k * leadingBit : Nat) : ℚ) = k * 2 ^ 52 := by
    rw [Nat.cast_mul, leadingBit]
    norm_num
  -- The last place is below that of the largest double, the same, or above it.
  rcases lt_trichotomy e 971 with lower | same | higher
  · have less := small (by omega)
    constructor
    · intro beyond
      have many : 3 * leadingBit ≤ rounded := by
        simp only [infiniteBits, leadingBit] at *
        omega
      have much := (rounds _ (by decide) (by decide)).1 many
      rw [cast] at much
      norm_num at much below
      linarith
    · intro beyond
      linarith
  · have twice := next same
    have enough : infiniteBits ≤ (e + 1074).toNat * leadingBit + rounded ↔
        2 * leadingBit ≤ rounded := by
      simp only [infiniteBits, leadingBit]
      omega
    rw [enough, rounds _ (by decide) (by decide), cast, twice]
    constructor <;> intro much <;> norm_num at much ⊢ <;> linarith
  · have more := large (by omega)
    have long := above (by omega)
    refine ⟨fun _ => by linarith, fun _ => ?_⟩
    have many : 1 * leadingBit ≤ rounded := by
      rw [rounds _ (by decide) (by decide), cast]
      norm_num
      linarith
    simp only [infiniteBits, leadingBit] at *
    omega

/-- More is beyond the doubles if less is. -/
theorem isBeyond_mono {num den more less : Nat} (larger : num ≤ more) (smaller : less ≤ den)
    (positive : 0 < less) (beyond : isBeyond num den = true) : isBeyond more less = true := by
  rw [isBeyond_iff (positive.trans_le smaller)] at beyond
  rw [isBeyond_iff positive]
  exact (Nat.mul_le_mul_left _ smaller).trans (beyond.trans larger)

/-! ## Finite doubles -/

open Float.Model (Format UnpackedFloat)
open Float.Model.UnpackedFloat (pack unpack unpackExponent unpackMantissa
  unpackExponent_packComponents)

/-- What has no full exponent field is zero, or its exponent fits in again. -/
theorem unpack_of_field {bits : BitVec 64}
    (field : @unpackExponent Format.binary64 bits ≠ -1#11) :
    (∃ s, unpack Format.binary64 bits = .zero s) ∨
      ∃ s m e, ∃ positive : 0 < m, e < 972 ∧
        unpack Format.binary64 bits = .finite s m e positive := by
  have small : (@unpackExponent Format.binary64 bits).toNat < 2047 := by
    have bound : (@unpackExponent Format.binary64 bits).toNat < 2048 := BitVec.isLt _
    have notOnes : (@unpackExponent Format.binary64 bits).toNat ≠ 2047 := fun equal =>
      field (BitVec.eq_of_toNat_eq equal)
    omega
  have bias : (Format.binary64.exponentBias : Int) +
      Format.binary64.mantissaBitsWithoutImplicit = 1075 := rfl
  obtain ⟨u, unpacked⟩ : ∃ u, unpack Format.binary64 bits = u := ⟨_, rfl⟩
  rw [unpacked]
  unfold unpack at unpacked
  dsimp only at unpacked
  rw [if_neg field, bias] at unpacked
  by_cases subnormal : @unpackExponent Format.binary64 bits = 0#11
  · rw [if_pos subnormal] at unpacked
    by_cases zero : @unpackMantissa Format.binary64 bits = 0#52
    · rw [dif_pos zero] at unpacked
      exact .inl ⟨_, unpacked.symm⟩
    · rw [dif_neg zero] at unpacked
      exact .inr ⟨_, _, _, _, by rw [subnormal]; decide, unpacked.symm⟩
  · rw [if_neg subnormal] at unpacked
    exact .inr ⟨_, _, _, _, by omega, unpacked.symm⟩

theorem isFinite_unpack {bits : BitVec 64}
    (field : @unpackExponent Format.binary64 bits ≠ -1#11) :
    (unpack Format.binary64 bits).isFinite = true := by
  obtain ⟨s, zero⟩ | ⟨s, m, e, positive, -, finite⟩ := unpack_of_field field
  · rw [zero]
    rfl
  · rw [finite]
    rfl

/-- Packing fills no exponent field as long as the exponent fits in. -/
theorem unpackExponent_pack_finite {s : UnpackedFloat.Sign} {m : Nat} {e : Int} (positive : 0 < m)
    (fits : e < 972) :
    @unpackExponent Format.binary64 (pack Format.binary64 (.finite s m e positive)) ≠
      -1#11 := by
  have biased : (e + Format.binary64.exponentBias +
      Format.binary64.mantissaBitsWithoutImplicit).toNat = (e + 1075).toNat := by
    show (e + 1023 + 52).toNat = _
    omega
  have short : ¬ 2 ^ Format.binary64.exponentBits ≤ (e + 1075).toNat + 1 := by
    show ¬ 2048 ≤ _
    omega
  unfold pack
  dsimp only
  rw [biased, if_neg short]
  split_ifs
  · rw [unpackExponent_packComponents]
    intro full
    have value := congrArg BitVec.toNat full
    have modulo : (BitVec.ofNat 11 (e + 1075).toNat).toNat = (e + 1075).toNat % 2048 := rfl
    have ones : (-1#11).toNat = 2047 := rfl
    rw [modulo, ones] at value
    omega
  · rw [unpackExponent_packComponents]
    decide

theorem unpackExponent_pack {bits : BitVec 64}
    (field : @unpackExponent Format.binary64 bits ≠ -1#11) :
    @unpackExponent Format.binary64 (pack Format.binary64 (unpack Format.binary64 bits)) ≠
      -1#11 := by
  obtain ⟨s, zero⟩ | ⟨s, m, e, positive, fits, finite⟩ := unpack_of_field field
  · rw [zero]
    exact fun full => absurd (unpackExponent_packComponents.symm.trans full) (by decide)
  · rw [finite]
    exact unpackExponent_pack_finite positive fits

theorem isFinite_ofBits {bits : Nat} (within : bits < infiniteBits) :
    (Float.ofBits (UInt64.ofNat bits)).isFinite = true := by
  refine isFinite_unpack (unpackExponent_pack fun full => ?_)
  have value := congrArg BitVec.toNat full
  have field : (@unpackExponent Format.binary64 (UInt64.ofNat bits).toBitVec).toNat =
      (bits % 2 ^ 64) >>> 52 % 2 ^ 11 := rfl
  have ones : (-1#11).toNat = 2047 := rfl
  rw [field, ones, Nat.shiftRight_eq_div_pow] at value
  rw [infiniteBits] at within
  omega

/-- What is not beyond the doubles is close to a finite one. -/
theorem isFinite_nearest {num den : Nat} (within : isBeyond num den = false) :
    (nearest num den).isFinite = true := by
  rw [nearest]
  split_ifs with zero
  · decide
  · refine isFinite_ofBits (Nat.lt_of_le_of_ne (Nat.min_le_right _ _) fun beyond => ?_)
    have equal : nearestBits num den = infiniteBits := beyond
    simp [isBeyond, zero, equal] at within

end CodeMetrics.Number
