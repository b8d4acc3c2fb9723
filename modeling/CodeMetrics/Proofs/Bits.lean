import Mathlib.Algebra.Order.Ring.Nat
import CodeMetrics.Proofs.Order

/-!
# The bits of a double

A double is its bits, for of those of a NaN there is only one choice. The first of them is the sign,
and a double without its sign is its magnitude. The other bits count the doubles from zero on: one
for each last place, and the places of one exponent follow those of the exponent below.

Results:
1. `pack_unpack`: valid bits are packed again as they were.
2. `eq_of_word`: a double is its bits.
3. `signed_magnitude`: a number is its magnitude, with its sign.
4. `describes_ofFloat`: what the mantissa and the exponent of a finite double tell of its bits.
-/

namespace CodeMetrics.Number

open Float.Model (Format UnpackedFloat)
open Float.Model.UnpackedFloat (Sign pack unpack unpackExponent unpackMantissa unpackSign
  packComponents unpackExponent_packComponents unpackMantissa_packComponents)

variable {x : Float}

/-! ## Components -/

theorem toNat_unpackSign (bits : BitVec 64) :
    (@unpackSign Format.binary64 bits).toNat = bits.toNat / 2 ^ 63 % 2 := by
  rw [← Nat.shiftRight_eq_div_pow]
  rfl

theorem toNat_unpackExponent (bits : BitVec 64) :
    (@unpackExponent Format.binary64 bits).toNat = bits.toNat / 2 ^ 52 % 2 ^ 11 := by
  rw [← Nat.shiftRight_eq_div_pow]
  rfl

theorem toNat_unpackMantissa (bits : BitVec 64) :
    (@unpackMantissa Format.binary64 bits).toNat = bits.toNat % 2 ^ 52 := rfl

theorem toNat_packComponents (s : Sign) (e : BitVec 11) (m : BitVec 52) :
    (packComponents Format.binary64 s e m).toNat =
      s.toBitVec.toNat * 2 ^ 63 + e.toNat * 2 ^ 52 + m.toNat := by
  show (s.toBitVec ++ e ++ m).toNat = _
  rw [BitVec.toNat_append, BitVec.toNat_append, ← Nat.shiftLeft_add_eq_or_of_lt m.isLt,
    ← Nat.shiftLeft_add_eq_or_of_lt e.isLt, Nat.shiftLeft_eq, Nat.shiftLeft_eq]
  omega

theorem toBitVec_ofBitVec (b : BitVec 1) : (Sign.ofBitVec b).toBitVec = b := by
  have bound := b.isLt
  rw [Sign.ofBitVec]
  split
  · next zero => exact zero.symm
  · next nonzero =>
    have one : b.toNat ≠ 0 := fun zero => nonzero (BitVec.eq_of_toNat_eq zero)
    refine BitVec.eq_of_toNat_eq ?_
    show 1 = b.toNat
    omega

/-- Bits are put together again from their sign, exponent and mantissa. -/
theorem packComponents_unpack (bits : BitVec 64) :
    packComponents Format.binary64 (Sign.ofBitVec (@unpackSign Format.binary64 bits))
      (unpackExponent bits) (unpackMantissa bits) = bits := by
  refine BitVec.eq_of_toNat_eq ?_
  have bound : bits.toNat < 2 ^ 64 := bits.isLt
  rw [toNat_packComponents, toBitVec_ofBitVec, toNat_unpackSign, toNat_unpackExponent,
    toNat_unpackMantissa]
  omega

theorem packComponents_of_unpack {bits : BitVec 64} {e : BitVec 11} {m : BitVec 52}
    (exponent : @unpackExponent Format.binary64 bits = e)
    (mantissa : @unpackMantissa Format.binary64 bits = m) :
    packComponents Format.binary64 (Sign.ofBitVec (@unpackSign Format.binary64 bits)) e m =
      bits := by
  rw [← exponent, ← mantissa, packComponents_unpack]

/-- The leading digit of a normal number. -/
theorem toNat_one_append (m : BitVec 52) : (1#1 ++ m).toNat = 2 ^ 52 + m.toNat := by
  rw [BitVec.toNat_append, ← Nat.shiftLeft_add_eq_or_of_lt m.isLt, Nat.shiftLeft_eq]
  rfl

theorem toNat_pos_of_ne {w : Nat} {e : BitVec w} (nonzero : e ≠ 0#w) : 0 < e.toNat :=
  Nat.pos_of_ne_zero fun zero => nonzero (BitVec.eq_of_toNat_eq (zero.trans BitVec.toNat_zero.symm))

theorem toNat_lt_of_ne {e : BitVec 11} (notFull : e ≠ -1#11) : e.toNat < 2047 := by
  have bound : e.toNat < 2048 := e.isLt
  have notOnes : e.toNat ≠ 2047 := fun ones => notFull (BitVec.eq_of_toNat_eq ones)
  omega

/-! ## Packing -/

theorem pack_subnormal {s : Sign} {m : BitVec 52} (positive : 0 < m.toNat) :
    pack Format.binary64 (.finite s m.toNat (-1074) positive) =
      packComponents Format.binary64 s 0#11 m := by
  have small : m.toNat < 2 ^ 52 := m.isLt
  have short : ¬ m.toNat.log2 + 1 = Format.binary64.mantissaBits := by
    have digits : m.toNat.log2 < 52 := (Nat.log2_lt positive.ne').2 small
    show ¬ m.toNat.log2 + 1 = 53
    omega
  unfold pack
  dsimp only
  rw [if_neg (by decide), if_neg short]
  congr 1
  exact BitVec.ofNat_toNat _ _

theorem pack_normal {s : Sign} {e : BitVec 11} {m : BitVec 52} (low : 0 < e.toNat)
    (high : e.toNat < 2047) (positive : 0 < 2 ^ 52 + m.toNat) :
    pack Format.binary64 (.finite s (2 ^ 52 + m.toNat) (e.toNat - 1075) positive) =
      packComponents Format.binary64 s e m := by
  have small : m.toNat < 2 ^ 52 := m.isLt
  have digits : (2 ^ 52 + m.toNat).log2 = 52 :=
    (Nat.log2_eq_iff positive.ne').2 ⟨by omega, by omega⟩
  have biased : ((e.toNat : Int) - 1075 + Format.binary64.exponentBias +
      Format.binary64.mantissaBitsWithoutImplicit).toNat = e.toNat := by
    show ((e.toNat : Int) - 1075 + 1023 + 52).toNat = _
    omega
  have fits : ¬ 2 ^ Format.binary64.exponentBits ≤ e.toNat + 1 := by
    show ¬ 2048 ≤ _
    omega
  have whole : 52 + 1 = Format.binary64.mantissaBits := rfl
  unfold pack
  dsimp only
  rw [biased, if_neg fits, digits, if_pos whole]
  congr 1
  · exact BitVec.ofNat_toNat _ _
  · refine BitVec.eq_of_toNat_eq ?_
    show (2 ^ 52 + m.toNat) % 2 ^ 52 = m.toNat
    omega

/-- A finite number is known from its parts. -/
theorem finite_congr {s : Sign} {m n : Nat} {e f : Int} (mantissa : m = n) (exponent : e = f)
    (positive : 0 < m) :
    UnpackedFloat.finite s m e positive = .finite s n f (mantissa ▸ positive) := by
  subst mantissa exponent
  rfl

/-- Valid bits are packed again as they were. -/
theorem pack_unpack {bits : BitVec 64} (valid : Format.binary64.Valid bits) :
    pack Format.binary64 (unpack Format.binary64 bits) = bits := by
  obtain ⟨u, unpacked⟩ : ∃ u, unpack Format.binary64 bits = u := ⟨_, rfl⟩
  rw [unpacked]
  unfold unpack at unpacked
  dsimp only at unpacked
  by_cases full : @unpackExponent Format.binary64 bits = -1#11
  · rw [if_pos full] at unpacked
    by_cases zero : @unpackMantissa Format.binary64 bits = 0#52
    · rw [if_pos zero] at unpacked
      rw [← unpacked]
      exact packComponents_of_unpack full zero
    · rw [if_neg zero] at unpacked
      rw [← unpacked]
      exact (valid.eq_packedNaN full zero).symm
  rw [if_neg full] at unpacked
  by_cases subnormal : @unpackExponent Format.binary64 bits = 0#11
  · rw [if_pos subnormal] at unpacked
    by_cases zero : @unpackMantissa Format.binary64 bits = 0#52
    · rw [dif_pos zero] at unpacked
      rw [← unpacked]
      exact packComponents_of_unpack subnormal zero
    · rw [dif_neg zero] at unpacked
      have last : ((@unpackExponent Format.binary64 bits).toNat : Int) -
          (Format.binary64.exponentBias + Format.binary64.mantissaBitsWithoutImplicit) + 1 =
          -1074 := by
        rw [subnormal]
        rfl
      rw [← unpacked, finite_congr rfl last]
      exact (pack_subnormal _).trans (packComponents_of_unpack subnormal rfl)
  · rw [if_neg subnormal] at unpacked
    have bias : ((Format.binary64.exponentBias : Int) +
      Format.binary64.mantissaBitsWithoutImplicit) = 1075 := rfl
    rw [← unpacked, finite_congr (toNat_one_append _) (congrArg _ bias)]
    exact (pack_normal (toNat_pos_of_ne subnormal) (toNat_lt_of_ne full) _).trans
      (packComponents_of_unpack rfl rfl)

/-! ## Doubles -/

/-- The bits of a double as a number. -/
def word (x : Float) : BitVec 64 := x.toModel.toBits.toBitVec

theorem valid_word (x : Float) : Format.binary64.Valid (word x) := x.toModel.valid

/-- A double is its bits. -/
theorem eq_of_word {y : Float} (same : word x = word y) : x = y := by
  obtain ⟨⟨bits, valid⟩⟩ := x
  obtain ⟨⟨others, validOthers⟩⟩ := y
  have equal : bits = others := UInt64.toBitVec_inj.1 same
  subst equal
  rfl

theorem word_ofBits {bits : UInt64} (valid : Format.binary64.Valid bits.toBitVec) :
    word (Float.ofBits bits) = bits.toBitVec := pack_unpack valid

theorem word_neg (x : Float) :
    word (-x) = pack Format.binary64 (unpack Format.binary64 (word x)).neg := rfl

/-- The double with the same bits and no sign. -/
def magnitude (x : Float) : Float := Float.ofBits (UInt64.ofNat (x.toBits.toNat % signBit))

/-- Bits that differ in the sign only are those of a number and its negation. -/
theorem neg_unpack {bits other : BitVec 64}
    (sign : Sign.ofBitVec (@unpackSign Format.binary64 bits) = .positive)
    (signOther : Sign.ofBitVec (@unpackSign Format.binary64 other) = .negative)
    (exponent : @unpackExponent Format.binary64 bits = @unpackExponent Format.binary64 other)
    (mantissa : @unpackMantissa Format.binary64 bits = @unpackMantissa Format.binary64 other) :
    (unpack Format.binary64 bits).neg = unpack Format.binary64 other := by
  have places := congrArg BitVec.toNat mantissa
  unfold unpack
  dsimp only
  rw [sign, signOther, exponent]
  by_cases full : @unpackExponent Format.binary64 other = -1#11
  · rw [if_pos full, if_pos full, mantissa]
    split <;> rfl
  rw [if_neg full, if_neg full]
  by_cases subnormal : @unpackExponent Format.binary64 other = 0#11
  · rw [if_pos subnormal, if_pos subnormal]
    by_cases zero : @unpackMantissa Format.binary64 other = 0#52
    · rw [dif_pos (mantissa.trans zero), dif_pos zero]
      rfl
    · rw [dif_neg fun empty => zero (mantissa.symm.trans empty), dif_neg zero]
      exact finite_congr places rfl _
  · rw [if_neg subnormal, if_neg subnormal]
    exact finite_congr (by rw [mantissa]) rfl _

theorem sign_word (x : Float) :
    Sign.ofBitVec (@unpackSign Format.binary64 (word x)) =
      if isNegative x then .negative else .positive := by
  have first := toNat_unpackSign (word x)
  have bound : (word x).toNat < 2 ^ 64 := (word x).isLt
  have negative : isNegative x = true ↔ signBit ≤ (word x).toNat := decide_eq_true_iff
  rw [Sign.ofBitVec]
  rw [signBit] at negative
  by_cases zero : @unpackSign Format.binary64 (word x) = 0#1
  · rw [zero, BitVec.toNat_zero] at first
    rw [if_pos zero, if_neg fun signed => ?_]
    have := negative.1 signed
    omega
  · have positive := toNat_pos_of_ne zero
    rw [if_neg zero, if_pos (negative.2 _)]
    omega

/-- The word of a double without its sign. -/
theorem word_magnitude (number : x.isNaN = false) :
    word (magnitude x) = packComponents Format.binary64 .positive (unpackExponent (word x))
      (unpackMantissa (word x)) := by
  have low : (UInt64.ofNat (x.toBits.toNat % signBit)).toBitVec =
      packComponents Format.binary64 .positive (unpackExponent (word x))
        (unpackMantissa (word x)) := by
    refine BitVec.eq_of_toNat_eq ?_
    show (word x).toNat % signBit % 2 ^ 64 = _
    rw [toNat_packComponents, toNat_unpackExponent, toNat_unpackMantissa, signBit]
    show _ = 0 * 2 ^ 63 + _ + _
    omega
  rw [magnitude, ← low]
  refine word_ofBits ⟨fun full payload => ?_⟩
  rw [low, unpackExponent_packComponents] at full
  rw [low, unpackMantissa_packComponents] at payload
  have nan : unpack Format.binary64 (word x) = .notANumber := by
    unfold unpack
    dsimp only
    rw [if_pos full, if_neg payload]
  exact absurd nan (isNaN_eq_false.1 number)

/-- A number is its magnitude, with its sign. -/
theorem signed_magnitude (number : x.isNaN = false) :
    (if isNegative x then -magnitude x else magnitude x) = x := by
  have sign := sign_word x
  refine eq_of_word ?_
  split
  · next negative =>
    have unsigned : Sign.ofBitVec (@unpackSign Format.binary64 (word (magnitude x))) =
        .positive := by
      rw [word_magnitude number, unpackSign_packComponents]
      rfl
    rw [if_pos negative] at sign
    rw [word_neg, neg_unpack unsigned sign, pack_unpack (valid_word x)]
    · rw [word_magnitude number, unpackExponent_packComponents]
    · rw [word_magnitude number, unpackMantissa_packComponents]
  · next positive =>
    have parts := packComponents_unpack (word x)
    rw [sign, if_neg positive] at parts
    rw [word_magnitude number, parts]

/-! ## Mantissas and exponents -/

/-- A mantissa and an exponent as they are found in the bits of a finite double. -/
structure Binary.Describes (b : Binary) (bits : Nat) : Prop where
  bits_eq : bits = (b.exponent + 1074).toNat * leadingBit + b.mantissa
  mantissa_lt : b.mantissa < 2 * leadingBit
  least : -1074 ≤ b.exponent
  greatest : b.exponent ≤ 971
  normal : b.exponent ≠ -1074 → leadingBit ≤ b.mantissa
  narrow_iff : b.narrowBelow = true ↔ b.mantissa = leadingBit ∧ b.exponent ≠ -1074

theorem field_of_isFinite (finite : x.isFinite = true) :
    @unpackExponent Format.binary64 (word x) ≠ -1#11 := by
  intro full
  have unpacked : (unpack Format.binary64 (word x)).isFinite = true := finite
  unfold unpack at unpacked
  dsimp only at unpacked
  rw [if_pos full] at unpacked
  split_ifs at unpacked <;> cases unpacked

theorem describes_subnormal {fraction : Nat} (small : fraction < leadingBit) :
    Binary.Describes ⟨fraction, -1074, false⟩ fraction := by
  refine ⟨(Nat.zero_add _).symm.trans (by simp), ?_, ?_, ?_, ?_, ?_⟩
  all_goals dsimp only
  · omega
  · omega
  · omega
  · exact fun other => absurd rfl other
  · simp

theorem describes_normal {field fraction : Nat} (positive : 0 < field) (within : field < 2047)
    (small : fraction < leadingBit) :
    Binary.Describes ⟨leadingBit + fraction, (field : Int) - 1075, fraction == 0 && field > 1⟩
      (leadingBit * field + fraction) := by
  have places : ((field : Int) - 1075 + 1074).toNat = field - 1 := by omega
  refine ⟨?_, ?_, ?_, ?_, ?_, ?_⟩
  all_goals dsimp only
  · rw [places, leadingBit]
    omega
  · omega
  · omega
  · omega
  · exact fun _ => Nat.le_add_right _ _
  · rw [Bool.and_eq_true, beq_iff_eq, decide_eq_true_eq]
    omega

theorem describes_ofFloat (finite : x.isFinite = true) :
    (Binary.ofFloat x).Describes (x.toBits.toNat % signBit) := by
  have field := toNat_lt_of_ne (field_of_isFinite finite)
  rw [toNat_unpackExponent] at field
  have within : x.toBits.toNat % signBit / leadingBit < 2047 := by
    rw [signBit, leadingBit]
    show (word x).toNat % _ / _ < _
    omega
  rw [Binary.ofFloat]
  generalize x.toBits.toNat % signBit = bits at within
  have small := Nat.mod_lt bits (show 0 < leadingBit by decide)
  have split := Nat.div_add_mod bits leadingBit
  split_ifs with subnormal
  · rw [subnormal, Nat.mul_zero, Nat.zero_add] at split
    rw [split] at small ⊢
    exact describes_subnormal small
  · have described := describes_normal (Nat.pos_of_ne_zero subnormal) within small
    rwa [split] at described

/-- The bits of an infinite double. -/
theorem bits_of_isInf (endless : x.isInf = true) : x.toBits.toNat % signBit = infiniteBits := by
  have unpacked : (unpack Format.binary64 (word x)).isInf = true := endless
  have exponent := toNat_unpackExponent (word x)
  have mantissa := toNat_unpackMantissa (word x)
  unfold unpack at unpacked
  dsimp only at unpacked
  by_cases full : @unpackExponent Format.binary64 (word x) = -1#11
  · rw [if_pos full] at unpacked
    by_cases zero : @unpackMantissa Format.binary64 (word x) = 0#52
    · have ones : (-1#11).toNat = 2047 := rfl
      rw [full, ones] at exponent
      rw [zero, BitVec.toNat_zero] at mantissa
      show (word x).toNat % signBit = _
      rw [signBit, infiniteBits]
      omega
    · rw [if_neg zero] at unpacked
      cases unpacked
  · rw [if_neg full] at unpacked
    by_cases subnormal : @unpackExponent Format.binary64 (word x) = 0#11
    · rw [if_pos subnormal] at unpacked
      by_cases zero : @unpackMantissa Format.binary64 (word x) = 0#52
      · rw [dif_pos zero] at unpacked
        cases unpacked
      · rw [dif_neg zero] at unpacked
        cases unpacked
    · rw [if_neg subnormal] at unpacked
      cases unpacked

end CodeMetrics.Number
