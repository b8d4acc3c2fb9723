import CodeMetrics.Proofs.Bits
import CodeMetrics.Proofs.Nearest

/-!
# Doubles near one

A positive double with all its digits is known up to a factor of two from its exponent field. The
field of a quotient follows from the numbers it is made of, and that of a product from the fields of
its factors, up to the two places that multiplying and rounding can carry. So products of doubles
near one are no zeros and never infinite.

Results:
1. `roundWithAccuracy_normal`: rounding keeps a number with enough digits within two places.
2. `field_mul`: the field of a product.
3. `field_nearest`: the field of a quotient.
4. `moderate_nearest_mul_nearest`, `nonzero_of_field`: what is near one is no zero.
-/

namespace CodeMetrics.Number

open Float.Model (Format UnpackedFloat totalExponent)
open Float.Model.UnpackedFloat (Sign pack unpack unpackExponent unpackMantissa unpackSign
  packComponents Accuracy ExtendedMantissa shiftToTargetExponent shiftToExponent
  roundWithAccuracy)

variable {x y : Float}

/-! ## Rounding -/

theorem mantissa_shiftRight (em : ExtendedMantissa) (places : Nat) :
    (em >>> places).mantissa = em.mantissa / 2 ^ places := by
  induction places with
  | zero => exact (Nat.div_one _).symm
  | succ places ih =>
      show (em >>> places).mantissa / 2 = _
      rw [ih, Nat.div_div_eq_div_mul, Nat.pow_succ]

/-- Rounding goes to one of the two neighbours. -/
theorem roundedMantissa_bounds (em : ExtendedMantissa) :
    em.mantissa ≤ em.roundedMantissa ∧ em.roundedMantissa ≤ em.mantissa + 1 := by
  obtain ⟨mantissa, round, sticky⟩ := em
  cases round with
  | false =>
      cases sticky <;> exact ⟨le_rfl, Nat.le_succ mantissa⟩
  | true =>
      cases sticky with
      | false =>
          show mantissa ≤ mantissa + mantissa % 2 ∧ mantissa + mantissa % 2 ≤ mantissa + 1
          omega
      | true => exact ⟨Nat.le_succ mantissa, le_rfl⟩

/-- A number with enough digits is cut to 53 of them. -/
theorem shiftToTargetExponent_eq {m : Nat} {e : ℤ} (digits : 52 ≤ m.log2)
    (normal : -1022 ≤ e + m.log2) :
    shiftToTargetExponent Format.binary64 m e .exact =
      (ExtendedMantissa.mk m false false >>> (m.log2 - 52), e + (m.log2 - 52 : Nat)) := by
  have target : Format.binary64.targetExponent (totalExponent m e) = e + (m.log2 - 52 : Nat) := by
    show max ((m.log2 : ℤ) + 1 + e - 53) (-1074) = _
    omega
  have places : (e + (m.log2 - 52 : Nat) - e).toNat = m.log2 - 52 := by omega
  rw [shiftToTargetExponent, target, shiftToExponent, places]
  rfl

/-- What has 53 digits stays as it is. -/
theorem cut_bounds {m : Nat} (digits : 52 ≤ m.log2) :
    2 ^ 52 ≤ m / 2 ^ (m.log2 - 52) ∧ m / 2 ^ (m.log2 - 52) < 2 ^ 53 := by
  have nonzero : m ≠ 0 := by
    rintro rfl
    rw [Nat.log2_zero] at digits
    omega
  have power : 0 < 2 ^ (m.log2 - 52) := Nat.two_pow_pos _
  constructor
  · rw [Nat.le_div_iff_mul_le power, ← Nat.pow_add, Nat.add_sub_cancel' digits]
    exact Nat.log2_self_le nonzero
  · have whole : 53 + (m.log2 - 52) = m.log2 + 1 := by omega
    rw [Nat.div_lt_iff_lt_mul power, ← Nat.pow_add, whole]
    exact Nat.lt_log2_self

/-- A finite number with the 53 digits of a normal double, whose last place is the given one or the
next. -/
def IsNormalAt (s : Sign) (least : ℤ) (u : UnpackedFloat) : Prop :=
  ∃ m e, ∃ positive : 0 < m, u = .finite s m e positive ∧ 2 ^ 52 ≤ m ∧ m < 2 ^ 53 ∧
    least ≤ e ∧ e ≤ least + 1

theorem roundWithAccuracy_normal (s : Sign) {m : Nat} {e : ℤ} (digits : 52 ≤ m.log2)
    (normal : -1022 ≤ e + m.log2) :
    IsNormalAt s (e + (m.log2 - 52 : Nat)) (roundWithAccuracy Format.binary64 s m e .exact) := by
  obtain ⟨lower, upper⟩ := cut_bounds digits
  have rounded := roundedMantissa_bounds (ExtendedMantissa.mk m false false >>> (m.log2 - 52))
  rw [mantissa_shiftRight] at rounded
  unfold roundWithAccuracy
  rw [shiftToTargetExponent_eq digits normal]
  dsimp only at rounded ⊢
  generalize (ExtendedMantissa.mk m false false >>> (m.log2 - 52)).roundedMantissa = r at rounded ⊢
  have positive : r ≠ 0 := by omega
  -- Rounding up can carry into a new digit; then the last one, which is a zero, is cut off.
  by_cases carried : r = 2 ^ 53
  · have log : r.log2 = 53 := carried ▸ Nat.log2_two_pow
    rw [shiftToTargetExponent_eq (by omega) (by omega), log]
    have half : (ExtendedMantissa.mk r false false >>> (53 - 52)).mantissa = 2 ^ 52 := by
      rw [mantissa_shiftRight, carried]
      rfl
    dsimp only
    rw [dif_neg (by rw [half]; decide)]
    exact ⟨_, _, _, rfl, by omega, by omega, by omega, by omega⟩
  · have log : r.log2 = 52 := (Nat.log2_eq_iff positive).2 ⟨by omega, by omega⟩
    rw [shiftToTargetExponent_eq (by omega) (by omega), log]
    have same : (ExtendedMantissa.mk r false false >>> (52 - 52)).mantissa = r := by
      rw [mantissa_shiftRight]
      exact Nat.div_one r
    dsimp only
    rw [dif_neg (by rw [same]; exact positive)]
    exact ⟨_, _, _, rfl, by omega, by omega, by omega, by omega⟩

/-! ## Fields -/

/-- The exponent field of a double, behind its sign. Positive doubles have no sign. -/
def field (x : Float) : Nat := x.toBits.toNat / leadingBit

theorem field_eq (x : Float) : field x = (word x).toNat / 2 ^ 52 := rfl

/-- What is unpacked of a positive normal double. -/
theorem isNormalAt_of_field (low : 0 < field x) (high : field x < 2047) :
    ∃ m, ∃ positive : 0 < m,
      x.toModel.unpack = .finite .positive m ((field x : ℤ) - 1075) positive ∧
        2 ^ 52 ≤ m ∧ m < 2 ^ 53 := by
  rw [field_eq] at low high
  have exponent := toNat_unpackExponent (word x)
  have sign := toNat_unpackSign (word x)
  rw [Nat.mod_eq_of_lt (by omega), ← field_eq] at exponent
  have unsigned : @unpackSign Format.binary64 (word x) = 0#1 := by
    refine BitVec.eq_of_toNat_eq ?_
    rw [sign, BitVec.toNat_zero]
    omega
  have notFull : @unpackExponent Format.binary64 (word x) ≠ -1#11 := by
    intro full
    have ones : (-1#11).toNat = 2047 := rfl
    rw [full, ones, field_eq] at exponent
    omega
  have notZero : @unpackExponent Format.binary64 (word x) ≠ 0#11 := by
    intro zero
    rw [zero, BitVec.toNat_zero, field_eq] at exponent
    omega
  have bias : ((Format.binary64.exponentBias : ℤ) +
      Format.binary64.mantissaBitsWithoutImplicit) = 1075 := rfl
  have places := (@unpackMantissa Format.binary64 (word x)).isLt
  have mantissa := toNat_one_append (@unpackMantissa Format.binary64 (word x))
  obtain ⟨u, unpacked⟩ : ∃ u, unpack Format.binary64 (word x) = u := ⟨_, rfl⟩
  have unfolded := unpacked
  unfold unpack at unfolded
  dsimp only at unfolded
  rw [if_neg notFull, if_neg notZero, unsigned] at unfolded
  refine ⟨2 ^ 52 + (@unpackMantissa Format.binary64 (word x)).toNat, by omega, ?_, by omega, ?_⟩
  · show unpack Format.binary64 (word x) = _
    rw [unpacked, ← unfolded]
    exact finite_congr mantissa (by rw [exponent, bias]) _
  · have bound : 2 ^ Format.binary64.mantissaBitsWithoutImplicit = 2 ^ 52 := rfl
    omega

theorem toNat_field {e : ℤ} (low : -1075 ≤ e) (high : e ≤ 971) :
    (BitVec.ofNat 11 (e + 1075).toNat).toNat = (e + 1075).toNat := by
  rw [BitVec.toNat_ofNat]
  omega

theorem toNat_fraction {m : Nat} (upper : m < 2 ^ 53) :
    (BitVec.ofNat 52 (m - 2 ^ 52)).toNat = m - 2 ^ 52 := by
  rw [BitVec.toNat_ofNat]
  omega

/-- The components of a normal number. -/
theorem pack_of_normal (s : Sign) {m : Nat} {e : ℤ} (positive : 0 < m) (lower : 2 ^ 52 ≤ m)
    (upper : m < 2 ^ 53) (low : -1074 ≤ e) (high : e ≤ 971) :
    pack Format.binary64 (.finite s m e positive) =
      packComponents Format.binary64 s (BitVec.ofNat 11 (e + 1075).toNat)
        (BitVec.ofNat 52 (m - 2 ^ 52)) := by
  have exponent := toNat_field (by omega : -1075 ≤ e) high
  have mantissa := toNat_fraction upper
  have whole : m = 2 ^ 52 + (BitVec.ofNat 52 (m - 2 ^ 52)).toNat := by omega
  have place : e = ((BitVec.ofNat 11 (e + 1075).toNat).toNat : ℤ) - 1075 := by omega
  rw [finite_congr whole place positive]
  exact pack_normal (by omega) (by omega) _

/-- The field of what is packed of a positive normal number. -/
theorem field_of_pack {least : ℤ} {u : UnpackedFloat} (normal : IsNormalAt .positive least u)
    (low : -1074 ≤ least) (high : least ≤ 970) (packed : word x = pack Format.binary64 u) :
    least + 1075 ≤ field x ∧ (field x : ℤ) ≤ least + 1076 := by
  obtain ⟨m, e, positive, rfl, lower, upper, first, last⟩ := normal
  have unsigned : Sign.positive.toBitVec.toNat = 0 := rfl
  rw [field_eq, packed, pack_of_normal _ positive lower upper (by omega) (by omega),
    toNat_packComponents, toNat_field (by omega) (by omega), toNat_fraction upper, unsigned]
  omega

/-- A product of positive normal doubles, as long as it is a normal double itself. Its factors have
106 digits together, or one less, and rounding can carry into one more. -/
theorem field_mul (lowX : 0 < field x) (highX : field x < 2047) (lowY : 0 < field y)
    (highY : field y < 2047) (low : 1024 ≤ field x + field y)
    (high : field x + field y ≤ 3067) :
    field x + field y ≤ field (x * y) + 1023 ∧ field (x * y) + 1021 ≤ field x + field y := by
  obtain ⟨m, positive, unpackedX, lowerX, upperX⟩ := isNormalAt_of_field lowX highX
  obtain ⟨n, positiveY, unpackedY, lowerY, upperY⟩ := isNormalAt_of_field lowY highY
  have packed : word (x * y) =
      pack Format.binary64 (UnpackedFloat.mul Format.binary64 x.toModel.unpack y.toModel.unpack) :=
    rfl
  have product : UnpackedFloat.mul Format.binary64 x.toModel.unpack y.toModel.unpack =
      roundWithAccuracy Format.binary64 .positive (m * n)
        ((field x : ℤ) - 1075 + ((field y : ℤ) - 1075)) .exact := by
    rw [unpackedX, unpackedY]
    rfl
  have lower : 2 ^ 104 ≤ m * n := by
    rw [Nat.pow_add 2 52 52]
    exact Nat.mul_le_mul lowerX lowerY
  have upper : m * n < 2 ^ 106 := by
    rw [Nat.pow_add 2 53 53]
    exact Nat.mul_lt_mul'' upperX upperY
  have nonzero : m * n ≠ 0 := by omega
  have digits : 104 ≤ (m * n).log2 := (Nat.le_log2 nonzero).2 lower
  have most : (m * n).log2 < 106 := (Nat.log2_lt nonzero).2 upper
  rw [product] at packed
  have bounds := field_of_pack (roundWithAccuracy_normal .positive (by omega) (by omega))
    (by omega) (by omega) packed
  omega

/-! ## Quotients -/

theorem field_ofBits {bits : Nat} (within : bits < infiniteBits) :
    field (Float.ofBits (UInt64.ofNat bits)) = bits / leadingBit := by
  have whole : (UInt64.ofNat bits).toBitVec.toNat = bits := by
    show bits % 2 ^ 64 = bits
    rw [infiniteBits] at within
    omega
  have valid : Format.binary64.Valid (UInt64.ofNat bits).toBitVec := by
    refine ⟨fun full _ => ?_⟩
    have exponent := toNat_unpackExponent (UInt64.ofNat bits).toBitVec
    have ones : (-1#11).toNat = 2047 := rfl
    rw [full, ones, whole] at exponent
    rw [infiniteBits] at within
    omega
  rw [field_eq, word_ofBits valid, whole]
  rfl

/-- A quotient of numbers with few digits is not far from one. -/
theorem field_nearest {num den : Nat} (positive : 0 < num) (small : num < 2 ^ 20)
    (divisor : 0 < den) (smallDivisor : den < 2 ^ 20) :
    1003 ≤ field (nearest num den) ∧ field (nearest num den) ≤ 1043 := by
  have digits : num.log2 < 20 := (Nat.log2_lt positive.ne').2 small
  have digitsDivisor : den.log2 < 20 := (Nat.log2_lt divisor.ne').2 smallDivisor
  have place : -72 ≤ lastPlace num den ∧ lastPlace num den ≤ -33 := by
    rw [lastPlace]
    dsimp only
    split <;> omega
  obtain ⟨below, above⟩ := lastPlace_bounds positive divisor
  have lower := above (by omega)
  have rounds := fun bound => @le_round_scaled_iff num den bound divisor (lastPlace num den)
  -- The quotient is known up to one place, so that its bits are those of that place or the next.
  have many : leadingBit ≤ roundHalfEven (scaled num den (lastPlace num den)).1
      (scaled num den (lastPlace num den)).2 := by
    rw [rounds _ (by decide) (by decide), leadingBit]
    norm_num
    linarith
  have few : roundHalfEven (scaled num den (lastPlace num den)).1
      (scaled num den (lastPlace num den)).2 < 2 * leadingBit + 2 := by
    rw [← Nat.not_le, rounds _ (by decide) (by decide), leadingBit]
    norm_num
    linarith
  have bits : nearestBits num den < infiniteBits ∧ 1003 ≤ nearestBits num den / leadingBit ∧
      nearestBits num den / leadingBit ≤ 1043 := by
    rw [nearestBits]
    dsimp only
    rw [leadingBit, infiniteBits] at *
    omega
  rw [nearest, if_neg positive.ne', field_ofBits bits.1]
  exact bits.2

/-! ## Doubles near one -/

/-- A positive double that is `2 ^ (-64)` at least and below `2 ^ 64`. -/
def Moderate (x : Float) : Prop := 959 ≤ field x ∧ field x < 1087

/-- A product of two quotients of numbers with few digits. -/
theorem moderate_nearest_mul_nearest {a b c d : Nat} (positive : 0 < a ∧ 0 < b ∧ 0 < c ∧ 0 < d)
    (small : a < 2 ^ 20 ∧ b < 2 ^ 20 ∧ c < 2 ^ 20 ∧ d < 2 ^ 20) :
    Moderate (nearest a b * nearest c d) := by
  have first := field_nearest positive.1 small.1 positive.2.1 small.2.1
  have second := field_nearest positive.2.2.1 small.2.2.1 positive.2.2.2 small.2.2.2
  have product := field_mul (by omega) (by omega) (by omega) (by omega) (by omega)
    (by omega : field (nearest a b) + field (nearest c d) ≤ 3067)
  rw [Moderate]
  omega

/-- A positive normal double is no zero. -/
theorem nonzero_of_field (low : 0 < field x) (high : field x < 2047) : (x == 0.0) = false := by
  obtain ⟨m, positive, unpacked, -, -⟩ := isNormalAt_of_field low high
  have number : x.isNaN = false := isNaN_eq_false.2 (by rw [unpacked]; exact nofun)
  have zero : place 0.0 = toLex (0, toLex (0, 0)) := by decide +kernel
  rw [Bool.eq_false_iff, Ne, beq_iff number (by decide +kernel), zero, place, unpacked]
  intro same
  cases congrArg (fun place => (ofLex place).1) same

end CodeMetrics.Number
