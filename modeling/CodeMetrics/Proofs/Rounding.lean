import CodeMetrics.Number.Literal
import CodeMetrics.Proofs.Bits
import CodeMetrics.Proofs.Nearest
import CodeMetrics.Proofs.Numeral

/-!
# Decimals that round to a double

A decimal is read as a double when it lies closer to it than to any other one, or as close as to a
neighbour and the mantissa is even. The neighbour below the smallest mantissa is closer than the one
above it. What lies there has the last place of the double, or the last place below it and is then
rounded up to the next power of two, which is the double again.

Results:
1. `compareScaled_eq`, `near_of_readsBack`: what is checked of a decimal.
2. `roundHalfEven_eq`: what rounds to a number.
3. `nearestBits_of_near`: what is near to a double has its bits.
4. `ofDecimal_of_near`: decimals that are near to a double are read as it.
-/

namespace CodeMetrics.Number

variable {b : Binary} {bits : Nat} {v : ℚ}

/-! ## Comparing decimals -/

theorem zpow_eq_div (base : ℚ) (nonzero : base ≠ 0) (e : ℤ) :
    base ^ e * base ^ (-e).toNat = base ^ e.toNat := by
  rw [← zpow_natCast, ← zpow_natCast, ← zpow_add₀ nonzero]
  congr 1
  omega

theorem compare_of_scaled {left right : Nat} {x y scale : ℚ} (positive : 0 < scale)
    (scaledLeft : x * scale = left) (scaledRight : y * scale = right) :
    compare left right = compare x y := by
  have cast : cmp (left : ℚ) right = cmp left right := Nat.strictMono_cast.cmp_map_eq left right
  rw [← cmp_eq_compare, ← cast, ← scaledLeft, ← scaledRight, cmp_mul_pos_right positive,
    cmp_eq_compare]

theorem compareScaled_eq (a : Nat) (i : ℤ) (c : Nat) (j : ℤ) :
    compareScaled a i c j = compare (a * 10 ^ i : ℚ) (c * 2 ^ j) := by
  have ten : (10 : ℚ) ^ i * 10 ^ (-i).toNat = 10 ^ i.toNat := zpow_eq_div 10 (by norm_num) i
  have two : (2 : ℚ) ^ j * 2 ^ (-j).toNat = 2 ^ j.toNat := zpow_eq_div 2 (by norm_num) j
  have positive : (0 : ℚ) < 10 ^ (-i).toNat * 2 ^ (-j).toNat := by positivity
  refine compare_of_scaled positive ?_ ?_
  · simp only [Nat.pow_eq, Nat.cast_mul, Nat.cast_pow, Nat.cast_ofNat]
    rw [← ten]
    ring
  · simp only [Nat.pow_eq, Nat.cast_mul, Nat.cast_pow, Nat.cast_ofNat]
    rw [← two]
    ring

/-! ## What is near to a double -/

def Decimal.value (d : Decimal) : ℚ := d.digits * 10 ^ d.exponent

/-- Halfway to the neighbour below, in last places. -/
def Binary.lowest (b : Binary) : ℚ :=
  if b.narrowBelow then b.mantissa - 1 / 4 else b.mantissa - 1 / 2

/-- The value is not beyond halfway to the neighbours, and there only if the mantissa is even. -/
structure Binary.Near (b : Binary) (v : ℚ) : Prop where
  low : b.lowest ≤ v / 2 ^ b.exponent
  high : v / 2 ^ b.exponent ≤ b.mantissa + 1 / 2
  even : v / 2 ^ b.exponent = b.lowest ∨ v / 2 ^ b.exponent = b.mantissa + 1 / 2 →
    b.mantissa % 2 = 0

theorem compareScaled_quarter (d : Decimal) (c : Nat) (e : ℤ) :
    compareScaled d.digits d.exponent c (e - 2) = compare (d.value / 2 ^ e) (c / 4 : ℚ) := by
  have quarter : (2 : ℚ) ^ (e - 2) = 2 ^ e / 4 := by
    rw [zpow_sub₀ (by norm_num)]
    norm_num
  have power : (0 : ℚ) < 2 ^ e := by positivity
  rw [compareScaled_eq, quarter, Decimal.value]
  generalize (d.digits * 10 ^ d.exponent : ℚ) = v
  rw [← cmp_eq_compare (v / 2 ^ e), ← cmp_mul_pos_right power, div_mul_cancel₀ _ power.ne',
    cmp_eq_compare]
  congr 1
  ring

theorem near_of_readsBack {d : Decimal} (positive : 0 < b.mantissa) (back : b.readsBack d = true) :
    b.Near d.value := by
  have lowest : b.lowest =
      ((if b.narrowBelow then 4 * b.mantissa - 1 else 4 * b.mantissa - 2 : Nat) : ℚ) / 4 := by
    rw [Binary.lowest]
    split
    · rw [Nat.cast_sub (by omega)]
      push_cast
      ring
    · rw [Nat.cast_sub (by omega)]
      push_cast
      ring
  have highest : ((4 * b.mantissa + 2 : Nat) : ℚ) / 4 = b.mantissa + 1 / 2 := by
    push_cast
    ring
  rw [Binary.readsBack] at back
  rw [compareScaled_quarter, compareScaled_quarter, ← lowest, highest] at back
  simp only [Bool.and_eq_true, Bool.or_eq_true, beq_iff_eq, compare_gt_iff_gt, compare_lt_iff_lt,
    compare_eq_iff_eq] at back
  obtain ⟨low | ⟨even, low⟩, high | ⟨evenHigh, high⟩⟩ := back
  · exact ⟨low.le, high.le, fun ends => absurd ends (not_or.2 ⟨low.ne', high.ne⟩)⟩
  · exact ⟨low.le, high.le, fun _ => evenHigh⟩
  · exact ⟨low.ge, high.le, fun _ => even⟩
  · exact ⟨low.ge, high.le, fun _ => even⟩

/-! ## Rounding -/

/-- What is not further from a number than a half rounds to it, if it is even or the half is not
reached. -/
theorem roundHalfEven_eq {num den m : Nat} (positive : 0 < den)
    (low : (m - 1 / 2 : ℚ) ≤ num / den) (high : (num / den : ℚ) ≤ m + 1 / 2)
    (even : (num / den : ℚ) = m - 1 / 2 ∨ (num / den : ℚ) = m + 1 / 2 → m % 2 = 0) :
    roundHalfEven num den = m := by
  have denPositive : (0 : ℚ) < den := by exact_mod_cast positive
  rw [le_div_iff₀ denPositive] at low
  rw [div_le_iff₀ denPositive] at high
  rw [div_eq_iff denPositive.ne', div_eq_iff denPositive.ne'] at even
  have low : 2 * (m * den) ≤ 2 * num + den := by
    rw [← @Nat.cast_le ℚ]
    push_cast
    linarith
  have high : 2 * num ≤ 2 * (m * den) + den := by
    rw [← @Nat.cast_le ℚ]
    push_cast
    linarith
  have even : 2 * num + den = 2 * (m * den) ∨ 2 * num = 2 * (m * den) + den → m % 2 = 0 := by
    rw [← @Nat.cast_inj ℚ, ← @Nat.cast_inj ℚ]
    push_cast
    rintro (below | above)
    · exact even (.inl (by linarith))
    · exact even (.inr (by linarith))
  have upper : num / den < m + 1 := by
    rw [Nat.div_lt_iff_lt_mul positive, Nat.succ_mul]
    omega
  have lower : m ≤ num / den + 1 := by
    rw [← Nat.add_div_right num positive, Nat.le_div_iff_mul_le positive]
    omega
  have split := Nat.div_add_mod num den
  rw [roundHalfEven]
  obtain rfl | rfl : num / den = m ∨ num / den + 1 = m := by omega
  · rw [Nat.mul_comm] at split
    cases side : compare (2 * (num % den)) den with
    | lt => rfl
    | gt =>
        have more := Nat.compare_eq_gt.1 side
        omega
    | eq =>
        have half := Nat.compare_eq_eq.1 side
        exact if_pos (even (.inr (by omega)))
  · have product : (num / den + 1) * den = den * (num / den) + den := by
      rw [Nat.succ_mul, Nat.mul_comm]
    rw [product] at low even
    cases side : compare (2 * (num % den)) den with
    | lt =>
        have less := Nat.compare_eq_lt.1 side
        omega
    | gt => rfl
    | eq =>
        have half := Nat.compare_eq_eq.1 side
        have next := even (.inl (by omega))
        exact if_neg (by omega)

/-- What is as near to a number at some place rounds to it there. -/
theorem round_scaled_eq {num den m : Nat} (positive : 0 < den) (e : ℤ)
    (low : (m - 1 / 2 : ℚ) ≤ num / den / 2 ^ e) (high : (num / den / 2 ^ e : ℚ) ≤ m + 1 / 2)
    (even : (num / den / 2 ^ e : ℚ) = m - 1 / 2 ∨ (num / den / 2 ^ e : ℚ) = m + 1 / 2 →
      m % 2 = 0) :
    roundHalfEven (scaled num den e).1 (scaled num den e).2 = m := by
  obtain ⟨scaledPositive, value⟩ := scaled_value num positive e
  rw [← value] at low high even
  exact roundHalfEven_eq scaledPositive low high even

theorem least_le_lastPlace (num den : Nat) : -1074 ≤ lastPlace num den := by
  rw [lastPlace]
  dsimp only
  split <;> omega

theorem Binary.le_lowest (b : Binary) : (b.mantissa - 1 / 2 : ℚ) ≤ b.lowest := by
  rw [Binary.lowest]
  split
  · linarith
  · exact le_rfl

theorem Binary.Describes.within (described : b.Describes bits) : bits < infiniteBits := by
  have count := described.bits_eq
  have small := described.mantissa_lt
  have greatest := described.greatest
  rw [leadingBit] at count small
  rw [infiniteBits]
  omega

theorem Binary.Near.pos (nonzero : 0 < b.mantissa) (near : b.Near v) : 0 < v := by
  have mantissa : (1 : ℚ) ≤ b.mantissa := by exact_mod_cast nonzero
  have power : (0 : ℚ) < 2 ^ b.exponent := by positivity
  have scaled : 0 < v / 2 ^ b.exponent := by linarith [b.le_lowest, near.low]
  exact (div_pos_iff_of_pos_right power).1 scaled

/-- A value at one place, from its value at another. -/
theorem div_zpow_move (v : ℚ) (e other : ℤ) : v / 2 ^ e = v / 2 ^ other * 2 ^ (other - e) := by
  have two : (2 : ℚ) ≠ 0 := by norm_num
  rw [zpow_sub₀ two]
  field_simp

/-- At a place above the last one of a double, what is near to it has too few digits. -/
theorem Binary.Near.place_le (described : b.Describes bits) (nonzero : 0 < b.mantissa)
    (near : b.Near v) {e : ℤ} (enough : e ≠ -1074 → 2 ^ 52 ≤ v / 2 ^ e) : e ≤ b.exponent := by
  by_contra higher
  have least := described.least
  have large := enough (by omega)
  have small : (b.mantissa : ℚ) + 1 ≤ 2 ^ 53 := by exact_mod_cast described.mantissa_lt
  have positive := near.pos nonzero
  have half : (2 : ℚ) ^ (b.exponent - e) ≤ 2 ^ (-1 : ℤ) :=
    zpow_le_zpow_right₀ (by norm_num) (by omega)
  have fewer : v / 2 ^ b.exponent * 2 ^ (b.exponent - e) ≤ v / 2 ^ b.exponent * 2 ^ (-1 : ℤ) :=
    mul_le_mul_of_nonneg_left half (by positivity)
  rw [← div_zpow_move] at fewer
  norm_num at fewer
  linarith [near.high]

/-- At a place below the last one, what is near to a double has too many digits, unless it lies
below a power of two. -/
theorem Binary.Near.of_place_lt (described : b.Describes bits) (nonzero : 0 < b.mantissa)
    (near : b.Near v) {e : ℤ} (least : -1074 ≤ e) (below : v / 2 ^ e < 2 ^ 53)
    (lower : e < b.exponent) : b.exponent = e + 1 ∧ b.mantissa = leadingBit := by
  have large := described.normal (by omega)
  have positive := near.pos nonzero
  have low := b.le_lowest.trans near.low
  rw [div_zpow_move v e b.exponent] at below
  have next : b.exponent - e = 1 := by
    by_contra further
    have normal : (2 : ℚ) ^ 52 ≤ b.mantissa := by exact_mod_cast large
    have four : (2 : ℚ) ^ (2 : ℤ) ≤ 2 ^ (b.exponent - e) :=
      zpow_le_zpow_right₀ (by norm_num) (by omega)
    have far : v / 2 ^ b.exponent * 2 ^ (2 : ℤ) ≤ v / 2 ^ b.exponent * 2 ^ (b.exponent - e) :=
      mul_le_mul_of_nonneg_left four (by positivity)
    norm_num at far
    linarith
  rw [next, zpow_one] at below
  have most : (b.mantissa : ℚ) < 2 ^ 52 + 1 := by linarith
  have most : b.mantissa < 2 ^ 52 + 1 := by exact_mod_cast most
  rw [leadingBit] at *
  omega

/-- What is near to a double has its bits. -/
theorem nearestBits_of_near {num den : Nat} (described : b.Describes bits)
    (nonzero : 0 < b.mantissa) (positive : 0 < den) (near : b.Near (num / den)) :
    nearestBits num den = bits := by
  have denPositive : (0 : ℚ) < den := by exact_mod_cast positive
  have numPositive : 0 < num := by
    have quotient := (div_pos_iff_of_pos_right denPositive).1 (near.pos nonzero)
    exact_mod_cast quotient
  have round := fun m => @round_scaled_eq num den m positive (lastPlace num den)
  have least := least_le_lastPlace num den
  have within := described.within
  have count := described.bits_eq
  obtain ⟨below, enough⟩ := lastPlace_bounds numPositive positive
  have place := near.place_le described nonzero enough
  have lower := near.of_place_lt described nonzero least below
  rw [nearestBits]
  dsimp only
  generalize lastPlace num den = e at *
  generalize (num / den : ℚ) = v at *
  rcases place.lt_or_eq with less | rfl
  · -- The value is rounded up to the power of two, which is the double.
    obtain ⟨exponent, mantissa⟩ := lower less
    have move := div_zpow_move v e b.exponent
    rw [show b.exponent - e = 1 by omega, zpow_one] at move
    have lowest : b.lowest = b.mantissa - 1 / 4 :=
      if_pos (described.narrow_iff.2 ⟨mantissa, by omega⟩)
    have low := near.low
    have twice : ((2 * leadingBit : Nat) : ℚ) = 2 * b.mantissa := by rw [mantissa]; push_cast; rfl
    have power : (b.mantissa : ℚ) = 2 ^ 52 := by rw [mantissa]; norm_num [leadingBit]
    rw [round (2 * leadingBit) (by linarith) (by linarith) fun _ => rfl]
    rw [mantissa] at count
    rw [leadingBit] at count ⊢
    refine (Nat.min_eq_left ?_).trans ?_
    · omega
    · omega
  · have half := b.le_lowest.trans near.low
    rw [round b.mantissa half near.high fun ends => ?_, ← count]
    · exact Nat.min_eq_left within.le
    · rcases ends with bottom | top
      · exact near.even (.inl (le_antisymm (bottom.trans_le b.le_lowest) near.low))
      · exact near.even (.inr top)

/-! ## The shortest decimal -/

theorem near_self (b : Binary) : b.Near (b.mantissa * 2 ^ b.exponent) := by
  have power : (0 : ℚ) < 2 ^ b.exponent := by positivity
  have own : (b.mantissa * 2 ^ b.exponent / 2 ^ b.exponent : ℚ) = b.mantissa :=
    mul_div_cancel_right₀ _ power.ne'
  have below : b.lowest < b.mantissa := by
    rw [Binary.lowest]
    split <;> linarith
  refine ⟨?_, ?_, ?_⟩
  all_goals rw [own]
  · exact below.le
  · linarith
  · rintro (bottom | top) <;> linarith

theorem value_exact (b : Binary) : b.exact.value = b.mantissa * 2 ^ b.exponent := by
  rw [Binary.exact, Decimal.value]
  split
  · next negative =>
    have five : (5 : ℚ) ^ (-b.exponent).toNat = 5 ^ (-b.exponent) := by
      rw [← zpow_natCast, Int.toNat_of_nonneg (by omega)]
    have ten : (10 : ℚ) ^ b.exponent = 5 ^ b.exponent * 2 ^ b.exponent := by
      rw [← mul_zpow]
      norm_num
    rw [ten, Nat.pow_eq, Nat.cast_mul, Nat.cast_pow, Nat.cast_ofNat, five, zpow_neg]
    field_simp
  · next nonneg =>
    rw [zpow_zero, mul_one, Nat.pow_eq, Nat.cast_mul, Nat.cast_pow, Nat.cast_ofNat, ← zpow_natCast,
      Int.toNat_of_nonneg (by omega)]

theorem value_strip (fuel : Nat) (d : Decimal) : (d.strip fuel).value = d.value := by
  induction fuel generalizing d with
  | zero => rfl
  | succ fuel ih =>
      rw [Decimal.strip]
      split
      · next zeros =>
        have tenth : (d.digits : ℚ) = (d.digits / 10 : Nat) * 10 := by
          exact_mod_cast (Nat.div_mul_cancel (Nat.dvd_of_mod_eq_zero zeros.1)).symm
        rw [ih, Decimal.value, Decimal.value, tenth, zpow_add₀ (by norm_num), zpow_one]
        ring
      · rfl

/-- The shortest decimal of a double is near to it. -/
theorem near_shortest (nonzero : 0 < b.mantissa) : b.Near b.shortest.value := by
  rw [shortest_eq, value_strip]
  cases hit : (List.range 17).findSome? fun (i : Nat) =>
      b.onGrid (scaleOf b.quotient.1 b.quotient.2 - (i + 1)) with
  | none =>
      rw [Option.getD_none, value_exact]
      exact near_self b
  | some d =>
      obtain ⟨i, -, found⟩ := List.exists_of_findSome?_eq_some hit
      exact near_of_readsBack nonzero (List.find?_some found)

/-! ## Decimals as doubles -/

theorem lt_ten_pow_log2 (n : Nat) : n < 10 ^ (n.log2 / 3 + 1) := by
  calc n < 2 ^ (n.log2 + 1) := Nat.lt_log2_self
    _ ≤ 2 ^ (3 * (n.log2 / 3 + 1)) := Nat.pow_le_pow_right (by decide) (by omega)
    _ = 8 ^ (n.log2 / 3 + 1) := Nat.pow_mul 2 3 _
    _ ≤ 10 ^ (n.log2 / 3 + 1) := Nat.pow_le_pow_left (by decide) _

theorem two_pow_le : (2 : ℚ) ^ (1024 : ℤ) ≤ 10 ^ (310 : ℤ) := by
  have digits : 2 ^ 1024 ≤ 10 ^ 310 := by decide +kernel
  exact_mod_cast digits

theorem ten_pow_le : (10 : ℚ) ^ (-330 : ℤ) ≤ 2 ^ (-1075 : ℤ) := by
  have digits : 2 ^ 1075 ≤ 10 ^ 330 := by decide +kernel
  have cast : (2 : ℚ) ^ 1075 ≤ 10 ^ 330 := by exact_mod_cast digits
  rw [zpow_neg, zpow_neg]
  exact inv_anti₀ (by positivity) cast

theorem Binary.Near.lower (described : b.Describes bits) (nonzero : 0 < b.mantissa)
    (near : b.Near v) : (2 : ℚ) ^ (-1075 : ℤ) ≤ v := by
  have two : (2 : ℚ) ≠ 0 := by norm_num
  have power : (0 : ℚ) < 2 ^ b.exponent := by positivity
  have mantissa : (1 : ℚ) ≤ b.mantissa := by exact_mod_cast nonzero
  have half : (1 / 2 : ℚ) ≤ v / 2 ^ b.exponent := by linarith [b.le_lowest, near.low]
  rw [le_div_iff₀ power] at half
  calc (2 : ℚ) ^ (-1075 : ℤ) = 1 / 2 * 2 ^ (-1074 : ℤ) := by
        rw [show (-1075 : ℤ) = -1074 - 1 by rfl, zpow_sub_one₀ two]
        ring
    _ ≤ 1 / 2 * 2 ^ b.exponent := by
        gcongr
        · norm_num
        · exact described.least
    _ ≤ v := half

theorem Binary.Near.upper (described : b.Describes bits) (near : b.Near v) :
    v < (2 : ℚ) ^ (1024 : ℤ) := by
  have two : (2 : ℚ) ≠ 0 := by norm_num
  have power : (0 : ℚ) < 2 ^ b.exponent := by positivity
  have mantissa : (b.mantissa : ℚ) + 1 ≤ 2 ^ 53 := by exact_mod_cast described.mantissa_lt
  have high : v / 2 ^ b.exponent < 2 ^ 53 := by linarith [near.high]
  rw [div_lt_iff₀ power] at high
  calc v < 2 ^ 53 * 2 ^ b.exponent := high
    _ ≤ 2 ^ 53 * 2 ^ (971 : ℤ) := by
        gcongr
        · norm_num
        · exact described.greatest
    _ = 2 ^ (1024 : ℤ) := by
        rw [← zpow_natCast, ← zpow_add₀ two]
        rfl

theorem nearest_of_near {num den : Nat} (described : b.Describes bits) (nonzero : 0 < b.mantissa)
    (positive : 0 < den) (near : b.Near (num / den)) :
    nearest num den = Float.ofBits (UInt64.ofNat bits) := by
  have quotient := near.pos nonzero
  have numerator : num ≠ 0 := by
    rintro rfl
    simp at quotient
  rw [nearest, if_neg numerator, nearestBits_of_near described nonzero positive near]

/-- A decimal that is near to a double is read as the double. -/
theorem ofDecimal_of_near {digits : Nat} {e : ℤ} (described : b.Describes bits)
    (nonzero : 0 < b.mantissa) (near : b.Near (digits * 10 ^ e)) :
    ofDecimal digits e = Float.ofBits (UInt64.ofNat bits) := by
  have lower := near.lower described nonzero
  have upper := near.upper described
  have ten : (10 : ℚ) ≠ 0 := by norm_num
  have power : (0 : ℚ) < 10 ^ e := by positivity
  have positive := near.pos nonzero
  have digitsNonzero : digits ≠ 0 := by
    rintro rfl
    simp at positive
  have notSmall : ¬ e + ((digits.log2 : ℤ) / 3 + 1) < -330 := by
    intro small
    have few : (digits : ℚ) < 10 ^ ((digits.log2 : ℤ) / 3 + 1) := by
      exact_mod_cast lt_ten_pow_log2 digits
    have less : (digits * 10 ^ e : ℚ) < 2 ^ (-1075 : ℤ) := by
      calc (digits * 10 ^ e : ℚ) < 10 ^ ((digits.log2 : ℤ) / 3 + 1) * 10 ^ e := by gcongr
        _ = 10 ^ (e + ((digits.log2 : ℤ) / 3 + 1)) := by rw [← zpow_add₀ ten, add_comm]
        _ ≤ 10 ^ (-330 : ℤ) := zpow_le_zpow_right₀ (by norm_num) small.le
        _ ≤ 2 ^ (-1075 : ℤ) := ten_pow_le
    linarith
  have notLarge : ¬ e > 310 := by
    intro large
    have one : (1 : ℚ) ≤ digits := by exact_mod_cast Nat.pos_of_ne_zero digitsNonzero
    have more : (2 : ℚ) ^ (1024 : ℤ) ≤ digits * 10 ^ e := by
      calc (2 : ℚ) ^ (1024 : ℤ) ≤ 10 ^ (310 : ℤ) := two_pow_le
        _ ≤ 10 ^ e := zpow_le_zpow_right₀ (by norm_num) large.le
        _ ≤ digits * 10 ^ e := le_mul_of_one_le_left power.le one
    linarith
  rw [ofDecimal, if_neg (not_or.2 ⟨digitsNonzero, notSmall⟩), if_neg notLarge]
  split
  · next negative =>
    have quotient : (digits * 10 ^ e : ℚ) = digits / (Nat.pow 10 (-e).toNat : Nat) := by
      rw [Nat.pow_eq, Nat.cast_pow, Nat.cast_ofNat, ← zpow_natCast, Int.toNat_of_nonneg (by omega),
        zpow_neg, div_inv_eq_mul]
    exact nearest_of_near described nonzero (Nat.pow_pos (by decide)) (quotient ▸ near)
  · next nonneg =>
    have quotient : (digits * 10 ^ e : ℚ) = (digits * Nat.pow 10 e.toNat : Nat) / (1 : Nat) := by
      rw [Nat.cast_one, div_one, Nat.cast_mul, Nat.pow_eq, Nat.cast_pow, Nat.cast_ofNat,
        ← zpow_natCast, Int.toNat_of_nonneg (by omega)]
    exact nearest_of_near described nonzero Nat.one_pos (quotient ▸ near)

end CodeMetrics.Number
