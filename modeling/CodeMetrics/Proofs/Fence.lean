import Mathlib.Algebra.Order.Floor.Semifield
import Mathlib.Data.List.GetD
import Mathlib.Data.List.Sort
import Mathlib.Data.Nat.Cast.Order.Field
import Mathlib.Data.Rat.Floor
import Mathlib.Tactic.Linarith
import Mathlib.Tactic.Ring
import CodeMetrics.Proofs.Ranking

/-!
# The fence of a batch

Values stand out above a fence, which is drawn from two percentiles. Over the rationals a percentile
lies between two neighbours of the ascending values, and percentiles ascend. So the fence is nowhere
below the upper quartile, however far apart the quartiles are, and no more than the last quarter of
the values can be above it.

There is one fence for all values: which of them stand out goes by their size, in a ranking they
come last, and the order of the values does not matter.

Results:
1. `percentile_eq`: a percentile is a point on the way between neighbours.
2. `percentile_mono`: percentiles ascend.
3. `place_le_fence`, `fence_mono`: where the fence is, and what the multiplier does to it.
4. `count_outliers_le`: how many values stand out.
5. `atEnd_of_rank`: where the files that stand out are in a ranking.
6. `outliers_fenced`: the values that stand out.
-/

namespace CodeMetrics.Statistics

/-! ## Exact arithmetic -/

theorem less_iff {x y : ℚ} : Arithmetic.less x y = true ↔ x < y := decide_eq_true_iff

/-- The point of the way is the same one from both ends. -/
theorem between_eq (a b t : ℚ) : between a b t = a + (b - a) * t := by
  unfold between
  dsimp only
  split
  · rfl
  · show b - (b - a) * (((1 : ℕ) : ℚ) - t) = a + (b - a) * t
    push_cast
    ring

/-- The rank of a percentile, and the place in front of it. -/
theorem rank_eq (q last : ℕ) :
    (Arithmetic.ofNat last : ℚ) * (Arithmetic.ofNat q / Arithmetic.ofNat 100) =
      ((last * q : ℕ) : ℚ) / (100 : ℕ) := by
  show (last : ℚ) * ((q : ℚ) / ((100 : ℕ) : ℚ)) = _
  push_cast
  ring

theorem floor_eq (n d : ℕ) : Arithmetic.floor ((n : ℚ) / (d : ℚ)) = n / d := by
  show Int.toNat ⌊(n : ℚ) / (d : ℚ)⌋ = n / d
  rw [Int.floor_toNat, Nat.floor_div_eq_div]

/-! ## Ascending values -/

theorem perm_sorted (values : List ℚ) : (sorted values).Perm values := List.mergeSort_perm _ _

theorem length_sorted (values : List ℚ) : (sorted values).length = values.length :=
  (perm_sorted values).length_eq

theorem pairwise_sorted (values : List ℚ) : (sorted values).Pairwise (· ≤ ·) := by
  have ascends (x y : ℚ) : (!Arithmetic.less y x) = true ↔ x ≤ y := by
    rw [Bool.not_eq_true', ← Bool.not_eq_true, less_iff, not_lt]
  have trans (x y z : ℚ) (first : (!Arithmetic.less y x) = true)
      (second : (!Arithmetic.less z y) = true) : (!Arithmetic.less z x) = true :=
    (ascends x z).2 (((ascends x y).1 first).trans ((ascends y z).1 second))
  have total (x y : ℚ) : (!Arithmetic.less y x || !Arithmetic.less x y) = true := by
    rw [Bool.or_eq_true, ascends, ascends]
    exact le_total x y
  exact (List.pairwise_mergeSort trans total values).imp fun {x y} below => (ascends x y).1 below

/-- Values in another order are the same when they are sorted. -/
theorem sorted_perm {values others : List ℚ} (perm : others.Perm values) :
    sorted others = sorted values := by
  have same : (sorted others).Perm (sorted values) :=
    (perm_sorted others).trans (perm.trans (perm_sorted values).symm)
  exact same.eq_of_sortedLE (pairwise_sorted others).sortedLE (pairwise_sorted values).sortedLE

theorem sorted_eq {ascending : List ℚ} (ordered : ascending.Pairwise (· ≤ ·)) :
    sorted ascending = ascending :=
  (perm_sorted ascending).eq_of_sortedLE (pairwise_sorted ascending).sortedLE ordered.sortedLE

section Ascending

variable {ascending : List ℚ} {i j p q : ℕ}

theorem place_eq (inside : i < ascending.length) : place ascending i = ascending[i] :=
  List.getD_eq_getElem _ _ inside

theorem place_mono (sorted : ascending.Pairwise (· ≤ ·)) (before : i ≤ j)
    (inside : j < ascending.length) : place ascending i ≤ place ascending j := by
  rcases Nat.eq_or_lt_of_le before with rfl | before
  · exact le_rfl
  · rw [place_eq inside, place_eq (before.trans inside)]
    exact List.pairwise_iff_getElem.1 sorted i j (before.trans inside) inside before

/-! ## Percentiles -/

/-- The place in front of a percentile. -/
def placeBefore (q : ℕ) (ascending : List ℚ) : ℕ := (ascending.length - 1) * q / 100

/-- How far a percentile is on the way to the next place. -/
def fraction (q : ℕ) (ascending : List ℚ) : ℚ :=
  (((ascending.length - 1) * q : ℕ) : ℚ) / (100 : ℕ) - placeBefore q ascending

theorem placeBefore_le (percent : q ≤ 100) : placeBefore q ascending ≤ ascending.length - 1 := by
  unfold placeBefore
  have scaled := Nat.mul_le_mul_left (ascending.length - 1) percent
  omega

theorem placeBefore_mono (ordered : p ≤ q) :
    placeBefore p ascending ≤ placeBefore q ascending :=
  Nat.div_le_div_right (Nat.mul_le_mul_left _ ordered)

theorem fraction_nonneg : 0 ≤ fraction q ascending :=
  sub_nonneg.2 Nat.cast_div_le

theorem fraction_lt_one : fraction q ascending < 1 := by
  have next := Nat.lt_floor_add_one ((((ascending.length - 1) * q : ℕ) : ℚ) / (100 : ℕ))
  rw [Nat.floor_div_eq_div] at next
  unfold fraction placeBefore
  linarith

/-- A percentile at the last value is no way from it. -/
theorem fraction_eq_zero (percent : q ≤ 100)
    (atEnd : ascending.length - 1 ≤ placeBefore q ascending) : fraction q ascending = 0 := by
  have last := le_antisymm (placeBefore_le percent) atEnd
  have scaled := Nat.mul_le_mul_left (ascending.length - 1) percent
  have whole : (ascending.length - 1) * q = (ascending.length - 1) * 100 := by
    unfold placeBefore at atEnd
    omega
  unfold fraction
  rw [last, whole]
  push_cast
  ring

/-- A percentile is a point on the way from one of the values to the next one. -/
theorem percentile_eq (percent : q ≤ 100) :
    percentile q ascending = place ascending (placeBefore q ascending) +
      (place ascending (placeBefore q ascending + 1) - place ascending (placeBefore q ascending)) *
        fraction q ascending := by
  unfold percentile
  dsimp only
  rw [rank_eq, floor_eq]
  split
  · next atEnd =>
    have last := le_antisymm (placeBefore_le percent) atEnd
    rw [fraction_eq_zero percent atEnd, last, between_eq]
    ring
  · exact between_eq _ _ _

theorem place_le_percentile (sorted : ascending.Pairwise (· ≤ ·)) (percent : q ≤ 100) :
    place ascending (placeBefore q ascending) ≤ percentile q ascending := by
  rw [percentile_eq percent]
  by_cases inside : placeBefore q ascending + 1 < ascending.length
  · have way := sub_nonneg.2 (place_mono sorted (Nat.le_succ _) inside)
    exact le_add_of_nonneg_right (mul_nonneg way fraction_nonneg)
  · rw [fraction_eq_zero percent (by omega), mul_zero, add_zero]

theorem percentile_le_place (sorted : ascending.Pairwise (· ≤ ·)) (percent : q ≤ 100)
    (inside : placeBefore q ascending + 1 < ascending.length) :
    percentile q ascending ≤ place ascending (placeBefore q ascending + 1) := by
  have way := sub_nonneg.2 (place_mono sorted (Nat.le_succ _) inside)
  have notFurther : fraction q ascending ≤ 1 := fraction_lt_one.le
  have part := mul_le_of_le_one_right way notFurther
  rw [percentile_eq percent]
  linarith

/-- Percentiles ascend. -/
theorem percentile_mono (sorted : ascending.Pairwise (· ≤ ·)) (ordered : p ≤ q)
    (percent : q ≤ 100) : percentile p ascending ≤ percentile q ascending := by
  have percentFirst : p ≤ 100 := ordered.trans percent
  have within : placeBefore q ascending ≤ ascending.length - 1 := placeBefore_le percent
  have ascends : placeBefore p ascending ≤ placeBefore q ascending := placeBefore_mono ordered
  rcases Nat.eq_or_lt_of_le ascends with same | before
  · -- The two percentiles are on one way, and the second is further on it.
    rw [percentile_eq percentFirst, percentile_eq percent, same]
    by_cases inside : placeBefore q ascending + 1 < ascending.length
    · have way := sub_nonneg.2 (place_mono sorted (Nat.le_succ _) inside)
      have further : fraction p ascending ≤ fraction q ascending := by
        unfold fraction
        rw [same]
        gcongr
      exact add_le_add_right (mul_le_mul_of_nonneg_left further way) _
    · have atEnd : ascending.length - 1 ≤ placeBefore q ascending := by omega
      rw [fraction_eq_zero percentFirst (same ▸ atEnd), fraction_eq_zero percent atEnd]
  · -- The way of the first one ends where the way of the second begins, or before.
    calc percentile p ascending
        ≤ place ascending (placeBefore p ascending + 1) :=
          percentile_le_place sorted percentFirst (by omega)
      _ ≤ place ascending (placeBefore q ascending) := place_mono sorted before (by omega)
      _ ≤ percentile q ascending := place_le_percentile sorted percent

/-! ## The fence -/

theorem fence_eq (multiplier : ℚ) (ascending : List ℚ) :
    fence multiplier ascending = percentile 75 ascending +
      multiplier * (percentile 75 ascending - percentile 25 ascending) :=
  rfl

theorem quartiles_nonneg (sorted : ascending.Pairwise (· ≤ ·)) :
    0 ≤ percentile 75 ascending - percentile 25 ascending :=
  sub_nonneg.2 (percentile_mono sorted (by decide) (by decide))

/-- Three quarters of the values are not above the fence. -/
theorem place_le_fence {multiplier : ℚ} (nonneg : 0 ≤ multiplier)
    (sorted : ascending.Pairwise (· ≤ ·)) :
    place ascending (3 * (ascending.length - 1) / 4) ≤ fence multiplier ascending := by
  have quarter : placeBefore 75 ascending = 3 * (ascending.length - 1) / 4 := by
    unfold placeBefore
    omega
  have upper := place_le_percentile sorted (show 75 ≤ 100 by decide)
  have distance := mul_nonneg nonneg (quartiles_nonneg sorted)
  rw [quarter] at upper
  rw [fence_eq]
  linarith

/-- A larger multiplier takes the fence further away. -/
theorem fence_mono {multiplier larger : ℚ} (raised : multiplier ≤ larger)
    (sorted : ascending.Pairwise (· ≤ ·)) :
    fence multiplier ascending ≤ fence larger ascending := by
  rw [fence_eq, fence_eq]
  exact add_le_add_right (mul_le_mul_of_nonneg_right raised (quartiles_nonneg sorted)) _

end Ascending

/-! ## Values that stand out -/

section Outliers

variable {multiplier : ℚ} {values others : List ℚ} {x y : ℚ}

/-- The value is above the fence of some values, of which there are enough. -/
def StandsOut (multiplier : ℚ) (values : List ℚ) (x : ℚ) : Prop :=
  4 ≤ values.length ∧ fence multiplier (sorted values) < x

instance (multiplier : ℚ) (values : List ℚ) (x : ℚ) : Decidable (StandsOut multiplier values x) :=
  inferInstanceAs (Decidable (_ ∧ _))

theorem outliers_eq (multiplier : ℚ) (values : List ℚ) :
    outliers multiplier values = values.map fun x => decide (StandsOut multiplier values x) := by
  unfold outliers
  split
  · next few =>
    apply List.map_congr_left
    intro x _
    exact (decide_eq_false fun standsOut : StandsOut multiplier values x =>
      Nat.not_lt.2 standsOut.1 few).symm
  · next many =>
    apply List.map_congr_left
    intro x _
    rw [Bool.eq_iff_iff, less_iff, decide_eq_true_iff]
    exact (and_iff_right (Nat.le_of_not_lt many)).symm

theorem getElem?_outliers {i : ℕ} (there : values[i]? = some x) :
    (outliers multiplier values)[i]? = some (decide (StandsOut multiplier values x)) := by
  rw [outliers_eq, List.getElem?_map, there, Option.map_some]

theorem StandsOut.of_le (standsOut : StandsOut multiplier values x) (larger : x ≤ y) :
    StandsOut multiplier values y :=
  ⟨standsOut.1, standsOut.2.trans_le larger⟩

theorem StandsOut.of_raised {larger : ℚ} (standsOut : StandsOut larger values x)
    (raised : multiplier ≤ larger) : StandsOut multiplier values x :=
  ⟨standsOut.1, (fence_mono raised (pairwise_sorted values)).trans_lt standsOut.2⟩

theorem standsOut_perm (perm : others.Perm values) :
    StandsOut multiplier others x ↔ StandsOut multiplier values x := by
  unfold StandsOut
  rw [perm.length_eq, sorted_perm perm]

theorem not_standsOut (nonneg : 0 ≤ multiplier)
    (low : x ≤ place (sorted values) (3 * (values.length - 1) / 4)) :
    ¬ StandsOut multiplier values x := by
  intro standsOut
  have reached := place_le_fence nonneg (pairwise_sorted values)
  rw [length_sorted] at reached
  exact absurd (standsOut.2.trans_le (low.trans reached)) (lt_irrefl _)

/-- Only values behind three quarters of them stand out. -/
theorem count_outliers_le (nonneg : 0 ≤ multiplier) (nonempty : values ≠ []) :
    (outliers multiplier values).count true ≤
      values.length - 1 - 3 * (values.length - 1) / 4 := by
  have positive := List.length_pos_iff.2 nonempty
  set k := 3 * (values.length - 1) / 4 with quarter
  set p : ℚ → Bool := fun x => decide (StandsOut multiplier values x)
  have length := length_sorted values
  have low : ((sorted values).take (k + 1)).countP p = 0 := by
    rw [List.countP_eq_zero]
    intro x member
    obtain ⟨i, inside, rfl⟩ := List.mem_take_iff_getElem.1 member
    have before : i ≤ k := by omega
    have below := place_mono (pairwise_sorted values) before (by omega)
    rw [place_eq (by omega)] at below
    simpa [p] using not_standsOut nonneg below
  calc (outliers multiplier values).count true
      = values.countP p := by
        rw [outliers_eq, List.count, List.countP_map]
        apply List.countP_congr
        intro x _
        simp [p]
    _ = (sorted values).countP p := (perm_sorted values).symm.countP_eq p
    _ = ((sorted values).drop (k + 1)).countP p := by
        rw [← List.take_append_drop (k + 1) (sorted values), List.countP_append, low, zero_add,
          List.take_append_drop]
    _ ≤ ((sorted values).drop (k + 1)).length := List.countP_le_length
    _ = values.length - 1 - k := by
        rw [List.length_drop, length]
        omega

end Outliers

/-! ## The end of a ranking -/

/-- Only the last flags are set. -/
def AtEnd (flags : List Bool) : Prop :=
  ∃ plain flagged, flags = List.replicate plain false ++ List.replicate flagged true

theorem AtEnd.of_pairwise {flags : List Bool}
    (closed : flags.Pairwise fun first second => first = true → second = true) : AtEnd flags := by
  induction closed with
  | nil => exact ⟨0, 0, rfl⟩
  | @cons flag rest behind _ ih =>
      cases flag with
      | false =>
          obtain ⟨plain, flagged, rfl⟩ := ih
          exact ⟨plain + 1, flagged, rfl⟩
      | true =>
          -- Behind a flag that is set all are.
          have all := List.eq_replicate_iff.2 ⟨rfl, fun flag member => behind flag member rfl⟩
          exact ⟨0, rest.length + 1, congrArg (true :: ·) all⟩

theorem AtEnd.map_false {α : Type} (values : List α) : AtEnd (values.map fun _ => false) :=
  ⟨values.length, 0, by simp⟩

/-- In ascending order the values that stand out are the last ones. -/
theorem atEnd_outliers (multiplier : ℚ) {ascending : List ℚ}
    (sorted : ascending.Pairwise (· ≤ ·)) : AtEnd (outliers multiplier ascending) := by
  rw [outliers_eq]
  refine .of_pairwise (List.pairwise_map.2 (sorted.imp fun below first => ?_))
  exact decide_eq_true ((of_decide_eq_true first).of_le below)

/-- Doubles that stand out are the last ones as well, wherever the fence is after rounding. -/
theorem atEnd_outliers_doubles (multiplier : Float) {ascending : List Float}
    (sorted : (∀ x ∈ ascending, x.isNaN = false) → ascending.Pairwise (· ≤ ·)) :
    AtEnd (CodeMetrics.outliers multiplier ascending) := by
  unfold CodeMetrics.outliers outliers
  split
  · exact .map_false _
  · next noneNaN =>
    have numbers : ∀ x ∈ ascending, x.isNaN = false := by
      intro x member
      exact Bool.eq_false_iff.2 fun nan => noneNaN (List.any_eq_true.2 ⟨x, member, nan⟩)
    split
    · exact .map_false _
    · refine .of_pairwise (List.pairwise_map.2 ?_)
      refine (sorted numbers).imp_of_mem fun memberX memberY below above => ?_
      exact decide_eq_true (Number.lt_of_lt_of_le (numbers _ memberX) (numbers _ memberY)
        (of_decide_eq_true above) below)

/-- The files that stand out of a batch are the last ones of its ranking. -/
theorem atEnd_of_rank {metric : Value} {entries : List Entry} {ranking : List Ranked}
    (returned : rank metric entries = .ok ranking) : AtEnd (ranking.map Ranked.outlier) := by
  obtain ⟨metric, -, returned⟩ := bind_eq_ok.1 returned
  obtain ⟨scored, -, returned⟩ := bind_eq_ok.1 (liftFault_eq_ok.1 returned)
  cases returned
  rw [map_outlier_ranked]
  refine atEnd_outliers_doubles usualMultiplier fun numbers => ?_
  have numbersOf (score) (member : score ∈ scored) : score.2.isNaN = false :=
    numbers _ (List.mem_map_of_mem ((perm_sortScores scored).mem_iff.2 member))
  exact List.pairwise_map.2 (pairwise_sortScores numbersOf)

/-! ## The flags of a batch -/

/-- What the flags of values say. There is one for each value, and it is set where the value is
above the fence. Of fewer than four values none stands out. Of more, no value does that is not above
the one three quarters up the ascending values, and so no more do than there are behind that one.
With a value a larger one stands out as well, and of ascending values the last ones do. -/
structure Fenced (multiplier : ℚ) (values : List ℚ) (flags : List Bool) : Prop where
  length : flags.length = values.length
  above : ∀ (i : ℕ) (x : ℚ), values[i]? = some x →
    (flags[i]? = some true ↔ 4 ≤ values.length ∧ fence multiplier (sorted values) < x)
  few : values.length < 4 → ∀ flag ∈ flags, flag = false
  low : 4 ≤ values.length → 0 ≤ multiplier →
    ∀ ascending : List ℚ, ascending.Perm values → ascending.Pairwise (· ≤ ·) →
      ∀ bound, ascending[3 * (values.length - 1) / 4]? = some bound →
        ∀ (i : ℕ) (x : ℚ), values[i]? = some x → x ≤ bound → flags[i]? = some false
  count : 4 ≤ values.length → 0 ≤ multiplier →
    flags.count true ≤ values.length - 1 - 3 * (values.length - 1) / 4
  closed : ∀ (i j : ℕ) (x y : ℚ), values[i]? = some x → values[j]? = some y → x ≤ y →
    flags[i]? = some true → flags[j]? = some true
  last : values.Pairwise (· ≤ ·) → AtEnd flags

theorem fenced_outliers (multiplier : ℚ) (values : List ℚ) :
    Fenced multiplier values (outliers multiplier values) where
  length := by rw [outliers_eq, List.length_map]
  above := by
    intro i x there
    rw [getElem?_outliers there, Option.some_inj, decide_eq_true_iff]
    rfl
  few := by
    intro few flag member
    rw [outliers_eq] at member
    obtain ⟨x, -, rfl⟩ := List.mem_map.1 member
    exact decide_eq_false fun standsOut => absurd standsOut.1 (Nat.not_le.2 few)
  low := by
    intro _ nonneg ascending perm ordered bound found i x there low
    have same : ascending = sorted values := (sorted_perm perm) ▸ (sorted_eq ordered).symm
    have atPlace : place (sorted values) (3 * (values.length - 1) / 4) = bound := by
      rw [← same, place, List.getD_eq_getElem?_getD, found, Option.getD_some]
    rw [getElem?_outliers there]
    exact congrArg some (decide_eq_false (not_standsOut nonneg (atPlace ▸ low)))
  count := by
    intro many nonneg
    apply count_outliers_le nonneg
    rintro rfl
    contradiction
  closed := by
    intro i j x y thereX thereY below flagged
    rw [getElem?_outliers thereX, Option.some_inj, decide_eq_true_iff] at flagged
    rw [getElem?_outliers thereY, decide_eq_true (flagged.of_le below)]
  last := atEnd_outliers multiplier

/-- The values that stand out lie above a fence. A larger multiplier takes it away from them, and in
another order they are the same values. The files that stand out of a batch are the last ones of its
ranking. -/
theorem outliers_fenced (multiplier : ℚ) (values : List ℚ) :
    Fenced multiplier values (outliers multiplier values) ∧
    (∀ (larger : ℚ) (i : ℕ), multiplier ≤ larger → (outliers larger values)[i]? = some true →
      (outliers multiplier values)[i]? = some true) ∧
    (∀ (others : List ℚ) (i j : ℕ) (x : ℚ), others.Perm values →
      values[i]? = some x → others[j]? = some x →
        (outliers multiplier others)[j]? = (outliers multiplier values)[i]?) ∧
    ∀ (metric : Value) (entries : List Entry) (ranking : List Ranked),
      rank metric entries = .ok ranking → AtEnd (ranking.map Ranked.outlier) := by
  refine ⟨fenced_outliers multiplier values, ?raised, ?reordered, fun _ _ _ => atEnd_of_rank⟩
  case raised =>
    intro larger i raised flagged
    rw [outliers_eq, List.getElem?_map, Option.map_eq_some_iff] at flagged
    obtain ⟨x, there, standsOut⟩ := flagged
    rw [getElem?_outliers there, decide_eq_true ((of_decide_eq_true standsOut).of_raised raised)]
  case reordered =>
    intro others i j x perm there thereOther
    rw [getElem?_outliers there, getElem?_outliers thereOther, Option.some_inj, decide_eq_decide]
    exact standsOut_perm perm

/-- One of five values is far away from the others. -/
theorem outliers_fenced_far :
    let values : List ℚ := [5, 1, 2, 100, 3]
    let ascending : List ℚ := [1, 2, 3, 5, 100]
    ascending.Perm values ∧ ascending.Pairwise (· ≤ ·) ∧
    (outliers (3 / 2) values)[2]? = some false ∧ (outliers (3 / 2) values).count true ≤ 1 ∧
    (outliers (3 / 2) values)[3]? = some true ∧ (outliers 1 values)[3]? = some true ∧
    AtEnd (outliers (3 / 2) ascending) ∧
    (outliers (3 / 2) ascending)[4]? = (outliers (3 / 2) values)[3]? := by
  intro values ascending
  have perm : ascending.Perm values := by decide
  have ordered : ascending.Pairwise (· ≤ ·) := by decide
  have many : 4 ≤ values.length := by decide
  have nonneg : (0 : ℚ) ≤ 3 / 2 := by decide +kernel
  have quarter : ascending[3 * (values.length - 1) / 4]? = some 5 := by decide
  have above : fence (3 / 2) (sorted values) < 100 := by
    rw [← sorted_perm perm, sorted_eq ordered]
    decide +kernel
  obtain ⟨fenced, -, reordered, -⟩ := outliers_fenced (3 / 2) values
  obtain ⟨-, raised, -, -⟩ := outliers_fenced 1 values
  obtain ⟨fencedAscending, -, -, -⟩ := outliers_fenced (3 / 2) ascending
  have far : (outliers (3 / 2) values)[3]? = some true := (fenced.above 3 100 rfl).2 ⟨many, above⟩
  exact ⟨perm, ordered, fenced.low many nonneg ascending perm ordered 5 quarter 2 2 rfl (by decide),
    (fenced.count many nonneg).trans (by decide), far, raised (3 / 2) 3 (by decide +kernel) far,
    fencedAscending.last ordered, reordered ascending 3 4 100 perm rfl rfl⟩

end CodeMetrics.Statistics
