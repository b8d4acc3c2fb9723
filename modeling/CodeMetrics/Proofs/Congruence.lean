import Mathlib.Data.List.Forall2
import CodeMetrics.Proofs.Order

/-!
# Figures that are alike

Two doubles can be equal and yet differ, in the sign of a zero. Sums, products and comparisons do
not tell such doubles apart, and a quotient does so by its divisor only, which statistics never take
from the values. So what is computed of values that are alike is alike, whatever the list.

Results:
1. `alike_iff`: doubles that are alike are the same ones, or zeros.
2. `respects_alike`: the arithmetic of doubles keeps to what is alike.
3. `Statistics.sum_congr`, `Statistics.percentile_congr`, `Statistics.sorted_congr`: so do sums,
   percentiles and sorting.
4. `summarize_congr`, `outliers_congr`: so do the statistics of doubles.
-/

namespace CodeMetrics

namespace Number

open Float.Model (UnpackedFloat Format)
open Float.Model.UnpackedFloat (Sign pack unpack)

/-! ## Doubles that are alike -/

section Unpacked

variable {u v w u' v' : UnpackedFloat}

/-- The same double but for the sign of a zero. -/
inductive SameButSign : UnpackedFloat → UnpackedFloat → Prop
  | refl (u : UnpackedFloat) : SameButSign u u
  | zeros (s t : Sign) : SameButSign (.zero s) (.zero t)

theorem SameButSign.trans (first : SameButSign u v) (second : SameButSign v w) :
    SameButSign u w := by
  cases first with
  | refl => exact second
  | zeros s t => cases second <;> exact .zeros _ _

/-- Numbers in one place are the same but for the sign of a zero. -/
theorem sameButSign_of_placeOf (left : u ≠ .notANumber) (right : v ≠ .notANumber)
    (equal : placeOf u = placeOf v) : SameButSign u v := by
  cases u with
  | notANumber => exact absurd rfl left
  | infinity s =>
      cases v with
      | notANumber => exact absurd rfl right
      | infinity t =>
          have signs : s = t := by cases s <;> cases t <;> first | rfl | cases equal
          exact signs ▸ .refl _
      | zero t => cases s <;> cases equal
      | finite t => cases s <;> cases t <;> cases equal
  | zero s =>
      cases v with
      | notANumber => exact absurd rfl right
      | infinity t => cases t <;> cases equal
      | zero t => exact .zeros s t
      | finite t => cases t <;> cases equal
  | finite s m e =>
      cases v with
      | notANumber => exact absurd rfl right
      | infinity t => cases s <;> cases t <;> cases equal
      | zero t => cases s <;> cases equal
      | finite t n f =>
          have parts : s = t ∧ m = n ∧ e = f := by
            cases s <;> cases t <;> dsimp only [placeOf] at equal <;> simp at equal ⊢ <;> omega
          obtain ⟨rfl, rfl, rfl⟩ := parts
          exact .refl _

theorem sameButSign_iff :
    SameButSign u v ↔ (u.compare v == some .eq) = true ∨ u = .notANumber ∧ v = .notANumber := by
  constructor
  · intro same
    cases same with
    | zeros => exact .inl rfl
    | refl =>
        by_cases nan : u = .notANumber
        · exact .inr ⟨nan, nan⟩
        · rw [compare_eq nan nan, compare_eq_iff_eq.2 rfl]
          exact .inl rfl
  · rintro (equal | ⟨rfl, rfl⟩)
    · have left : u ≠ .notANumber := by
        rintro rfl
        cases equal
      have right : v ≠ .notANumber := by
        rintro rfl
        cases u <;> cases equal
      rw [compare_eq left right, beq_iff_eq, Option.some.injEq, compare_eq_iff_eq] at equal
      exact sameButSign_of_placeOf left right equal
    · exact .refl _

/-! ### Operations -/

/-- An operation that does not tell zeros apart, on either side. -/
theorem SameButSign.operate {op : UnpackedFloat → UnpackedFloat → UnpackedFloat}
    (zeroLeft : ∀ s t v, SameButSign (op (.zero s) v) (op (.zero t) v))
    (zeroRight : ∀ u s t, SameButSign (op u (.zero s)) (op u (.zero t)))
    (left : SameButSign u u') (right : SameButSign v v') : SameButSign (op u v) (op u' v') := by
  have first : SameButSign (op u v) (op u' v) := by
    cases left with
    | refl => exact .refl _
    | zeros s t => exact zeroLeft s t v
  refine first.trans ?_
  cases right with
  | refl => exact .refl _
  | zeros s t => exact zeroRight u' s t

theorem SameButSign.add (left : SameButSign u u') (right : SameButSign v v') :
    SameButSign (UnpackedFloat.add Format.binary64 u v)
      (UnpackedFloat.add Format.binary64 u' v') := by
  refine operate (fun s t v => ?_) (fun u s t => ?_) left right
  · cases v with
    | zero r => cases r <;> cases s <;> cases t <;> exact .zeros _ _
    | notANumber | infinity | finite => exact .refl _
  · cases u with
    | zero r => cases r <;> cases s <;> cases t <;> exact .zeros _ _
    | notANumber | infinity | finite => exact .refl _

theorem SameButSign.sub (left : SameButSign u u') (right : SameButSign v v') :
    SameButSign (UnpackedFloat.sub Format.binary64 u v)
      (UnpackedFloat.sub Format.binary64 u' v') := by
  refine operate (fun s t v => ?_) (fun u s t => ?_) left right
  · cases v with
    | zero r => cases r <;> cases s <;> cases t <;> exact .zeros _ _
    | notANumber | infinity | finite => exact .refl _
  · cases u with
    | zero r => cases r <;> cases s <;> cases t <;> exact .zeros _ _
    | notANumber | infinity | finite => exact .refl _

theorem SameButSign.mul (left : SameButSign u u') (right : SameButSign v v') :
    SameButSign (UnpackedFloat.mul Format.binary64 u v)
      (UnpackedFloat.mul Format.binary64 u' v') := by
  refine operate (fun s t v => ?_) (fun u s t => ?_) left right
  · cases v with
    | notANumber | infinity => exact .refl _
    | zero | finite => exact .zeros _ _
  · cases u with
    | notANumber | infinity => exact .refl _
    | zero | finite => exact .zeros _ _

/-- The divisor is the same, for zeros of different signs have quotients of different signs. -/
theorem SameButSign.div (left : SameButSign u u') (v : UnpackedFloat) :
    SameButSign (UnpackedFloat.div Format.binary64 u v)
      (UnpackedFloat.div Format.binary64 u' v) := by
  cases left with
  | refl => exact .refl _
  | zeros s t =>
      cases v with
      | notANumber | zero => exact .refl _
      | infinity | finite => exact .zeros _ _

theorem SameButSign.compare_eq (left : SameButSign u u') (right : SameButSign v v') :
    u.compare v = u'.compare v' := by
  have first : u.compare v = u'.compare v := by
    cases left with
    | refl => rfl
    | zeros s t =>
        cases v with
        | notANumber | zero => rfl
        | infinity r | finite r => cases r <;> rfl
  rw [first]
  cases right with
  | refl => rfl
  | zeros s t =>
      cases u' with
      | notANumber | zero => rfl
      | infinity r | finite r => cases r <;> rfl

theorem SameButSign.isNaN_iff (same : SameButSign u v) : u = .notANumber ↔ v = .notANumber := by
  cases same with
  | refl => exact Iff.rfl
  | zeros => exact iff_of_false nofun nofun

/-- Doubles that are packed keep what they have in common. -/
theorem SameButSign.unpack_pack (same : SameButSign u v) :
    SameButSign (unpack Format.binary64 (pack Format.binary64 u))
      (unpack Format.binary64 (pack Format.binary64 v)) := by
  cases same with
  | refl => exact .refl _
  | zeros s t => cases s <;> cases t <;> exact .zeros _ _

end Unpacked

variable {x y x' y' : Float}

/-- The doubles are equal as numbers, or both are no number. -/
def Alike (x y : Float) : Prop := (x == y) = true ∨ x.isNaN = true ∧ y.isNaN = true

theorem isNaN_iff : x.isNaN = true ↔ x.toModel.unpack = .notANumber := by
  rw [← not_iff_not, Bool.not_eq_true]
  exact isNaN_eq_false

theorem alike_iff : Alike x y ↔ SameButSign x.toModel.unpack y.toModel.unpack := by
  rw [sameButSign_iff, Alike, isNaN_iff, isNaN_iff]
  rfl

theorem Alike.refl (x : Float) : Alike x x := alike_iff.2 (.refl _)

theorem Alike.add (left : Alike x x') (right : Alike y y') : Alike (x + y) (x' + y') :=
  alike_iff.2 ((alike_iff.1 left).add (alike_iff.1 right)).unpack_pack

theorem Alike.sub (left : Alike x x') (right : Alike y y') : Alike (x - y) (x' - y') :=
  alike_iff.2 ((alike_iff.1 left).sub (alike_iff.1 right)).unpack_pack

theorem Alike.mul (left : Alike x x') (right : Alike y y') : Alike (x * y) (x' * y') :=
  alike_iff.2 ((alike_iff.1 left).mul (alike_iff.1 right)).unpack_pack

theorem Alike.div (left : Alike x x') (y : Float) : Alike (x / y) (x' / y) :=
  alike_iff.2 ((alike_iff.1 left).div _).unpack_pack

theorem Alike.isNaN_eq (same : Alike x y) : x.isNaN = y.isNaN := by
  rw [Bool.eq_iff_iff, isNaN_iff, isNaN_iff]
  exact (alike_iff.1 same).isNaN_iff

theorem Alike.lt_iff (left : Alike x x') (right : Alike y y') : x < y ↔ x' < y' := by
  have unpacked (a b : Float) :
      a < b ↔ (a.toModel.unpack.compare b.toModel.unpack == some .lt) = true := by
    show decide _ = true ↔ _
    rw [decide_eq_true_iff]
    rfl
  rw [unpacked, unpacked, (alike_iff.1 left).compare_eq (alike_iff.1 right)]

end Number

/-! ## Statistics of what is alike -/

/-- A function that does not tell related inputs apart. -/
theorem map_congr_of_forall₂ {α β : Type} {R : α → α → Prop} {f g : α → β} {xs ys : List α}
    (same : List.Forall₂ R xs ys) (equal : ∀ {x y}, R x y → f x = g y) :
    xs.map f = ys.map g := by
  induction same with
  | nil => rfl
  | cons first rest ih => rw [List.map_cons, List.map_cons, equal first, ih]

namespace Statistics

variable {α : Type} [Arithmetic α] {R : α → α → Prop} {xs ys : List α}

/-- The operations of the arithmetic keep to a relation. Only the dividend of a quotient counts. -/
structure Respects (R : α → α → Prop) : Prop where
  refl (a : α) : R a a
  add {a a' b b' : α} (left : R a a') (right : R b b') : R (a + b) (a' + b')
  sub {a a' b b' : α} (left : R a a') (right : R b b') : R (a - b) (a' - b')
  mul {a a' b b' : α} (left : R a a') (right : R b b') : R (a * b) (a' * b')
  div {a a' : α} (left : R a a') (b : α) : R (a / b) (a' / b)
  less {a a' b b' : α} (left : R a a') (right : R b b') :
    Arithmetic.less a b = Arithmetic.less a' b'

theorem addBlocks_of_long (long : 8 ≤ xs.length) (sums : List α) :
    addBlocks sums xs = addBlocks (List.zipWith (· + ·) sums (xs.take 8)) (xs.drop 8) := by
  rw [addBlocks, if_pos long]

theorem addBlocks_of_short (short : ¬ 8 ≤ xs.length) (sums : List α) :
    addBlocks sums xs = (sums, xs) := by
  rw [addBlocks, if_neg short]

/-- Long lists are summed in two halves, cut between two blocks. -/
theorem sum_of_long (many : ¬ xs.length < 8) (long : ¬ xs.length ≤ 128) :
    sum xs = sum (xs.take (xs.length / 2 / 8 * 8)) + sum (xs.drop (xs.length / 2 / 8 * 8)) := by
  rw [sum, if_neg many, if_neg long]

section

variable (respects : Respects R)

include respects

theorem place_congr (same : List.Forall₂ R xs ys) (i : Nat) : R (place xs i) (place ys i) := by
  induction same generalizing i with
  | nil => exact respects.refl _
  | cons first rest ih =>
      cases i with
      | zero => exact first
      | succ i => exact ih i

theorem foldl_add_congr (same : List.Forall₂ R xs ys) {a b : α} (start : R a b) :
    R (xs.foldl (· + ·) a) (ys.foldl (· + ·) b) := by
  induction same generalizing a b with
  | nil => exact start
  | cons first rest ih => exact ih (respects.add start first)

theorem zipWith_add_congr {sums sums' : List α} (start : List.Forall₂ R sums sums')
    (same : List.Forall₂ R xs ys) :
    List.Forall₂ R (List.zipWith (· + ·) sums xs) (List.zipWith (· + ·) sums' ys) := by
  induction start generalizing xs ys with
  | nil => exact .nil
  | cons first rest ih =>
      cases same with
      | nil => exact .nil
      | cons left others => exact .cons (respects.add first left) (ih others)

theorem addBlocks_congr {sums sums' : List α} (start : List.Forall₂ R sums sums')
    (same : List.Forall₂ R xs ys) :
    List.Forall₂ R (addBlocks sums xs).1 (addBlocks sums' ys).1 ∧
      List.Forall₂ R (addBlocks sums xs).2 (addBlocks sums' ys).2 := by
  induction sums, xs using addBlocks.induct generalizing sums' ys with
  | case1 sums xs long ih =>
      have block := addBlocks_of_long long sums
      have block' := addBlocks_of_long (same.length_eq ▸ long) sums'
      rw [block, block']
      exact ih (zipWith_add_congr respects start (List.forall₂_take 8 same))
        (List.forall₂_drop 8 same)
  | case2 sums xs short =>
      rw [addBlocks_of_short short, addBlocks_of_short (same.length_eq ▸ short)]
      exact ⟨start, same⟩

theorem plainSum_congr (same : List.Forall₂ R xs ys) : R (plainSum xs) (plainSum ys) :=
  foldl_add_congr respects same (respects.refl _)

theorem blockSum_congr (same : List.Forall₂ R xs ys) : R (blockSum xs) (blockSum ys) := by
  have blocks := addBlocks_congr respects (List.forall₂_take 8 same) (List.forall₂_drop 8 same)
  rw [blockSum, blockSum]
  generalize addBlocks (xs.take 8) (xs.drop 8) = left at blocks ⊢
  generalize addBlocks (ys.take 8) (ys.drop 8) = right at blocks ⊢
  obtain ⟨sums, rest⟩ := left
  obtain ⟨sums', rest'⟩ := right
  obtain ⟨first, others⟩ := blocks
  dsimp only at first others
  -- Only eight running sums are added in pairs.
  rcases first with _ | ⟨ra, _ | ⟨rb, _ | ⟨rc, _ | ⟨rd, _ | ⟨re, _ | ⟨rf, _ | ⟨rg, _ |
    ⟨rh, _ | _⟩⟩⟩⟩⟩⟩⟩⟩
  case cons.cons.cons.cons.cons.cons.cons.cons.nil =>
    refine foldl_add_congr respects others (respects.add (respects.add ?_ ?_) (respects.add ?_ ?_))
    · exact respects.add ra rb
    · exact respects.add rc rd
    · exact respects.add re rf
    · exact respects.add rg rh
  all_goals exact plainSum_congr respects same

theorem sum_congr (same : List.Forall₂ R xs ys) : R (sum xs) (sum ys) := by
  induction size : xs.length using Nat.strong_induction_on generalizing xs ys with
  | _ size ih =>
      subst size
      have length := same.length_eq
      by_cases many : xs.length < 8
      · rw [sum, if_pos many, sum, if_pos (length ▸ many)]
        exact plainSum_congr respects same
      by_cases long : xs.length ≤ 128
      · rw [sum, if_neg many, if_pos long, sum, if_neg (length ▸ many), if_pos (length ▸ long)]
        exact blockSum_congr respects same
      have many' : ¬ ys.length < 8 := length ▸ many
      have long' : ¬ ys.length ≤ 128 := length ▸ long
      rw [sum_of_long many long, sum_of_long many' long', ← length]
      refine respects.add (ih _ ?_ (List.forall₂_take _ same) rfl)
        (ih _ ?_ (List.forall₂_drop _ same) rfl)
      · rw [List.length_take]
        omega
      · rw [List.length_drop]
        omega

theorem mean_congr (same : List.Forall₂ R xs ys) : R (mean xs) (mean ys) := by
  rw [mean, mean, same.length_eq]
  exact respects.div (respects.add (respects.refl _) (sum_congr respects same)) _

theorem median_congr (same : List.Forall₂ R xs ys) : R (median xs) (median ys) := by
  rw [median, median, same.length_eq]
  split
  · exact mean_congr respects (.cons (place_congr respects same _) .nil)
  · exact mean_congr respects
      (.cons (place_congr respects same _) (.cons (place_congr respects same _) .nil))

theorem between_congr {a a' b b' : α} (first : R a a') (second : R b b') (t : α) :
    R (between a b t) (between a' b' t) := by
  have way := respects.sub second first
  rw [between, between]
  split
  · exact respects.add first (respects.mul way (respects.refl _))
  · exact respects.sub second (respects.mul way (respects.refl _))

theorem percentile_congr (q : Nat) (same : List.Forall₂ R xs ys) :
    R (percentile q xs) (percentile q ys) := by
  rw [percentile, percentile, same.length_eq]
  split
  · exact between_congr respects (place_congr respects same _) (place_congr respects same _) _
  · exact between_congr respects (place_congr respects same _) (place_congr respects same _) _

/-- Values that the order cannot tell apart are sorted in step. -/
theorem sorted_congr (same : List.Forall₂ R xs ys) : List.Forall₂ R (sorted xs) (sorted ys) := by
  have related : ∀ pair ∈ xs.zip ys, R pair.1 pair.2 := fun _ => List.forall₂_zip same
  have left : (xs.zip ys).map Prod.fst = xs := List.map_fst_zip same.length_eq.le
  have right : (xs.zip ys).map Prod.snd = ys := List.map_snd_zip same.length_eq.ge
  let ascends (x y : α) : Bool := !Arithmetic.less y x
  let order (a b : α × α) : Bool := ascends a.1 b.1
  have byFirst : ∀ a ∈ xs.zip ys, ∀ b ∈ xs.zip ys, order a b = ascends (Prod.fst a) (Prod.fst b) :=
    fun _ _ _ _ => rfl
  have bySecond : ∀ a ∈ xs.zip ys, ∀ b ∈ xs.zip ys,
      order a b = ascends (Prod.snd a) (Prod.snd b) := fun a memberA b memberB =>
    congrArg (!·) (respects.less (related b memberB) (related a memberA))
  have sortedLeft : ((xs.zip ys).mergeSort order).map Prod.fst = sorted xs := by
    rw [List.map_mergeSort byFirst, left]
    rfl
  have sortedRight : ((xs.zip ys).mergeSort order).map Prod.snd = sorted ys := by
    rw [List.map_mergeSort bySecond, right]
    rfl
  rw [← sortedLeft, ← sortedRight, List.forall₂_map_left_iff, List.forall₂_map_right_iff,
    List.forall₂_same]
  exact fun pair member => related pair (List.mem_mergeSort.1 member)

theorem fence_congr (multiplier : α) (same : List.Forall₂ R xs ys) :
    R (fence multiplier xs) (fence multiplier ys) := by
  have lower := percentile_congr respects 25 same
  have upper := percentile_congr respects 75 same
  exact respects.add upper (respects.mul (respects.refl _) (respects.sub upper lower))

theorem outliers_congr (multiplier : α) (same : List.Forall₂ R xs ys) :
    outliers multiplier xs = outliers multiplier ys := by
  rw [outliers, outliers, same.length_eq]
  split
  · exact map_congr_of_forall₂ same fun _ => rfl
  · have bound := fence_congr respects multiplier (sorted_congr respects same)
    exact map_congr_of_forall₂ same fun above => respects.less bound above

end

/-- Summaries whose figures are related, of as many values. -/
structure SummaryRel (R : α → α → Prop) (s t : Summary α) : Prop where
  count : s.count = t.count
  minimum : R s.minimum t.minimum
  maximum : R s.maximum t.maximum
  mean : R s.mean t.mean
  median : R s.median t.median
  p90 : R s.p90 t.p90

theorem summarize_congr (respects : Respects R) (same : List.Forall₂ R xs ys) :
    Option.Rel (SummaryRel R) (summarize xs) (summarize ys) := by
  have ascending := sorted_congr respects same
  rw [summarize, summarize]
  cases same with
  | nil => exact .none
  | cons first rest =>
      have whole := List.Forall₂.cons first rest
      refine .some ⟨whole.length_eq, place_congr respects ascending _, ?_,
        mean_congr respects whole, median_congr respects ascending,
        percentile_congr respects 90 ascending⟩
      dsimp only
      rw [whole.length_eq]
      exact place_congr respects ascending _

end Statistics

open Number (Alike)

/-- What cannot be told apart among doubles has statistics that cannot be told apart. -/
theorem respects_alike : Statistics.Respects Alike where
  refl := Alike.refl
  add := Alike.add
  sub := Alike.sub
  mul := Alike.mul
  div := Alike.div
  less left right := decide_eq_decide.2 (left.lt_iff right)

variable {xs ys : List Float}

theorem any_isNaN_congr (same : List.Forall₂ Alike xs ys) :
    xs.any Float.isNaN = ys.any Float.isNaN := by
  induction same with
  | nil => rfl
  | cons first rest ih => rw [List.any_cons, List.any_cons, first.isNaN_eq, ih]

theorem summarize_congr (same : List.Forall₂ Alike xs ys) :
    Option.Rel (Statistics.SummaryRel Alike) (summarize xs) (summarize ys) := by
  rw [summarize, summarize, any_isNaN_congr same]
  split
  · have nan := Alike.refl (0.0 / 0.0)
    exact .some ⟨same.length_eq, nan, nan, nan, nan, nan⟩
  · exact Statistics.summarize_congr respects_alike same

theorem outliers_congr (multiplier : Float) (same : List.Forall₂ Alike xs ys) :
    outliers multiplier xs = outliers multiplier ys := by
  rw [outliers, outliers, any_isNaN_congr same]
  split
  · exact map_congr_of_forall₂ same fun _ => rfl
  · exact Statistics.outliers_congr respects_alike multiplier same

end CodeMetrics
