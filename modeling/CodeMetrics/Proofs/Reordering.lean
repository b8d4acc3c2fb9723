import CodeMetrics.Proofs.Congruence
import CodeMetrics.Proofs.Ranking

/-!
# Batches in another order

A ranking goes by values, and the order of the batch only decides between files with one value. So
batches of the same entries have rankings with the same numbers, values and marks, and what follows
from the values is the same as well, rounded sums included: they are only taken of sorted values.

Values that are equal need not be the same doubles, for zero has two signs. They are the same ones
when not both of its signs occur.

Results:
1. `exists_perm_scores`: the scores are the same ones, in another order.
2. `forall₂_alike_of_perm`: sorted values are alike, place by place.
3. `Ranks.samePlaces`, `Ranks.perm_sources`: what two rankings of the same scores have in common.
4. `rank_reordered`: the rankings of a batch in two orders, and their summaries.
-/

namespace CodeMetrics

open Number (Alike)

/-! ## The same scores -/

/-- The entries in another order have the same scores. -/
theorem exists_perm_scores {metric : Metric} {entries reordered : List Entry}
    {scored : List (Option String × Float)} (found : scores metric entries = .ok scored)
    (perm : reordered.Perm entries) :
    ∃ other, scores metric reordered = .ok other ∧ other.Perm scored := by
  have successes : (successes reordered).Perm (successes entries) := perm.filterMap _
  obtain ⟨other, paired, same⟩ := List.perm_comp_forall₂ successes (scores_eq_ok.1 found)
  exact ⟨other, scores_eq_ok.2 paired, same⟩

theorem rank_of_scores {metric : Metric} {entries : List Entry}
    {scored : List (Option String × Float)} (found : scores metric entries = .ok scored) :
    rank (.text metric.name) entries = .ok (ranked (sortScores scored)) := by
  rw [rank, requireMetric_name]
  show (liftM (scores metric entries >>= fun scored => .ok (ranked (sortScores scored))) :
    Except Problem (List Ranked)) = _
  rw [found]
  rfl

/-! ## Sorted values -/

theorem Number.alike_of_place {x y : Float} (left : x.isNaN = false) (right : y.isNaN = false)
    (equal : place x = place y) : Alike x y :=
  .inl ((beq_iff left right).2 equal)

theorem Number.Alike.beq {x y : Float} (alike : Alike x y) (number : x.isNaN = false) :
    (x == y) = true :=
  alike.resolve_right fun nan => by
    rw [number] at nan
    cases nan.1

/-- The same numbers, sorted in two ways, are alike in every place. -/
theorem forall₂_alike_of_perm {xs ys : List Float} (perm : ys.Perm xs)
    (numbers : ∀ x ∈ xs, x.isNaN = false) (left : xs.Pairwise (· ≤ ·))
    (right : ys.Pairwise (· ≤ ·)) : List.Forall₂ Alike xs ys := by
  have numbers' (y) (member : y ∈ ys) : y.isNaN = false := numbers y (perm.mem_iff.1 member)
  have ascending {zs : List Float} (numbers : ∀ z ∈ zs, z.isNaN = false)
      (sorted : zs.Pairwise (· ≤ ·)) : (zs.map Number.place).SortedLE := by
    refine (List.pairwise_map.2 (sorted.imp_of_mem fun memberA memberB below => ?_)).sortedLE
    exact (Number.le_iff (numbers _ memberA) (numbers _ memberB)).1 below
  have places : xs.map Number.place = ys.map Number.place :=
    (perm.symm.map _).eq_of_sortedLE (ascending numbers left) (ascending numbers' right)
  have paired : List.Forall₂ (fun x y => Number.place x = Number.place y) xs ys := by
    rwa [← List.forall₂_map_right_iff (f := Number.place), ← List.forall₂_map_left_iff,
      List.forall₂_eq_eq_eq]
  refine List.forall₂_iff_zip.2 ⟨paired.length_eq, fun {x y} pair => ?_⟩
  obtain ⟨memberX, memberY⟩ := List.of_mem_zip pair
  exact Number.alike_of_place (numbers x memberX) (numbers' y memberY)
    (List.forall₂_zip paired pair)

/-! ## Two rankings of the same scores -/

/-- One place in two rankings: it has one number, one mark and values that are alike. Who is in it
is left open. -/
structure SamePlace (a b : Ranked) : Prop where
  position : a.position = b.position
  value : Alike a.value b.value
  outlier : a.outlier = b.outlier

section

variable {scored other : List (Option String × Float)} {ranking ranking' : List Ranked}

theorem Ranks.perm_scores (ranks : Ranks scored ranking) (ranks' : Ranks other ranking')
    (perm : other.Perm scored) :
    (ranking.map Ranked.score).Perm (ranking'.map Ranked.score) :=
  ranks.perm.trans (perm.symm.trans ranks'.perm.symm)

theorem map_value_eq (ranking : List Ranked) :
    ranking.map Ranked.value = (ranking.map Ranked.score).map Prod.snd := by
  rw [List.map_map]
  rfl

theorem Ranks.perm_values (ranks : Ranks scored ranking) (ranks' : Ranks other ranking')
    (perm : other.Perm scored) : (ranking.map Ranked.value).Perm (ranking'.map Ranked.value) := by
  rw [map_value_eq, map_value_eq]
  exact (ranks.perm_scores ranks' perm).map _

theorem Ranks.isNaN_of_mem_values (ranks : Ranks scored ranking)
    (numbers : ∀ score ∈ scored, score.2.isNaN = false) :
    ∀ value ∈ ranking.map Ranked.value, value.isNaN = false := by
  rw [map_value_eq]
  simp only [List.mem_map (f := Prod.snd)]
  rintro _ ⟨score, member, rfl⟩
  exact numbers score (ranks.perm.mem_iff.1 member)

theorem Ranks.alike_values (ranks : Ranks scored ranking) (ranks' : Ranks other ranking')
    (perm : other.Perm scored) (numbers : ∀ score ∈ scored, score.2.isNaN = false) :
    List.Forall₂ Alike (ranking.map Ranked.value) (ranking'.map Ranked.value) :=
  forall₂_alike_of_perm (ranks.perm_values ranks' perm).symm (ranks.isNaN_of_mem_values numbers)
    (List.pairwise_map.2 ranks.ascending) (List.pairwise_map.2 ranks'.ascending)

theorem Ranks.samePlaces (ranks : Ranks scored ranking) (ranks' : Ranks other ranking')
    (perm : other.Perm scored) (numbers : ∀ score ∈ scored, score.2.isNaN = false) :
    List.Forall₂ SamePlace ranking ranking' := by
  have values := ranks.alike_values ranks' perm numbers
  have positions : ranking.map Ranked.position = ranking'.map Ranked.position := by
    rw [ranks.positions, ranks'.positions, perm.length_eq]
  have marks : ranking.map Ranked.outlier = ranking'.map Ranked.outlier := by
    rw [ranks.marks, ranks'.marks, outliers_congr _ values]
  rw [← List.forall₂_eq_eq_eq, List.forall₂_map_left_iff, List.forall₂_map_right_iff]
    at positions marks
  rw [List.forall₂_map_left_iff, List.forall₂_map_right_iff] at values
  exact List.forall₂_iff_zip.2 ⟨values.length_eq, fun pair =>
    ⟨List.forall₂_zip positions pair, List.forall₂_zip values pair, List.forall₂_zip marks pair⟩⟩

/-- Each value has the same files, as often. -/
theorem Ranks.perm_sources (ranks : Ranks scored ranking) (ranks' : Ranks other ranking')
    (perm : other.Perm scored) (value : Float) :
    ((ranking.filter fun ranked => ranked.value == value).map Ranked.source).Perm
      ((ranking'.filter fun ranked => ranked.value == value).map Ranked.source) := by
  have sources (ranking : List Ranked) :
      (ranking.filter fun ranked => ranked.value == value).map Ranked.source =
        ((ranking.map Ranked.score).filter fun score => score.2 == value).map Prod.fst := by
    rw [List.filter_map, List.map_map]
    rfl
  rw [sources, sources]
  exact ((ranks.perm_scores ranks' perm).filter _).map _

/-- Values of which equal ones are the same doubles stand in the same places. -/
theorem Ranks.values_eq (ranks : Ranks scored ranking) (ranks' : Ranks other ranking')
    (perm : other.Perm scored) (numbers : ∀ score ∈ scored, score.2.isNaN = false)
    (same : ∀ a ∈ ranking, ∀ b ∈ ranking, (a.value == b.value) = true → a.value = b.value) :
    ranking.map Ranked.value = ranking'.map Ranked.value := by
  have alike := ranks.alike_values ranks' perm numbers
  rw [← List.forall₂_eq_eq_eq]
  refine List.forall₂_iff_zip.2 ⟨alike.length_eq, fun {x y} pair => ?_⟩
  obtain ⟨memberX, memberY⟩ := List.of_mem_zip pair
  have equal := (List.forall₂_zip alike pair).beq (ranks.isNaN_of_mem_values numbers x memberX)
  obtain ⟨a, memberA, rfl⟩ := List.mem_map.1 memberX
  obtain ⟨b, memberB, rfl⟩ := List.mem_map.1 ((ranks.perm_values ranks' perm).mem_iff.2 memberY)
  exact same a memberA b memberB equal

end

/-! ## Two orders of one batch -/

theorem rankingSummary_standing (ranking : List Ranked) :
    rankingSummary (ranking.map Ranked.standing) = .ok (summarize (ranking.map Ranked.value)) := by
  have values : ((ranking.map Ranked.standing).map Standing.value).mapM Value.toReal =
      .ok (ranking.map Ranked.value) := by
    rw [mapM_eq_ok]
    simp only [List.forall₂_map_left_iff, List.forall₂_map_right_iff, List.forall₂_same]
    exact fun _ _ => rfl
  rw [rankingSummary, summarizeValues, values]
  rfl

/-- What a place says besides the file that is in it. -/
def Ranked.figures (ranked : Ranked) : Nat × Float × Bool :=
  (ranked.position, ranked.value, ranked.outlier)

theorem map_figures_eq {ranking ranking' : List Ranked}
    (places : List.Forall₂ SamePlace ranking ranking')
    (values : ranking.map Ranked.value = ranking'.map Ranked.value) :
    ranking.map Ranked.figures = ranking'.map Ranked.figures := by
  rw [← List.forall₂_eq_eq_eq, List.forall₂_map_left_iff, List.forall₂_map_right_iff]
    at values ⊢
  refine List.forall₂_iff_zip.2 ⟨values.length_eq, fun {a b} pair => ?_⟩
  obtain ⟨position, -, outlier⟩ := List.forall₂_zip places pair
  rw [Ranked.figures, position, outlier, List.forall₂_zip values pair, Ranked.figures]

/-- Batches of the same entries have rankings with the same numbers, values and marks, each value
with the same files, and with the same summary. Where zeros of one sign only are ranked, values and
figures are the same doubles. -/
theorem rank_reordered (metric : Metric) {entries reordered : List Entry}
    (perm : reordered.Perm entries)
    (finite : ∀ success ∈ successes entries, (success.2.get metric).isFinite = .ok true) :
    ∃ ranking ranking' summary summary',
      rank (.text metric.name) entries = .ok ranking ∧
      rank (.text metric.name) reordered = .ok ranking' ∧
      List.Forall₂ SamePlace ranking ranking' ∧
      (∀ value : Float,
        ((ranking.filter fun ranked => ranked.value == value).map Ranked.source).Perm
          ((ranking'.filter fun ranked => ranked.value == value).map Ranked.source)) ∧
      rankingSummary (ranking.map Ranked.standing) = .ok summary ∧
      rankingSummary (ranking'.map Ranked.standing) = .ok summary' ∧
      Option.Rel (Statistics.SummaryRel Alike) summary summary' ∧
      ((∀ a ∈ ranking, ∀ b ∈ ranking, (a.value == b.value) = true → a.value = b.value) →
        ranking.map Ranked.figures = ranking'.map Ranked.figures ∧ summary = summary') := by
  obtain ⟨scored, found, numbers⟩ := exists_scores finite
  obtain ⟨other, found', permScores⟩ := exists_perm_scores found perm
  have ranks := ranks_ranked numbers
  have ranks' := ranks_ranked fun score member =>
    numbers score (permScores.mem_iff.1 member)
  have places := ranks.samePlaces ranks' permScores numbers
  refine ⟨_, _, _, _, rank_of_scores found, rank_of_scores found', places,
    ranks.perm_sources ranks' permScores, rankingSummary_standing _, rankingSummary_standing _,
    summarize_congr (ranks.alike_values ranks' permScores numbers), fun same => ?_⟩
  have values := ranks.values_eq ranks' permScores numbers same
  exact ⟨map_figures_eq places values, congrArg summarize values⟩

/-- Two files change places with the order of the batch, and nothing else does. -/
theorem rank_reordered_tied :
    let run (vocabulary : Nat) : Run := ⟨Tally.empty, ⟨fun _ => .whole vocabulary⟩, none⟩
    let broken : Entry := ⟨some "broken", .error (.missingInput (.text "file"))⟩
    let entries : List Entry :=
      [⟨some "b", .ok (run 2)⟩, broken, ⟨some "a", .ok (run 2)⟩, ⟨some "c", .ok (run 1)⟩]
    let reordered : List Entry :=
      [⟨some "a", .ok (run 2)⟩, ⟨some "b", .ok (run 2)⟩, ⟨some "c", .ok (run 1)⟩, broken]
    reordered.Perm entries ∧
    (∀ success ∈ successes entries,
      (success.2.get (.derived .vocabulary)).isFinite = .ok true) ∧
    ∃ ranking ranking', rank (.text "prog_vocab") entries = .ok ranking ∧
      rank (.text "prog_vocab") reordered = .ok ranking' ∧
      List.Forall₂ SamePlace ranking ranking' := by
  intro run broken entries reordered
  have perm : reordered.Perm entries :=
    (List.Perm.swap ..).trans (.cons _ ((List.Perm.cons _ (.swap ..)).trans
      ((List.Perm.swap ..).trans (.refl _))))
  have finite : ∀ success ∈ successes entries,
      (success.2.get (.derived .vocabulary)).isFinite = .ok true := by
    have all : successes entries = [(some "b", run 2), (some "a", run 2), (some "c", run 1)] := rfl
    rw [all]
    simp only [List.forall_mem_cons]
    exact ⟨isFinite_whole (by decide +kernel), isFinite_whole (by decide +kernel),
      isFinite_whole (by decide +kernel), nofun⟩
  obtain ⟨ranking, ranking', _, _, ranked, ranked', places, -⟩ :=
    rank_reordered (.derived .vocabulary) perm finite
  exact ⟨perm, finite, ranking, ranking', ranked, ranked', places⟩

end CodeMetrics
