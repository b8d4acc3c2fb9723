import CodeMetrics.Proofs.Analysis
import CodeMetrics.Proofs.Deriving
import CodeMetrics.Proofs.Order
import CodeMetrics.Ranking

/-!
# Rankings

A ranking has a place for each entry that was analysed, and for no other one. Its scores are those
of the entries, sorted so that equal values keep the order of the batch, and every place has its
number and its mark.

Results:
1. `pairwise_sortScores`, `filter_sortScores`: sorting is by value, and stable.
2. `map_position_ranked`, `map_score_ranked`, `map_outlier_ranked`: nothing is lost in the places.
3. `isFinite_of_run`: the metrics of a run are finite.
4. `rank_complete_stable`: the ranking of a batch.
-/

namespace CodeMetrics

/-! ## Sorting -/

variable {scored : List (Option String × Float)}

/-- The first score stands by its value in front of the second one, or beside it. -/
def notBehind (a b : Option String × Float) : Bool :=
  decide (Number.place a.2 ≤ Number.place b.2)

theorem notBehind_trans (a b c : Option String × Float) (ab : notBehind a b = true)
    (bc : notBehind b c = true) : notBehind a c = true :=
  decide_eq_true ((of_decide_eq_true ab).trans (of_decide_eq_true bc))

theorem notBehind_total (a b : Option String × Float) :
    (notBehind a b || notBehind b a) = true := by
  simpa [notBehind] using le_total (Number.place a.2) (Number.place b.2)

/-- Scores that are numbers are sorted by the places of their values. -/
theorem sortScores_eq (numbers : ∀ score ∈ scored, score.2.isNaN = false) :
    sortScores scored = scored.mergeSort notBehind := by
  have same : ∀ a ∈ scored, ∀ b ∈ scored,
      (!Arithmetic.less b.2 a.2) = notBehind (id a) (id b) := by
    intro a memberA b memberB
    have less : Arithmetic.less b.2 a.2 = decide (b.2 < a.2) := rfl
    rw [less, ← decide_not, id, id, notBehind, decide_eq_decide,
      Number.lt_iff (numbers b memberB) (numbers a memberA), not_lt]
  have mapped := List.map_mergeSort same
  rw [List.map_id, List.map_id] at mapped
  exact mapped

theorem perm_sortScores (scored : List (Option String × Float)) :
    (sortScores scored).Perm scored :=
  List.mergeSort_perm _ _

theorem pairwise_sortScores (numbers : ∀ score ∈ scored, score.2.isNaN = false) :
    (sortScores scored).Pairwise fun a b => a.2 ≤ b.2 := by
  have sorted : (sortScores scored).Pairwise fun a b => notBehind a b = true := by
    rw [sortScores_eq numbers]
    exact List.pairwise_mergeSort notBehind_trans notBehind_total scored
  have number (score) (member : score ∈ sortScores scored) : score.2.isNaN = false :=
    numbers score ((perm_sortScores scored).mem_iff.1 member)
  refine sorted.imp_of_mem fun memberA memberB below => ?_
  exact (Number.le_iff (number _ memberA) (number _ memberB)).2 (of_decide_eq_true below)

/-- Scores of one value keep their order. -/
theorem filter_sortScores (numbers : ∀ score ∈ scored, score.2.isNaN = false) (value : Float) :
    ((sortScores scored).filter fun score => score.2 == value) =
      scored.filter fun score => score.2 == value := by
  set equal : Option String × Float → Bool := fun score => score.2 == value
  have tied : (scored.filter equal).Pairwise fun a b => notBehind a b = true := by
    refine List.pairwise_of_forall_mem_list fun a memberA b memberB => decide_eq_true ?_
    obtain ⟨memberA, equalA⟩ := List.mem_filter.1 memberA
    obtain ⟨memberB, equalB⟩ := List.mem_filter.1 memberB
    have number := Number.isNaN_of_beq equalA
    rw [Number.beq_iff (numbers a memberA) number] at equalA
    rw [Number.beq_iff (numbers b memberB) number] at equalB
    exact (equalA.trans equalB.symm).le
  have kept : (scored.filter equal).Sublist (sortScores scored) := by
    rw [sortScores_eq numbers]
    exact List.sublist_mergeSort notBehind_trans notBehind_total tied List.filter_sublist
  have filtered := kept.filter equal
  simp only [List.filter_filter, Bool.and_self] at filtered
  exact (filtered.eq_of_length ((perm_sortScores scored).filter equal).length_eq.symm).symm

/-! ## Places -/

/-- What a place says of its file. -/
def Ranked.score (ranked : Ranked) : Option String × Float := (ranked.source, ranked.value)

theorem length_outliers (multiplier : Float) (values : List Float) :
    (outliers multiplier values).length = values.length := by
  rw [outliers, Statistics.outliers]
  split_ifs <;> simp

theorem length_flags (scored : List (Option String × Float)) :
    (outliers usualMultiplier (scored.map Prod.snd)).length = scored.length := by
  rw [length_outliers, List.length_map]

theorem map_position_ranked (scored : List (Option String × Float)) :
    (ranked scored).map Ranked.position = List.range' 1 scored.length := by
  have flagged : (scored.zip (outliers usualMultiplier (scored.map Prod.snd))).length =
      scored.length := by
    rw [List.length_zip, length_flags, Nat.min_self]
  have shifted : List.range' 1 scored.length = (List.range' 0 scored.length).map (· + 1) := by
    simp only [Nat.add_comm _ 1, List.map_add_range']
  rw [ranked, List.map_map, shifted, ← flagged, ← List.zipIdx_map_snd 0, List.map_map]
  rfl

/-- No score is dropped by its mark. -/
theorem map_score_ranked (scored : List (Option String × Float)) :
    (ranked scored).map Ranked.score = scored := by
  rw [ranked, List.map_map]
  show (List.zipIdx _).map (Prod.fst ∘ Prod.fst) = _
  rw [← List.map_map, List.zipIdx_map_fst, List.map_fst_zip (length_flags scored).ge]

theorem map_outlier_ranked (scored : List (Option String × Float)) :
    (ranked scored).map Ranked.outlier = outliers usualMultiplier (scored.map Prod.snd) := by
  rw [ranked, List.map_map]
  show (List.zipIdx _).map (Prod.snd ∘ Prod.fst) = _
  rw [← List.map_map, List.zipIdx_map_fst, List.map_snd_zip (length_flags scored).le]

/-! ## Finite metrics -/

theorem Quantity.isFinite_eq {q : Quantity} {b : Bool} :
    q.isFinite = .ok b ↔ ∃ x, q.toReal = .ok x ∧ x.isFinite = b := by
  rw [isFinite, bind_eq_ok]
  simp [pure, Except.pure]

theorem isFinite_whole {n : Nat} (fits : n < Number.firstBeyond) :
    (Quantity.whole n).isFinite = .ok true := by
  refine Quantity.isFinite_eq.2 ⟨_, realOfInt_of_fits fits, ?_⟩
  have within : Number.isBeyond n 1 = false := by
    rw [Bool.eq_false_iff, ne_eq, Number.isBeyond_iff Nat.one_pos, Nat.mul_one, not_le]
    exact fits
  exact (congrArg Float.isFinite (if_neg (Int.not_lt.2 n.cast_nonneg))).trans
    (Number.isFinite_nearest within)

/-- Counts that have metrics are no larger than the doubles. -/
theorem Counts.fit_of_derive {counts : Counts} {measures : Measures}
    (derived : counts.derive = .ok measures) : counts.Fit := by
  by_contra beyond
  obtain ⟨accepted, -⟩ := derive_eq_ok derived
  have stopped := (derive_of_accepted accepted .integerTooLarge).2 (if_neg beyond)
  cases derived.symm.trans stopped

/-- All metrics of a run are finite, those that are counted as well. -/
theorem isFinite_of_run {tally : Tally} {source : Option String} {run : Run}
    (analyzed : tally.run source = .ok run) (metric : Metric) :
    (run.get metric).isFinite = .ok true := by
  obtain ⟨measures, derived, returned⟩ := bind_eq_ok.1 analyzed
  cases returned
  cases metric with
  | derived d => exact Counts.isFinite_of_derive derived d
  | count c =>
      have positive := Counts.degeneracy?_eq_none.1 (Counts.derive_eq_ok derived).1
      have fits := (Counts.fit_of_derive derived).count positive c
      cases c <;> exact isFinite_whole fits

/-! ## The scores of a batch -/

/-- The analysed entries of a batch, in its order. -/
def successes (entries : List Entry) : List (Option String × Run) :=
  entries.filterMap fun entry => entry.outcome.toOption.map (entry.source, ·)

/-- The score of an analysed entry: its file, and its metric as a double. -/
def Scored (metric : Metric) (success : Option String × Run) (score : Option String × Float) :
    Prop :=
  score.1 = success.1 ∧ (success.2.get metric).toReal = .ok score.2

/-- The entries that were analysed have scores, in their order, and no other ones do. -/
theorem scores_eq_ok {metric : Metric} {entries : List Entry}
    {scored : List (Option String × Float)} :
    scores metric entries = .ok scored ↔
      List.Forall₂ (Scored metric) (successes entries) scored := by
  induction entries generalizing scored with
  | nil => simp [scores, successes, eq_comm]
  | cons entry rest ih =>
      obtain ⟨source, outcome⟩ := entry
      cases outcome with
      | error failure => exact ih
      | ok run =>
          have cons : successes (⟨source, .ok run⟩ :: rest) = (source, run) :: successes rest := rfl
          rw [cons, List.forall₂_cons_left_iff, scores]
          simp only [bind_eq_ok, ih]
          constructor
          · rintro ⟨value, found, others, foundRest, returned⟩
            cases returned
            exact ⟨(source, value), others, ⟨rfl, found⟩, foundRest, rfl⟩
          · rintro ⟨⟨_, value⟩, others, ⟨rfl, found⟩, foundRest, rfl⟩
            exact ⟨value, found, others, foundRest, rfl⟩

/-- Finite metrics are numbers, and there is a score for each of them. -/
theorem exists_scores {metric : Metric} {entries : List Entry}
    (finite : ∀ success ∈ successes entries, (success.2.get metric).isFinite = .ok true) :
    ∃ scored, scores metric entries = .ok scored ∧ ∀ score ∈ scored, score.2.isNaN = false := by
  suffices found : ∃ scored, List.Forall₂ (Scored metric) (successes entries) scored ∧
      ∀ score ∈ scored, score.2.isNaN = false by
    simpa only [scores_eq_ok] using found
  generalize successes entries = successes at finite
  induction successes with
  | nil => exact ⟨[], .nil, nofun⟩
  | cons success rest ih =>
      obtain ⟨finiteFirst, finiteRest⟩ := List.forall_mem_cons.1 finite
      obtain ⟨value, found, finiteValue⟩ := Quantity.isFinite_eq.1 finiteFirst
      obtain ⟨scored, foundRest, numbers⟩ := ih finiteRest
      exact ⟨(success.1, value) :: scored, .cons ⟨rfl, found⟩ foundRest,
        List.forall_mem_cons.2 ⟨Number.isNaN_of_isFinite finiteValue, numbers⟩⟩

/-! ## The ranking of a batch -/

/-- What a ranking makes of scores: a place for each, numbered from one on, ascending, with equal
values in the order they had and a mark for every value. -/
structure Ranks (scored : List (Option String × Float)) (ranking : List Ranked) : Prop where
  positions : ranking.map Ranked.position = List.range' 1 scored.length
  perm : (ranking.map Ranked.score).Perm scored
  ascending : ranking.Pairwise fun a b => a.value ≤ b.value
  stable : ∀ value : Float, ((ranking.map Ranked.score).filter fun score => score.2 == value) =
    scored.filter fun score => score.2 == value
  marks : ranking.map Ranked.outlier = outliers usualMultiplier (ranking.map Ranked.value)

theorem ranks_ranked (numbers : ∀ score ∈ scored, score.2.isNaN = false) :
    Ranks scored (ranked (sortScores scored)) where
  positions := by rw [map_position_ranked, (perm_sortScores scored).length_eq]
  perm := (map_score_ranked _).symm ▸ perm_sortScores scored
  ascending := by
    have sorted := pairwise_sortScores numbers
    rw [← map_score_ranked (sortScores scored), List.pairwise_map] at sorted
    exact sorted
  stable value := by rw [map_score_ranked, filter_sortScores numbers]
  marks := by
    have values : (ranked (sortScores scored)).map Ranked.value =
        ((ranked (sortScores scored)).map Ranked.score).map Prod.snd := by
      rw [List.map_map]
      rfl
    rw [values, map_score_ranked, map_outlier_ranked]

theorem Metric.ofName?_name (metric : Metric) : Metric.ofName? metric.name = some metric := by
  cases metric with
  | count c => cases c <;> decide
  | derived d => cases d <;> decide

theorem requireMetric_name (metric : Metric) : requireMetric (.text metric.name) = .ok metric := by
  rw [requireMetric, Metric.ofValue?, Metric.ofName?_name]

theorem Metric.ofName?_eq_none {name : String} (unknown : ∀ metric : Metric, metric.name ≠ name) :
    Metric.ofName? name = none :=
  List.find?_eq_none.2 fun metric _ => by simpa using unknown metric

/-- A batch with finite metrics has a ranking by every metric, of all its analysed entries and no
others. Nothing is ranked by the name of no metric, be there entries or none. -/
theorem rank_complete_stable (metric : Metric) (entries : List Entry)
    (finite : ∀ success ∈ successes entries, (success.2.get metric).isFinite = .ok true) :
    (∃ scored ranking, rank (.text metric.name) entries = .ok ranking ∧
      List.Forall₂ (Scored metric) (successes entries) scored ∧ Ranks scored ranking ∧
      ranking.length = (successes entries).length ∧
      (outliers usualMultiplier (ranking.map Ranked.value)).length = ranking.length) ∧
    ∀ name : String, (∀ metric : Metric, metric.name ≠ name) → ∀ entries,
      rank (.text name) entries = .error (.reported
        (.invalidSetting (.text "metric") (.text name) (.text "unknown Halstead metric"))) := by
  constructor
  · obtain ⟨scored, found, numbers⟩ := exists_scores finite
    have paired := scores_eq_ok.1 found
    have ranks := ranks_ranked numbers
    refine ⟨scored, _, ?_, paired, ranks, ?_, ?_⟩
    · rw [rank, requireMetric_name]
      show (liftM (scores metric entries >>= fun scored => .ok (ranked (sortScores scored))) :
        Except Problem (List Ranked)) = _
      rw [found]
      rfl
    · rw [paired.length_eq, ← ranks.perm.length_eq, List.length_map]
    · rw [length_outliers, List.length_map]
  · intro name unknown entries
    rw [rank, requireMetric, Metric.ofValue?, Metric.ofName?_eq_none unknown]
    rfl

/-- A failed entry has no place, and two files with one value keep their order. -/
theorem rank_complete_stable_tied :
    let run (vocabulary : Nat) : Run := ⟨Tally.empty, ⟨fun _ => .whole vocabulary⟩, none⟩
    let entries : List Entry := [⟨some "b", .ok (run 2)⟩,
      ⟨some "broken", .error (.missingInput (.text "file"))⟩, ⟨some "a", .ok (run 2)⟩,
      ⟨some "c", .ok (run 1)⟩]
    (∀ success ∈ successes entries,
      (success.2.get (.derived .vocabulary)).isFinite = .ok true) ∧
    ∃ ranking, rank (.text "prog_vocab") entries = .ok ranking ∧ ranking.length = 3 ∧
      ((ranking.map Ranked.score).filter fun score => score.2 == 2.0) =
        [(some "b", 2.0), (some "a", 2.0)] := by
  intro run entries
  have finite : ∀ success ∈ successes entries,
      (success.2.get (.derived .vocabulary)).isFinite = .ok true := by
    have all : successes entries = [(some "b", run 2), (some "a", run 2), (some "c", run 1)] := rfl
    rw [all]
    simp only [List.forall_mem_cons]
    exact ⟨isFinite_whole (by decide +kernel), isFinite_whole (by decide +kernel),
      isFinite_whole (by decide +kernel), nofun⟩
  obtain ⟨⟨scored, ranking, ranked, paired, ranks, length, -⟩, -⟩ :=
    rank_complete_stable (.derived .vocabulary) entries finite
  refine ⟨finite, ranking, ranked, length, ?_⟩
  have values : scores (.derived .vocabulary) entries =
      .ok [(some "b", 2.0), (some "a", 2.0), (some "c", 1.0)] := by rfl
  cases (scores_eq_ok.2 paired).symm.trans values
  rw [ranks.stable]
  decide

end CodeMetrics
