import CodeMetrics.Proofs.Limits
import CodeMetrics.Proofs.Reporting

/-!
# What an accepted precision is good for

The number of places of all figures is a setting. It is checked by its place among the integers,
which doubles and switches have as well; but figures can only be written with an integer. So
settings are accepted with which no double can be written.

Results:
1. `accepted_of_load`: what settings that are loaded ask for.
2. `load_precision`: what can be written with it.
3. `load_precision_unusable`: settings that are accepted, and write no double.
-/

namespace CodeMetrics

namespace Settings

open Report
open Number (mostAsked)

variable {settings : Settings} {host : Host} {overrides : Layer} {named : Option Path}
  {precision : Value}

theorem atMost_int {m n : Int} : atMost m (.int n) = true ↔ n ≤ m := by
  rw [atMost, compareTo, Bool.or_eq_true, beq_iff_eq, beq_iff_eq, Option.some.injEq,
    Option.some.injEq, Option.some.injEq, Option.some.injEq, compare_lt_iff_lt, compare_eq_iff_eq]
  omega

/-- What passes the check is nothing, or has a place among the integers. -/
theorem accepted_of_checkPrecision {value checked : Value}
    (passed : checkPrecision value = .ok checked) : value = .null ∨ Accepted value := by
  cases value with
  | null => exact .inl rfl
  | bool b => exact .inr (.bool b)
  | real x => exact .inr (.real x)
  | int n =>
      have within : (atLeast 0 (.int n) && atMost mostAsked (.int n)) = true := by
        by_contra outside
        cases (if_neg outside).symm.trans passed
      rw [Bool.and_eq_true, atLeast_int, atMost_int] at within
      obtain ⟨size, rfl⟩ := Int.eq_ofNat_of_zero_le within.1
      exact .inr (.places (Int.ofNat_le.1 within.2))
  | text | torn | moment | list | table => cases passed

theorem accepted_of_load (loaded : load host named overrides = .ok settings)
    (asked : precision = settings.reportPrecision ∨ precision = settings.rankingPrecision) :
    Accepted precision := by
  obtain ⟨_, _, _, _, -, -, -, -, accepted⟩ := load_eq_ok loaded
  have member : Field.precision ∈ Field.checked := by decide
  obtain ⟨checked, passed⟩ := exists_of_stop? (refusal?_of_accepted accepted member)
  have given : settings.precision = .null ∨ Accepted settings.precision :=
    accepted_of_checkPrecision passed
  rw [reportPrecision, rankingPrecision] at asked
  split at asked
  · rcases asked with rfl | rfl
    · exact .places (n := 2) (by decide)
    · exact .places (n := 4) (by decide)
  · next value unlike =>
    cases or_self_iff.1 asked
    exact given.resolve_left unlike

/-- With the precisions of settings that are loaded, figures and reports are written if these are
numbers of places, or if no double is to be written. Documents have no use for a precision, and only
have to have a form for what is in them. A console has to draw what can be drawn. -/
theorem load_precision (loaded : load host named overrides = .ok settings)
    (asked : precision = settings.reportPrecision ∨ precision = settings.rankingPrecision) :
    Accepted precision ∧
    (∀ q : Quantity, q.isFinite = .ok true →
      ((∃ text, figure precision q.toValue = .ok text) ↔
        (∃ n, q = .whole n) ∨ Places precision)) ∧
    (∀ (console : Console) (layout : Layout) (entries : List Entry), console.Draws →
      (∀ entry ∈ entries, Legible entry) →
      ((∃ text, reportOn console layout precision entries >>= Parts.text = .ok text) ↔
        (layout = .json ∧ ∀ entry ∈ entries, HasForm entry.outcome) ∨
          layout ≠ .json ∧ ((∀ entry ∈ entries, IsWhole entry) ∨ Places precision))) ∧
    (∀ (console : Console) (layout : Layout) (metric : Metric) (ranking : List Ranked)
      (distribution : Option (Statistics.Summary Float)), console.Draws →
      (∀ ranked ∈ ranking, IsListed ranked) → IsCounted distribution →
      ((∃ text, rankingOn console layout precision (.text metric.name)
          (ranking.map Ranked.standing) distribution >>= Parts.text = .ok text) ↔
        layout = .json ∨ ranking = [] ∨ Places precision)) := by
  have accepted := accepted_of_load loaded asked
  exact ⟨accepted, fun q finite => figure_iff accepted finite,
    fun console layout entries draws legible => report_iff accepted legible draws layout,
    fun console layout metric ranking distribution draws listed counted =>
      ranking_iff accepted listed draws counted layout⟩

/-- With three places everything is written. -/
theorem load_precision_three :
    ∃ settings, load (projectMachine "precision = 3".toUTF8.toList []) none [] = .ok settings ∧
      ∀ (layout : Layout) (entries : List Entry), (∀ entry ∈ entries, Legible entry) →
        (∀ entry ∈ entries, HasForm entry.outcome) →
        ∃ text, Report.report layout settings.reportPrecision entries >>= Parts.text =
          .ok text := by
  obtain ⟨settings, loaded, places⟩ : ∃ settings,
      load (projectMachine "precision = 3".toUTF8.toList []) none [] = .ok settings ∧
        decide (Places settings.reportPrecision) = true := exists_of_any (by decide +kernel)
  refine ⟨settings, loaded, fun layout entries legible formed => ?_⟩
  refine ((load_precision loaded (.inl rfl)).2.2.1 .recorder layout entries
    (Console.draws_plain _) legible).2 ?_
  by_cases document : layout = .json
  · exact .inl ⟨document, formed⟩
  · exact .inr ⟨document, .inr (of_decide_eq_true places)⟩

/-- No double is written with a precision that is no number of places. -/
theorem exists_fault (loaded : load host named overrides = .ok settings)
    (unusable : ¬ Places settings.reportPrecision) (x : Float) :
    ∃ fault, figure settings.reportPrecision (.real x) = .error fault :=
  fixed_of_not_places (accepted_of_load loaded (.inl rfl)) unusable x

/-- A switch and a fraction are accepted as precisions, and no double is written with them. -/
theorem load_precision_unusable :
    (∃ settings, load (projectMachine "precision = true".toUTF8.toList []) none [] = .ok settings ∧
      ∀ x, ∃ fault, figure settings.reportPrecision (.real x) = .error fault) ∧
    (∃ settings, load (projectMachine "precision = 2.5".toUTF8.toList []) none [] = .ok settings ∧
      ∀ x, ∃ fault, figure settings.reportPrecision (.real x) = .error fault) := by
  have accepted {document : String}
      (unusable : (load (projectMachine document.toUTF8.toList []) none []).toOption.any
        (fun settings => decide ¬ Places settings.reportPrecision) = true) :
      ∃ settings, load (projectMachine document.toUTF8.toList []) none [] = .ok settings ∧
        ∀ x, ∃ fault, figure settings.reportPrecision (.real x) = .error fault := by
    obtain ⟨settings, loaded, unusable⟩ := exists_of_any unusable
    exact ⟨settings, loaded, exists_fault loaded (of_decide_eq_true unusable)⟩
  exact ⟨accepted (by decide +kernel), accepted (by decide +kernel)⟩

end Settings

end CodeMetrics
