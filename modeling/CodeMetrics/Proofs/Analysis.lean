import Mathlib.Algebra.Group.Nat.Defs
import CodeMetrics.Proofs.Computation
import CodeMetrics.Proofs.Tally
import CodeMetrics.Run

/-!
# What an analysis ends with

An analysis ends with a run, with a report that the counts are degenerate, or with a fault of the
arithmetic. Which guard refuses the counts is known from the texts of the two roles alone, and so
are the whole numbers of a run.

Results:
1. `degeneracy?_ofTokens`: which guard refuses the counts of a stream.
2. `Counts.derive_eq_ok`, `Counts.derive_eq_reported`: how deriving ends.
3. `evaluate_untouched`: a formula writes nothing but its own metric.
4. `analyze_refuses_or_counts`: when an analysis is refused and why, and what a run counts.
5. `tally_additive_unordered`: tallies add up, and the order of the tokens does not show.
-/

namespace CodeMetrics

/-! ## Guards -/

namespace Counts

theorem get_ofTally_nonneg (tally : Tally) (c : Count) : 0 ≤ (ofTally tally).get c := by
  cases c <;> exact Int.natCast_nonneg _

/-- No count of a tally is negative. -/
theorem negative_ofTally (tally : Tally) :
    Count.inputs.filter (fun c => (ofTally tally).get c < 0) = [] := by
  rw [List.filter_eq_nil_iff]
  intro c _
  have nonneg := get_ofTally_nonneg tally c
  simpa using nonneg

/-- The counts of a stream are refused when one of the roles has no texts. A role that occurs has
different texts, so the last guard has nothing left to refuse. -/
theorem degeneracy?_ofTokens (policy : Policy) (tokens : List Token) :
    (ofTally (Tally.ofTokens policy tokens)).degeneracy? =
      if textsOf policy .operator tokens = [] then some .noOperators
      else if textsOf policy .operand tokens = [] then some .noOperands
      else none := by
  rw [degeneracy?, negative_ofTally, Tally.ofTokens_eq]
  simp only [ofTally, Occurrences.ofTexts, Int.natCast_eq_zero, Vocabulary.size_ofList_eq_zero,
    List.length_eq_zero_iff]
  by_cases noOperators : textsOf policy .operator tokens = []
  · rw [if_pos noOperators, if_pos noOperators]
  · by_cases noOperands : textsOf policy .operand tokens = []
    · rw [if_neg noOperators, if_neg noOperators, if_pos noOperands, if_pos noOperands]
    · simp only [noOperators, noOperands, or_self, if_false]

/-- There are two reasons to refuse the counts of a stream, and no third. -/
theorem degeneracy?_ofTokens_eq_some {policy : Policy} {tokens : List Token} {why : Degeneracy} :
    (ofTally (Tally.ofTokens policy tokens)).degeneracy? = some why ↔
      why = .noOperators ∧ textsOf policy .operator tokens = [] ∨
      why = .noOperands ∧ textsOf policy .operator tokens ≠ [] ∧
        textsOf policy .operand tokens = [] := by
  rw [degeneracy?_ofTokens]
  by_cases noOperators : textsOf policy .operator tokens = []
  · simp [noOperators, eq_comm]
  · by_cases noOperands : textsOf policy .operand tokens = []
    · simp [noOperators, noOperands, eq_comm]
    · simp [noOperators, noOperands]

theorem degeneracy?_ofTokens_eq_none {policy : Policy} {tokens : List Token} :
    (ofTally (Tally.ofTokens policy tokens)).degeneracy? = none ↔
      textsOf policy .operator tokens ≠ [] ∧ textsOf policy .operand tokens ≠ [] := by
  rw [degeneracy?_ofTokens]
  by_cases noOperators : textsOf policy .operator tokens = []
  · simp [noOperators]
  · simp [noOperators]

end Counts

/-! ## The worksheet -/

namespace Worksheet

theorem enter_self (sheet : Worksheet) (metric : Metric) (q : Quantity) :
    sheet.enter metric q metric = some q :=
  if_pos rfl

theorem enter_other {sheet : Worksheet} {metric other : Metric} {q : Quantity}
    (different : other ≠ metric) : sheet.enter metric q other = sheet other :=
  if_neg different

/-- The formulas of a list write their own results and leave all other metrics as they were. -/
theorem evaluate_untouched {formulas : List Formula} {sheet result : Worksheet} {metric : Metric}
    (evaluated : sheet.evaluate formulas = .ok result)
    (others : ∀ formula ∈ formulas, metric ≠ .derived formula.result) :
    result metric = sheet metric := by
  -- By induction on the formulas, for every sheet: the rest starts from one with an entry more.
  induction formulas generalizing sheet with
  | nil =>
      cases evaluated
      rfl
  | cons formula rest ih =>
      obtain ⟨q, _, evaluatedRest⟩ := bind_eq_ok.1 evaluated
      have different := others formula List.mem_cons_self
      have othersRest : ∀ later ∈ rest, metric ≠ .derived later.result :=
        fun later member => others later (List.mem_cons_of_mem formula member)
      rw [ih evaluatedRest othersRest, enter_other different]

/-- A formula that no later one overwrites has its result in the end. -/
theorem evaluate_head {formula : Formula} {rest : List Formula} {sheet result : Worksheet}
    (evaluated : sheet.evaluate (formula :: rest) = .ok result)
    (once : ∀ later ∈ rest, Metric.derived formula.result ≠ .derived later.result) :
    ∃ q, formula.compute sheet = .ok q ∧ result (.derived formula.result) = some q ∧
      (sheet.enter (.derived formula.result) q).evaluate rest = .ok result := by
  obtain ⟨q, computed, evaluatedRest⟩ := bind_eq_ok.1 evaluated
  refine ⟨q, computed, ?_, evaluatedRest⟩
  rw [evaluate_untouched evaluatedRest once, enter_self]

theorem value_measures {sheet : Worksheet} {d : Derived} {q : Quantity}
    (found : sheet (.derived d) = some q) : sheet.measures.value d = q :=
  congrArg (fun value : Option Quantity => value.getD (.whole 0)) found

/-- The two derived metrics that are sums of counts stay whole numbers. -/
theorem evaluate_sums {counts : Counts} {result : Worksheet}
    (evaluated : counts.worksheet.evaluate formulas = .ok result) :
    result (.derived .vocabulary) =
        some (.whole (counts.distinctOperators + counts.distinctOperands)) ∧
      result (.derived .length) = some (.whole (counts.operators + counts.operands)) := by
  obtain ⟨vocabulary, computed, found, evaluatedRest⟩ := evaluate_head evaluated (by decide)
  cases computed
  obtain ⟨length, computed, foundLength, _⟩ := evaluate_head evaluatedRest (by decide)
  cases computed
  exact ⟨found, foundLength⟩

end Worksheet

/-! ## Deriving -/

namespace Counts

theorem derive_of_degeneracy {counts : Counts} {why : Degeneracy}
    (refused : counts.degeneracy? = some why) : counts.derive = .error (counts.degenerate why) := by
  rw [derive, refused]

theorem derive_eq_ok {counts : Counts} {measures : Measures}
    (derived : counts.derive = .ok measures) :
    counts.degeneracy? = none ∧
      ∃ sheet, counts.worksheet.evaluate formulas = .ok sheet ∧ measures = sheet.measures := by
  cases guard : counts.degeneracy? with
  | some why =>
      rw [derive_of_degeneracy guard] at derived
      cases derived
  | none =>
      rw [derive, guard] at derived
      obtain ⟨sheet, evaluated, checked⟩ := bind_eq_ok.1 derived
      obtain ⟨bad, _, returned⟩ := bind_eq_ok.1 checked
      refine ⟨rfl, sheet, liftFault_eq_ok.1 evaluated, ?_⟩
      cases bad with
      | nil =>
          cases returned
          rfl
      | cons d rest => cases returned

/-- A report of degenerate counts gives the reason it was asked to give. -/
theorem degenerate_eq_reported {counts : Counts} {why : Degeneracy} {failure : Failure}
    (reported : counts.degenerate why = .reported failure) :
    ∃ shown, failure = .degenerate why shown := by
  rw [degenerate] at reported
  split at reported
  · cases reported
  · cases reported
    exact ⟨_, rfl⟩

/-- Deriving reports nothing but what a guard refuses and results that are not finite. All else
that stops it is a fault. -/
theorem derive_eq_reported {counts : Counts} {failure : Failure}
    (stopped : counts.derive = .error (.reported failure)) :
    ∃ why shown, failure = .degenerate why shown ∧
      (counts.degeneracy? = some why ∨
        counts.degeneracy? = none ∧ ∃ names, why = .notFinite names) := by
  cases guard : counts.degeneracy? with
  | some why =>
      rw [derive_of_degeneracy guard] at stopped
      obtain ⟨shown, equal⟩ := degenerate_eq_reported (Except.error.inj stopped)
      exact ⟨why, shown, equal, .inl rfl⟩
  | none =>
      rw [derive, guard] at stopped
      -- Behind the guards there are three places to stop: the formulas, the test for finiteness
      -- and the report of what is not finite.
      rcases bind_eq_error.1 stopped with escaped | ⟨sheet, _, stopped⟩
      · obtain ⟨fault, _, equal⟩ := liftFault_eq_error.1 escaped
        cases equal
      rcases bind_eq_error.1 stopped with escaped | ⟨bad, _, stopped⟩
      · obtain ⟨fault, _, equal⟩ := liftFault_eq_error.1 escaped
        cases equal
      cases bad with
      | nil => cases stopped
      | cons d rest =>
          obtain ⟨shown, equal⟩ := degenerate_eq_reported (Except.error.inj stopped)
          exact ⟨_, shown, equal, .inr ⟨rfl, _, rfl⟩⟩

end Counts

/-! ## Counts that can be written -/

theorem tooLong_natCast {n : Nat} (short : n < 10 ^ Number.digitLimit) :
    Number.tooLong n = false := by
  have notLonger : ¬ n ≥ 10 ^ Number.digitLimit := Nat.not_le.2 short
  simp only [Number.tooLong, Nat.pow_eq, Int.natAbs_natCast, notLonger, decide_false,
    Bool.and_false]

theorem length_textsOf_le (policy : Policy) (role : Role) (tokens : List Token) :
    (textsOf policy role tokens).length ≤ tokens.length := by
  rw [textsOf, List.length_map]
  exact List.length_filter_le _ tokens

/-- All counts have a text: none of them has too many digits. -/
def Counts.IsWritable (counts : Counts) : Prop :=
  ∀ count ∈ counts.toList, Number.tooLong count.2 = false

namespace Counts

variable {counts : Counts} {why : Degeneracy}

theorem degenerate_of_writable (writable : counts.IsWritable) (why : Degeneracy) :
    ∃ shown, counts.degenerate why = .reported (.degenerate why shown) := by
  refine ⟨_, if_neg ?_⟩
  rw [List.any_eq_true]
  rintro ⟨count, member, long⟩
  rw [writable count member] at long
  cases long

theorem degenerate_of_not_writable (unwritten : ¬ counts.IsWritable) (why : Degeneracy) :
    counts.degenerate why = .escaped .tooLongToWrite := by
  refine if_pos ?_
  rw [IsWritable] at unwritten
  push Not at unwritten
  obtain ⟨count, member, long⟩ := unwritten
  exact List.any_eq_true.2 ⟨count, member, Bool.of_not_eq_false long⟩

/-- What is reported could be written. -/
theorem writable_of_reported {failure : Failure}
    (reported : counts.degenerate why = .reported failure) : counts.IsWritable := by
  by_contra unwritten
  rw [degenerate_of_not_writable unwritten] at reported
  cases reported

/-- A stream of fewer than `10 ^ 4300` tokens has counts that can be written into a report. -/
theorem isWritable_of_short {policy : Policy} {tokens : List Token}
    (short : tokens.length < 10 ^ Number.digitLimit) :
    (Counts.ofTally (Tally.ofTokens policy tokens)).IsWritable := by
  have total (role : Role) : (textsOf policy role tokens).length < 10 ^ Number.digitLimit :=
    Nat.lt_of_le_of_lt (length_textsOf_le policy role tokens) short
  have distinct (role : Role) :
      (Vocabulary.ofList (textsOf policy role tokens)).size < 10 ^ Number.digitLimit := by
    rw [Vocabulary.size_ofList]
    exact Nat.lt_of_le_of_lt (List.toFinset_card_le _) (total role)
  rw [IsWritable, Tally.ofTokens_eq]
  simp only [Counts.toList, Count.inputs, Counts.ofTally, Occurrences.ofTexts, List.map_cons,
    List.map_nil, List.forall_mem_cons, Counts.get, tooLong_natCast (total _),
    tooLong_natCast (distinct _)]
  simp

end Counts

/-! ## Runs -/

/-- The outcome is a report of degenerate counts, for this reason. -/
def RefusedFor (why : Degeneracy) (outcome : Except Problem Run) : Prop :=
  ∃ shown, outcome = .error (.reported (.degenerate why shown))

/-- The whole numbers of a run are those of two lists of texts. -/
structure Run.Tallies (run : Run) (operators operands : List Snippet) : Prop where
  operators_total : run.get (.count .operators) = .whole operators.length
  operands_total : run.get (.count .operands) = .whole operands.length
  operators_distinct : run.get (.count .distinctOperators) = .whole operators.toFinset.card
  operands_distinct : run.get (.count .distinctOperands) = .whole operands.toFinset.card
  operators_range : 1 ≤ operators.toFinset.card ∧ operators.toFinset.card ≤ operators.length
  operands_range : 1 ≤ operands.toFinset.card ∧ operands.toFinset.card ≤ operands.length
  vocabulary_sum : run.get (.derived .vocabulary) =
    .whole (operators.toFinset.card + operands.toFinset.card : Nat)
  length_sum : run.get (.derived .length) = .whole (operators.length + operands.length : Nat)

theorem card_range {texts : List Snippet} (occurs : texts ≠ []) :
    1 ≤ texts.toFinset.card ∧ texts.toFinset.card ≤ texts.length := by
  refine ⟨?_, List.toFinset_card_le texts⟩
  rw [Nat.one_le_iff_ne_zero, Ne, Finset.card_eq_zero, List.toFinset_eq_empty_iff]
  exact occurs

theorem analyze_outcome (policy : Policy) (source : Option String) (tokens : List Token) :
    (analyze policy source (some tokens)).outcome = (Tally.ofTokens policy tokens).run source :=
  Trace.outcome_log_bind _ _ _ _

/-- The four counts of a stream, from the texts of its roles. -/
theorem get_ofTokens (policy : Policy) (tokens : List Token) :
    let tally := Tally.ofTokens policy tokens
    tally.get .operators = (textsOf policy .operator tokens).length ∧
      tally.get .operands = (textsOf policy .operand tokens).length ∧
      tally.get .distinctOperators = (textsOf policy .operator tokens).toFinset.card ∧
      tally.get .distinctOperands = (textsOf policy .operand tokens).toFinset.card := by
  rw [Tally.ofTokens_eq]
  exact ⟨rfl, rfl, Vocabulary.size_ofList _, Vocabulary.size_ofList _⟩

/-- A run of a stream counts the texts of its roles. -/
theorem tallies_of_run {policy : Policy} {source : Option String} {tokens : List Token} {run : Run}
    (ended : (Tally.ofTokens policy tokens).run source = .ok run) :
    run.Tallies (textsOf policy .operator tokens) (textsOf policy .operand tokens) := by
  obtain ⟨measures, derived, returned⟩ := bind_eq_ok.1 ended
  cases returned
  obtain ⟨accepted, sheet, evaluated, rfl⟩ := Counts.derive_eq_ok derived
  obtain ⟨someOperators, someOperands⟩ := Counts.degeneracy?_ofTokens_eq_none.1 accepted
  obtain ⟨vocabulary, length⟩ := Worksheet.evaluate_sums evaluated
  obtain ⟨operators, operands, distinctOperators, distinctOperands⟩ := get_ofTokens policy tokens
  exact {
    operators_total := congrArg (Quantity.whole ∘ Nat.cast) operators
    operands_total := congrArg (Quantity.whole ∘ Nat.cast) operands
    operators_distinct := congrArg (Quantity.whole ∘ Nat.cast) distinctOperators
    operands_distinct := congrArg (Quantity.whole ∘ Nat.cast) distinctOperands
    operators_range := card_range someOperators
    operands_range := card_range someOperands
    vocabulary_sum := by
      rw [← distinctOperators, ← distinctOperands]
      exact Worksheet.value_measures vocabulary
    length_sum := by
      rw [← operators, ← operands]
      exact Worksheet.value_measures length }

theorem run_of_degeneracy {tally : Tally} {why : Degeneracy}
    (refused : (Counts.ofTally tally).degeneracy? = some why) (source : Option String) :
    tally.run source = .error ((Counts.ofTally tally).degenerate why) :=
  bind_eq_error.2 (.inl (Counts.derive_of_degeneracy refused))

/-- A run that is refused is refused by a guard, or for results that are not finite. -/
theorem degeneracy?_of_refusedFor {tally : Tally} {source : Option String} {why : Degeneracy}
    (refused : RefusedFor why (tally.run source)) :
    (Counts.ofTally tally).degeneracy? = some why ∨ ∃ names, why = .notFinite names := by
  obtain ⟨shown, stopped⟩ := refused
  rcases bind_eq_error.1 stopped with derived | ⟨measures, _, returned⟩
  · obtain ⟨other, _, equal, guard⟩ := Counts.derive_eq_reported derived
    cases equal
    exact guard.imp_right And.right
  · cases returned

/-- When an analysis is refused, and what it counts when it is not. The two guards about empty
roles are the only ones that ever refuse a stream, and what they report is the outcome. A report
writes the counts down: where one of them has no text, a fault takes the place of the report. Every
stream of fewer than `10 ^ 4300` tokens has counts with texts. -/
theorem analyze_refuses_or_counts (policy : Policy) (source : Option String)
    (tokens : List Token) :
    let operators := textsOf policy .operator tokens
    let operands := textsOf policy .operand tokens
    let counts := Counts.ofTally (Tally.ofTokens policy tokens)
    let outcome := (analyze policy source (some tokens)).outcome
    (counts.degeneracy? = some .noOperators ↔ operators = []) ∧
      (counts.degeneracy? = some .noOperands ↔ operators ≠ [] ∧ operands = []) ∧
      (∀ names, counts.degeneracy? ≠ some (.negative names)) ∧
      counts.degeneracy? ≠ some .noOccurrences ∧
      (∀ why, counts.degeneracy? = some why → outcome = .error (counts.degenerate why)) ∧
      (∀ why, RefusedFor why outcome →
        counts.degeneracy? = some why ∨ ∃ names, why = .notFinite names) ∧
      (RefusedFor .noOperators outcome ↔ operators = [] ∧ counts.IsWritable) ∧
      (RefusedFor .noOperands outcome ↔
        (operators ≠ [] ∧ operands = []) ∧ counts.IsWritable) ∧
      (¬ counts.IsWritable → counts.degeneracy? ≠ none →
        outcome = .error (.escaped .tooLongToWrite)) ∧
      (tokens.length < 10 ^ Number.digitLimit → counts.IsWritable) ∧
      ∀ run, outcome = .ok run → run.Tallies operators operands := by
  intro operators operands counts outcome
  have guard (why : Degeneracy) : counts.degeneracy? = some why ↔
      why = .noOperators ∧ operators = [] ∨
      why = .noOperands ∧ operators ≠ [] ∧ operands = [] :=
    Counts.degeneracy?_ofTokens_eq_some
  have noOperators : counts.degeneracy? = some .noOperators ↔ operators = [] := by simp [guard]
  have noOperands : counts.degeneracy? = some .noOperands ↔ operators ≠ [] ∧ operands = [] := by
    simp [guard]
  have outcome_eq : outcome = (Tally.ofTokens policy tokens).run source :=
    analyze_outcome policy source tokens
  have raises (why : Degeneracy) (refused : counts.degeneracy? = some why) :
      outcome = .error (counts.degenerate why) :=
    outcome_eq.trans (run_of_degeneracy refused source)
  have raised (why : Degeneracy) (refused : RefusedFor why outcome) :
      counts.degeneracy? = some why ∨ ∃ names, why = .notFinite names :=
    degeneracy?_of_refusedFor (outcome_eq ▸ refused)
  -- Behind a guard the report is the outcome, if it can be written.
  have reports (why : Degeneracy) (finite : ∀ names, why ≠ .notFinite names) :
      RefusedFor why outcome ↔ counts.degeneracy? = some why ∧ counts.IsWritable := by
    constructor
    · intro refused
      rcases raised why refused with guarded | ⟨names, equal⟩
      · obtain ⟨shown, stopped⟩ := refused
        rw [raises why guarded] at stopped
        exact ⟨guarded, Counts.writable_of_reported (Except.error.inj stopped)⟩
      · exact absurd equal (finite names)
    · rintro ⟨guarded, writable⟩
      obtain ⟨shown, written⟩ := Counts.degenerate_of_writable writable why
      exact ⟨shown, (raises why guarded).trans (congrArg Except.error written)⟩
  refine ⟨noOperators, noOperands, ?_, ?_, raises, raised, ?_, ?_, ?_, Counts.isWritable_of_short,
    ?_⟩
  · intro names
    simp [guard]
  · simp [guard]
  · exact (reports _ (by simp)).trans (and_congr_left' noOperators)
  · exact (reports _ (by simp)).trans (and_congr_left' noOperands)
  · intro unwritten refused
    obtain ⟨why, guarded⟩ := Option.ne_none_iff_exists'.1 refused
    rw [raises why guarded, Counts.degenerate_of_not_writable unwritten]
  · intro run ended
    exact tallies_of_run (outcome_eq ▸ ended)

/-! ## Logging -/

theorem quiet_tokenize (lexers : Lexers) (code : Snippet) (fileName : Option String)
    (asked : Value) : (tokenize lexers code fileName asked).Quiet := by
  refine Trace.quiet_bind (Trace.quiet_ofOutcome _) fun lexer => Trace.quiet_bind rfl fun _ => ?_
  cases lexer.lexemes code with
  | error reason => rfl
  | ok lexemes => rfl

theorem quiet_analyzeTokens (policy : Policy) (source : Option String) (tokens : List Token) :
    (analyzeTokens policy source tokens).Quiet :=
  Trace.quiet_bind rfl fun _ => Trace.quiet_ofOutcome _

/-! ## Order -/

/-- An analysis looks at the tokens through their tally only. -/
theorem analyze_congr {policy : Policy} {tokens others : List Token}
    (same : Tally.ofTokens policy tokens = Tally.ofTokens policy others)
    (source : Option String) :
    analyze policy source (some tokens) = analyze policy source (some others) := by
  rw [analyze, analyze, analyzeTokens, analyzeTokens, same]

/-- The tally of two streams is made of their two tallies: the totals are added, and the texts are
united. A stream in another order has the same tally, and so an analysis of it ends with the same
run or is stopped by the same problem, and logs the same. -/
theorem tally_additive_unordered (policy : Policy) (tokens others : List Token) :
    let first := Tally.ofTokens policy tokens
    let second := Tally.ofTokens policy others
    let both := Tally.ofTokens policy (tokens ++ others)
    (both.operators.total = first.operators.total + second.operators.total ∧
      both.operands.total = first.operands.total + second.operands.total ∧
      both.operators.vocabulary.toFinset =
        first.operators.vocabulary.toFinset ∪ second.operators.vocabulary.toFinset ∧
      both.operands.vocabulary.toFinset =
        first.operands.vocabulary.toFinset ∪ second.operands.vocabulary.toFinset) ∧
    (tokens.Perm others →
      first = second ∧
      ∀ source, analyze policy source (some tokens) = analyze policy source (some others)) := by
  intro first second both
  have united : both = first.union second := Tally.ofTokens_append policy tokens others
  refine ⟨?_, fun reordered => ?_⟩
  · rw [united]
    exact ⟨rfl, rfl, Vocabulary.toFinset_union _ _, Vocabulary.toFinset_union _ _⟩
  · have same : first = second := Tally.ofTokens_perm reordered
    exact ⟨same, analyze_congr same⟩

end CodeMetrics
