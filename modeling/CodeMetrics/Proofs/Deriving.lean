import CodeMetrics.Proofs.Analysis
import CodeMetrics.Proofs.Nearest

/-!
# What stops the formulas

The formulas are tried on counts that no guard refuses, and not all of these have metrics: a count
may be beyond the doubles, a difficulty may vanish when it is squared, and a power may be infinite.
None of this is reported as degenerate. The counts and two doubles decide it, in the order in which
the formulas come to it.

Results:
1. `realOfInt_of_fits`, `quotient_of_fits`: what becomes a double.
2. `endsBy_late`: how the formulas end that divide by the difficulty.
3. `evaluate_of_beyond`: counts beyond the doubles stop the formulas before any power is taken.
4. `endsBy_of_fit`: other counts reach the formulas that divide by the difficulty.
5. `derive_eq_escaped`: when deriving ends with a fault, and with which.
6. `derive_ends`: deriving ends with finite metrics, with a report, or with one of these faults.
7. `derive_not_reported`: counts that are not degenerate and have no metrics.
-/

namespace CodeMetrics

open Number (firstBeyond)

/-! ## Quantities -/

theorem realOfInt_of_fits {n : Int} (fits : n.natAbs < firstBeyond) :
    realOfInt n = .ok (Number.ofInt n) := by
  refine if_neg fun beyond => ?_
  rw [Number.isBeyond_iff Nat.one_pos, Nat.mul_one] at beyond
  exact absurd beyond (Nat.not_le.2 fits)

theorem realOfInt_of_beyond {n : Int} (beyond : firstBeyond ≤ n.natAbs) :
    realOfInt n = .error .integerTooLarge := by
  refine if_pos ?_
  rwa [Number.isBeyond_iff Nat.one_pos, Nat.mul_one]

/-- A quotient of whole numbers is a double if the first of them is close to one. -/
theorem quotient_of_fits {a b : Int} (dividend : 0 < a) (divisor : 0 < b)
    (fits : a.natAbs < firstBeyond) :
    quotient a b = .ok (Number.nearest a.natAbs b.natAbs) := by
  have within : ¬ Number.isBeyond a.natAbs b.natAbs = true := fun beyond => by
    have whole := Number.isBeyond_mono le_rfl (by omega) Nat.one_pos beyond
    rw [Number.isBeyond_iff Nat.one_pos, Nat.mul_one] at whole
    exact absurd whole (Nat.not_le.2 fits)
  rw [quotient, if_neg divisor.ne', if_neg within, if_pos]
  simp [Int.not_lt.2 dividend.le, Int.not_lt.2 divisor.le]

theorem Quantity.add_real (x y : Float) : (real x).add (real y) = .ok (.real (x + y)) := rfl

theorem Quantity.mul_real (x y : Float) : (real x).mul (real y) = .ok (.real (x * y)) := rfl

theorem Quantity.toReal_real (x : Float) : (Quantity.real x).toReal = .ok x := rfl

/-- A quantity that has a double is divided by a double as one. -/
theorem Quantity.div_real {q : Quantity} {x : Float} (value : q.toReal = .ok x) (y : Float) :
    q.div (.real y) = if y == 0.0 then .error .divisionByZero else .ok (.real (x / y)) := by
  have asReals : q.div (.real y) = q.toReal >>= fun x =>
      if y == 0.0 then .error .divisionByZero else .ok (.real (x / y)) := by
    cases q <;> rfl
  rw [asReals, value, bind_ok]

/-- The numbers that formulas divide by are no zeros. -/
theorem Quantity.real_div_of_fits {x : Float} {n : Int} (fits : n.natAbs < firstBeyond)
    (nonzero : (Number.ofInt n == 0.0) = false) :
    (Quantity.real x).div (.whole n) = .ok (.real (x / Number.ofInt n)) := by
  simp only [div, toReal, bind_ok, realOfInt_of_fits fits, nonzero]
  rfl

/-- The two metrics that the late formulas start from. -/
structure Worksheet.HasBasis (sheet : Worksheet) (difficulty volume : Float) : Prop where
  difficulty_eq : sheet (.derived .difficulty) = some (.real difficulty)
  volume_eq : sheet (.derived .volume) = some (.real volume)

namespace Formula

theorem timesLog_of_fits {n : Int} (positive : 0 < n) (fits : n.natAbs < firstBeyond) :
    timesLog (.whole n) = .ok (.real (Number.ofInt n * log2OfNat n.toNat)) := by
  rw [timesLog, Quantity.log2, if_neg (Int.not_le.2 positive)]
  show (realOfInt n >>= fun x => Except.ok (Quantity.real (x * log2OfNat n.toNat))) = _
  rw [realOfInt_of_fits fits]
  rfl

theorem timesLog_of_beyond {n : Int} (positive : 0 < n) (beyond : firstBeyond ≤ n.natAbs) :
    timesLog (.whole n) = .error .integerTooLarge := by
  rw [timesLog, Quantity.log2, if_neg (Int.not_le.2 positive)]
  show (realOfInt n >>= fun x => Except.ok (Quantity.real (x * log2OfNat n.toNat))) = _
  rw [realOfInt_of_beyond beyond]
  rfl

theorem estimatedLength_of_fits {sheet : Worksheet} {a b : Int}
    (reads : sheet n1 = some (.whole a) ∧ sheet n2 = some (.whole b))
    (positive : 0 < a ∧ 0 < b) (fits : a.natAbs < firstBeyond ∧ b.natAbs < firstBeyond) :
    ∃ x, estimatedLength.compute sheet = .ok (.real x) := by
  simp only [estimatedLength, Worksheet.read, reads, bind_ok,
    timesLog_of_fits positive.1 fits.1, timesLog_of_fits positive.2 fits.2, Quantity.add_real]
  exact ⟨_, rfl⟩

theorem estimatedLength_of_beyond {sheet : Worksheet} {a b : Int}
    (reads : sheet n1 = some (.whole a) ∧ sheet n2 = some (.whole b))
    (positive : 0 < a ∧ 0 < b)
    (beyond : firstBeyond ≤ a.natAbs ∨ firstBeyond ≤ b.natAbs) :
    estimatedLength.compute sheet = .error .integerTooLarge := by
  simp only [estimatedLength, Worksheet.read, reads, bind_ok]
  rcases Nat.lt_or_ge a.natAbs firstBeyond with fits | beyondFirst
  · rw [timesLog_of_fits positive.1 fits, bind_ok,
      timesLog_of_beyond positive.2 (beyond.resolve_left (Nat.not_le.2 fits))]
    rfl
  · rw [timesLog_of_beyond positive.1 beyondFirst]
    rfl

theorem volume_compute {sheet : Worksheet} {length vocabulary : Int}
    (reads : sheet (.derived .length) = some (.whole length) ∧
      sheet (.derived .vocabulary) = some (.whole vocabulary)) (positive : 0 < vocabulary) :
    volume.compute sheet =
      realOfInt length >>= fun x => .ok (.real (x * log2OfNat vocabulary.toNat)) := by
  simp only [volume, Worksheet.read, reads, bind_ok, Quantity.log2, if_neg (Int.not_le.2 positive)]
  rfl

theorem minimumVolume_compute {sheet : Worksheet} {vocabulary : Int}
    (reads : sheet (.derived .vocabulary) = some (.whole vocabulary)) :
    minimumVolume.compute sheet = realOfInt vocabulary >>= fun x => .ok (.real x) := by
  simp only [minimumVolume, Worksheet.read, reads, bind_ok]
  rfl

theorem difficulty_of_fits {sheet : Worksheet} {a b c : Int}
    (reads : sheet n1 = some (.whole a) ∧ sheet N2 = some (.whole b) ∧ sheet n2 = some (.whole c))
    (positive : 0 < a ∧ 0 < b ∧ 0 < c)
    (fits : a.natAbs < firstBeyond ∧ b.natAbs < firstBeyond) :
    difficulty.compute sheet =
      .ok (.real (Number.nearest a.natAbs 2 * Number.nearest b.natAbs c.natAbs)) := by
  simp only [difficulty, Worksheet.read, reads, bind_ok, Quantity.div,
    quotient_of_fits positive.1 (by decide : (0 : Int) < 2) fits.1,
    quotient_of_fits positive.2.1 positive.2.2 fits.2]
  exact Quantity.mul_real _ _

section Late

variable {sheet : Worksheet} {difficulty volume effort : Float}

theorem level_compute (reads : sheet (.derived .difficulty) = some (.real difficulty)) :
    level.compute sheet =
      if difficulty == 0.0 then .error .divisionByZero
      else .ok (.real (Number.ofInt 1 / difficulty)) := by
  have one : (Quantity.whole 1).toReal = .ok (Number.ofInt 1) :=
    realOfInt_of_fits (by decide +kernel)
  simp only [level, Worksheet.read, reads, bind_ok, Quantity.div_real one]

theorem languageLevel_compute (reads : sheet.HasBasis difficulty volume) :
    languageLevel.compute sheet = realPower difficulty 2.0 >>= fun square =>
      if square == 0.0 then .error .divisionByZero else .ok (.real (volume / square)) := by
  simp only [languageLevel, Worksheet.read, reads.difficulty_eq, reads.volume_eq, bind_ok,
    Quantity.square]
  cases realPower difficulty 2.0 with
  | error fault => rfl
  | ok square => exact Quantity.div_real (Quantity.toReal_real volume) square

theorem intelligence_compute (reads : sheet.HasBasis difficulty volume)
    (nonzero : (difficulty == 0.0) = false) :
    intelligence.compute sheet = .ok (.real (volume / difficulty)) := by
  simp only [intelligence, Worksheet.read, reads.difficulty_eq, reads.volume_eq, bind_ok,
    Quantity.div_real (Quantity.toReal_real volume), nonzero]
  rfl

theorem effort_compute (reads : sheet.HasBasis difficulty volume) :
    Formula.effort.compute sheet = .ok (.real (difficulty * volume)) := by
  simp only [Formula.effort, Worksheet.read, reads.difficulty_eq, reads.volume_eq, bind_ok,
    Quantity.mul_real]

theorem time_compute (reads : sheet (.derived .effort) = some (.real effort)) :
    time.compute sheet = .ok (.real (effort / Number.ofInt stroudNumber)) := by
  simp only [time, Worksheet.read, reads, bind_ok]
  exact Quantity.real_div_of_fits (by decide +kernel) (by decide +kernel)

theorem bugs_compute (reads : sheet (.derived .effort) = some (.real effort)) :
    bugs.compute sheet = realPower effort (2.0 / 3.0) >>= fun power =>
      .ok (.real (power / Number.ofInt bugsDivisor)) := by
  simp only [bugs, Worksheet.read, reads, bind_ok, Quantity.power, Quantity.toReal_real]
  cases realPower effort (2.0 / 3.0) with
  | error fault => rfl
  | ok power =>
      have divisor : bugsDivisor.natAbs < firstBeyond := by decide +kernel
      exact Quantity.real_div_of_fits divisor (by decide +kernel)

end Late

end Formula

/-! ## Worksheets -/

namespace Worksheet

variable {sheet : Worksheet} {formula : Formula} {rest : List Formula}

theorem evaluate_cons {q : Quantity} (computed : formula.compute sheet = .ok q) :
    sheet.evaluate (formula :: rest) =
      (sheet.enter (.derived formula.result) q).evaluate rest := by
  rw [evaluate, computed, bind_ok]

theorem evaluate_stop {fault : Fault} (stopped : formula.compute sheet = .error fault) :
    sheet.evaluate (formula :: rest) = .error fault := by
  rw [evaluate, stopped]
  rfl

/-- Every value on the sheet has a double. -/
def HasDoubles (sheet : Worksheet) : Prop :=
  ∀ metric q, sheet metric = some q → ∃ x, q.toReal = .ok x

theorem HasDoubles.enter {q : Quantity} {x : Float} (doubles : sheet.HasDoubles)
    (value : q.toReal = .ok x) (metric : Metric) : (sheet.enter metric q).HasDoubles := by
  intro other found read
  by_cases same : other = metric
  · rw [same, enter_self] at read
    cases read
    exact ⟨x, value⟩
  · rw [enter_other same] at read
    exact doubles other found read

end Worksheet

/-- The formulas that divide by the difficulty, or use what does. -/
def lateFormulas : List Formula :=
  [.level, .languageLevel, .intelligence, .effort, .time, .bugs]

/-- What stops the late formulas, if anything does: a difficulty that is zero, alone or squared, or
a power that is infinite. -/
def lateFault? (difficulty volume : Float) : Option Fault :=
  if difficulty == 0.0 then some .divisionByZero
  else
    match realPower difficulty 2.0 with
    | .error fault => some fault
    | .ok square =>
        if square == 0.0 then some .divisionByZero
        else
          match realPower (difficulty * volume) (2.0 / 3.0) with
          | .error fault => some fault
          | .ok _ => none

namespace Worksheet

/-- The formulas fill the sheet with values that have doubles, or the fault stops them. -/
def EndsBy (sheet : Worksheet) (formulas : List Formula) (fault? : Option Fault) : Prop :=
  match fault? with
  | some fault => sheet.evaluate formulas = .error fault
  | none => ∃ result, sheet.evaluate formulas = .ok result ∧ result.HasDoubles

variable {sheet : Worksheet} {formula : Formula} {rest : List Formula} {fault? : Option Fault}

theorem HasBasis.enter {difficulty volume : Float} {metric : Metric}
    (basis : sheet.HasBasis difficulty volume) (q : Quantity)
    (others : metric ≠ .derived .difficulty ∧ metric ≠ .derived .volume) :
    (sheet.enter metric q).HasBasis difficulty volume :=
  ⟨(enter_other others.1.symm).trans basis.difficulty_eq,
    (enter_other others.2.symm).trans basis.volume_eq⟩

/-- A formula with a value leaves the end to the others. -/
theorem EndsBy.cons {q : Quantity} {x : Float} (doubles : sheet.HasDoubles)
    (computed : formula.compute sheet = .ok q) (value : q.toReal = .ok x)
    (ends : (sheet.enter (.derived formula.result) q).HasDoubles →
      (sheet.enter (.derived formula.result) q).EndsBy rest fault?) :
    sheet.EndsBy (formula :: rest) fault? := by
  have endsRest := ends (doubles.enter value _)
  cases fault? with
  | some fault => exact (evaluate_cons computed).trans endsRest
  | none =>
      obtain ⟨result, evaluated, kept⟩ := endsRest
      exact ⟨result, (evaluate_cons computed).trans evaluated, kept⟩

theorem EndsBy.stop {fault : Fault} (stopped : formula.compute sheet = .error fault) :
    sheet.EndsBy (formula :: rest) (some fault) :=
  evaluate_stop stopped

theorem EndsBy.nil (doubles : sheet.HasDoubles) : sheet.EndsBy [] none := ⟨sheet, rfl, doubles⟩

theorem endsBy_effort {difficulty volume : Float} (basis : sheet.HasBasis difficulty volume)
    (doubles : sheet.HasDoubles) :
    sheet.EndsBy [.effort, .time, .bugs]
      (match realPower (difficulty * volume) (2.0 / 3.0) with
        | .error fault => some fault
        | .ok _ => none) := by
  refine .cons doubles (Formula.effort_compute basis) rfl fun doubles => ?_
  have known := enter_self sheet (.derived .effort) (.real (difficulty * volume))
  refine .cons doubles (Formula.time_compute known) rfl fun doubles => ?_
  have apart : Metric.derived .effort ≠ .derived Formula.time.result := by decide
  have kept := (@enter_other _ _ _
    (.real (difficulty * volume / Number.ofInt Formula.stroudNumber)) apart).trans known
  have bugs := Formula.bugs_compute kept
  cases powered : realPower (difficulty * volume) (2.0 / 3.0) with
  | error fault =>
      rw [powered] at bugs
      exact .stop bugs
  | ok power =>
      rw [powered, bind_ok] at bugs
      exact .cons doubles bugs rfl .nil

/-- What stops the late formulas on a sheet with a difficulty and a volume. -/
theorem endsBy_late {difficulty volume : Float} (basis : sheet.HasBasis difficulty volume)
    (doubles : sheet.HasDoubles) :
    sheet.EndsBy lateFormulas (lateFault? difficulty volume) := by
  rw [lateFault?]
  have level := Formula.level_compute basis.difficulty_eq
  by_cases zero : (difficulty == 0.0) = true
  · rw [if_pos zero] at level ⊢
    exact .stop level
  rw [if_neg zero] at level ⊢
  refine .cons doubles level rfl fun doubles => ?_
  have basis := basis.enter (.real (Number.ofInt 1 / difficulty))
    (by decide : Metric.derived Formula.level.result ≠ .derived .difficulty ∧ _)
  have languageLevel := Formula.languageLevel_compute basis
  cases squared : realPower difficulty 2.0 with
  | error fault =>
    rw [squared] at languageLevel
    exact .stop languageLevel
  | ok square =>
    rw [squared, bind_ok] at languageLevel
    dsimp only
    by_cases vanished : (square == 0.0) = true
    · rw [if_pos vanished] at languageLevel ⊢
      exact .stop languageLevel
    rw [if_neg vanished] at languageLevel ⊢
    refine .cons doubles languageLevel rfl fun doubles => ?_
    have basis := basis.enter (.real (volume / square))
      (by decide : Metric.derived Formula.languageLevel.result ≠ .derived .difficulty ∧ _)
    refine .cons doubles (Formula.intelligence_compute basis (Bool.eq_false_iff.2 zero)) rfl
      fun doubles => ?_
    have basis := basis.enter (.real (volume / difficulty))
      (by decide : Metric.derived Formula.intelligence.result ≠ .derived .difficulty ∧ _)
    exact endsBy_effort basis doubles

end Worksheet

/-! ## Counts -/

namespace Counts

theorem forall_count {p : Count → Prop} :
    (∀ c, p c) ↔
      p .distinctOperators ∧ p .distinctOperands ∧ p .operators ∧ p .operands := by
  refine ⟨fun all => ⟨all _, all _, all _, all _⟩, fun all c => ?_⟩
  obtain ⟨distinctOperators, distinctOperands, operators, operands⟩ := all
  cases c <;> assumption

/-- No guard refuses positive counts, and one refuses all others. -/
theorem degeneracy?_eq_none {counts : Counts} :
    counts.degeneracy? = none ↔ ∀ c, 0 < counts.get c := by
  have listed : Count.inputs.filter (fun c => counts.get c < 0) = [] ↔
      ∀ c, ¬ counts.get c < 0 := by
    simp only [List.filter_eq_nil_iff, decide_eq_true_eq]
    exact ⟨fun nonneg c => nonneg c (by cases c <;> decide), fun nonneg c _ => nonneg c⟩
  rw [degeneracy?]
  split
  · next nonneg =>
    have nonneg := forall_count.1 (listed.1 nonneg)
    rw [forall_count]
    simp only [get] at *
    split_ifs <;> simp <;> omega
  · next _ others =>
    constructor
    · intro refused
      cases refused
    · intro positive
      exact absurd (listed.2 fun c => Int.not_lt.2 (positive c).le) others

/-- The difficulty that the formulas find. -/
def difficulty (counts : Counts) : Float :=
  Number.nearest counts.distinctOperators.natAbs 2 *
    Number.nearest counts.operands.natAbs counts.distinctOperands.natAbs

/-- The volume that the formulas find. -/
def volume (counts : Counts) : Float :=
  Number.ofInt (counts.operators + counts.operands) *
    log2OfNat (counts.distinctOperators + counts.distinctOperands).toNat

/-- The vocabulary and the length have doubles; then so do the counts. -/
def Fit (counts : Counts) : Prop :=
  (counts.distinctOperators + counts.distinctOperands).natAbs < firstBeyond ∧
    (counts.operators + counts.operands).natAbs < firstBeyond

instance (counts : Counts) : Decidable counts.Fit := inferInstanceAs (Decidable (_ ∧ _))

/-- What stops the formulas on counts that no guard refuses, if anything does. -/
def fault? (counts : Counts) : Option Fault :=
  if counts.Fit then lateFault? counts.difficulty counts.volume else some .integerTooLarge

theorem Fit.count {counts : Counts} (fit : counts.Fit) (positive : ∀ c, 0 < counts.get c)
    (c : Count) : (counts.get c).natAbs < firstBeyond := by
  obtain ⟨vocabulary, length⟩ := fit
  have positive := forall_count.1 positive
  cases c <;> simp only [get] at * <;> omega

theorem Fit.worksheet_hasDoubles {counts : Counts} (fit : counts.Fit)
    (positive : ∀ c, 0 < counts.get c) : counts.worksheet.HasDoubles := by
  intro metric q found
  cases metric with
  | derived d => cases found
  | count c =>
      cases found
      exact ⟨_, realOfInt_of_fits (fit.count positive c)⟩

/-- The sheet with the two sums of counts. -/
def summed (counts : Counts) : Worksheet :=
  (counts.worksheet.enter (.derived .vocabulary)
      (.whole (counts.distinctOperators + counts.distinctOperands))).enter
    (.derived .length) (.whole (counts.operators + counts.operands))

theorem evaluate_summed (counts : Counts) :
    counts.worksheet.evaluate formulas = counts.summed.evaluate (formulas.drop 2) := rfl

theorem summed_hasDoubles {counts : Counts} (fit : counts.Fit)
    (positive : ∀ c, 0 < counts.get c) : counts.summed.HasDoubles := by
  have vocabulary : (Quantity.whole (counts.distinctOperators + counts.distinctOperands)).toReal =
      .ok _ := realOfInt_of_fits fit.1
  have length : (Quantity.whole (counts.operators + counts.operands)).toReal = .ok _ :=
    realOfInt_of_fits fit.2
  exact ((fit.worksheet_hasDoubles positive).enter vocabulary _).enter length _

/-- A sum beyond the doubles stops the formulas, whichever of them meets it first. -/
theorem evaluate_of_beyond {counts : Counts} (positive : ∀ c, 0 < counts.get c)
    (beyond : ¬ counts.Fit) : counts.worksheet.evaluate formulas = .error .integerTooLarge := by
  obtain ⟨distinctOperators, distinctOperands, operators, operands⟩ := forall_count.1 positive
  simp only [get] at distinctOperators distinctOperands operators operands
  rw [evaluate_summed]
  have reads : counts.summed Formula.n1 = some (.whole counts.distinctOperators) ∧
      counts.summed Formula.n2 = some (.whole counts.distinctOperands) := ⟨rfl, rfl⟩
  by_cases estimated : firstBeyond ≤ counts.distinctOperators.natAbs ∨
      firstBeyond ≤ counts.distinctOperands.natAbs
  · exact Worksheet.evaluate_stop (Formula.estimatedLength_of_beyond reads
      ⟨distinctOperators, distinctOperands⟩ estimated)
  obtain ⟨x, computed⟩ := Formula.estimatedLength_of_fits reads
    ⟨distinctOperators, distinctOperands⟩ (by omega)
  refine (Worksheet.evaluate_cons computed).trans ?_
  have volume := @Formula.volume_compute
    (counts.summed.enter (.derived .estimatedLength) (.real x)) _ _ ⟨rfl, rfl⟩
    (Int.add_pos distinctOperators distinctOperands)
  by_cases long : firstBeyond ≤ (counts.operators + counts.operands).natAbs
  · rw [realOfInt_of_beyond long] at volume
    exact Worksheet.evaluate_stop volume
  rw [realOfInt_of_fits (Nat.not_le.1 long), bind_ok] at volume
  refine (Worksheet.evaluate_cons volume).trans ?_
  have rich : firstBeyond ≤ (counts.distinctOperators + counts.distinctOperands).natAbs := by
    rw [Fit] at beyond
    omega
  refine Worksheet.evaluate_stop ((Formula.minimumVolume_compute rfl).trans ?_)
  rw [realOfInt_of_beyond rich]
  rfl

/-- Counts whose sums have doubles reach the late formulas. -/
theorem endsBy_of_fit {counts : Counts} (positive : ∀ c, 0 < counts.get c) (fit : counts.Fit) :
    counts.worksheet.EndsBy formulas (lateFault? counts.difficulty counts.volume) := by
  obtain ⟨distinctOperators, distinctOperands, operators, operands⟩ := forall_count.1 positive
  simp only [get] at distinctOperators distinctOperands operators operands
  have fits := forall_count.1 (fit.count positive)
  simp only [get] at fits
  suffices ends : counts.summed.EndsBy (formulas.drop 2)
      (lateFault? counts.difficulty counts.volume) from ends
  obtain ⟨x, computed⟩ := @Formula.estimatedLength_of_fits counts.summed _ _ ⟨rfl, rfl⟩
    ⟨distinctOperators, distinctOperands⟩ ⟨fits.1, fits.2.1⟩
  refine .cons (summed_hasDoubles fit positive) computed rfl fun doubles => ?_
  have volume := @Formula.volume_compute
    (counts.summed.enter (.derived .estimatedLength) (.real x)) _ _ ⟨rfl, rfl⟩
    (Int.add_pos distinctOperators distinctOperands)
  rw [realOfInt_of_fits fit.2, bind_ok] at volume
  refine .cons doubles volume rfl fun doubles => ?_
  have minimumVolume := @Formula.minimumVolume_compute
    ((counts.summed.enter (.derived .estimatedLength) (.real x)).enter (.derived .volume)
      (.real counts.volume)) _ rfl
  rw [realOfInt_of_fits fit.1, bind_ok] at minimumVolume
  refine .cons doubles minimumVolume rfl fun doubles => ?_
  have difficulty := @Formula.difficulty_of_fits
    (((counts.summed.enter (.derived .estimatedLength) (.real x)).enter (.derived .volume)
      (.real counts.volume)).enter (.derived .minimumVolume)
        (.real (Number.ofInt (counts.distinctOperators + counts.distinctOperands)))) _ _ _
    ⟨rfl, rfl, rfl⟩ ⟨distinctOperators, operands, distinctOperands⟩ ⟨fits.1, fits.2.2.2⟩
  refine .cons doubles difficulty rfl fun doubles => ?_
  exact Worksheet.endsBy_late ⟨rfl, rfl⟩ doubles

theorem endsBy_fault? {counts : Counts} (positive : ∀ c, 0 < counts.get c) :
    counts.worksheet.EndsBy formulas counts.fault? := by
  rw [fault?]
  split_ifs with fit
  · exact endsBy_of_fit positive fit
  · exact evaluate_of_beyond positive fit

end Counts

/-! ## Results -/

namespace Measures

variable {measures : Measures}

theorem isFinite_of_notFinite {metrics : List Derived}
    (unlisted : measures.notFinite metrics = .ok []) :
    ∀ d ∈ metrics, (measures.value d).isFinite = .ok true := by
  induction metrics with
  | nil => exact nofun
  | cons d rest ih =>
      obtain ⟨finite, found, unlisted⟩ := bind_eq_ok.1 unlisted
      obtain ⟨others, foundRest, returned⟩ := bind_eq_ok.1 unlisted
      cases finite with
      | false => cases returned
      | true =>
          cases returned
          exact List.forall_mem_cons.2 ⟨found, ih foundRest⟩

theorem notFinite_of_doubles (doubles : ∀ d, ∃ x, (measures.value d).toReal = .ok x)
    (metrics : List Derived) : ∃ bad, measures.notFinite metrics = .ok bad := by
  induction metrics with
  | nil => exact ⟨[], rfl⟩
  | cons d rest ih =>
      obtain ⟨x, value⟩ := doubles d
      obtain ⟨bad, found⟩ := ih
      rw [notFinite, Quantity.isFinite, value, found]
      exact ⟨_, rfl⟩

end Measures

theorem Worksheet.HasDoubles.measures {sheet : Worksheet} (doubles : sheet.HasDoubles)
    (d : Derived) : ∃ x, (sheet.measures.value d).toReal = .ok x := by
  show ∃ x, ((sheet (.derived d)).getD (.whole 0)).toReal = .ok x
  cases found : sheet (.derived d) with
  | none => exact ⟨_, @realOfInt_of_fits 0 Number.firstBeyond_pos⟩
  | some q => exact doubles _ q found

/-- Ten decimal digits hold more than 33 binary ones. -/
theorem two_pow_le_ten_pow {size k : Nat} (short : size ≤ 33 * k) : 2 ^ size ≤ 10 ^ (10 * k) :=
  calc 2 ^ size ≤ 2 ^ (33 * k) := Nat.pow_le_pow_right (by decide) short
    _ = (2 ^ 33) ^ k := pow_mul 2 33 k
    _ ≤ (10 ^ 10) ^ k := Nat.pow_le_pow_left (by decide) k
    _ = 10 ^ (10 * k) := (pow_mul 10 10 k).symm

/-- An integer cannot be written when it has more digits than that. -/
theorem tooLong_iff {n : Int} : Number.tooLong n = true ↔ 10 ^ Number.digitLimit ≤ n.natAbs := by
  rw [Number.tooLong, Bool.and_eq_true, decide_eq_true_eq, decide_eq_true_eq, Nat.pow_eq,
    ge_iff_le, and_iff_right_iff_imp]
  intro long
  obtain ⟨k, digits, room⟩ : ∃ k, Number.digitLimit = 10 * k ∧ 14001 ≤ 33 * k :=
    ⟨430, rfl, by decide⟩
  rw [digits] at long
  have power (size : Nat) (short : size ≤ 33 * k) : 2 ^ size ≤ n.natAbs :=
    (two_pow_le_ten_pow short).trans long
  have nonzero : n.natAbs ≠ 0 := Nat.one_le_iff_ne_zero.1 (power 0 (Nat.zero_le _))
  have digit (size : Nat) (short : size ≤ 33 * k) : size ≤ n.natAbs.log2 :=
    (Nat.le_log2 nonzero).2 (power size short)
  exact digit 14001 room

/-- The least number with too many digits. -/
theorem tooLong_power : Number.tooLong (10 ^ Number.digitLimit) = true := by
  simp [tooLong_iff, Int.natAbs_pow]

namespace Counts

/-- A report is an escape itself when one of the counts cannot be written. -/
theorem degenerate_eq_escaped {counts : Counts} {why : Degeneracy} {fault : Fault} :
    counts.degenerate why = .escaped fault ↔
      (∃ c, 10 ^ Number.digitLimit ≤ (counts.get c).natAbs) ∧ fault = .tooLongToWrite := by
  have listed : (counts.toList.any fun count => Number.tooLong count.2) = true ↔
      ∃ c, 10 ^ Number.digitLimit ≤ (counts.get c).natAbs := by
    simp only [toList, List.any_map, List.any_eq_true, Function.comp, tooLong_iff]
    constructor
    · rintro ⟨c, -, long⟩
      exact ⟨c, long⟩
    · rintro ⟨c, long⟩
      exact ⟨c, by cases c <;> decide, long⟩
  rw [degenerate, ← listed]
  split_ifs with long
  · simp [long, eq_comm]
  · simp [long]

theorem isFinite_of_derive {counts : Counts} {measures : Measures}
    (derived : counts.derive = .ok measures) (d : Derived) :
    (measures.value d).isFinite = .ok true := by
  obtain ⟨accepted, sheet, evaluated, rfl⟩ := derive_eq_ok derived
  rw [derive, accepted] at derived
  obtain ⟨_, evaluatedAgain, checked⟩ := bind_eq_ok.1 derived
  cases evaluated.symm.trans (liftFault_eq_ok.1 evaluatedAgain)
  obtain ⟨bad, found, returned⟩ := bind_eq_ok.1 checked
  cases bad with
  | nil => exact Measures.isFinite_of_notFinite (liftFault_eq_ok.1 found) d (by cases d <;> decide)
  | cons first others => cases returned

/-- Counts that have doubles can be written into a report. -/
theorem Fit.reported {counts : Counts} (fit : counts.Fit) (positive : ∀ c, 0 < counts.get c)
    (why : Degeneracy) (fault : Fault) : counts.degenerate why ≠ .escaped fault := by
  intro escaped
  obtain ⟨⟨c, long⟩, -⟩ := degenerate_eq_escaped.1 escaped
  have power : firstBeyond ≤ 10 ^ Number.digitLimit := by decide +kernel
  exact absurd (fit.count positive c) (Nat.not_lt.2 (power.trans long))

/-- Counts that no guard refuses are stopped by the fault of the formulas, and by no other. -/
theorem derive_of_accepted {counts : Counts} (accepted : counts.degeneracy? = none)
    (fault : Fault) :
    counts.derive = .error (.escaped fault) ↔ counts.fault? = some fault := by
  have positive := degeneracy?_eq_none.1 accepted
  have ends := endsBy_fault? positive
  rw [derive, accepted]
  dsimp only
  cases found : counts.fault? with
  | some stopped =>
      rw [found] at ends
      have evaluated : counts.worksheet.evaluate formulas = .error stopped := ends
      rw [evaluated]
      show Except.error (Problem.escaped stopped) = _ ↔ _
      simp
  | none =>
      have fit : counts.Fit := by
        by_contra beyond
        rw [fault?, if_neg beyond] at found
        cases found
      rw [found] at ends
      obtain ⟨sheet, evaluated, doubles⟩ := ends
      obtain ⟨bad, listed⟩ := Measures.notFinite_of_doubles doubles.measures Derived.all
      rw [evaluated]
      show (liftM (sheet.measures.notFinite Derived.all) >>= _ : Except Problem Measures) = _ ↔ _
      rw [listed]
      constructor
      · intro escaped
        cases bad with
        | nil => cases escaped
        | cons first others => exact absurd (Except.error.inj escaped) (fit.reported positive _ _)
      · intro impossible
        cases impossible

/-- A fault comes about in two ways: one of the counts of a report has too many digits to be
written, or the formulas themselves are stopped. -/
theorem derive_eq_escaped {counts : Counts} {fault : Fault} :
    counts.derive = .error (.escaped fault) ↔
      counts.degeneracy? ≠ none ∧ (∃ c, 10 ^ Number.digitLimit ≤ (counts.get c).natAbs) ∧
        fault = .tooLongToWrite ∨
      counts.degeneracy? = none ∧ counts.fault? = some fault := by
  cases guard : counts.degeneracy? with
  | none => simp [derive_of_accepted guard]
  | some why =>
      rw [derive_of_degeneracy guard, Except.error.injEq, degenerate_eq_escaped]
      simp

/-- Deriving ends with metrics that are all finite, with a report that the counts are degenerate,
or with a fault. Which fault it is, if it is one, is known from the counts. -/
theorem derive_ends (counts : Counts) :
    (∀ measures, counts.derive = .ok measures → ∀ d, (measures.value d).isFinite = .ok true) ∧
    (∀ failure, counts.derive = .error (.reported failure) →
      ∃ why shown, failure = .degenerate why shown) ∧
    ∀ fault, counts.derive = .error (.escaped fault) ↔
      counts.degeneracy? ≠ none ∧ (∃ c, 10 ^ Number.digitLimit ≤ (counts.get c).natAbs) ∧
        fault = .tooLongToWrite ∨
      counts.degeneracy? = none ∧ counts.fault? = some fault := by
  refine ⟨fun measures derived => isFinite_of_derive derived, fun failure stopped => ?_,
    fun fault => derive_eq_escaped⟩
  obtain ⟨why, shown, equal, -⟩ := derive_eq_reported stopped
  exact ⟨why, shown, equal⟩

/-- More operators than any double holds are not degenerate, and have no metrics either. -/
theorem derive_not_reported :
    let counts : Counts := ⟨(10 ^ 400 : Nat), 1, (10 ^ 400 : Nat), 1⟩
    counts.derive = .error (.escaped .integerTooLarge) := by
  intro counts
  have beyond : ¬ counts.Fit := by decide +kernel
  exact (derive_of_accepted (by decide +kernel) _).2 (if_neg beyond)

end Counts

end CodeMetrics
