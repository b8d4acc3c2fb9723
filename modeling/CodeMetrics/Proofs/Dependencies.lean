import CodeMetrics.Proofs.Analysis

/-!
# What the formulas depend on

A formula names the metrics that it depends on, and could read others all the same. None of them
does. So a formula finds on the sheet all that it looks for when those that it depends on come
before it, and it gives the same on the finished sheet as at its turn. The finished sheet is then
known without an order: it solves every formula, and is what it was elsewhere.

Results:
1. `reads_formula`: a formula reads nothing but the metrics that it depends on.
2. `Reads.congr`, `Reads.isArithmetic`: what follows for sheets that agree on these, or have them.
3. `isArithmetic_evaluate`: in order, no metric is missing.
4. `evaluate_eq_ok_iff`: in order, evaluating ends with the sheet that solves the formulas.
5. `evaluate_reordered`: the order of the formulas does not matter.
-/

namespace CodeMetrics

/-! ## Arithmetic -/

/-- A computation that does not stop because a name is unknown. -/
def IsArithmetic {α : Type} (outcome : Except Fault α) : Prop :=
  ∀ name, outcome ≠ .error (.unknownName name)

namespace IsArithmetic

variable {α β : Type}

theorem ok (a : α) : IsArithmetic (.ok a) := nofun

theorem bind {first : Except Fault α} {next : α → Except Fault β} (start : IsArithmetic first)
    (rest : ∀ a, IsArithmetic (next a)) : IsArithmetic (first >>= next) := by
  intro name stopped
  rcases bind_eq_error.1 stopped with early | ⟨a, -, late⟩
  · exact start name early
  · exact rest a name late

theorem map {first : Except Fault α} (start : IsArithmetic first) (f : α → β) :
    IsArithmetic (f <$> first) := by
  cases first with
  | ok a => exact ok (f a)
  | error fault =>
      intro name stopped
      cases stopped
      exact start name rfl

end IsArithmetic

namespace Quantity

theorem isArithmetic_realOfInt (n : Int) : IsArithmetic (realOfInt n) := by
  rw [realOfInt]
  split
  · exact nofun
  · exact .ok _

theorem isArithmetic_toReal (q : Quantity) : IsArithmetic q.toReal := by
  cases q with
  | whole n => exact isArithmetic_realOfInt n
  | real x => exact .ok x

theorem isArithmetic_quotient (a b : Int) : IsArithmetic (quotient a b) := by
  rw [quotient]
  split_ifs
  · exact nofun
  · exact nofun
  · exact .ok _
  · exact .ok _

theorem isArithmetic_realPower (base exponent : Float) :
    IsArithmetic (realPower base exponent) := by
  rw [realPower]
  split_ifs
  · exact nofun
  · exact .ok _

variable (p q : Quantity)

/-- Doubles meet in an operation once both operands are doubles. -/
theorem isArithmetic_reals {next : Float → Float → Except Fault Quantity}
    (operate : ∀ x y, IsArithmetic (next x y)) :
    IsArithmetic (p.toReal >>= fun x => q.toReal >>= next x) :=
  (isArithmetic_toReal p).bind fun x => (isArithmetic_toReal q).bind (operate x)

theorem isArithmetic_add : IsArithmetic (p.add q) := by
  have reals := isArithmetic_reals p q fun x y => .ok (.real (x + y))
  cases p with
  | real x => exact reals
  | whole a =>
      cases q with
      | real y => exact reals
      | whole b => exact .ok _

theorem isArithmetic_mul : IsArithmetic (p.mul q) := by
  have reals := isArithmetic_reals p q fun x y => .ok (.real (x * y))
  cases p with
  | real x => exact reals
  | whole a =>
      cases q with
      | real y => exact reals
      | whole b => exact .ok _

theorem isArithmetic_div : IsArithmetic (p.div q) := by
  have divided (x y : Float) : IsArithmetic (if y == 0.0 then
      .error .divisionByZero else .ok (.real (x / y)) : Except Fault Quantity) := by
    split
    · exact nofun
    · exact .ok _
  have reals := isArithmetic_reals p q divided
  cases p with
  | real x => exact reals
  | whole a =>
      cases q with
      | real y => exact reals
      | whole b => exact (isArithmetic_quotient a b).map _

theorem isArithmetic_log2 : IsArithmetic p.log2 := by
  cases p with
  | whole n =>
      rw [log2]
      split
      · exact nofun
      · exact .ok _
  | real x =>
      rw [log2]
      split
      · exact nofun
      · exact .ok _

theorem isArithmetic_square : IsArithmetic p.square := by
  cases p with
  | whole n => exact .ok _
  | real x => exact (isArithmetic_realPower x 2.0).map _

theorem isArithmetic_power (exponent : Float) : IsArithmetic (p.power exponent) :=
  (isArithmetic_toReal p).bind fun x => (isArithmetic_realPower x exponent).map _

theorem isArithmetic_timesLog : IsArithmetic (Formula.timesLog p) :=
  (isArithmetic_log2 p).bind fun bits => isArithmetic_mul p bits

end Quantity

/-! ## What is read -/

/-- A computation reads metrics of a list, and does arithmetic with what it reads. -/
inductive Reads (metrics : List Metric) : (Worksheet → Except Fault Quantity) → Prop
  | read {metric : Metric} {next : Quantity → Worksheet → Except Fault Quantity} :
      metric ∈ metrics → (∀ q, Reads metrics (next q)) →
      Reads metrics fun sheet => sheet.read metric >>= fun q => next q sheet
  | step {α : Type} {outcome : Except Fault α} {next : α → Worksheet → Except Fault Quantity} :
      IsArithmetic outcome → (∀ a, Reads metrics (next a)) →
      Reads metrics fun sheet => outcome >>= fun a => next a sheet
  | last {outcome : Except Fault Quantity} : IsArithmetic outcome → Reads metrics fun _ => outcome

namespace Reads

variable {metrics : List Metric} {compute : Worksheet → Except Fault Quantity}
  {sheet other : Worksheet}

/-- Nothing is seen of a sheet but the metrics that are read. -/
theorem congr (reads : Reads metrics compute)
    (same : ∀ metric ∈ metrics, sheet metric = other metric) : compute sheet = compute other := by
  induction reads with
  | @read metric next member _ ih =>
      have found : sheet.read metric = other.read metric := by
        rw [Worksheet.read, Worksheet.read, same metric member]
      dsimp only
      rw [found]
      exact bind_congr_of_ok fun q _ => ih q
  | step _ _ ih => exact bind_congr_of_ok fun a _ => ih a
  | last => rfl

/-- With all metrics on the sheet none is missing. -/
theorem isArithmetic (reads : Reads metrics compute)
    (known : ∀ metric ∈ metrics, (sheet metric).isSome = true) : IsArithmetic (compute sheet) := by
  induction reads with
  | @read metric next member _ ih =>
      obtain ⟨q, found⟩ := Option.isSome_iff_exists.1 (known metric member)
      have read : sheet.read metric = .ok q := by rw [Worksheet.read, found]
      dsimp only
      rw [read]
      exact ih q
  | step arithmetic _ ih => exact arithmetic.bind ih
  | last arithmetic => exact arithmetic

end Reads

/-- The formula of a metric. -/
def Derived.formula : Derived → Formula
  | .vocabulary => .vocabulary
  | .length => .length
  | .estimatedLength => .estimatedLength
  | .volume => .volume
  | .minimumVolume => .minimumVolume
  | .difficulty => .difficulty
  | .level => .level
  | .languageLevel => .languageLevel
  | .intelligence => .intelligence
  | .effort => .effort
  | .time => .time
  | .bugs => .bugs

open Quantity in
/-- A formula reads nothing but the metrics that it depends on. -/
theorem reads_formula (d : Derived) : Reads d.formula.dependsOn d.formula.compute := by
  cases d with
  | vocabulary | length =>
      exact .read (by decide) fun a => .read (by decide) fun b => .last (isArithmetic_add a b)
  | estimatedLength =>
      exact .read (by decide) fun a => .step (isArithmetic_timesLog a) fun operators =>
        .read (by decide) fun b => .step (isArithmetic_timesLog b) fun operands =>
          .last (isArithmetic_add operators operands)
  | volume =>
      exact .read (by decide) fun length => .read (by decide) fun vocabulary =>
        .step (isArithmetic_log2 vocabulary) fun bits => .last (isArithmetic_mul length bits)
  | minimumVolume =>
      exact .read (by decide) fun vocabulary =>
        .step (isArithmetic_toReal vocabulary) fun x => .last (.ok _)
  | difficulty =>
      exact .read (by decide) fun a => .step (isArithmetic_div a _) fun half =>
        .read (by decide) fun uses => .read (by decide) fun b =>
          .step (isArithmetic_div uses b) fun repetition =>
            .last (isArithmetic_mul half repetition)
  | level => exact .read (by decide) fun difficulty => .last (isArithmetic_div _ difficulty)
  | languageLevel =>
      exact .read (by decide) fun volume => .read (by decide) fun difficulty =>
        .step (isArithmetic_square difficulty) fun square => .last (isArithmetic_div volume square)
  | intelligence =>
      exact .read (by decide) fun volume => .read (by decide) fun difficulty =>
        .last (isArithmetic_div volume difficulty)
  | effort =>
      exact .read (by decide) fun difficulty => .read (by decide) fun volume =>
        .last (isArithmetic_mul difficulty volume)
  | time => exact .read (by decide) fun effort => .last (isArithmetic_div effort _)
  | bugs =>
      exact .read (by decide) fun effort => .step (isArithmetic_power effort _) fun power =>
        .last (isArithmetic_div power _)

/-! ## Orders -/

/-- What is on the sheet before any formula. -/
def Metric.inputs : List Metric := Count.inputs.map .count

/-- Each formula comes after those that it depends on, when some metrics are known before. -/
def InOrder (known : List Metric) : List Formula → Prop
  | [] => True
  | formula :: rest =>
      (∀ metric ∈ formula.dependsOn, metric ∈ known) ∧
        InOrder (.derived formula.result :: known) rest

instance decidableInOrder (known : List Metric) :
    (order : List Formula) → Decidable (InOrder known order)
  | [] => .isTrue trivial
  | formula :: rest =>
      have := decidableInOrder (.derived formula.result :: known) rest
      inferInstanceAs (Decidable (_ ∧ _))

/-- The formula reads nothing but what it depends on. -/
def Formula.IsBound (formula : Formula) : Prop := Reads formula.dependsOn formula.compute

namespace Worksheet

variable {sheet result : Worksheet} {order : List Formula} {known : List Metric}

/-- The result of the formula is what the formula gives on the sheet itself. -/
def Solves (sheet : Worksheet) (formula : Formula) : Prop :=
  ∃ q, formula.compute sheet = .ok q ∧ sheet (.derived formula.result) = some q

/-- Formulas in order find all that they look for. -/
theorem isArithmetic_evaluate (bound : ∀ formula ∈ order, formula.IsBound)
    (inOrder : InOrder known order) (there : ∀ metric ∈ known, (sheet metric).isSome = true) :
    IsArithmetic (sheet.evaluate order) := by
  -- By induction on the formulas: each of them makes one more metric known.
  induction order generalizing sheet known with
  | nil => exact .ok sheet
  | cons formula rest ih =>
      obtain ⟨before, inOrderRest⟩ := inOrder
      have computes := (bound formula List.mem_cons_self).isArithmetic
        fun metric member => there metric (before metric member)
      refine computes.bind fun q => ih (fun later member =>
        bound later (List.mem_cons_of_mem formula member)) inOrderRest fun metric member => ?_
      by_cases entered : metric = .derived formula.result
      · rw [entered, enter_self]
        rfl
      · rw [enter_other entered]
        exact there metric ((List.mem_cons.1 member).resolve_left entered)

/-- Formulas in order give the sheet that solves all of them. The sheet does not tell in which order
they came. -/
theorem evaluate_eq_ok_iff (bound : ∀ formula ∈ order, formula.IsBound)
    (inOrder : InOrder known order)
    (fresh : ∀ formula ∈ order, Metric.derived formula.result ∉ known)
    (once : (order.map Formula.result).Nodup) :
    sheet.evaluate order = .ok result ↔
      (∀ metric, (∀ formula ∈ order, metric ≠ .derived formula.result) →
        result metric = sheet metric) ∧
      ∀ formula ∈ order, result.Solves formula := by
  induction order generalizing sheet known with
  | nil =>
      rw [evaluate]
      constructor
      · intro same
        cases same
        exact ⟨fun metric _ => rfl, nofun⟩
      · rintro ⟨untouched, -⟩
        exact congrArg Except.ok (funext fun metric => (untouched metric nofun).symm)
  | cons formula rest ih =>
      obtain ⟨before, inOrderRest⟩ := inOrder
      obtain ⟨onceHere, onceRest⟩ := List.nodup_cons.1 once
      -- What the formula reads is older than all results, so that it is the same in the end.
      have stable (untouched : ∀ metric,
          (∀ later ∈ formula :: rest, metric ≠ .derived later.result) →
          result metric = sheet metric) : formula.compute result = formula.compute sheet := by
        refine (bound formula List.mem_cons_self).congr fun metric member =>
          untouched metric fun later among same => fresh later among ?_
        exact same ▸ before metric member
      have others (later : Formula) (member : later ∈ rest) :
          Metric.derived formula.result ≠ .derived later.result := by
        intro same
        exact onceHere (Metric.derived.inj same ▸ List.mem_map_of_mem member)
      have freshRest : ∀ later ∈ rest,
          Metric.derived later.result ∉ .derived formula.result :: known := by
        intro later member found
        rcases List.mem_cons.1 found with same | old
        · exact others later member same.symm
        · exact fresh later (List.mem_cons_of_mem formula member) old
      have ih (sheet : Worksheet) := @ih sheet _ (fun later member =>
        bound later (List.mem_cons_of_mem formula member)) inOrderRest freshRest onceRest
      constructor
      · intro evaluated
        have untouched (metric : Metric) := @evaluate_untouched _ _ _ metric evaluated
        obtain ⟨q, computed, found, evaluatedRest⟩ := evaluate_head evaluated others
        exact ⟨untouched, List.forall_mem_cons.2
          ⟨⟨q, (stable untouched).trans computed, found⟩, ((ih _).1 evaluatedRest).2⟩⟩
      · rintro ⟨untouched, solves⟩
        obtain ⟨⟨q, computed, found⟩, solvesRest⟩ := List.forall_mem_cons.1 solves
        rw [evaluate, (stable untouched).symm.trans computed]
        refine (ih _).2 ⟨fun metric elsewhere => ?_, solvesRest⟩
        by_cases entered : metric = .derived formula.result
        · rw [entered, enter_self, found]
        · rw [enter_other entered]
          exact untouched metric (List.forall_mem_cons.2 ⟨entered, elsewhere⟩)

/-- Two orders of the same formulas give the same sheet, or neither gives one. -/
theorem evaluate_perm {other : List Formula} (bound : ∀ formula ∈ order, formula.IsBound)
    (inOrder : InOrder known order) (inOrderOther : InOrder known other)
    (fresh : ∀ formula ∈ order, Metric.derived formula.result ∉ known)
    (once : (order.map Formula.result).Nodup) (perm : other.Perm order) :
    sheet.evaluate other = .ok result ↔ sheet.evaluate order = .ok result := by
  have among {formula : Formula} (member : formula ∈ other) : formula ∈ order :=
    perm.mem_iff.1 member
  rw [evaluate_eq_ok_iff bound inOrder fresh once,
    evaluate_eq_ok_iff (fun formula member => bound formula (among member)) inOrderOther
      (fun formula member => fresh formula (among member)) ((perm.map _).nodup_iff.2 once)]
  simp only [perm.mem_iff]

/-! ## The formulas of the metrics -/

theorem forall_mem_formulas {property : Formula → Prop} :
    (∀ formula ∈ formulas, property formula) ↔ ∀ d : Derived, property d.formula := by
  have listed : formulas = Derived.all.map Derived.formula := rfl
  rw [listed, List.forall_mem_map]
  exact ⟨fun each d => each d (by cases d <;> decide), fun each d _ => each d⟩

theorem isBound_of_mem : ∀ formula ∈ formulas, formula.IsBound :=
  forall_mem_formulas.2 reads_formula

theorem inOrder_formulas : InOrder Metric.inputs formulas := by decide

theorem isSome_worksheet (counts : Counts) :
    ∀ metric ∈ Metric.inputs, (counts.worksheet metric).isSome = true :=
  List.forall_mem_map.2 fun _ _ => rfl

/-- Formulas give the same, or stop in the same way, on sheets that agree on what they depend on,
and no metric is missing when they are evaluated. In any other order in which each formula comes
after those that it depends on, they give the same sheet, or none if they give none. The sheet has
all twelve metrics, each with the value that its formula gives on the sheet itself. -/
theorem evaluate_reordered :
    (∀ formula ∈ formulas, ∀ sheet other : Worksheet,
      (∀ metric ∈ formula.dependsOn, sheet metric = other metric) →
      formula.compute sheet = formula.compute other) ∧
    (∀ (counts : Counts) (name : String),
      counts.worksheet.evaluate formulas ≠ .error (.unknownName name)) ∧
    (∀ order : List Formula, order.Perm formulas → InOrder Metric.inputs order →
      ∀ (counts : Counts) (sheet : Worksheet),
        counts.worksheet.evaluate order = .ok sheet ↔
          counts.worksheet.evaluate formulas = .ok sheet) ∧
    ∀ (counts : Counts) (sheet : Worksheet), counts.worksheet.evaluate formulas = .ok sheet →
      ∀ d : Derived, ∃ q, d.formula.compute sheet = .ok q ∧ sheet (.derived d) = some q := by
  have fresh : ∀ formula ∈ formulas, Metric.derived formula.result ∉ Metric.inputs := by decide
  have once : (formulas.map Formula.result).Nodup := by decide
  refine ⟨fun formula member sheet other => (isBound_of_mem formula member).congr,
    fun counts => isArithmetic_evaluate isBound_of_mem inOrder_formulas (isSome_worksheet counts),
    fun order perm inOrder counts sheet =>
      evaluate_perm isBound_of_mem inOrder_formulas inOrder fresh once perm,
    fun counts sheet evaluated d => ?_⟩
  have solves := ((evaluate_eq_ok_iff isBound_of_mem inOrder_formulas fresh once).1 evaluated).2
  have result : d.formula.result = d := by cases d <;> rfl
  obtain ⟨q, computed, found⟩ := forall_mem_formulas.1 solves d
  exact ⟨q, computed, result ▸ found⟩

/-- The formulas that divide by the difficulty may come before the other ones. -/
theorem evaluate_reordered_early :
    let order := [Derived.difficulty, .level, .length, .vocabulary, .volume, .effort, .bugs, .time,
      .intelligence, .languageLevel, .minimumVolume, .estimatedLength].map Derived.formula
    order.Perm formulas ∧ InOrder Metric.inputs order ∧
      ∀ sheet, (⟨5, 2, 8, 2⟩ : Counts).worksheet.evaluate order = .ok sheet ↔
        (⟨5, 2, 8, 2⟩ : Counts).worksheet.evaluate formulas = .ok sheet := by
  intro order
  have perm : order.Perm formulas := by
    show List.Perm _ (Derived.all.map Derived.formula)
    refine List.Perm.map Derived.formula ?_
    decide
  have inOrder : InOrder Metric.inputs order := by decide
  exact ⟨perm, inOrder, evaluate_reordered.2.2.1 order perm inOrder _⟩

end Worksheet

end CodeMetrics
