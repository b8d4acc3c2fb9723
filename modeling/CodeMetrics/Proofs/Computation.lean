import Mathlib.Data.List.Forall2
import CodeMetrics.Trace

/-!
# Computations that can stop

How the outcome of a computation is known from those of its parts: for outcomes, for faults that
are lifted into problems, and for traces. Of the events of a trace the warnings matter most, for a
warning says that something was skipped. This is what becomes of a failure that is kept.
-/

namespace CodeMetrics

variable {ε α β γ : Type}

/-! ## Outcomes -/

theorem bind_ok (a : α) (next : α → Except ε β) : (Except.ok a >>= next) = next a := rfl

theorem bind_eq_ok {first : Except ε α} {next : α → Except ε β} {b : β} :
    (first >>= next) = .ok b ↔ ∃ a, first = .ok a ∧ next a = .ok b := by
  cases first <;> simp [bind, Except.bind]

theorem bind_eq_error {first : Except ε α} {next : α → Except ε β} {e : ε} :
    (first >>= next) = .error e ↔ first = .error e ∨ ∃ a, first = .ok a ∧ next a = .error e := by
  cases first <;> simp [bind, Except.bind]

theorem map_eq_ok {first : Except ε α} {f : α → β} {b : β} :
    first.map f = .ok b ↔ ∃ a, first = .ok a ∧ f a = b := by
  cases first <;> simp [Except.map]

/-- A value that is changed in the end is there all the same. -/
theorem exists_map_iff {first : Except ε α} {f : α → β} :
    (∃ b, first.map f = .ok b) ↔ ∃ a, first = .ok a := by
  cases first <;> simp [Except.map]

/-- What comes after a computation matters for its value only. -/
theorem bind_congr_of_ok {first : Except ε α} {next other : α → Except ε β}
    (same : ∀ a, first = .ok a → next a = other a) : first >>= next = first >>= other := by
  cases first with
  | error e => rfl
  | ok a => exact same a rfl

/-- A value can be computed where problems cannot be compared. -/
theorem exists_of_any {outcome : Except ε α} {p : α → Bool}
    (found : outcome.toOption.any p = true) : ∃ a, outcome = .ok a ∧ p a = true := by
  cases outcome with
  | error e => cases found
  | ok a => exact ⟨a, rfl, found⟩

theorem toOption_eq_some {first : Except ε α} {a : α} :
    first.toOption = some a ↔ first = .ok a := by
  cases first <;> simp [Except.toOption]

/-- Values are computed one after the other from some inputs when each of them has one. -/
theorem mapM_eq_ok {f : α → Except ε β} {inputs : List α} {values : List β} :
    inputs.mapM f = .ok values ↔ List.Forall₂ (fun a b => f a = .ok b) inputs values := by
  induction inputs generalizing values with
  | nil =>
      rw [List.mapM_nil, List.forall₂_nil_left_iff]
      exact ⟨fun equal => (Except.ok.inj equal).symm, fun equal => congrArg Except.ok equal.symm⟩
  | cons a rest ih =>
      rw [List.mapM_cons, bind_eq_ok, List.forall₂_cons_left_iff]
      constructor
      · rintro ⟨b, first, ended⟩
        obtain ⟨others, endedRest, returned⟩ := bind_eq_ok.1 ended
        cases returned
        exact ⟨b, others, first, ih.1 endedRest, rfl⟩
      · rintro ⟨b, others, first, endedRest, rfl⟩
        exact ⟨b, first, bind_eq_ok.2 ⟨others, ih.2 endedRest, rfl⟩⟩

theorem mapM_congr {f g : α → Except ε β} {inputs : List α} (same : ∀ a ∈ inputs, f a = g a) :
    inputs.mapM f = inputs.mapM g := by
  induction inputs with
  | nil => rfl
  | cons a rest ih =>
      rw [List.mapM_cons, List.mapM_cons, same a List.mem_cons_self,
        ih fun other member => same other (List.mem_cons_of_mem a member)]

/-- Inputs that each have a value have a list of values. -/
theorem exists_forall₂ {relation : α → β → Prop} {inputs : List α}
    (each : ∀ a ∈ inputs, ∃ b, relation a b) : ∃ values, List.Forall₂ relation inputs values := by
  induction inputs with
  | nil => exact ⟨[], .nil⟩
  | cons a rest ih =>
      obtain ⟨b, first⟩ := each a List.mem_cons_self
      obtain ⟨others, values⟩ := ih fun other member => each other (List.mem_cons_of_mem a member)
      exact ⟨b :: others, .cons first values⟩

/-- The values of inputs can be computed when each of them has one. -/
theorem exists_mapM_iff {f : α → Except ε β} {inputs : List α} :
    (∃ values, inputs.mapM f = .ok values) ↔ ∀ a ∈ inputs, ∃ b, f a = .ok b := by
  simp only [mapM_eq_ok]
  refine ⟨?_, exists_forall₂⟩
  rintro ⟨values, each⟩ a member
  induction each with
  | nil => cases member
  | @cons first b _ _ ended _ ih =>
      rcases List.mem_cons.1 member with rfl | later
      · exact ⟨b, ended⟩
      · exact ih later

/-- A value is the one of some input. -/
theorem exists_of_mem_mapM {f : α → Except ε β} {inputs : List α} {values : List β} {b : β}
    (ended : inputs.mapM f = .ok values) (member : b ∈ values) : ∃ a ∈ inputs, f a = .ok b := by
  induction mapM_eq_ok.1 ended with
  | nil => cases member
  | @cons a first _ _ value _ ih =>
      rcases List.mem_cons.1 member with rfl | later
      · exact ⟨a, List.mem_cons_self, value⟩
      · obtain ⟨other, found, value⟩ := ih (mapM_eq_ok.2 ‹_›) later
        exact ⟨other, List.mem_cons_of_mem a found, value⟩

/-- What the values of all inputs have in common, all values have. -/
theorem exists_mapM_of {f : α → Except ε β} {inputs : List α} {property : β → Prop}
    (each : ∀ a ∈ inputs, ∃ b, f a = .ok b ∧ property b) :
    ∃ values, inputs.mapM f = .ok values ∧ ∀ b ∈ values, property b := by
  obtain ⟨values, ended⟩ :=
    exists_mapM_iff.2 fun a member => (each a member).imp fun _ => And.left
  refine ⟨values, ended, fun b member => ?_⟩
  obtain ⟨a, found, value⟩ := exists_of_mem_mapM ended member
  obtain ⟨other, valueOther, holds⟩ := each a found
  cases valueOther.symm.trans value
  exact holds

/-- Checks that all succeed do so one after the other. -/
theorem forM_of_ok {f : α → Except ε PUnit} {inputs : List α} (each : ∀ a ∈ inputs, f a = .ok ⟨⟩) :
    inputs.forM f = .ok ⟨⟩ := by
  induction inputs with
  | nil => rfl
  | cons a rest ih =>
      show (f a >>= fun _ => rest.forM f) = _
      rw [each a List.mem_cons_self]
      exact ih fun other member => each other (List.mem_cons_of_mem a member)

/-- The first input without a value stops the computation. -/
theorem mapM_eq_error {f : α → Except ε β} {before after : List α} {a : α} {e : ε}
    (reached : ∀ earlier ∈ before, ∃ b, f earlier = .ok b) (stopped : f a = .error e) :
    (before ++ a :: after).mapM f = .error e := by
  induction before with
  | nil =>
      rw [List.nil_append, List.mapM_cons]
      exact bind_eq_error.2 (.inl stopped)
  | cons first rest ih =>
      obtain ⟨b, ended⟩ := reached first List.mem_cons_self
      have stoppedRest := ih fun earlier member =>
        reached earlier (List.mem_cons_of_mem first member)
      rw [List.cons_append, List.mapM_cons]
      exact bind_eq_error.2 (.inr ⟨b, ended, bind_eq_error.2 (.inl stoppedRest)⟩)

/-- Among inputs whose computation stops there is a first one that stops it. -/
theorem exists_of_mapM_eq_error {f : α → Except ε β} {inputs : List α} {e : ε}
    (stopped : inputs.mapM f = .error e) :
    ∃ before a after, inputs = before ++ a :: after ∧
      (∀ earlier ∈ before, ∃ b, f earlier = .ok b) ∧ f a = .error e := by
  induction inputs with
  | nil => cases stopped
  | cons a rest ih =>
      rw [List.mapM_cons] at stopped
      rcases bind_eq_error.1 stopped with here | ⟨b, first, stopped⟩
      · exact ⟨[], a, rest, rfl, nofun, here⟩
      · rcases bind_eq_error.1 stopped with behind | ⟨_, _, returned⟩
        · obtain ⟨before, other, after, rfl, reached, stops⟩ := ih behind
          exact ⟨a :: before, other, after, rfl,
            List.forall_mem_cons.2 ⟨⟨b, first⟩, reached⟩, stops⟩
        · cases returned

/-! ## Faults as problems -/

theorem liftFault_eq_ok {first : Except Fault α} {a : α} :
    (liftM first : Except Problem α) = .ok a ↔ first = .ok a := by
  cases first <;> simp [liftM, monadLift, MonadLift.monadLift]

theorem liftFault_eq_error {first : Except Fault α} {problem : Problem} :
    (liftM first : Except Problem α) = .error problem ↔
      ∃ fault, first = .error fault ∧ problem = .escaped fault := by
  cases first <;> simp [liftM, monadLift, MonadLift.monadLift, eq_comm]

/-- What is stopped in a way nobody is prepared for ends with that fault, and nothing else does. -/
theorem mapError_problem_eq_escaped {outcome : Except Stop α} {report : String → Failure}
    {fault : Fault} :
    outcome.mapError (Stop.problem report) = .error (.escaped fault) ↔
      outcome = .error (.unforeseen fault) := by
  cases outcome with
  | ok a => exact iff_of_false nofun nofun
  | error stop =>
      cases stop with
      | foreseen reason => exact iff_of_false nofun nofun
      | unforeseen other => simp [Except.mapError, Stop.problem]

/-! ## Reports -/

namespace Problem

variable {key reason : String} {value : Value}

theorem invalidSetting_eq_reported {failure : Failure} :
    invalidSetting key value reason = .reported failure ↔
      value.tooLong = false ∧ failure = .invalidSetting (.text key) value (.text reason) := by
  unfold invalidSetting
  split_ifs with long <;> simp [long, eq_comm]

/-- A report that cannot be written is a fault. -/
theorem invalidSetting_eq_escaped {fault : Fault} :
    invalidSetting key value reason = .escaped fault ↔
      value.tooLong = true ∧ fault = .tooLongToWrite := by
  unfold invalidSetting
  split_ifs with long <;> simp [long, eq_comm]

end Problem

/-! ## Traces -/

namespace Trace

theorem outcome_pure (a : α) : (Pure.pure a : Trace α).outcome = .ok a := rfl

theorem liftFault_eq_ok {first : Except Fault α} {a : α} :
    (liftM first : Trace α).outcome = .ok a ↔ first = .ok a := by
  cases first <;> simp [liftM, monadLift, MonadLift.monadLift, Trace.pure, stop]

theorem outcome_log_bind (logger : String) (level : Level) (message : String)
    (next : Unit → Trace α) :
    (Trace.log logger level message >>= next).outcome = (next ()).outcome :=
  rfl

theorem bind_of_ok {first : Trace α} {a : α} (ended : first.outcome = .ok a)
    (next : α → Trace β) :
    (first >>= next) = ⟨first.events ++ (next a).events, (next a).outcome⟩ := by
  show Trace.bind first next = _
  rw [Trace.bind, ended]

theorem bind_of_error {first : Trace α} {problem : Problem}
    (stopped : first.outcome = .error problem) (next : α → Trace β) :
    (first >>= next) = ⟨first.events, .error problem⟩ := by
  show Trace.bind first next = _
  rw [Trace.bind, stopped]

theorem outcome_bind (first : Trace α) (next : α → Trace β) :
    (first >>= next).outcome = first.outcome >>= fun a => (next a).outcome := by
  cases ended : first.outcome with
  | ok a =>
      rw [bind_of_ok ended]
      rfl
  | error problem =>
      rw [bind_of_error ended]
      rfl

theorem bind_eq_ok {first : Trace α} {next : α → Trace β} {b : β} :
    (first >>= next).outcome = .ok b ↔ ∃ a, first.outcome = .ok a ∧ (next a).outcome = .ok b := by
  rw [outcome_bind, CodeMetrics.bind_eq_ok]

/-- A value that is changed in the end leaves no events. -/
theorem bind_return (trace : Trace α) (f : α → β) :
    (trace >>= fun a => Pure.pure (f a)) = ⟨trace.events, trace.outcome.map f⟩ := by
  cases ended : trace.outcome with
  | ok a =>
      rw [bind_of_ok ended]
      exact congrArg (Trace.mk · _) (List.append_nil _)
  | error problem =>
      rw [bind_of_error ended]
      rfl

theorem map_id (trace : Trace α) : id <$> trace = trace := by
  show (trace >>= fun a => Pure.pure (id a)) = trace
  rw [bind_return]
  cases ended : trace.outcome with
  | ok a => exact congrArg (Trace.mk _) ended.symm
  | error problem => exact congrArg (Trace.mk _) ended.symm

theorem bind_assoc (first : Trace α) (next : α → Trace β) (last : β → Trace γ) :
    (first >>= next >>= last) = first >>= fun a => next a >>= last := by
  cases ended : first.outcome with
  | error problem =>
      rw [bind_of_error ended, bind_of_error ended, bind_of_error rfl]
  | ok a =>
      rw [bind_of_ok ended, bind_of_ok ended]
      cases endedNext : (next a).outcome with
      | error problem => rw [bind_of_error rfl, bind_of_error endedNext]
      | ok b => rw [bind_of_ok rfl, bind_of_ok endedNext, List.append_assoc]

instance : LawfulMonad Trace :=
  LawfulMonad.mk' Trace map_id (fun _ _ => rfl) bind_assoc

theorem outcome_mapM (f : α → Trace β) (inputs : List α) :
    (inputs.mapM f).outcome = inputs.mapM fun a => (f a).outcome := by
  induction inputs with
  | nil => rfl
  | cons a rest ih =>
      rw [List.mapM_cons, List.mapM_cons, outcome_bind]
      refine congrArg ((f a).outcome >>= ·) (funext fun b => ?_)
      rw [outcome_bind, ih]
      rfl

theorem events_mapM {f : α → Trace β} {inputs : List α} {values : List β}
    (ended : (inputs.mapM f).outcome = .ok values) :
    (inputs.mapM f).events = inputs.flatMap fun a => (f a).events := by
  induction inputs generalizing values with
  | nil => rfl
  | cons a rest ih =>
      rw [List.mapM_cons] at ended ⊢
      obtain ⟨b, first, ended⟩ := bind_eq_ok.1 ended
      obtain ⟨others, endedRest, _⟩ := bind_eq_ok.1 ended
      rw [bind_of_ok first, bind_of_ok endedRest, ih endedRest, List.flatMap_cons]
      exact congrArg ((f a).events ++ ·) (List.append_nil _)

/-- The fault that stopped the computation, if one did. -/
def fault? (trace : Trace α) : Option Fault :=
  match trace.outcome with
  | .error (.escaped fault) => some fault
  | _ => none

theorem fault?_eq_some {trace : Trace α} {fault : Fault} :
    trace.fault? = some fault ↔ trace.outcome = .error (.escaped fault) := by
  rw [fault?]
  split
  · next other stopped => simp [stopped]
  · next other => simpa using other fault

theorem fault?_lift {outcome : Except Problem α} {fault : Fault} :
    (liftM outcome : Trace α).fault? = some fault ↔ outcome = .error (.escaped fault) :=
  fault?_eq_some

theorem fault?_liftFault {first : Except Fault α} {fault : Fault} :
    (liftM first : Trace α).fault? = some fault ↔ first = .error fault := by
  cases first <;> simp [liftM, monadLift, MonadLift.monadLift, Trace.pure, stop, Trace.fault?]

theorem fault?_bind {first : Trace α} {next : α → Trace β} {fault : Fault} :
    (first >>= next).fault? = some fault ↔
      first.fault? = some fault ∨ ∃ a, first.outcome = .ok a ∧ (next a).fault? = some fault := by
  simp only [fault?_eq_some, outcome_bind, bind_eq_error]

/-- What comes after a computation adds no fault if it never ends with one. -/
theorem fault?_bind_of_none {first : Trace α} {next : α → Trace β}
    (never : ∀ a, (next a).fault? = none) : (first >>= next).fault? = first.fault? := by
  apply Option.ext
  intro fault
  simp [fault?_bind, never]

/-! ### Warnings -/

/-- What is logged as a warning among some events. -/
def warningsOf (events : List Event) : List LogRecord :=
  (events.filterMap Event.record?).filter fun entry => entry.level = .warning

theorem warningsOf_append (events others : List Event) :
    warningsOf (events ++ others) = warningsOf events ++ warningsOf others := by
  rw [warningsOf, List.filterMap_append, List.filter_append]
  rfl

theorem warningsOf_flatMap (events : α → List Event) (inputs : List α) :
    warningsOf (inputs.flatMap events) = inputs.flatMap fun a => warningsOf (events a) := by
  induction inputs with
  | nil => rfl
  | cons a rest ih => rw [List.flatMap_cons, List.flatMap_cons, warningsOf_append, ih]

theorem warningsOf_perm {events others : List Event} (reordered : events.Perm others) :
    (warningsOf events).Perm (warningsOf others) :=
  (reordered.filterMap _).filter _

/-- What the trace logs as warnings. -/
def warnings (trace : Trace α) : List LogRecord := warningsOf trace.events

theorem warnings_bind {first : Trace α} {a : α} (ended : first.outcome = .ok a)
    (next : α → Trace β) : (first >>= next).warnings = first.warnings ++ (next a).warnings := by
  rw [bind_of_ok ended]
  exact warningsOf_append _ _

/-- Nothing is logged as a warning. -/
def Quiet (trace : Trace α) : Prop := trace.warnings = []

theorem quiet_ofOutcome (outcome : Except Problem α) : (ofOutcome outcome).Quiet := rfl

theorem quiet_liftFault (first : Except Fault α) : (liftM first : Trace α).Quiet := by
  cases first <;> rfl

theorem quiet_bind {first : Trace α} {next : α → Trace β} (quiet : first.Quiet)
    (quietNext : ∀ a, (next a).Quiet) : (first >>= next).Quiet := by
  cases ended : first.outcome with
  | error problem =>
      rw [bind_of_error ended]
      exact quiet
  | ok a =>
      rw [Quiet, warnings_bind ended]
      exact List.append_eq_nil_iff.2 ⟨quiet, quietNext a⟩

/-! ### Outcomes that are kept -/

/-- The warning about an outcome, which is about a failure if there is one. -/
def warningAbout (logger : String) (message : Failure → String) :
    Except Failure α → List LogRecord
  | .ok _ => []
  | .error failure => [⟨logger, .warning, message failure⟩]

/-- The outcome is kept as a value, with a warning if it is a failure. A fault goes on. -/
def kept (trace : Trace α) (wrap : Except Failure α → β) (logger : String)
    (message : Failure → String) : Trace β :=
  trace.attempt >>= fun outcome =>
    ⟨(warningAbout logger message outcome).map .logged, .ok (wrap outcome)⟩

variable {trace : Trace α} {wrap : Except Failure α → β} {logger : String}
  {message : Failure → String}

theorem attempt_eq_ok {outcome : Except Failure α} :
    trace.attempt.outcome = .ok outcome ↔ trace.outcome = outcome.mapError .reported := by
  rw [attempt]
  cases trace.outcome with
  | ok a => cases outcome <;> simp [Except.mapError, eq_comm]
  | error problem => cases problem <;> cases outcome <;> simp [Except.mapError, eq_comm]

/-- Nothing but a fault stops a computation whose failure becomes a value. -/
theorem attempt_eq_error {problem : Problem} :
    trace.attempt.outcome = .error problem ↔
      ∃ fault, problem = .escaped fault ∧ trace.fault? = some fault := by
  rw [attempt, fault?]
  rcases trace.outcome with (failure | fault) | a <;> simp [eq_comm]

theorem kept_eq_error {problem : Problem} :
    (trace.kept wrap logger message).outcome = .error problem ↔
      ∃ fault, problem = .escaped fault ∧ trace.fault? = some fault := by
  rw [← attempt_eq_error, kept, outcome_bind, CodeMetrics.bind_eq_error]
  exact or_iff_left fun ⟨_, _, returned⟩ => nomatch returned

theorem kept_eq_ok {b : β} :
    (trace.kept wrap logger message).outcome = .ok b ↔
      ∃ outcome, trace.outcome = outcome.mapError .reported ∧ wrap outcome = b := by
  simp only [kept, bind_eq_ok, attempt_eq_ok, Except.ok.injEq]

theorem kept_of_fault {fault : Fault} (stopped : trace.fault? = some fault) :
    (trace.kept wrap logger message).outcome = .error (.escaped fault) :=
  kept_eq_error.2 ⟨fault, rfl, stopped⟩

/-- Without a fault there is an outcome to keep. -/
theorem fault?_eq_none :
    trace.fault? = none ↔
      ∃ outcome : Except Failure α, trace.outcome = outcome.mapError .reported := by
  rw [fault?]
  cases trace.outcome with
  | ok a => exact ⟨fun _ => ⟨.ok a, rfl⟩, fun _ => rfl⟩
  | error problem =>
      cases problem with
      | reported failure => exact ⟨fun _ => ⟨.error failure, rfl⟩, fun _ => rfl⟩
      | escaped fault =>
          refine ⟨nofun, ?_⟩
          rintro ⟨outcome, same⟩
          cases outcome <;> cases same

theorem warnings_kept {outcome : Except Failure α} (quiet : trace.Quiet)
    (ended : trace.outcome = outcome.mapError .reported) :
    (trace.kept wrap logger message).warnings = warningAbout logger message outcome := by
  rw [kept, warnings_bind (attempt_eq_ok.2 ended)]
  have silent : trace.attempt.warnings = [] := quiet
  rw [silent, List.nil_append]
  cases outcome <;> rfl

end Trace

end CodeMetrics
