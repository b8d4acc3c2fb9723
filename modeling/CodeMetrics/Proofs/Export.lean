import CodeMetrics.Proofs.Limits
import CodeMetrics.Proofs.ReadBack
import CodeMetrics.Session

/-!
# Settings in the environment

Settings can be written into the variables of the environment, each value as the text that is shown
of it, and be loaded again. Each kind of value takes its own way back: switches are spelled with a
capital letter, whole numbers and doubles are read from their digits, and texts are taken as they
are, the empty one too. Tables are not read, so that there must be none of the roles. A value that
may be left out gets no variable, and then its default is null as well. The assignments do not touch
the variable of the home folder, so that what is read from the files stays what it was.

A variable holds bytes. Not every half of a surrogate pair stands for one, and bytes that stand
together can be a character, so that a text with halves may be refused or come back as another.

Results:
1. `Reading.Gives.read_wording`: a value is read back from its text.
2. `Session.exists_assigned`, `lookup_assignments`: the environment when all is assigned.
3. `load_of_holds`: settings are loaded from variables that hold them.
4. `Session.step_assignments`: settings that are written into the environment are loaded again.
5. `Session.step_assignments_torn`: halves that are no bytes, and halves that are a character.
-/

namespace CodeMetrics

/-- The text of a value, with the halves that are in it. -/
def Value.wording : Value → Wording
  | .torn t => .torn t
  | value => .whole value.shown

/-- The text comes back from a variable as it was. -/
structure Wording.Kept (wording : Wording) : Prop where
  exported : wording.exported = .ok wording
  clean : wording.hasNul = false

theorem Wording.kept_whole {text : String} (clean : '\x00' ∉ text.toList) :
    (Wording.whole text).Kept := ⟨rfl, by simpa [hasNul] using clean⟩

theorem Value.given?_of_ne_null {value : Value} (set : value ≠ .null) :
    value.given? = some value := by
  cases value <;> first | rfl | exact absurd rfl set

namespace Settings

variable {layer : Layer} {settings : Settings} {host : Host}

/-! ## Values and their texts -/

/-- A value of the kind that a reading gives, and that can be written into a variable. No text is
read as a table, so the only one that need not be written is the empty one. -/
inductive Reading.Gives : Reading → Value → Prop
  | switch (b : Bool) : Gives .switch (.bool b)
  | whole {n : Int} (short : Number.tooLong n = false) : Gives .whole (.int n)
  | real {x : Float} (number : x.isNaN = false) : Gives .real (.real x)
  | text {wording : Wording} (kept : wording.Kept) : Gives .text (.ofWording wording)
  | unread : Gives .unread (.table [])

/-- What a reading makes of a value: tables are not read. -/
def Reading.given? (reading : Reading) (value : Value) : Option Value :=
  if reading = .unread then none else some value

theorem wording_ofWording (wording : Wording) : (Value.ofWording wording).wording = wording := by
  cases wording <;> rfl

/-- A value is read back from its text. -/
theorem Reading.Gives.read_wording {reading : Reading} {value : Value}
    (given : reading.Gives value) : reading.read value.wording = .ok (reading.given? value) := by
  cases given with
  | switch b => cases b <;> rfl
  | @whole n short =>
      have text : (Value.int n).wording.masked = (Number.integerText n).toList := rfl
      rw [Reading.read, text, Number.readInteger_integerText short]
      rfl
  | @real x number =>
      have text : (Value.real x).wording.masked = (Number.shortText x).toList := rfl
      rw [Reading.read, text, Number.readReal?_shortText number]
      rfl
  | @text wording =>
      rw [wording_ofWording]
      rfl
  | unread => rfl

/-- A value that is given by its reading can be written into a variable. -/
theorem Reading.Gives.kept {reading : Reading} {value : Value} (given : reading.Gives value) :
    value.wording.Kept := by
  have word {cs : List Char} (word : ∀ c ∈ cs, Report.Json.isWordChar c = true) : '\x00' ∉ cs :=
    fun member => absurd (word _ member) (by decide)
  cases given with
  | switch b =>
      have capital : '\x00' ∉ (boolText b).toList := by cases b <;> decide +kernel
      exact Wording.kept_whole capital
  | whole => exact Wording.kept_whole (word (Report.Json.isLiteral_integerText _).inside)
  | @real x number =>
      cases finite : x.isFinite with
      | true => exact Wording.kept_whole (word (Report.Json.isLiteral_shortText finite).inside)
      | false =>
          have endless : x.isInf = true := by rw [Number.isInf_eq number, finite]; rfl
          refine Wording.kept_whole ?_
          show '\x00' ∉ (Number.shortText x).toList
          rw [Report.Json.shortText_of_isInf number endless]
          split <;> decide
  | @text wording kept =>
      rw [wording_ofWording]
      exact kept
  | unread =>
      have braces : '\x00' ∉ (Value.table []).shown.toList := by decide +kernel
      exact Wording.kept_whole braces

/-! ## Fields and their variables -/

/-- The value is of the type its field is declared with. A field that need not have a value has
null instead. -/
def Field.Declares (field : Field) (value : Value) : Prop :=
  value = .null ∧ field.default = .null ∨ field.reading.Gives value

theorem Field.variableName_injective {field other : Field}
    (same : field.variableName = other.variableName) : field = other := by
  cases field <;> cases other <;> first | rfl | exact absurd same (by decide +kernel)

theorem Field.variableName_ne_home (field : Field) : "HOME" ≠ field.variableName := by
  cases field <;> decide +kernel

theorem Field.variableName_clean (field : Field) : '\x00' ∉ field.variableName.toList := by
  cases field <;> decide +kernel

/-- No text is read as the roles, and they are none by default. -/
theorem Field.default_of_unread {field : Field} (unread : field.reading = .unread) :
    field.default = .table [] := by
  cases field <;> first | rfl | cases unread

theorem Reading.Gives.ne_null {reading : Reading} {value : Value} (given : reading.Gives value) :
    value ≠ .null := by
  cases given with
  | @text wording => cases wording <;> nofun
  | switch | whole | real | unread => nofun

/-- Where the variable of a field holds a value, the field is set to it. -/
theorem getD_variableValue? {field : Field} {value : Value} (declared : field.Declares value)
    (set : host.valueOf? field.variableName = value.given?.map Value.wording) :
    (variableValue? host field).getD field.default = value := by
  rw [variableValue?, set]
  rcases declared with ⟨rfl, optional⟩ | given
  · exact optional
  · rw [Value.given?_of_ne_null given.ne_null, Option.map_some, Option.map_some]
    rw [given.read_wording]
    show (if field.reading = .unread then none else some value).getD field.default = value
    split
    · next unread =>
      rw [unread] at given
      cases given
      exact Field.default_of_unread unread
    · rfl

/-- The variables that hold some settings, with their texts: one for each field with a value. -/
def assignments (settings : Settings) : List (String × Option Wording) :=
  Field.all.filterMap fun field =>
    ((settings.get field).given?.map fun value => some value.wording).map (field.variableName, ·)

end Settings

/-! ## Environments -/

namespace Session

variable {environment assigned : Entries Wording} {name : String} {value : Option Wording}
  {values : List (String × Option Wording)}

/-- The variable can be set, and holds what it is set to. -/
def Assignable (name : String) (value : Option Wording) : Prop :=
  '\x00' ∉ name.toList ∧ ∀ wording, value = some wording → wording.Kept

theorem lookup_assign (holds : Assignable name value)
    (done : assign environment name value = .ok assigned) (other : String) :
    assigned.lookup other = if other = name then value else environment.lookup other := by
  have others : (environment.filter fun entry => entry.1 != name).lookup other =
      if other = name then none else environment.lookup other := by
    rw [lookup_filter_key (· != name)]
    by_cases here : other = name <;> simp [here]
  cases value with
  | none =>
      cases done
      exact others
  | some wording =>
      rw [assign, (holds.2 wording rfl).exported] at done
      dsimp only at done
      split_ifs at done
      cases done
      rw [List.lookup_cons, others]
      by_cases here : other = name
      · simp [here]
      · simp [here, beq_eq_false_iff_ne.2 here]

theorem exists_assign (environment : Entries Wording) (holds : Assignable name value) :
    ∃ assigned, assign environment name value = .ok assigned := by
  cases value with
  | none => exact ⟨_, rfl⟩
  | some wording =>
      have kept := holds.2 wording rfl
      have accepted : (name.toList.contains '\x00' || wording.hasNul) = false := by
        simpa [kept.clean] using holds.1
      rw [assign, kept.exported, accepted]
      exact ⟨_, rfl⟩

/-- Variables are assigned one after the other, and the last assignment to each holds. -/
theorem exists_assigned (environment : Entries Wording)
    (hold : ∀ entry ∈ values, Assignable entry.1 entry.2) :
    ∃ assigned,
      (values.foldlM (fun known entry => liftM (assign known entry.1 entry.2)) environment :
        Trace (Entries Wording)) = pure assigned ∧
      ∀ name, assigned.lookup name =
        (values.reverse.lookup name).getD (environment.lookup name) := by
  induction values generalizing environment with
  | nil => exact ⟨environment, rfl, fun _ => rfl⟩
  | cons entry rest ih =>
      obtain ⟨first, done⟩ := exists_assign environment (hold entry List.mem_cons_self)
      obtain ⟨assigned, others, found⟩ :=
        ih first fun other member => hold other (List.mem_cons_of_mem entry member)
      refine ⟨assigned, ?_, fun name => ?_⟩
      · rw [List.foldlM_cons, done]
        exact others
      · rw [found, lookup_assign (hold entry List.mem_cons_self) done, List.reverse_cons,
          List.lookup_append]
        cases rest.reverse.lookup name with
        | some value => rfl
        | none =>
            rw [Option.none_or, List.lookup_cons, List.lookup_nil]
            by_cases here : name = entry.1
            · simp [here]
            · simp [here, beq_eq_false_iff_ne.2 here]

end Session

namespace Settings

variable {layer : Layer} {settings : Settings} {host : Host}

theorem lookup_assignments (settings : Settings) (field : Field) :
    settings.assignments.reverse.lookup field.variableName =
      (settings.get field).given?.map fun value => some value.wording := by
  rw [assignments, ← List.filterMap_reverse, lookup_filterMap_key Field.variableName_injective,
    if_pos (List.mem_reverse.2 field.mem_all)]

theorem exists_of_mem_assignments {entry : String × Option Wording}
    (member : entry ∈ settings.assignments) :
    ∃ field : Field, settings.get field ≠ .null ∧
      entry = (field.variableName, some (settings.get field).wording) := by
  obtain ⟨field, -, set⟩ := List.mem_filterMap.1 member
  refine ⟨field, fun null => ?_, ?_⟩
  · rw [null] at set
    cases set
  · cases null : (settings.get field).isNull with
    | true => rw [Value.given?, null] at set; cases set
    | false => rw [Value.given?, null] at set; exact (Option.some.inj set).symm

theorem lookup_assignments_home (settings : Settings) :
    settings.assignments.reverse.lookup "HOME" = none := by
  refine List.lookup_eq_none_iff.2 fun entry member => ?_
  obtain ⟨field, -, rfl⟩ := exists_of_mem_assignments (List.mem_reverse.1 member)
  exact bne_iff_ne.2 field.variableName_ne_home

/-- Neither the user's file nor that of the project is there. -/
structure NoFiles (host : Host) : Prop where
  home : ∃ folder, host.home = .ok folder ∧
    host.lookup? (folder.join (.ofString homeFile)) = .ok none
  project : host.lookup? ((Path.absolute host.current).join (.ofString projectFile)) = .ok none

theorem NoFiles.withEnvironment (absent : NoFiles host) {environment : Entries Wording}
    (same : environment.lookup "HOME" = host.environment.lookup "HOME") :
    NoFiles { host with environment := environment } := by
  obtain ⟨folder, home, missing⟩ := absent.home
  refine ⟨⟨folder, ?_, missing⟩, absent.project⟩
  rw [← home, Host.home, Host.home, Host.valueOf?, Host.valueOf?, same]

theorem NoFiles.read_home (absent : NoFiles host) : Source.home.read host none = .ok [] := by
  obtain ⟨folder, home, missing⟩ := absent.home
  rw [Source.read, home]
  show optionalFile host (folder.join (.ofString homeFile)) = _
  rw [optionalFile, missing]
  rfl

theorem NoFiles.read_project (absent : NoFiles host) : Source.project.read host none = .ok [] := by
  rw [Source.read, optionalFile, absent.project]
  rfl

/-- The variables of all fields hold some settings. -/
def Holds (host : Host) (settings : Settings) : Prop :=
  ∀ field, host.valueOf? field.variableName = (settings.get field).given?.map Value.wording

/-- Without files nothing is refused that variables hold in the form of their fields. -/
theorem not_refused_of_holds (declared : ∀ field : Field, field.Declares (settings.get field))
    (absent : NoFiles host) (holds : Holds host settings) : ¬ Refused host none [] := by
  -- A name in a file, a name of the caller, or the text of a variable would have to be refused.
  rintro (⟨read, member, -⟩ | ⟨set, -, -, -⟩ | ⟨present, unreadable⟩)
  · next source layer name =>
    cases source with
    | home =>
        cases absent.read_home.symm.trans read
        cases member
    | project =>
        cases absent.read_project.symm.trans read
        cases member
    | named =>
        cases read
        cases member
  · cases set
  · next field text error =>
    rcases declared field with ⟨null, -⟩ | given
    · rw [holds, null] at present
      cases present
    · rw [holds, Value.given?_of_ne_null given.ne_null] at present
      cases present
      cases given.read_wording.symm.trans unreadable

/-- Settings are loaded when the variables hold them and no file is there. -/
theorem load_of_holds (accepted : ofLayer layer = .ok settings)
    (declared : ∀ field : Field, field.Declares (settings.get field)) (absent : NoFiles host)
    (holds : Holds host settings) : load host none [] = .ok settings := by
  have values (field : Field) : highest host [] [] [] [] field = settings.get field := by
    rw [← getD_variableValue? (declared field) (holds field), highest]
    cases variableValue? host field <;> cases field <;> rfl
  have distinct : Entries.Distinct ([] : Layer) := List.nodup_nil
  have known : stranger? (fullLayer settings.get) = stranger? layer :=
    (stranger?_eq_none.2 fun name member => ofName?_of_entriesOf member).trans
      (stranger?_of_accepted accepted).symm
  rw [load_of_not_refused distinct absent.read_home absent.read_project rfl rfl
      (not_refused_of_holds declared absent holds),
    funext values, ofLayer_congr known fun field => ?_, accepted]
  · rfl
  · rw [get_fullLayer, get_ofLayer accepted]

end Settings

namespace Session

variable {layer : Settings.Layer} {settings : Settings} {session : Session}

/-- Settings whose values are of the types of their fields are loaded again from the variables that
are set to them, where no file sets anything. -/
theorem step_assignments (accepted : Settings.ofLayer layer = .ok settings)
    (declared : ∀ field : Settings.Field, field.Declares (settings.get field))
    (absent : Settings.NoFiles session.host)
    (unset : ∀ field : Settings.Field, settings.get field = .null →
      session.host.valueOf? field.variableName = none) :
    ∃ environment,
      let exported := session.withHost { session.host with environment := environment }
      session.step (.setVariables settings.assignments) = pure (.nothing, exported) ∧
      exported.step (.loadSettings none []) =
        pure (.settings settings, { exported with settings := some settings }) := by
  have hold : ∀ entry ∈ settings.assignments, Assignable entry.1 entry.2 := by
    intro entry member
    obtain ⟨field, set, rfl⟩ := Settings.exists_of_mem_assignments member
    have given := (declared field).resolve_left fun null => set null.1
    refine ⟨field.variableName_clean, fun wording held => ?_⟩
    cases held
    exact given.kept
  obtain ⟨environment, assigned, found⟩ := exists_assigned session.host.environment hold
  refine ⟨environment, ?_, ?_⟩
  · rw [step, assigned]
    rfl
  · have holds : Settings.Holds { session.host with environment := environment } settings := by
      intro field
      rw [Host.valueOf?, found, Settings.lookup_assignments]
      by_cases null : settings.get field = .null
      · rw [null]
        exact unset field null
      · rw [Value.given?_of_ne_null null]
        rfl
    have home : environment.lookup "HOME" = session.host.environment.lookup "HOME" := by
      rw [found, Settings.lookup_assignments_home]
      rfl
    have loaded := Settings.load_of_holds accepted declared (absent.withEnvironment home) holds
    rw [step]
    show (liftM (Settings.load { session.host with environment := environment } none []) >>= _ :
      Trace (Answer × Session)) = _
    rw [loaded]
    rfl

/-- A machine without files, where one of the variables is set to something else. -/
def emptyMachine : Host where
  disk := .ofNodes []
  current := []
  environment := [("HALSTEAD_PPI_DUMP", .whole "perhaps"), ("HOME", .whole "/")]
  logging := .initial
  time := ""
  account := some "/"
  library := .standIn
  console := .recorder

/-- A switch, a tenth, a text that is empty, and one that stands for a byte. -/
def tenth : Settings.Layer :=
  [("ppi_dump", .bool true), ("max_file_size_mb", .real 0.1), ("lexer", .text ""),
   ("workers", .int 3), ("encoding", .torn ⟨[0xDC80], rfl⟩)]

theorem step_assignments_tenth :
    ∃ settings, Settings.ofLayer tenth = .ok settings ∧ settings.get .maxFileSize = .real 0.1 ∧
    ∃ environment,
      let exported := (start emptyMachine).withHost { emptyMachine with environment := environment }
      (start emptyMachine).step (.setVariables settings.assignments) = pure (.nothing, exported) ∧
      exported.step (.loadSettings none []) =
        pure (.settings settings, { exported with settings := some settings }) := by
  obtain ⟨settings, accepted⟩ : ∃ settings, Settings.ofLayer tenth = .ok settings :=
    Settings.exists_of_loaded (by decide +kernel)
  have values := Settings.get_ofLayer accepted
  refine ⟨settings, accepted, values .maxFileSize, step_assignments accepted (fun field => ?_)
    ⟨⟨_, rfl, ?_⟩, ?_⟩ fun field null => ?_⟩
  · rw [values]
    cases field with
    | precision | logFile => exact .inl ⟨rfl, rfl⟩
    | dump => exact .inr (.switch true)
    | maxFileSize => exact .inr (.real (by decide +kernel))
    | roles => exact .inr .unread
    | workers | maxCommits => exact .inr (.whole (by decide +kernel))
    | encoding => exact .inr (@Settings.Reading.Gives.text (.torn ⟨[0xDC80], rfl⟩)
        ⟨by decide +kernel, by decide +kernel⟩)
    | metric | layout | lexer | verbosity =>
        exact .inr (.text (Wording.kept_whole (by decide +kernel)))
  · decide +kernel
  · decide +kernel
  · rw [values] at null
    cases field with
    | dump => cases null
    | metric | precision | layout | lexer | encoding | maxFileSize | roles | workers | maxCommits
      | verbosity | logFile => decide +kernel

/-- The standard settings with a text for a lexer that is not made of characters alone. -/
def tornLexer (text : Torn) : Settings := { Settings.standard with lexer := .torn text }

/-- A half of a surrogate pair that stands for no byte cannot be written into a variable. Two halves
that stand for the bytes of one character are loaded again as this character. -/
theorem step_assignments_torn :
    let half : Torn := ⟨[0xD800], rfl⟩
    let bytes : Torn := ⟨[0xDCC3, 0xDCA9], rfl⟩
    (Settings.ofLayer [("lexer", .torn half)] = .ok (tornLexer half) ∧
      ((start emptyMachine).step (.setVariables (tornLexer half).assignments)).outcome =
        .error (.escaped (.unencodable ⟨0, [0xD800]⟩))) ∧
    Settings.ofLayer [("lexer", .torn bytes)] = .ok (tornLexer bytes) ∧
    ∃ environment reloaded,
      ((start emptyMachine).step (.setVariables (tornLexer bytes).assignments)).outcome =
        .ok (.nothing,
          (start emptyMachine).withHost { emptyMachine with environment := environment }) ∧
      Settings.load { emptyMachine with environment := environment } none [] = .ok reloaded ∧
      reloaded.lexer.shown = "é" ∧ reloaded ≠ tornLexer bytes := by
  intro half bytes
  have accepted (text : Torn) : Settings.ofLayer [("lexer", .torn text)] = .ok (tornLexer text) :=
    rfl
  have refused : ((start emptyMachine).step
      (.setVariables (tornLexer half).assignments)).fault? = some (.unencodable ⟨0, [0xD800]⟩) := by
    decide +kernel
  let loads (environment : Entries Wording) : Bool :=
    (Settings.load { emptyMachine with environment := environment } none []).toOption.any
      fun settings => settings.lexer.shown == "é"
  obtain ⟨environment, assigned, loaded⟩ := @exists_of_any _ _
    ((tornLexer bytes).assignments.foldlM
      (fun known entry => liftM (assign known entry.1 entry.2)) emptyMachine.environment :
        Trace (Entries Wording)).outcome loads (by decide +kernel)
  obtain ⟨reloaded, loaded, shown⟩ := exists_of_any loaded
  refine ⟨⟨accepted half, Trace.fault?_eq_some.1 refused⟩, accepted bytes, environment, reloaded,
    Trace.bind_eq_ok.2 ⟨environment, assigned, rfl⟩, loaded, beq_iff_eq.1 shown, fun equal => ?_⟩
  rw [equal] at shown
  have torn : ((tornLexer bytes).lexer.shown == "é") = false := by decide +kernel
  cases torn.symm.trans shown

end Session

end CodeMetrics
