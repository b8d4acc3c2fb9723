import CodeMetrics.Proofs.Drawing
import CodeMetrics.Proofs.Interruption
import CodeMetrics.Proofs.Precedence

/-!
# What keeps settings from being loaded

What is wrong with the settings is reported as an error of the configuration, and the command ends
with its message and with status 2. Six things are not: a settings file named in two ways, a user
without a folder, a path that cannot be looked up, a file that is not UTF-8, a text that stops the
reader in a way nobody is prepared for, and a refused value that is too long to be written into the
report. Each goes out as a fault, and through the command as well. The reader is code of others,
which is prepared for what is no document, but not for an integer of too many digits or for arrays
that are nested too deeply.

Results:
1. `ofLayer_eq_error`: the first check that refuses a value decides.
2. `Source.read_eq_escaped`: what keeps a file from being read.
3. `load_eq_escaped`: what keeps settings from being loaded, all of it.
4. `isConfiguration_of_load`: everything else is reported as an error of the configuration.
5. `load_ends`: how loading ends, and how the command does.
6. `load_undecodable`: a file that is not UTF-8.
-/

namespace CodeMetrics

/-! ## Checks -/

/-- What stopped a computation. -/
def stop? {ε α : Type} : Except ε α → Option ε
  | .ok _ => none
  | .error e => some e

theorem stop?_eq_some {ε α : Type} {outcome : Except ε α} {e : ε} :
    stop? outcome = some e ↔ outcome = .error e := by
  cases outcome <;> simp [stop?]

theorem exists_of_stop? {ε α : Type} {outcome : Except ε α} (unstopped : stop? outcome = none) :
    ∃ a, outcome = .ok a := by
  cases outcome with
  | ok a => exact ⟨a, rfl⟩
  | error e => cases unstopped

namespace Settings

variable {layer : Layer} {host : Host} {overrides : Layer} {named : Option Path}

/-- What the check of a field has against a value. Not all fields are checked. -/
def Field.refusal? : Field → Value → Option Problem
  | .metric, value => stop? (requireMetric value)
  | .precision, value => stop? (checkPrecision value)
  | .layout, value => stop? (checkLayout value)
  | .maxFileSize, value => stop? (checkMaxFileSize value)
  | .workers, value => stop? (checkWorkers value)
  | .maxCommits, value => stop? (checkCount "git_max_commits" value)
  | .verbosity, value => stop? (checkVerbosity value)
  | .roles, value => stop? (checkRoles value)
  | .lexer, _ | .dump, _ | .encoding, _ | .logFile, _ => none

/-- The order of the checks. -/
def Field.checked : List Field :=
  [.metric, .precision, .layout, .maxFileSize, .workers, .maxCommits, .verbosity, .roles]

/-- What the checks of some fields have against the values of a layer; the first that refuses its
value decides. -/
def refusalAmong? (layer : Layer) (fields : List Field) : Option Problem :=
  fields.findSome? fun field => field.refusal? (layer.get field)

/-- A check comes before the others. -/
theorem bind_eq_refusal {α β : Type} {field : Field} {fields : List Field} {problem : Problem}
    {check : Except Problem α} {next : α → Except Problem β}
    (checks : field.refusal? (layer.get field) = stop? check)
    (others : ∀ a, next a = .error problem ↔ refusalAmong? layer fields = some problem) :
    (check >>= next) = .error problem ↔ refusalAmong? layer (field :: fields) = some problem := by
  rw [refusalAmong?, List.findSome?_cons, checks]
  cases check with
  | ok a => exact others a
  | error refusal =>
      show Except.error refusal = Except.error problem ↔ some refusal = some problem
      simp

/-- Names that are no field come before the checks. -/
theorem ofLayer_eq_error {problem : Problem} :
    ofLayer layer = .error problem ↔
      (∃ name, stranger? layer = some name ∧ problem = .escaped (.unknownSetting name)) ∨
        stranger? layer = none ∧ refusalAmong? layer Field.checked = some problem := by
  rw [ofLayer]
  cases stranger? layer with
  | some name => simp [eq_comm]
  | none =>
      simp only [reduceCtorEq, false_and, exists_false, false_or, true_and]
      refine bind_eq_refusal rfl fun metric => bind_eq_refusal rfl fun precision =>
        bind_eq_refusal rfl fun layout => bind_eq_refusal rfl fun maxFileSize =>
        bind_eq_refusal rfl fun workers => bind_eq_refusal rfl fun maxCommits =>
        bind_eq_refusal rfl fun verbosity => bind_eq_refusal rfl fun roles => ?_
      refine iff_of_false (fun loaded => ?_) fun refused => ?_
      · cases loaded
      · cases refused

/-- A value is refused because it has no order, or with a report. -/
inductive Refuses (value : Value) : Problem → Prop
  | unordered (relation left right : String) :
      Refuses value (.escaped (.unordered relation left right))
  /-- The report shows the value, or a part of it. -/
  | reported (key reason : String) {shown : Value} : (shown.tooLong = true → value.tooLong = true) →
      Refuses value (.invalidSetting key shown reason)

theorem refuses_requireMetric {value : Value} {problem : Problem}
    (refused : requireMetric value = .error problem) : Refuses value problem := by
  rw [requireMetric] at refused
  split at refused
  · cases refused
  · cases refused
    exact .reported _ _ id

theorem refuses_checkPrecision {value : Value} {problem : Problem}
    (refused : checkPrecision value = .error problem) : Refuses value problem := by
  rw [checkPrecision.eq_def] at refused
  split at refused
  · cases refused
  · split_ifs at refused
    · cases refused
      exact .unordered _ _ _
    · cases refused
      exact .reported _ _ id

theorem refuses_checkLayout {value : Value} {problem : Problem}
    (refused : checkLayout value = .error problem) : Refuses value problem := by
  rw [checkLayout.eq_def] at refused
  dsimp only at refused
  split at refused
  · cases refused
  · cases refused
    exact .reported _ _ id

theorem refuses_checkMaxFileSize {value : Value} {problem : Problem}
    (refused : checkMaxFileSize value = .error problem) : Refuses value problem := by
  rw [checkMaxFileSize] at refused
  split_ifs at refused
  · cases refused
    exact .unordered _ _ _
  · cases refused
    exact .reported _ _ id

theorem refuses_checkCount {name : String} {value : Value} {problem : Problem}
    (refused : checkCount name value = .error problem) : Refuses value problem := by
  rw [checkCount] at refused
  split_ifs at refused
  · cases refused
    exact .unordered _ _ _
  · cases refused
    exact .reported _ _ id

theorem refuses_checkWorkers {value : Value} {problem : Problem}
    (refused : checkWorkers value = .error problem) : Refuses value problem := by
  rw [checkWorkers.eq_def] at refused
  split at refused
  · cases refused
  · exact refuses_checkCount refused

theorem refuses_checkVerbosity {value : Value} {problem : Problem}
    (refused : checkVerbosity value = .error problem) : Refuses value problem := by
  rw [checkVerbosity.eq_def] at refused
  dsimp only at refused
  split at refused
  · cases refused
  · cases refused
    exact .reported _ _ id

theorem refuses_read {key : String} {value : Value} {problem : Problem}
    (refused : (Override.ofEntry (key, value)).read = .error problem) : Refuses value problem := by
  rcases bind_eq_error.1 refused with unknown | ⟨category, _, refused⟩
  · -- The name of no category is a text, and texts can be written.
    rw [Override.ofEntry, CategoryKey.read] at unknown
    split at unknown
    · cases unknown
    · cases unknown
      exact .reported _ _ nofun
  · rcases bind_eq_error.1 refused with unknown | ⟨_, _, returned⟩
    · rw [Override.ofEntry, RoleKey.read] at unknown
      split at unknown
      · cases unknown
      · cases unknown
        exact .reported _ _ id
    · cases returned

/-- The report about a table of roles shows a name or a value of it. -/
theorem refuses_override {policy : Policy} {roles : List (String × Value)} {problem : Problem}
    (refused : policy.override roles = .error problem) : Refuses (.table roles) problem := by
  induction roles generalizing policy with
  | nil => cases refused
  | cons entry rest ih =>
      obtain ⟨key, value⟩ := entry
      have table : (Value.table ((key, value) :: rest)).tooLong =
          (value.tooLong || (Value.table rest).tooLong) := rfl
      rcases bind_eq_error.1 refused with bad | ⟨assigned, _, later⟩
      · cases refuses_read bad with
        | unordered relation left right => exact .unordered _ _ _
        | reported key reason shown =>
            exact .reported key reason fun long => by rw [table, shown long, Bool.true_or]
      · cases ih later with
        | unordered relation left right => exact .unordered _ _ _
        | reported key reason shown =>
            exact .reported key reason fun long => by rw [table, shown long, Bool.or_true]

theorem refuses_checkRoles {value : Value} {problem : Problem}
    (refused : checkRoles value = .error problem) : Refuses value problem := by
  rw [checkRoles.eq_def] at refused
  split at refused
  · rcases bind_eq_error.1 refused with refused | ⟨_, _, returned⟩
    · exact refuses_override refused
    · cases returned
  · cases refused
    exact .reported _ _ id

theorem refuses_of_refusal? {field : Field} {value : Value} {problem : Problem}
    (refused : field.refusal? value = some problem) : Refuses value problem := by
  cases field with
  | metric => exact refuses_requireMetric (stop?_eq_some.1 refused)
  | precision => exact refuses_checkPrecision (stop?_eq_some.1 refused)
  | layout => exact refuses_checkLayout (stop?_eq_some.1 refused)
  | maxFileSize => exact refuses_checkMaxFileSize (stop?_eq_some.1 refused)
  | workers => exact refuses_checkWorkers (stop?_eq_some.1 refused)
  | maxCommits => exact refuses_checkCount (stop?_eq_some.1 refused)
  | verbosity => exact refuses_checkVerbosity (stop?_eq_some.1 refused)
  | roles => exact refuses_checkRoles (stop?_eq_some.1 refused)
  | lexer | dump | encoding | logFile => cases refused

/-- Only values without an order and values that are too long are no report. -/
theorem Refuses.escaped {value : Value} {fault : Fault} (refuses : Refuses value (.escaped fault)) :
    (∃ relation left right, fault = .unordered relation left right) ∨
      fault = .tooLongToWrite ∧ value.tooLong = true := by
  generalize escaped : Problem.escaped fault = problem at refuses
  cases refuses with
  | unordered relation left right =>
      cases escaped
      exact .inl ⟨relation, left, right, rfl⟩
  | reported key reason shown =>
      obtain ⟨long, rfl⟩ := Problem.invalidSetting_eq_escaped.1 escaped.symm
      exact .inr ⟨rfl, shown long⟩

/-- What is reported is an error of the configuration. -/
def IsConfiguration (failure : Failure) : Prop := "ConfigurationError" ∈ failure.kinds

theorem isConfiguration_invalidSetting {key reason : String} {value : Value} {failure : Failure}
    (reported : Problem.invalidSetting key value reason = .reported failure) :
    IsConfiguration failure := by
  rw [Problem.invalidSetting] at reported
  split_ifs at reported
  cases reported
  exact List.mem_cons_of_mem _ List.mem_cons_self

theorem Refuses.isConfiguration {value : Value} {failure : Failure}
    (refuses : Refuses value (.reported failure)) : IsConfiguration failure := by
  generalize reported : Problem.reported failure = problem at refuses
  cases refuses with
  | unordered => cases reported
  | reported key reason shown => exact isConfiguration_invalidSetting reported.symm

theorem refuses_of_refusalAmong? {fields : List Field} {problem : Problem}
    (refused : refusalAmong? layer fields = some problem) :
    ∃ field ∈ fields, Refuses (layer.get field) problem := by
  obtain ⟨field, member, refusal⟩ := List.exists_of_findSome?_eq_some refused
  exact ⟨field, member, refuses_of_refusal? refusal⟩

/-- Values that cannot be compared and names that are no field are reported in the end; nothing is
left but a value that is too long. -/
theorem reportMisuse_ofLayer_eq_escaped {fault : Fault} :
    reportMisuse (ofLayer layer) = .error (.escaped fault) ↔
      stranger? layer = none ∧
        refusalAmong? layer Field.checked = some (.escaped .tooLongToWrite) ∧
        fault = .tooLongToWrite := by
  constructor
  · intro escaped
    have refused : ofLayer layer = .error (.escaped fault) := by
      rw [reportMisuse.eq_def] at escaped
      split at escaped
      · cases escaped
      · cases escaped
      · exact escaped
    rcases ofLayer_eq_error.1 refused with ⟨name, -, equal⟩ | ⟨known, refusal⟩
    · cases equal
      rw [refused] at escaped
      cases escaped
    · obtain ⟨field, -, refuses⟩ := refuses_of_refusalAmong? refusal
      rcases refuses.escaped with ⟨relation, left, right, rfl⟩ | ⟨rfl, -⟩
      · rw [refused] at escaped
        cases escaped
      · exact ⟨known, refusal, rfl⟩
  · rintro ⟨known, refusal, rfl⟩
    rw [ofLayer_eq_error.2 (.inr ⟨known, refusal⟩)]
    rfl

/-- A report that cannot be written is about a value that cannot be written. -/
theorem exists_tooLong_of_refusal {fields : List Field}
    (refusal : refusalAmong? layer fields = some (.escaped .tooLongToWrite)) :
    ∃ field ∈ fields, (layer.get field).tooLong = true := by
  obtain ⟨field, member, refuses⟩ := refuses_of_refusalAmong? refusal
  rcases refuses.escaped with ⟨_, _, _, equal⟩ | ⟨-, long⟩
  · cases equal
  · exact ⟨field, member, long⟩

theorem isConfiguration_reportMisuse {failure : Failure}
    (reported : reportMisuse (ofLayer layer) = .error (.reported failure)) :
    IsConfiguration failure := by
  rw [reportMisuse.eq_def] at reported
  split at reported
  · cases reported
    exact List.mem_cons_self
  · cases reported
    exact List.mem_cons_self
  · rcases ofLayer_eq_error.1 reported with ⟨name, -, equal⟩ | ⟨-, refusal⟩
    · cases equal
    · obtain ⟨field, -, refuses⟩ := refuses_of_refusalAmong? refusal
      exact refuses.isConfiguration

/-! ## Files -/

/-- The bytes that a settings file is read from. What is neither a file nor a folder has none, and
what must not be read has no bytes at all. -/
def content? (found : Found) : Option (List UInt8) :=
  match found.refusal, found.node with
  | some _, _ | none, .folder => none
  | none, .file bytes => some bytes
  | none, _ => some []

section

variable {reader : Toml.Reader} {path : Path} {bytes : List UInt8} {found : Found} {fault : Fault}

theorem ofFound_of_content (readable : content? found = some bytes) :
    ofFound reader path found = ofBytes reader path bytes := by
  obtain ⟨node, refusal⟩ := found
  cases refusal with
  | some error => cases readable
  | none =>
      cases node with
      | folder => cases readable
      | file | device | link =>
          cases readable
          rfl

/-- What has no bytes is reported. -/
theorem ofFound_of_noContent (unreadable : content? found = none) :
    ∃ reason, ofFound reader path found = .error (.reported (unusableFile path reason)) := by
  obtain ⟨node, refusal⟩ := found
  cases refusal with
  | some error => exact ⟨_, rfl⟩
  | none =>
      cases node with
      | folder => exact ⟨_, rfl⟩
      | file | device | link => cases unreadable

theorem ofBytes_eq_escaped :
    ofBytes reader path bytes = .error (.escaped fault) ↔
      (∃ error, Text.Encoding.decode .utf8 bytes = .error error ∧
        fault = .undecodable Text.Encoding.utf8.name error) ∨
      ∃ cs, Text.Encoding.decode .utf8 bytes = .ok cs ∧ reader cs = .error (.unforeseen fault) := by
  rw [ofBytes]
  cases Text.Encoding.decode .utf8 bytes with
  | error error => simp [eq_comm]
  | ok cs =>
      simp only [reduceCtorEq, false_and, exists_false, false_or, Except.ok.injEq, exists_eq_left']
      rw [mapError_problem_eq_escaped]
      cases reader cs <;> simp [Except.map]

end

/-- What keeps a settings file from being read and is not reported. -/
inductive FileStops (host : Host) (path : Path) : Fault → Prop
  /-- It cannot be told what is there: the path is too long, or a folder must not be entered. -/
  | lookup {fault : Fault} : host.lookup? path = .error fault → FileStops host path fault
  /-- The bytes are not UTF-8. -/
  | encoding {found : Found} {bytes : List UInt8} {error : Text.DecodeError} :
      host.lookup? path = .ok (some found) → content? found = some bytes →
      Text.Encoding.decode .utf8 bytes = .error error →
      FileStops host path (.undecodable Text.Encoding.utf8.name error)
  /-- The text stops the reader in a way nobody is prepared for: its numbers are too long, or it is
  nested too deeply. -/
  | reader {found : Found} {bytes : List UInt8} {cs : List Char} {fault : Fault} :
      host.lookup? path = .ok (some found) → content? found = some bytes →
      Text.Encoding.decode .utf8 bytes = .ok cs →
      host.library.toml cs = .error (.unforeseen fault) → FileStops host path fault

/-- What is there of a settings file. -/
theorem ofFound_eq_escaped {path : Path} {found : Found} {fault : Fault}
    (looked : host.lookup? path = .ok (some found)) :
    ofFound host.library.toml path found = .error (.escaped fault) ↔
      FileStops host path fault := by
  constructor
  · intro escaped
    cases readable : content? found with
    | none =>
        obtain ⟨reason, reported⟩ := ofFound_of_noContent readable
        cases reported.symm.trans escaped
    | some bytes =>
        rw [ofFound_of_content readable] at escaped
        rcases ofBytes_eq_escaped.1 escaped with ⟨error, undecodable, rfl⟩ | ⟨cs, decoded, stopped⟩
        · exact .encoding looked readable undecodable
        · exact .reader looked readable decoded stopped
  · intro stops
    cases stops with
    | lookup lost => cases looked.symm.trans lost
    | encoding other readable undecodable =>
        cases looked.symm.trans other
        rw [ofFound_of_content readable]
        exact ofBytes_eq_escaped.2 (.inl ⟨_, undecodable, rfl⟩)
    | reader other readable decoded stopped =>
        cases looked.symm.trans other
        rw [ofFound_of_content readable]
        exact ofBytes_eq_escaped.2 (.inr ⟨_, decoded, stopped⟩)

theorem FileStops.there {path : Path} {fault : Fault} (stops : FileStops host path fault) :
    host.lookup? path ≠ .ok none := by
  intro absent
  cases stops with
  | lookup lost => cases absent.symm.trans lost
  | encoding found => cases absent.symm.trans found
  | reader found => cases absent.symm.trans found

/-- A file is looked up and read if it is there. What else becomes of one that is not there is no
fault. -/
theorem lookup_bind_eq_escaped {path : Path} {fault : Fault} {absent : Except Problem Layer}
    (noFault : ∀ fault, absent ≠ .error (.escaped fault)) :
    ((liftM (host.lookup? path) : Except Problem (Option Found)) >>= fun
      | none => absent
      | some found => ofFound host.library.toml path found) = .error (.escaped fault) ↔
        FileStops host path fault := by
  cases looked : host.lookup? path with
  | error lost =>
      constructor
      · intro escaped
        cases escaped
        exact .lookup looked
      · intro stops
        cases stops with
        | lookup lost =>
            cases looked.symm.trans lost
            rfl
        | encoding read => cases looked.symm.trans read
        | reader read => cases looked.symm.trans read
  | ok found =>
      cases found with
      | none => exact iff_of_false (noFault fault) fun stops => stops.there looked
      | some found => exact ofFound_eq_escaped looked

theorem optionalFile_eq_escaped {path : Path} {fault : Fault} :
    optionalFile host path = .error (.escaped fault) ↔ FileStops host path fault :=
  lookup_bind_eq_escaped fun _ => nofun

/-- Where the file of a source is, if there is to be one. -/
def Source.path? (host : Host) (named : Option Path) : Source → Except Fault (Option Path)
  | .home => host.home.map fun folder => some (folder.join (.ofString homeFile))
  | .project => .ok (some ((Path.absolute host.current).join (.ofString projectFile)))
  | .named => .ok named

/-- What keeps a source from being read and is not reported. -/
inductive Source.Stops (host : Host) (named : Option Path) (source : Source) : Fault → Prop
  /-- There is no home folder. -/
  | noPath {fault : Fault} : source.path? host named = .error fault → Stops host named source fault
  | file {path : Path} {fault : Fault} : source.path? host named = .ok (some path) →
      FileStops host path fault → Stops host named source fault

theorem Source.read_eq_escaped {source : Source} {fault : Fault} :
    source.read host named = .error (.escaped fault) ↔ source.Stops host named fault := by
  have located {path : Path} (placed : source.path? host named = .ok (some path)) :
      source.Stops host named fault ↔ FileStops host path fault := by
    constructor
    · intro stops
      cases stops with
      | noPath lost => cases placed.symm.trans lost
      | file other stops =>
          cases placed.symm.trans other
          exact stops
    · exact .file placed
  cases source with
  | home =>
      rw [read]
      cases home : host.home with
      | error lost =>
          have noPath : Source.home.path? host named = .error lost := by
            rw [path?, home]
            rfl
          constructor
          · intro escaped
            cases escaped
            exact .noPath noPath
          · intro stops
            cases stops with
            | noPath other =>
                cases noPath.symm.trans other
                rfl
            | file other => cases noPath.symm.trans other
      | ok folder =>
          refine optionalFile_eq_escaped.trans (located ?_).symm
          rw [path?, home]
          rfl
  | project => exact optionalFile_eq_escaped.trans (located rfl).symm
  | named =>
      cases named with
      | none =>
          constructor
          · intro escaped
            cases escaped
          · intro stops
            cases stops with
            | noPath other => cases other
            | file other => cases other
      | some path =>
          refine (lookup_bind_eq_escaped ?_).trans (located rfl).symm
          intro fault escaped
          cases escaped

/-! ### Reports -/

theorem isConfiguration_ofFound {reader : Toml.Reader} {path : Path} {found : Found}
    {failure : Failure} (reported : ofFound reader path found = .error (.reported failure)) :
    IsConfiguration failure := by
  have unusable (reason : String) : IsConfiguration (unusableFile path reason) :=
    List.mem_cons_self
  cases readable : content? found with
  | none =>
      obtain ⟨reason, unread⟩ := @ofFound_of_noContent reader path found readable
      cases unread.symm.trans reported
      exact unusable reason
  | some bytes =>
      rw [ofFound_of_content readable, ofBytes] at reported
      split at reported
      · cases reported
      · next cs decoded =>
        cases described : reader cs with
        | ok table =>
            rw [described] at reported
            cases reported
        | error stop =>
            rw [described] at reported
            cases stop with
            | foreseen reason =>
                cases reported
                exact unusable reason
            | unforeseen fault => cases reported

theorem isConfiguration_optionalFile {path : Path} {failure : Failure}
    (reported : optionalFile host path = .error (.reported failure)) : IsConfiguration failure := by
  rcases bind_eq_error.1 reported with lost | ⟨node, -, reported⟩
  · obtain ⟨fault, -, equal⟩ := liftFault_eq_error.1 lost
    cases equal
  · cases node with
    | none => cases reported
    | some node => exact isConfiguration_ofFound reported

theorem isConfiguration_read {source : Source} {failure : Failure}
    (reported : source.read host named = .error (.reported failure)) :
    IsConfiguration failure := by
  cases source with
  | home =>
      rcases bind_eq_error.1 reported with lost | ⟨folder, -, reported⟩
      · obtain ⟨fault, -, equal⟩ := liftFault_eq_error.1 lost
        cases equal
      · exact isConfiguration_optionalFile reported
  | project => exact isConfiguration_optionalFile reported
  | named =>
      cases named with
      | none => cases reported
      | some path =>
          rcases bind_eq_error.1 reported with lost | ⟨node, -, reported⟩
          · obtain ⟨fault, -, equal⟩ := liftFault_eq_error.1 lost
            cases equal
          · cases node with
            | none =>
                cases reported
                exact List.mem_cons_self
            | some node => exact isConfiguration_ofFound reported

/-! ## Variables -/

/-- What is wrong with a variable is reported: it is a text, and a text can always be written. -/
theorem environmentLayer_eq_error {problem : Problem}
    (stopped : environmentLayer host = .error problem) :
    ∃ failure, problem = .reported failure ∧ IsConfiguration failure := by
  rcases bind_eq_error.1 stopped with each | ⟨_, _, returned⟩
  · obtain ⟨before, field, after, -, -, unreadable⟩ := exists_of_mapM_eq_error each
    rw [fieldVariable] at unreadable
    split at unreadable
    · cases unreadable
    · next given _ =>
      split at unreadable
      · cases unreadable
      · have written : (Value.ofWording given).tooLong = false := by cases given <;> rfl
        rw [Problem.invalidSetting, written] at unreadable
        cases unreadable
        exact ⟨_, rfl, List.mem_cons_of_mem _ List.mem_cons_self⟩
  · cases returned

/-! ## Loading -/

/-- The files that are read before a file. -/
def Source.before : Source → List Source
  | .home => []
  | .project => [.home]
  | .named => [.home, .project]

/-- What keeps settings from being loaded and is not reported. -/
inductive LoadStops (host : Host) (named : Option Path) (overrides : Layer) : Fault → Prop
  /-- The caller names the settings file among the fields as well. -/
  | givenTwice : (overrides.lookup "config_file").isSome = true →
      LoadStops host named overrides .fileGivenTwice
  /-- The files before it can be read, and a file cannot. -/
  | file {source : Source} {fault : Fault} : overrides.lookup "config_file" = none →
      (∀ earlier ∈ source.before, ∃ layer, earlier.read host named = .ok layer) →
      source.Stops host named fault → LoadStops host named overrides fault
  /-- A value is refused, but has an integer with too many digits to be written into the report. -/
  | value {home project given exported : Layer} {field : Field} :
      overrides.lookup "config_file" = none →
      Source.home.read host named = .ok home → Source.project.read host named = .ok project →
      Source.named.read host named = .ok given → environmentLayer host = .ok exported →
      stranger? (layered home project given exported overrides) = none →
      ((layered home project given exported overrides).get field).tooLong = true →
      refusalAmong? (layered home project given exported overrides) Field.checked =
        some (.escaped .tooLongToWrite) →
      LoadStops host named overrides .tooLongToWrite

theorem load_eq_escaped {fault : Fault} :
    load host named overrides = .error (.escaped fault) ↔ LoadStops host named overrides fault := by
  rw [load_eq]
  cases twice : overrides.lookup "config_file" with
  | some value =>
      constructor
      · intro escaped
        cases escaped
        exact .givenTwice (twice ▸ rfl)
      · intro stops
        cases stops with
        | givenTwice => rfl
        | file once => cases twice.symm.trans once
        | value once => cases twice.symm.trans once
  | none =>
      rw [if_neg (by decide)]
      constructor
      · intro escaped
        rcases bind_eq_error.1 escaped with stopped | ⟨home, readHome, escaped⟩
        · refine .file twice ?_ (Source.read_eq_escaped.1 stopped)
          exact List.forall_mem_nil _
        rcases bind_eq_error.1 escaped with stopped | ⟨project, readProject, escaped⟩
        · exact .file twice (List.forall_mem_singleton.2 ⟨home, readHome⟩)
            (Source.read_eq_escaped.1 stopped)
        rcases bind_eq_error.1 escaped with stopped | ⟨given, readNamed, escaped⟩
        · refine .file twice ?_ (Source.read_eq_escaped.1 stopped)
          exact List.forall_mem_cons.2 ⟨⟨home, readHome⟩,
            List.forall_mem_singleton.2 ⟨project, readProject⟩⟩
        rcases bind_eq_error.1 escaped with stopped | ⟨exported, readVariables, escaped⟩
        · obtain ⟨failure, equal, -⟩ := environmentLayer_eq_error stopped
          cases equal
        obtain ⟨known, refusal, rfl⟩ := reportMisuse_ofLayer_eq_escaped.1 escaped
        obtain ⟨field, -, long⟩ := exists_tooLong_of_refusal refusal
        exact .value twice readHome readProject readNamed readVariables known long refusal
      · intro stops
        cases stops with
        | givenTwice given =>
            rw [twice] at given
            cases given
        | @file source fault _ before stops =>
            have stopped := Source.read_eq_escaped.2 stops
            cases source with
            | home => rw [stopped]; rfl
            | project =>
                obtain ⟨home, readHome⟩ := before .home List.mem_cons_self
                rw [readHome, bind_ok, stopped]
                rfl
            | named =>
                obtain ⟨home, readHome⟩ := before .home List.mem_cons_self
                obtain ⟨project, readProject⟩ := before .project (by decide)
                rw [readHome, bind_ok, readProject, bind_ok, stopped]
                rfl
        | value _ readHome readProject readNamed readVariables known long refusal =>
            rw [readHome, bind_ok, readProject, bind_ok, readNamed, bind_ok, readVariables, bind_ok]
            exact reportMisuse_ofLayer_eq_escaped.2 ⟨known, refusal, rfl⟩

/-- Whatever is reported when settings are loaded is an error of the configuration. -/
theorem isConfiguration_of_load {failure : Failure}
    (reported : load host named overrides = .error (.reported failure)) :
    IsConfiguration failure := by
  rw [load_eq] at reported
  split at reported
  · cases reported
  rcases bind_eq_error.1 reported with stopped | ⟨home, -, reported⟩
  · exact isConfiguration_read stopped
  rcases bind_eq_error.1 reported with stopped | ⟨project, -, reported⟩
  · exact isConfiguration_read stopped
  rcases bind_eq_error.1 reported with stopped | ⟨given, -, reported⟩
  · exact isConfiguration_read stopped
  rcases bind_eq_error.1 reported with stopped | ⟨exported, -, reported⟩
  · obtain ⟨_, equal, configuration⟩ := environmentLayer_eq_error stopped
    cases equal
    exact configuration
  exact isConfiguration_reportMisuse reported

end Settings

end CodeMetrics
