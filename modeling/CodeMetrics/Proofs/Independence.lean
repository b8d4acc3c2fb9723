import CodeMetrics.Proofs.Limits
import CodeMetrics.Proofs.Status

/-!
# What does not show

How the work is shared and how it is logged can be asked for anew, and what a command shows stays
the same: it ends as before, and prints the same. The log must not go to what is read, nor to where
the command prints, and what was asked for before must be possible where it is replaced: a log file
that cannot be opened stops a command, and workers that cannot be written down or never begin stop a
batch that is shared, so that asking for others shows.

Results:
1. `load_reworked`: the settings when the work is asked for anew.
2. `ready_reworked`: logging is set up as well, or fails as before.
3. `analyze_reworked`, `history_reworked`: what either command shows.
4. `run_reworked`: all of it, for any command line.
5. `run_disturbed`: where it shows.
-/

namespace CodeMetrics

/-! ## Settings -/

namespace Settings

variable {layer : Layer} {settings : Settings}

/-- The workers are checked again where they came from. -/
theorem checkWorkers_of_accepted (accepted : ofLayer layer = .ok settings) :
    checkWorkers settings.workers = .ok settings.workers := by
  have listed : Field.workers ∈ Field.checked := by decide
  obtain ⟨checked, passed⟩ := exists_of_stop? (refusal?_of_accepted accepted listed)
  cases checkWorkers_eq_ok passed
  exact passed

theorem checkVerbosity_name (verbosity : Verbosity) :
    checkVerbosity (.text verbosity.name) = .ok verbosity := by
  cases verbosity <;> rfl

/-- Settings that were accepted are so with another way of working, if its workers are. -/
theorem accepted_of_workers {workers : Value} (accepted : ofLayer layer = .ok settings)
    (hired : checkWorkers workers = .ok workers) (verbosity : Verbosity) (logFile : Value) :
    ofLayer (fullLayer
      { settings with workers := workers, verbosity := verbosity, logFile := logFile }.get) =
      .ok { settings with workers := workers, verbosity := verbosity, logFile := logFile } := by
  have values (field : Field) : layer.get field = settings.get field :=
    (get_ofLayer accepted field).symm
  have known (value : Field → Value) : stranger? (fullLayer value) = none :=
    stranger?_eq_none.2 fun name member => ofName?_of_entriesOf member
  rw [ofLayer, stranger?_of_accepted accepted] at accepted
  obtain ⟨metric, readMetric, accepted⟩ := bind_eq_ok.1 accepted
  obtain ⟨precision, readPrecision, accepted⟩ := bind_eq_ok.1 accepted
  obtain ⟨layout, readLayout, accepted⟩ := bind_eq_ok.1 accepted
  obtain ⟨maxFileSize, readSize, accepted⟩ := bind_eq_ok.1 accepted
  obtain ⟨_, -, accepted⟩ := bind_eq_ok.1 accepted
  obtain ⟨maxCommits, readCommits, accepted⟩ := bind_eq_ok.1 accepted
  obtain ⟨_, -, accepted⟩ := bind_eq_ok.1 accepted
  obtain ⟨roles, readRoles, returned⟩ := bind_eq_ok.1 accepted
  cases returned
  rw [values] at readMetric readPrecision readLayout readSize readCommits readRoles
  rw [ofLayer, known]
  simp only [get_fullLayer]
  exact bind_eq_ok.2 ⟨metric, readMetric, bind_eq_ok.2 ⟨precision, readPrecision,
    bind_eq_ok.2 ⟨layout, readLayout, bind_eq_ok.2 ⟨maxFileSize, readSize,
      bind_eq_ok.2 ⟨workers, hired, bind_eq_ok.2 ⟨maxCommits, readCommits,
        bind_eq_ok.2 ⟨verbosity, checkVerbosity_name verbosity,
          bind_eq_ok.2 ⟨roles, readRoles, rfl⟩⟩⟩⟩⟩⟩⟩⟩

end Settings

namespace Command

open Settings

variable {host ready again : Host} {git : Git} {options changed : Options} {settings : Settings}
  {files kept : List Path} {file : Path} {log : Value}

/-! ## Options -/

/-- The verbosity that is asked for. -/
def Options.verbosity? (options : Options) : Option Verbosity :=
  if options.quiet then some .quiet else if options.verbose then some .verbose else none

/-- The same is asked for, and how to do it maybe with other values: how many workers there are, how
much is logged, and where. What is said of this is not taken back. -/
structure Options.SameWork (options changed : Options) : Prop where
  same : changed = { options with
    workers := changed.workers, verbose := changed.verbose, quiet := changed.quiet,
    logFile := changed.logFile }
  workers : changed.workers = none → options.workers = none
  verbosity : changed.verbosity? = none → options.verbosity? = none
  logFile : changed.logFile = none → options.logFile = none

/-- The settings with what some options say of how to work. -/
def reworked (settings : Settings) (options : Options) : Settings :=
  { settings with
    workers := (options.workers.map .int).getD settings.workers
    verbosity := options.verbosity?.getD settings.verbosity
    logFile := (options.logFile.map fun path => .text path.text).getD settings.logFile }

theorem names_layer (options : Options) : Entries.names options.layer =
    ["metric", "precision", "output_format", "lexer", "ppi_dump", "workers", "git_max_commits",
      "log_file", "verbose", "quiet"] := rfl

theorem distinct_layer (options : Options) : Entries.Distinct options.layer := by
  rw [Entries.Distinct, names_layer]
  decide

/-- Options give fields, and two switches. -/
theorem given?_layer_of_stranger (options : Options) {name : String} (noQuiet : name ≠ "quiet")
    (noVerbose : name ≠ "verbose") (stranger : Field.ofName? name = none) :
    Settings.given? options.layer name = none := by
  have known : ∀ name ∈ Entries.names options.layer,
      name = "quiet" ∨ name = "verbose" ∨ Field.ofName? name ≠ none := by
    rw [names_layer]
    decide
  have absent : options.layer.lookup name = none := by
    by_contra present
    have listed : name ∈ Entries.names options.layer :=
      Entries.mem_names_iff.2 (Option.isSome_iff_ne_none.2 present)
    rcases known name listed with quiet | verbose | field
    · exact noQuiet quiet
    · exact noVerbose verbose
    · exact field stranger
  rw [Settings.given?, absent]
  rfl

theorem callerValue?_workers (options : Options) :
    callerValue? options.layer .workers = options.workers.map .int := by
  show (some (optionalInt options.workers)).filter (!·.isNull) = _
  cases options.workers <;> rfl

theorem callerValue?_logFile (options : Options) :
    callerValue? options.layer .logFile = options.logFile.map fun path => .text path.text := by
  show (some (Value.ofOption (options.logFile.map Path.text))).filter (!·.isNull) = _
  cases options.logFile <;> rfl

theorem callerValue?_verbosity (options : Options) :
    callerValue? options.layer .verbosity =
      options.verbosity?.map fun verbosity => .text verbosity.name := by
  show (if options.quiet then _ else if options.verbose then _ else none) = _
  rw [Options.verbosity?]
  cases options.quiet <;> cases options.verbose <;> rfl

/-- Of all other fields the same is said. -/
theorem Options.SameWork.callerValue?_eq (same : options.SameWork changed) {field : Field}
    (noWorkers : field ≠ .workers) (noVerbosity : field ≠ .verbosity) (noLog : field ≠ .logFile) :
    callerValue? changed.layer field = callerValue? options.layer field := by
  rw [same.same]
  cases field with
  | workers => exact absurd rfl noWorkers
  | verbosity => exact absurd rfl noVerbosity
  | logFile => exact absurd rfl noLog
  | _ => rfl

/-- What was accepted of the layers is accepted again. -/
theorem Options.SameWork.not_refused (same : options.SameWork changed)
    (accepted : ¬ Refused host options.config options.layer) :
    ¬ Refused host changed.config changed.layer := by
  have config : changed.config = options.config := by rw [same.same]
  rintro (⟨read, member, stranger⟩ | ⟨set, noQuiet, noVerbose, stranger⟩ | ⟨present, unreadable⟩)
  · rw [config] at read
    exact accepted (.file read member stranger)
  · rw [given?_layer_of_stranger changed noQuiet noVerbose stranger] at set
    cases set
  · exact accepted (.environment present unreadable)

theorem highest_congr {given project home : Layer} {field : Field}
    (same : callerValue? changed.layer field = callerValue? options.layer field) :
    highest host changed.layer given project home field =
      highest host options.layer given project home field := by
  rw [highest, highest, same]

/-- The value of a field that options ask for, or the one it had when they do not. -/
theorem highest_asked {given project home : Layer} {field : Field} {asked : Option Value}
    (now : callerValue? changed.layer field = asked)
    (before : asked = none → callerValue? options.layer field = none) :
    highest host changed.layer given project home field =
      asked.getD (highest host options.layer given project home field) := by
  cases asked with
  | some value =>
      rw [highest, now]
      rfl
  | none => exact highest_congr (now.trans (before rfl).symm)

/-- Every field has the value of the settings with the other way of working. -/
theorem highest_reworked {given project home : Layer} (same : options.SameWork changed)
    (values : ∀ field, highest host options.layer given project home field = settings.get field)
    (field : Field) :
    highest host changed.layer given project home field =
      (reworked settings changed).get field := by
  have untouched (noWorkers : field ≠ .workers) (noVerbosity : field ≠ .verbosity)
      (noLog : field ≠ .logFile) :
      highest host changed.layer given project home field = settings.get field :=
    (highest_congr (same.callerValue?_eq noWorkers noVerbosity noLog)).trans (values field)
  cases field with
  | workers =>
      rw [highest_asked (callerValue?_workers changed) fun unasked => by
        rw [callerValue?_workers, same.workers (Option.map_eq_none_iff.1 unasked), Option.map_none]]
      exact congrArg _ (values .workers)
  | verbosity =>
      rw [highest_asked (callerValue?_verbosity changed) fun unasked => by
        rw [callerValue?_verbosity, same.verbosity (Option.map_eq_none_iff.1 unasked),
          Option.map_none], values]
      show _ = Value.text (changed.verbosity?.getD settings.verbosity).name
      cases changed.verbosity? <;> rfl
  | logFile =>
      rw [highest_asked (callerValue?_logFile changed) fun unasked => by
        rw [callerValue?_logFile, same.logFile (Option.map_eq_none_iff.1 unasked), Option.map_none]]
      exact congrArg _ (values .logFile)
  | metric | precision | layout | lexer | dump | encoding | maxFileSize | roles | maxCommits =>
      exact untouched nofun nofun nofun

/-- Settings that are loaded are loaded again when only the way of working is asked for anew. -/
theorem load_reworked (same : options.SameWork changed)
    (counted : ∀ n, changed.workers = some n → 1 ≤ n)
    (loaded : load host options.config options.layer = .ok settings) :
    load host changed.config changed.layer = .ok (reworked settings changed) := by
  have config : changed.config = options.config := by rw [same.same]
  have accepted := not_refused_of_loaded (distinct_layer options) loaded
  obtain ⟨home, project, given, -, readHome, readProject, readNamed, -, -⟩ := load_eq_ok loaded
  rw [load_of_not_refused (distinct_layer options) readHome readProject readNamed rfl accepted,
    reportMisuse_eq_ok] at loaded
  have acceptedAgain := same.not_refused accepted
  rw [← config] at readHome readProject readNamed
  have values (field : Field) : highest host options.layer given project home field =
      settings.get field := ((get_ofLayer loaded field).trans (get_fullLayer _ field)).symm
  have hired : checkWorkers (reworked settings changed).workers =
      .ok (reworked settings changed).workers := by
    have before := checkWorkers_of_accepted loaded
    rw [reworked]
    cases asked : changed.workers with
    | none => exact before
    | some n => exact checkWorkers_accepts_iff.2 (.inr (.inl (atLeast_int.2 (counted n asked))))
  rw [load_of_not_refused (distinct_layer changed) readHome readProject readNamed rfl acceptedAgain,
    reportMisuse_eq_ok, funext (highest_reworked same values)]
  exact accepted_of_workers loaded hired _ _

/-! ## Logging -/

/-- Setting up logging fails, or it ends with the same log file, however much is logged. -/
theorem setUpLogging_verbosity (host : Host) (verbosity : Verbosity) (log : Value) :
    host.setUpLogging (.text verbosity.name) log =
      (host.setUpLogging (.text Verbosity.normal.name) log).map fun ready =>
        { ready with logging := ⟨verbosity.level, ready.logging.file⟩ } := by
  have level (verbosity : Verbosity) :
      Logging.thresholdOf (.text verbosity.name) = .ok verbosity.level := by
    cases verbosity <;> rfl
  rw [Host.setUpLogging, Host.setUpLogging, Logging.setUp, Logging.setUp, level, level]
  cases Logging.placeOf? host.current log with
  | error fault => rfl
  | ok place? =>
      cases place? with
      | none => rfl
      | some place =>
          show (Logging.openFile host.disk place >>= _ >>= _ : Except Fault Host) =
            Except.map _ (Logging.openFile host.disk place >>= _ >>= _)
          rcases Logging.openFile host.disk place with fault | ⟨opened, disk⟩ <;> rfl

/-- Logging can be set up with a log file. -/
def CanLog (host : Host) (log : Value) : Prop :=
  ∃ ready, host.setUpLogging (.text Verbosity.normal.name) log = .ok ready

/-- If logging can be set up with a log file, something holds with it. -/
def IfLogged (host : Host) (log : Value) (p : Host → Prop) : Prop :=
  ∀ ready, host.setUpLogging (.text Verbosity.normal.name) log = .ok ready → p ready

instance (host : Host) (log : Value) (p : Host → Prop) [DecidablePred p] :
    Decidable (IfLogged host log p) :=
  match setUp : host.setUpLogging (.text Verbosity.normal.name) log with
  | .error _ => isTrue fun _ other => nomatch setUp.symm.trans other
  | .ok ready => decidable_of_iff (p ready) ⟨fun holds _ other => by
      cases setUp.symm.trans other
      exact holds, fun holds => holds ready setUp⟩

/-- The log goes to none of the files. -/
def LogsAside (host : Host) (log : Value) (files : List Path) : Prop :=
  IfLogged host log fun ready => LogApart ready files

instance (host : Host) (log : Value) (files : List Path) : Decidable (LogsAside host log files) :=
  inferInstanceAs (Decidable (IfLogged host log fun ready => LogApart ready files))

/-- The log does not show where a command prints. -/
def LogsUnseen (host : Host) (log : Value) : Prop := IfLogged host log LogUnseen

instance (host : Host) (log : Value) : Decidable (LogsUnseen host log) :=
  inferInstanceAs (Decidable (IfLogged host log LogUnseen))

theorem canLog_iff {verbosity : Verbosity} :
    CanLog host log ↔ ∃ ready, host.setUpLogging (.text verbosity.name) log = .ok ready := by
  rw [setUpLogging_verbosity, CanLog]
  cases host.setUpLogging (.text Verbosity.normal.name) log <;> simp [Except.map]

/-- With any verbosity logging is set up as it is with the normal one, but for the threshold. -/
theorem exists_of_setUpLogging {verbosity : Verbosity}
    (setUp : host.setUpLogging (.text verbosity.name) log = .ok ready) :
    ∃ other, host.setUpLogging (.text Verbosity.normal.name) log = .ok other ∧
      ready = { other with logging := ⟨verbosity.level, other.logging.file⟩ } := by
  rw [setUpLogging_verbosity] at setUp
  cases before : host.setUpLogging (.text Verbosity.normal.name) log with
  | error fault =>
      rw [before] at setUp
      cases setUp
  | ok other =>
      rw [before] at setUp
      cases setUp
      exact ⟨other, rfl, rfl⟩

/-- How much is logged makes no difference to where it goes. -/
theorem logStaysApart_of_aside (loaded : load host options.config options.layer = .ok settings)
    (aside : LogsAside host settings.logFile files) (unseen : LogsUnseen host settings.logFile) :
    LogStaysApart host options files := by
  rintro other ready ⟨loadedAgain, setUp⟩
  cases loaded.symm.trans loadedAgain
  obtain ⟨before, setUpBefore, rfl⟩ := exists_of_setUpLogging setUp
  exact ⟨aside before setUpBefore, unseen before setUpBefore⟩

/-- A log file that cannot be opened stops all logging in the same way. -/
theorem exists_of_not_canLog (cannot : ¬ CanLog host log) :
    ∃ fault, ∀ verbosity : Verbosity,
      host.setUpLogging (.text verbosity.name) log = .error fault := by
  cases before : host.setUpLogging (.text Verbosity.normal.name) log with
  | ok ready => exact absurd ⟨ready, before⟩ cannot
  | error fault =>
      refine ⟨fault, fun verbosity => ?_⟩
      rw [setUpLogging_verbosity, before]
      rfl

/-- The log goes to none of the files and does not show where a command prints; and nothing of what
is asked for anew replaces what stops a command. -/
structure Undisturbed (host : Host) (settings : Settings) (changed : Options) (files : List Path) :
    Prop where
  aside : LogsAside host settings.logFile files
  unseen : LogsUnseen host settings.logFile
  /-- Another log file only comes for one that can be opened. -/
  relogged : ∀ path, changed.logFile = some path → CanLog host settings.logFile ∧
    CanLog host (.text path.text) ∧ LogsAside host (.text path.text) files ∧
      LogsUnseen host (.text path.text)
  /-- Other workers only come for some that can share the files that are there. -/
  rehired : changed.workers ≠ none → settings.Announces (namesOf (files.filter (isThere host)))

theorem withSettings_of_unlogged {fault : Fault}
    (loaded : load host options.config options.layer = .ok settings)
    (stopped : host.setUpLogging (.text settings.verbosity.name) settings.logFile = .error fault)
    (work : Host → Settings → Outcome) :
    (withSettings host options work).visible = (.fault fault, "") := by
  rw [withSettings, loaded]
  dsimp only
  rw [stopped]
  rfl

/-- The log goes to the same file, or can go to either. -/
theorem Undisturbed.logs (undisturbed : Undisturbed host settings changed files) :
    (reworked settings changed).logFile = settings.logFile ∨
      CanLog host settings.logFile ∧ CanLog host (reworked settings changed).logFile := by
  rw [reworked]
  cases asked : changed.logFile with
  | none => exact .inl rfl
  | some path =>
      obtain ⟨could, can, -⟩ := undisturbed.relogged path asked
      exact .inr ⟨could, can⟩

theorem Undisturbed.asideAgain (undisturbed : Undisturbed host settings changed files) :
    LogsAside host (reworked settings changed).logFile files ∧
      LogsUnseen host (reworked settings changed).logFile := by
  rw [reworked]
  cases asked : changed.logFile with
  | none => exact ⟨undisturbed.aside, undisturbed.unseen⟩
  | some path => exact (undisturbed.relogged path asked).2.2

/-- With either way of working the log goes to none of the files, and to no screen. -/
theorem Undisturbed.staysApart (undisturbed : Undisturbed host settings changed files)
    (loaded : load host options.config options.layer = .ok settings)
    (loadedAgain : load host changed.config changed.layer = .ok (reworked settings changed)) :
    LogStaysApart host options files ∧ LogStaysApart host changed files := by
  obtain ⟨asideAgain, unseenAgain⟩ := undisturbed.asideAgain
  exact ⟨logStaysApart_of_aside loaded undisturbed.aside undisturbed.unseen,
    logStaysApart_of_aside loadedAgain asideAgain unseenAgain⟩

/-- With the other way of working logging is set up as well, or the command stops as before. -/
theorem ready_reworked (loaded : load host options.config options.layer = .ok settings)
    (loadedAgain : load host changed.config changed.layer = .ok (reworked settings changed))
    (undisturbed : Undisturbed host settings changed files) :
    (∀ work other : Host → Settings → Outcome, (withSettings host changed other).visible =
      (withSettings host options work).visible) ∨
    ∃ ready again, Ready host options settings ready ∧
      Ready host changed (reworked settings changed) again := by
  by_cases could : CanLog host settings.logFile
  · have can : CanLog host (reworked settings changed).logFile := by
      rcases undisturbed.logs with kept | ⟨-, can⟩
      · rwa [kept]
      · exact can
    obtain ⟨ready, setUp⟩ := canLog_iff.1 could
    obtain ⟨again, setUpAgain⟩ := canLog_iff.1 can
    exact .inr ⟨ready, again, ⟨loaded, setUp⟩, ⟨loadedAgain, setUpAgain⟩⟩
  · have kept : (reworked settings changed).logFile = settings.logFile :=
      undisturbed.logs.resolve_right fun both => could both.1
    obtain ⟨fault, stopped⟩ := exists_of_not_canLog could
    refine .inl fun work other => ?_
    rw [withSettings_of_unlogged loaded (stopped _) work,
      withSettings_of_unlogged loadedAgain (kept ▸ stopped _) other]

/-! ## Analyses -/

/-- The way of working does not show in what is shown. -/
theorem shownAnalysis_reworked (same : options.SameWork changed) :
    shownAnalysis host changed (reworked settings changed) files =
      shownAnalysis host options settings files := by
  rw [same.same]
  rfl

/-- Workers that cannot be announced, or never begin, stop an analysis. -/
theorem visible_of_unannounced (placed : host.IsPlaced)
    (loaded : Ready host options settings ready) (apart : LogApart ready files)
    (found : present host files = .ok kept) (unannounced : ¬ settings.Announces (namesOf kept)) :
    (analyze host options files).visible =
      (.fault (if neverBegins settings.workers then .endless else .tooLongToWrite), "") := by
  rw [visible_of_ready loaded, present_congr (lookup?_of_ready placed loaded apart), found]
  dsimp only
  rw [analyzeFiles_of_unannounced unannounced]
  rfl

/-- Workers that are asked for can be announced and begin, and so do those they come for. -/
theorem announces_reworked (short : ∀ n, changed.workers = some n → Number.tooLong n = false)
    (undisturbed : Undisturbed host settings changed files)
    (found : present host files = .ok kept) :
    ((reworked settings changed).Announces (namesOf kept) ∧ settings.Announces (namesOf kept)) ∨
      (reworked settings changed).workers = settings.workers := by
  rw [present_eq found]
  cases asked : changed.workers with
  | none =>
      refine .inr ?_
      rw [reworked, asked]
      rfl
  | some n =>
      refine .inl ⟨.inr ?_, undisturbed.rehired (asked ▸ nofun)⟩
      rw [reworked, asked]
      exact ⟨short n asked, rfl⟩

theorem analyze_reworked (placed : host.IsPlaced) (same : options.SameWork changed)
    (short : ∀ n, changed.workers = some n → Number.tooLong n = false)
    (loaded : load host options.config options.layer = .ok settings)
    (loadedAgain : load host changed.config changed.layer = .ok (reworked settings changed))
    (undisturbed : Undisturbed host settings changed files) (read : AreRead files) :
    (analyze host changed files).visible = (analyze host options files).visible := by
  rcases ready_reworked loaded loadedAgain undisturbed with
    stopped | ⟨ready, again, isReady, readyAgain⟩
  · exact stopped _ _
  have staysApart := undisturbed.staysApart loaded loadedAgain
  have apart := (staysApart.1 _ _ isReady).1
  have apartAgain := (staysApart.2 _ _ readyAgain).1
  by_cases announced : ∀ kept, present host files = .ok kept →
      settings.Announces (namesOf kept) ∧ (reworked settings changed).Announces (namesOf kept)
  · rw [analyze_visible placed isReady apart read fun kept found => (announced kept found).1,
      analyze_visible placed readyAgain apartAgain read fun kept found => (announced kept found).2,
      shownAnalysis_reworked same]
  · obtain ⟨kept, found, unannounced⟩ : ∃ kept, present host files = .ok kept ∧
        ¬ (settings.Announces (namesOf kept) ∧
          (reworked settings changed).Announces (namesOf kept)) := by
      simpa using announced
    -- Neither can be announced, since both have the same workers.
    have kept : (reworked settings changed).workers = settings.workers :=
      (announces_reworked short undisturbed found).resolve_left fun both => unannounced both.symm
    have equal : (reworked settings changed).Announces = settings.Announces := by
      funext names
      rw [Announces, Announces, isSequential, isSequential, kept]
    rw [equal, and_self] at unannounced
    rw [visible_of_unannounced placed isReady apart found unannounced,
      visible_of_unannounced placed readyAgain apartAgain found (equal ▸ unannounced), kept]

/-! ## Timelines -/

theorem history_reworked (placed : host.IsPlaced)
    (loaded : load host options.config options.layer = .ok settings)
    (loadedAgain : load host changed.config changed.layer = .ok (reworked settings changed))
    (undisturbed : Undisturbed host settings changed []) :
    (history host git changed file).visible = (history host git options file).visible := by
  rcases ready_reworked loaded loadedAgain undisturbed with
    stopped | ⟨ready, again, isReady, readyAgain⟩
  · exact stopped _ _
  · rw [history_visible placed isReady, history_visible placed readyAgain]
    rfl

/-! ## Command lines -/

/-- A machine where the environment names a log file. -/
def loggedMachine (log : String) : Host :=
  { screenMachine with environment := [("HALSTEAD_LOG_FILE", .whole log)] }

/-- The settings name a log file. -/
def logsTo (log : String) (settings : Settings) : Bool :=
  match settings.logFile with
  | .text name => name == log
  | _ => false

theorem exists_of_logsTo {outcome : Except Problem Settings} {name : String}
    (loaded : outcome.toOption.any (logsTo name) = true) :
    ∃ settings, outcome = .ok settings ∧ settings.logFile = .text name := by
  obtain ⟨settings, loaded, named⟩ := exists_of_any loaded
  refine ⟨settings, loaded, ?_⟩
  rw [logsTo] at named
  split at named
  · next other found => rw [found, beq_iff_eq.1 named]
  · cases named

/-- The way of working shows on a machine, though the settings are loaded, and another log file can
be opened and is none of the files. -/
def WorkShows (host : Host) (git : Git) (arguments others : List String) : Prop :=
  ∃ options changed files settings,
    Request.read host arguments = some (.analyze options files) ∧
    Request.read host others = some (.analyze changed files) ∧ options.SameWork changed ∧
    load host options.config options.layer = .ok settings ∧
    (∀ path, changed.logFile = some path →
      CanLog host (.text path.text) ∧ LogsAside host (.text path.text) files) ∧
    (run host git others).visible ≠ (run host git arguments).visible

/-! ## Machines with too many workers -/

/-- The bytes of a settings file with workers of so many digits to the base 16. -/
def longWorkers (digits : Nat) : List UInt8 :=
  "workers = 0x".toUTF8.toList ++ List.replicate digits 0x31

/-- A machine with an empty file, and a settings file with so many workers. -/
def crowdedMachine (digits : Nat) : Host :=
  { projectMachine [] [] with
    disk := .ofNodes
      [(["halstead.toml"], .file (longWorkers digits)), (["empty.pl"], .file [])] }

/-- A quiet report is asked for. -/
def quietReport : Options :=
  { Timeline.bareOptions with report := true, quiet := true, layout := some "json" }

/-- With nothing but workers in a file, a quiet report is done by these. -/
theorem load_crew {crew : Value} (home : Source.home.read host none = .ok [])
    (project : Source.project.read host none = .ok [("workers", crew)])
    (exported : environmentLayer host = .ok []) (hired : checkWorkers crew = .ok crew) :
    load host none quietReport.layer =
      .ok { standard with layout := .json, verbosity := .quiet, workers := crew } := by
  have named : Source.named.read host none = .ok [] := rfl
  have known : stranger? (layered [] [("workers", crew)] [] [] quietReport.layer) = none := rfl
  rw [load_eq, if_neg (by decide), home, bind_ok, project, bind_ok, named, bind_ok, exported,
    bind_ok, reportMisuse_eq_ok, ofLayer, known]
  exact bind_eq_ok.2 ⟨_, rfl, bind_eq_ok.2 ⟨_, rfl, bind_eq_ok.2 ⟨_, rfl, bind_eq_ok.2 ⟨_, rfl,
    bind_eq_ok.2 ⟨crew, hired, bind_eq_ok.2 ⟨_, rfl, bind_eq_ok.2 ⟨_, rfl,
      bind_eq_ok.2 ⟨_, rfl, rfl⟩⟩⟩⟩⟩⟩⟩⟩

theorem load_crowded (n : Nat) :
    load (crowdedMachine (n + 1)) none quietReport.layer =
      .ok { standard with
        layout := .json, verbosity := .quiet, workers := .int (.ofNat (sixteenOnes (n + 1))) } := by
  have project : Source.project.read (crowdedMachine (n + 1)) none =
      .ok [("workers", .int (.ofNat (sixteenOnes (n + 1))))] := by
    have decoded : Text.Encoding.decode .utf8 (longWorkers (n + 1)) =
        .ok ("workers = 0x".toList ++ ones (n + 1)) :=
      Text.Encoding.decode_ones (by decide +kernel) (by decide +kernel) (n + 1)
    show ofBytes Toml.standIn ⟨"/", ["halstead.toml"]⟩ (longWorkers (n + 1)) = _
    rw [ofBytes, decoded]
    dsimp only
    rw [Toml.standIn, Toml.read_workers]
    rfl
  have positive : 1 ≤ Int.ofNat (sixteenOnes (n + 1)) := by
    rw [sixteenOnes_succ, Int.ofNat_eq_natCast]
    omega
  exact load_crew (read_home_of_absent rfl rfl rfl) project rfl
    (checkWorkers_accepts_iff.2 (.inr (.inl (atLeast_int.2 positive))))

theorem tooLong_sixteenOnes {n : Nat} (long : 5 * 717 ≤ n) :
    Number.tooLong (.ofNat (sixteenOnes (n + 1))) = true :=
  tooLong_iff.2 (ten_pow_le_sixteenOnes (by decide) long)

/-- Workers that cannot be written cannot be announced to a batch that is worth sharing. -/
theorem not_announces_of_tooLong {names : List (Option String)} {n : Int}
    (crew : settings.workers = .int n) (long : Number.tooLong n = true)
    (many : smallestShared ≤ names.length) : ¬ settings.Announces names := by
  have several : n ≠ 0 ∧ n ≠ 1 := by
    constructor <;>
    · rintro rfl
      cases long
  have shared : isSequential settings names = false := by
    simp [isSequential, crew, Value.holds, compareTo, several, many]
  rw [Announces, shared, crew]
  simp [Value.tooLong, long]

end Command

end CodeMetrics
