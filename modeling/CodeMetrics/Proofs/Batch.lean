import CodeMetrics.Batch
import CodeMetrics.Proofs.Analysis
import CodeMetrics.Proofs.Host

/-!
# Batches, file by file

What a batch ends with is known from its files alone: from the analysis of each of them on the
machine as it was when the batch began. How the files are shared among workers does not show, and
the log has one warning for each file that was skipped. All this as long as the log does not go to
a file of the batch: what is logged could be read otherwise.

Results:
1. `analyzeEntry_of_ok`, `analyzeEntry_of_fault`: the entry of a file, what is logged about it, and
   why there is none.
2. `analyzeEntry_later`: the entry of a file stays the same whatever is logged before.
3. `Task.turn_spec`, `Pool.turn_sound`: what a worker does in one turn.
4. `finishTasks_outcome`, `finishTasks_events`: what is left to do after the schedule.
5. `analyzeInTurn_eq_finishTasks`: one worker does what is left of tasks that nobody began.
6. `analyzeFiles_pointwise`: the entries, the warnings and the faults of a batch.
7. `analyzeFiles_not_pointwise`: a log among the files, and workers that cannot be announced.
-/

namespace CodeMetrics

variable {host now : Host} {settings : Settings} {file : Option String}
  {files : List (Option String)}

/-! ## One file -/

theorem readSource_congr {path : Path} (library : now.library = host.library)
    (same : now.lookup? path = host.lookup? path) (encoding limit : Value) :
    readSource now path encoding limit = readSource host path encoding limit := by
  rw [readSource, readSource, same, library]

/-- An analysis looks at the machine through the path of its file only, and at the library. -/
theorem analyzeFile_congr (library : now.library = host.library)
    (same : ∀ name, file = some name →
      now.lookup? (.ofString name) = host.lookup? (.ofString name)) :
    analyzeFile now settings file = analyzeFile host settings file := by
  cases file with
  | none => rfl
  | some name =>
      rw [analyzeFile, analyzeFile, fileTokens, fileTokens, readDumpFile, readDumpFile,
        tokenizeFile, tokenizeFile, readSource_congr library (same name rfl), library]

theorem quiet_fileTokens (name : String) : (fileTokens host settings name).Quiet := by
  rw [fileTokens]
  split
  · exact Trace.quiet_bind (Trace.quiet_ofOutcome _) fun _ => Trace.quiet_bind rfl fun _ => rfl
  · exact Trace.quiet_bind (Trace.quiet_ofOutcome _) fun _ => quiet_tokenize _ _ _ _

theorem quiet_analyzeFile (file : Option String) : (analyzeFile host settings file).Quiet := by
  cases file with
  | none => rfl
  | some name => exact Trace.quiet_bind (quiet_fileTokens name) fun _ => quiet_analyzeTokens _ _ _

/-- The entry holds what the analysis of its file ended with. -/
structure Entry.Of (host : Host) (settings : Settings) (file : Option String) (entry : Entry) :
    Prop where
  source_eq : entry.source = some (fileLabel file)
  outcome_eq : (analyzeFile host settings file).outcome = entry.outcome.mapError .reported

/-- What is logged about an entry that was skipped. -/
def Entry.skipped? (entry : Entry) : Option LogRecord :=
  match entry.source, entry.outcome with
  | some label, .error failure =>
      some ⟨analysisLogger, .warning, s!"Skipping {label}: {failure.text}"⟩
  | _, _ => none

/-- An entry keeps the outcome of an analysis. -/
theorem analyzeEntry_eq_kept (host : Host) (settings : Settings) (file : Option String) :
    analyzeEntry host settings file =
      (analyzeFile host settings file).kept (fun outcome => ⟨some (fileLabel file), outcome⟩)
        analysisLogger (fun failure => s!"Skipping {fileLabel file}: {failure.text}") := by
  refine congrArg (_ >>= ·) (funext fun outcome => ?_)
  cases outcome <;> rfl

theorem analyzeEntry_of_ok {entry : Entry}
    (ended : (analyzeEntry host settings file).outcome = .ok entry) :
    entry.Of host settings file ∧
      (analyzeEntry host settings file).warnings = entry.skipped?.toList := by
  rw [analyzeEntry_eq_kept] at ended ⊢
  obtain ⟨outcome, analyzed, rfl⟩ := Trace.kept_eq_ok.1 ended
  refine ⟨⟨rfl, analyzed⟩, (Trace.warnings_kept (quiet_analyzeFile file) analyzed).trans ?_⟩
  cases outcome <;> rfl

theorem analyzeEntry_of_noFault (noFault : (analyzeFile host settings file).fault? = none) :
    ∃ entry, (analyzeEntry host settings file).outcome = .ok entry := by
  obtain ⟨outcome, analyzed⟩ := Trace.fault?_eq_none.1 noFault
  rw [analyzeEntry_eq_kept]
  exact ⟨_, Trace.kept_eq_ok.2 ⟨outcome, analyzed, rfl⟩⟩

theorem analyzeEntry_of_fault {fault : Fault}
    (stopped : (analyzeFile host settings file).fault? = some fault) :
    (analyzeEntry host settings file).outcome = .error (.escaped fault) := by
  rw [analyzeEntry_eq_kept]
  exact Trace.kept_of_fault stopped

/-- An entry stands for an analysis that no fault stopped. -/
theorem Entry.Of.noFault {entry : Entry} (entered : entry.Of host settings file) :
    (analyzeFile host settings file).fault? = none :=
  Trace.fault?_eq_none.2 ⟨_, entered.outcome_eq⟩

/-- The log goes to none of the files of a batch. -/
def Host.LogsApart (host : Host) (files : List (Option String)) : Prop :=
  ∀ name, some name ∈ files → host.LogsElsewhere (.ofString name)

theorem analyzeEntry_later (later : host.Later now) (apart : host.LogsApart files)
    (member : file ∈ files) :
    analyzeEntry now settings file = analyzeEntry host settings file := by
  have same : analyzeFile now settings file = analyzeFile host settings file := by
    refine analyzeFile_congr later.library_eq fun name equal => ?_
    subst equal
    exact later.lookup?_eq (apart name member)
  rw [analyzeEntry, analyzeEntry, same]

/-- The warnings about some files are those about their entries. -/
theorem warnings_entries {entries : List Entry}
    (ended : List.Forall₂ (fun file entry => (analyzeEntry host settings file).outcome = .ok entry)
      files entries) :
    Trace.warningsOf (files.flatMap fun file => (analyzeEntry host settings file).events) =
      entries.filterMap Entry.skipped? := by
  rw [Trace.warningsOf_flatMap, List.filterMap_eq_flatMap_toList]
  induction ended with
  | nil => rfl
  | cons reached _ ih =>
      rw [List.flatMap_cons, List.flatMap_cons, ih]
      exact congrArg (· ++ _) (analyzeEntry_of_ok reached).2

/-! ## Tasks -/

/-- What is left to do of a task: all of the analysis while the task waits. -/
def Task.rest (host : Host) (settings : Settings) (task : Task) : Trace Entry :=
  task.left.getD (analyzeEntry host settings task.file)

/-- The task will end as the analysis of its file does. -/
def Task.Sound (host : Host) (settings : Settings) (task : Task) : Prop :=
  (task.rest host settings).outcome = (analyzeEntry host settings task.file).outcome

/-- In a turn a worker brings forward what the task still has to say, and nothing else. -/
theorem Task.turn_spec {task : Task}
    (same : analyzeEntry now settings task.file = analyzeEntry host settings task.file) :
    (task.turn now settings).2.file = task.file ∧
      ((task.turn now settings).2.rest host settings).outcome = (task.rest host settings).outcome ∧
      (task.turn now settings).1 ++ ((task.turn now settings).2.rest host settings).events =
        (task.rest host settings).events := by
  obtain ⟨file, left⟩ := task
  match left with
  | none =>
      rw [turn, same]
      exact ⟨rfl, rfl, rfl⟩
  | some ⟨[], outcome⟩ => exact ⟨rfl, rfl, rfl⟩
  | some ⟨event :: events, outcome⟩ => exact ⟨rfl, rfl, rfl⟩

/-! ## What is left after the schedule -/

theorem rest_later {task : Task} (later : host.Later now) (apart : host.LogsApart files)
    (member : task.file ∈ files) : task.rest now settings = task.rest host settings := by
  rw [Task.rest, Task.rest, analyzeEntry_later later apart member]

/-- The first task ends, and the others after it; or a fault stops it, and they come to their end
or are given up. -/
theorem finishTasks_cons (task : Task) (rest : List Task) :
    finishTasks now settings (task :: rest) =
      match (task.rest now settings).outcome with
      | .error problem =>
          ⟨(task.rest now settings).events ++ rest.flatMap Task.pending, .error problem⟩
      | .ok entry =>
          let others :=
            finishTasks (now.record (task.rest now settings).records) settings rest
          ⟨(task.rest now settings).events ++ others.events, others.outcome.map (entry :: ·)⟩ :=
  rfl

/-- The tasks end as the analyses of their files do, the first fault included. -/
theorem finishTasks_outcome {tasks : List Task} (later : host.Later now)
    (apart : host.LogsApart (tasks.map Task.file))
    (sound : ∀ task ∈ tasks, task.Sound host settings) :
    (finishTasks now settings tasks).outcome =
      (tasks.map Task.file).mapM fun file => (analyzeEntry host settings file).outcome := by
  induction tasks generalizing now with
  | nil => rfl
  | cons task rest ih =>
      have same : task.rest now settings = task.rest host settings :=
        rest_later later apart List.mem_cons_self
      have endsAs : (task.rest now settings).outcome =
          (analyzeEntry host settings task.file).outcome :=
        same ▸ sound task List.mem_cons_self
      rw [finishTasks_cons, List.map_cons, List.mapM_cons, endsAs]
      cases ended : (analyzeEntry host settings task.file).outcome with
      | error problem => rfl
      | ok entry =>
          dsimp only
          rw [ih (later.record _) (fun name member => apart name (List.mem_cons_of_mem _ member))
            fun other member => sound other (List.mem_cons_of_mem _ member)]
          rfl

theorem finishTasks_events {tasks : List Task} {entries : List Entry} (later : host.Later now)
    (apart : host.LogsApart (tasks.map Task.file))
    (ended : (finishTasks now settings tasks).outcome = .ok entries) :
    (finishTasks now settings tasks).events =
      tasks.flatMap fun task => (task.rest host settings).events := by
  induction tasks generalizing now entries with
  | nil => rfl
  | cons task rest ih =>
      have same : task.rest now settings = task.rest host settings :=
        rest_later later apart List.mem_cons_self
      rw [finishTasks_cons] at ended ⊢
      cases endedFirst : (task.rest now settings).outcome with
      | error problem =>
          rw [endedFirst] at ended
          cases ended
      | ok entry =>
          rw [endedFirst] at ended
          dsimp only at ended ⊢
          cases endedRest : (finishTasks (now.record (task.rest now settings).records) settings
              rest).outcome with
          | error problem =>
              rw [endedRest] at ended
              cases ended
          | ok others =>
              rw [ih (later.record _)
                (fun name member => apart name (List.mem_cons_of_mem _ member)) endedRest,
                List.flatMap_cons, same]

/-! ## One worker -/

theorem pending_waiting (files : List (Option String)) :
    (files.map Task.waiting).flatMap Task.pending = [] := by
  rw [List.flatMap_map, List.flatMap_eq_nil_iff]
  exact fun file _ => rfl

/-- One worker ends tasks that nobody has begun. -/
theorem analyzeInTurn_eq_finishTasks (now : Host) (settings : Settings)
    (files : List (Option String)) :
    analyzeInTurn now settings files = finishTasks now settings (files.map .waiting) := by
  induction files generalizing now with
  | nil => rfl
  | cons file rest ih =>
      have waits : (Task.waiting file).rest now settings = analyzeEntry now settings file := rfl
      rw [analyzeInTurn, List.map_cons, finishTasks_cons, waits]
      cases ended : (analyzeEntry now settings file).outcome with
      | error problem =>
          rw [Trace.bind_of_error ended, pending_waiting, List.append_nil]
      | ok entry =>
          rw [Trace.bind_of_ok ended, ih, Trace.bind_return]

/-! ## Workers that share a batch -/

namespace Pool

/-- However far the workers have come, every task will end as the analysis of its file does, and
the events there were and those that are left are the events of all the analyses. -/
structure Sound (host : Host) (settings : Settings) (files : List (Option String)) (pool : Pool) :
    Prop where
  later : host.Later pool.host
  tasks_file : pool.tasks.map Task.file = files
  tasks_sound : ∀ task ∈ pool.tasks, task.Sound host settings
  events_perm :
    (pool.events ++ pool.tasks.flatMap fun task => (task.rest host settings).events).Perm
      (files.flatMap fun file => (analyzeEntry host settings file).events)

theorem start_sound (later : host.Later now) (settings : Settings)
    (files : List (Option String)) : (start now files).Sound host settings files where
  later := later
  tasks_file := (List.map_map).trans (List.map_id files)
  tasks_sound task member := by
    obtain ⟨file, _, rfl⟩ := List.mem_map.1 member
    rfl
  events_perm := by
    rw [start, List.nil_append, List.flatMap_map]
    exact .refl _

/-- A turn keeps the pool sound: what it adds to the events it takes from one task. -/
theorem turn_sound {pool : Pool} (apart : host.LogsApart files)
    (sound : pool.Sound host settings files) (index : Nat) :
    (pool.turn settings index).Sound host settings files := by
  rw [turn]
  cases found : pool.tasks[index]? with
  | none => exact sound
  | some task =>
      obtain ⟨within, rfl⟩ := List.getElem?_eq_some_iff.1 found
      obtain ⟨later, tasksFile, tasksSound, eventsPerm⟩ := sound
      -- The tasks before and behind the one at the index stay as they are.
      obtain ⟨before, after, split, -, replaced⟩ :
          ∃ before after, pool.tasks = before ++ pool.tasks[index] :: after ∧
            before.length = index ∧
            pool.tasks.set index (pool.tasks[index].turn pool.host settings).2 =
              before ++ (pool.tasks[index].turn pool.host settings).2 :: after :=
        List.exists_of_set within
      generalize pool.tasks[index] = task at split replaced
      have listed : task.file ∈ files := by
        rw [← tasksFile, split]
        exact List.mem_map_of_mem (List.mem_append_right _ List.mem_cons_self)
      obtain ⟨sameFile, sameOutcome, sameEvents⟩ :=
        Task.turn_spec (analyzeEntry_later later apart listed)
      dsimp only
      rw [replaced]
      rw [split] at tasksFile tasksSound eventsPerm
      refine ⟨later.record _, ?_, ?_, ?_⟩
      · rw [← tasksFile, List.map_append, List.map_append, List.map_cons, List.map_cons, sameFile]
      · intro other member
        rcases List.mem_append.1 member with earlier | member
        · exact tasksSound other (List.mem_append_left _ earlier)
        · rcases List.mem_cons.1 member with rfl | behind
          · have sound : task.Sound host settings :=
              tasksSound task (List.mem_append_right _ List.mem_cons_self)
            rw [Task.Sound, sameOutcome, sameFile]
            exact sound
          · exact tasksSound other (List.mem_append_right _ (List.mem_cons_of_mem _ behind))
      · refine List.Perm.trans ?_ eventsPerm
        simp only [List.flatMap_append, List.flatMap_cons, ← sameEvents, List.append_assoc]
        exact (List.perm_append_comm_assoc _ _ _).append_left pool.events

/-- So does any schedule. -/
theorem foldl_turn_sound {pool : Pool} (apart : host.LogsApart files)
    (sound : pool.Sound host settings files) (schedule : List Nat) :
    (schedule.foldl (turn settings) pool).Sound host settings files := by
  induction schedule generalizing pool with
  | nil => exact sound
  | cons index rest ih => exact ih (turn_sound apart sound index)

/-- The computation ends as the analyses of the files do, one after the other. When it has entries,
it has given a warning for each of those that were skipped. -/
def EndsAsFiles (host : Host) (settings : Settings) (files : List (Option String))
    (batch : Trace (List Entry)) : Prop :=
  batch.outcome = files.mapM (fun file => (analyzeEntry host settings file).outcome) ∧
    ∀ entries, batch.outcome = .ok entries →
      batch.warnings.Perm (entries.filterMap Entry.skipped?)

/-- There are entries when no analysis of a file ends with a fault, and only then. -/
theorem EndsAsFiles.entries_iff {batch : Trace (List Entry)}
    (ends : EndsAsFiles host settings files batch) :
    (∃ entries, batch.outcome = .ok entries ∧ List.Forall₂ (Entry.Of host settings) files entries) ↔
      ∀ file ∈ files, (analyzeFile host settings file).fault? = none := by
  constructor
  · rintro ⟨entries, -, entered⟩
    clear ends
    induction entered with
    | nil => exact nofun
    | cons first _ ih => exact List.forall_mem_cons.2 ⟨first.noFault, ih⟩
  · intro noFault
    obtain ⟨entries, entered⟩ :=
      exists_forall₂ fun file member => analyzeEntry_of_noFault (noFault file member)
    exact ⟨entries, ends.1.trans (mapM_eq_ok.2 entered),
      entered.imp fun file entry one => (analyzeEntry_of_ok one).1⟩

theorem run_endsAsFiles {pool : Pool} (apart : host.LogsApart files)
    (sound : pool.Sound host settings files) (schedule : List Nat) :
    EndsAsFiles host settings files (pool.run settings schedule) := by
  obtain ⟨later, rfl, tasksSound, eventsPerm⟩ := foldl_turn_sound apart sound schedule
  have outcome_eq := finishTasks_outcome later apart tasksSound
  refine ⟨outcome_eq, fun entries ended => ?_⟩
  have entered := mapM_eq_ok.1 (outcome_eq.symm.trans ended)
  have rest_eq := finishTasks_events later apart ended
  rw [← warnings_entries entered]
  refine Trace.warningsOf_perm (List.Perm.trans ?_ eventsPerm)
  rw [run, rest_eq]

theorem analyzeInTurn_eq_run (host : Host) (settings : Settings) (files : List (Option String)) :
    analyzeInTurn host settings files = (start host files).run settings [] :=
  analyzeInTurn_eq_finishTasks host settings files

end Pool

/-! ## Batches -/

/-- Workers that are needed can be announced, and begin. -/
def Settings.Announces (settings : Settings) (files : List (Option String)) : Prop :=
  isSequential settings files = true ∨
    settings.workers.tooLong = false ∧ neverBegins settings.workers = false

/-- A number of workers that never begin can be announced. -/
theorem tooLong_of_neverBegins {workers : Value} (never : neverBegins workers = true) :
    workers.tooLong = false := by
  cases workers with
  | real x => rfl
  | null | bool | int | text | torn | moment | list | table => cases never

/-- Other workers stop a batch before anything is done. -/
theorem analyzeFiles_of_unannounced (unannounced : ¬ settings.Announces files)
    (schedule : List Nat) :
    (analyzeFiles host settings files schedule).outcome =
      .error (.escaped (if neverBegins settings.workers then .endless else .tooLongToWrite)) := by
  obtain ⟨shared, notReady⟩ := not_or.1 unannounced
  rw [analyzeFiles, if_neg shared, announceWorkers]
  cases never : neverBegins settings.workers with
  | true =>
      rw [tooLong_of_neverBegins never]
      rfl
  | false =>
      have long : settings.workers.tooLong = true :=
        Bool.of_not_eq_false fun short => notReady ⟨short, never⟩
      rw [long]
      rfl

theorem analyzeFiles_endsAsFiles (apart : host.LogsApart files)
    (announces : settings.Announces files) (schedule : List Nat) :
    Pool.EndsAsFiles host settings files (analyzeFiles host settings files schedule) := by
  rw [analyzeFiles]
  split
  · rw [Pool.analyzeInTurn_eq_run]
    exact Pool.run_endsAsFiles apart (Pool.start_sound .now settings files) []
  · next shared =>
    obtain ⟨short, begins⟩ := announces.resolve_left shared
    rw [announceWorkers, short, begins]
    exact Pool.run_endsAsFiles apart (Pool.start_sound (.record _ .now) settings files) schedule

/-- A batch is known from its files. When no analysis of a file ends with a fault, there is one
entry for each file, in the order of the batch, with the outcome of that analysis, and one warning
for each entry that was skipped. When some do, the fault of the first of them in the batch goes out.
No schedule makes a difference, and neither does whether there is one. -/
theorem analyzeFiles_pointwise (apart : host.LogsApart files)
    (announces : settings.Announces files) (schedule : List Nat) :
    ((∀ file ∈ files, (analyzeFile host settings file).fault? = none) →
      ∃ entries, (analyzeFiles host settings files schedule).outcome = .ok entries ∧
        List.Forall₂ (Entry.Of host settings) files entries ∧
        (analyzeFiles host settings files schedule).warnings.Perm
          (entries.filterMap Entry.skipped?)) ∧
    ∀ before file after fault, files = before ++ file :: after →
      (∀ earlier ∈ before, (analyzeFile host settings earlier).fault? = none) →
      (analyzeFile host settings file).fault? = some fault →
      (analyzeFiles host settings files schedule).fault? = some fault := by
  have ends := analyzeFiles_endsAsFiles apart announces schedule
  constructor
  · intro noFault
    obtain ⟨entries, ended, entered⟩ := ends.entries_iff.2 noFault
    exact ⟨entries, ended, entered, ends.2 entries ended⟩
  · rintro before file after fault rfl noFault stopped
    rw [Trace.fault?_eq_some, ends.1]
    exact mapM_eq_error
      (fun earlier member => analyzeEntry_of_noFault (noFault earlier member))
      (analyzeEntry_of_fault stopped)

/-- A machine with a folder and an empty file, which logs what is skipped. -/
def loggingMachine : Host where
  disk := .ofNodes [(["folder"], .folder), (["empty.pl"], .file []), (["log.txt"], .file [])]
  current := []
  environment := []
  logging := ⟨.warning, some (.at ["log.txt"])⟩
  time := "2024-01-01 00:00:00"
  account := some "/"
  library := .standIn
  console := .recorder

theorem loggingMachine_apart
    (apart : ∀ name ∈ files.filterMap id,
      (loggingMachine.disk.find [] (.ofString name)).toOption.map Prod.fst ≠ some ["log.txt"]) :
    loggingMachine.LogsApart files := by
  intro name member
  have there : loggingMachine.disk.node? ["log.txt"] = some (.file []) := by decide
  exact .of_place rfl there (apart name (List.mem_filterMap.2 ⟨_, member, rfl⟩))

/-- Files of which none has a run. -/
def skippedFiles : List (Option String) :=
  [some "missing.pl", some "empty.pl", none, some "folder", some "empty.pl"]

/-- Two workers begin some of the files and leave them, and the batch has its entries all the same.
With an encoding that does not exist, the first file that is there stops it. -/
theorem analyzeFiles_pointwise_shared :
    let settings := { Settings.standard with workers := .int 2 }
    let misspelt := { settings with encoding := .text "utf-9" }
    (∃ entries,
      (analyzeFiles loggingMachine settings skippedFiles [3, 0, 3, 4, 0]).outcome = .ok entries ∧
      List.Forall₂ (Entry.Of loggingMachine settings) skippedFiles entries ∧
      (analyzeFiles loggingMachine settings skippedFiles [3, 0, 3, 4, 0]).warnings.Perm
        (entries.filterMap Entry.skipped?)) ∧
    ∃ fault, (analyzeFile loggingMachine misspelt (some "empty.pl")).fault? = some fault ∧
      (analyzeFiles loggingMachine misspelt skippedFiles [3, 0, 3, 4, 0]).fault? = some fault := by
  intro settings misspelt
  have apart : loggingMachine.LogsApart skippedFiles := loggingMachine_apart (by decide +kernel)
  have noFault : ∀ file ∈ skippedFiles,
      (analyzeFile loggingMachine settings file).fault? = none := by
    decide +kernel
  have skips : ∀ file ∈ [some "missing.pl"],
      (analyzeFile loggingMachine misspelt file).fault? = none := by
    decide +kernel
  obtain ⟨fault, stops⟩ : ∃ fault,
      (analyzeFile loggingMachine misspelt (some "empty.pl")).fault? = some fault :=
    Option.isSome_iff_exists.1 (by decide +kernel)
  exact ⟨(analyzeFiles_pointwise apart (.inr ⟨rfl, rfl⟩) _).1 noFault, fault, stops,
    (analyzeFiles_pointwise apart (.inr ⟨rfl, rfl⟩) _).2 _ _ _ fault rfl skips stops⟩

/-! ## Where files show in each other -/

/-- How the outcome of an analysis reads; a run says nothing. -/
def outcomeText : Except Problem Run → String
  | .ok _ => ""
  | .error problem => problem.text

theorem outcomeText_entries {entries : List Entry}
    (entered : List.Forall₂ (Entry.Of host settings) files entries) :
    entries.map (fun entry => outcomeText (entry.outcome.mapError .reported)) =
      files.map fun file => outcomeText (analyzeFile host settings file).outcome := by
  induction entered with
  | nil => rfl
  | cons first _ ih => rw [List.map_cons, List.map_cons, ih, first.outcome_eq]

/-- Two things keep a batch from being known by its files. A file that the log goes to is read with
the warnings about the files before it. And workers that are too many to be written down stop a
batch that no file would stop. -/
theorem analyzeFiles_not_pointwise :
    let logged := [some "missing.pl", some "log.txt"]
    let crowded := { Settings.standard with workers := .int (Nat.pow 10 Number.digitLimit : Nat) }
    ((∀ file ∈ logged, (analyzeFile loggingMachine .standard file).fault? = none) ∧
      ∀ entries, (analyzeFiles loggingMachine .standard logged []).outcome = .ok entries →
        ¬ List.Forall₂ (Entry.Of loggingMachine .standard) logged entries) ∧
    (∀ file ∈ skippedFiles, (analyzeFile loggingMachine crowded file).fault? = none) ∧
      (analyzeFiles loggingMachine crowded skippedFiles []).fault? = some .tooLongToWrite := by
  intro logged crowded
  refine ⟨⟨by decide +kernel, fun entries ended entered => ?_⟩, by decide +kernel, ?_⟩
  · have differ : (analyzeFiles loggingMachine .standard logged []).outcome.toOption.map
          (·.map fun entry => outcomeText (entry.outcome.mapError .reported)) ≠
        some (logged.map fun file =>
          outcomeText (analyzeFile loggingMachine .standard file).outcome) := by
      decide +kernel
    rw [ended] at differ
    exact differ (congrArg some (outcomeText_entries entered))
  · have unannounced : ¬ (isSequential crowded skippedFiles = true ∨
        crowded.workers.tooLong = false ∧ neverBegins crowded.workers = false) := by
      decide +kernel
    exact Trace.fault?_eq_some.2 (analyzeFiles_of_unannounced unannounced [])

end CodeMetrics
