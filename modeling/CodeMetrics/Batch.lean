import CodeMetrics.Files.Source
import CodeMetrics.Settings.Check

/-!
# Batches

The files of a batch are analysed independently. A failure is recorded with its file and does not
stop the batch; a fault does. Large batches may be shared among workers: then the files are begun
and finished in any order, their log records mingle, and the results are put back into the order
of the batch.
-/

namespace CodeMetrics

/-- The tokens of the file of a name. -/
def fileTokens (host : Host) (settings : Settings) (file : String) : Trace (List Token) :=
  if settings.dump.holds then readDumpFile host file settings.encoding settings.maxFileSize
  else tokenizeFile host (.ofString file) settings.lexer settings.encoding settings.maxFileSize

/-- The analysis of a file, which may be missing. -/
def analyzeFile (host : Host) (settings : Settings) : Option String → Trace Run
  | none => Trace.fail (.missingInput (.text "file"))
  | some file => do
      analyzeTokens settings.policy (some file) (← fileTokens host settings file)

/-- What an entry calls its file, which may be missing. -/
def fileLabel (file : Option String) : String := (Value.ofOption file).shown

/-- The entry of a file. What is skipped is logged. -/
def analyzeEntry (host : Host) (settings : Settings) (file : Option String) : Trace Entry := do
  match ← (analyzeFile host settings file).attempt with
  | .ok run => return ⟨some (fileLabel file), .ok run⟩
  | .error failure =>
      Trace.log analysisLogger .warning s!"Skipping {fileLabel file}: {failure.text}"
      return ⟨some (fileLabel file), .error failure⟩

/-- The entries of some files, one after the other. What is logged about a file is there when the
next one is read. -/
def analyzeInTurn (host : Host) (settings : Settings) : List (Option String) → Trace (List Entry)
  | [] => return []
  | file :: rest => do
      let first := analyzeEntry host settings file
      let entry ← first
      return entry :: (← analyzeInTurn (host.record first.records) settings rest)

/-- A file of a shared batch, with what is left of its analysis once a worker has begun it. -/
structure Task where
  file : Option String
  left : Option (Trace Entry)

namespace Task

def waiting (file : Option String) : Task := ⟨file, none⟩

/-- A worker turns to the task. It begins the task, and reads the machine as it is now; or it comes
to the next event of the analysis. Nothing is left to do for a task that has ended. -/
def turn (host : Host) (settings : Settings) (task : Task) : List Event × Task :=
  match task.left with
  | none => ([], ⟨task.file, some (analyzeEntry host settings task.file)⟩)
  | some ⟨[], _⟩ => ([], task)
  | some ⟨event :: rest, outcome⟩ => ([event], ⟨task.file, some ⟨rest, outcome⟩⟩)

/-- The events that are left of a task that was begun. -/
def pending (task : Task) : List Event :=
  match task.left with
  | none => []
  | some left => left.events

end Task

/-- The rest of a shared batch, with the tasks ending in the order of the batch. When a fault stops
one of them, those behind it that were begun come to their end, and the others are given up. -/
def finishTasks (host : Host) (settings : Settings) : List Task → Trace (List Entry)
  | [] => return []
  | task :: rest =>
      let last := task.left.getD (analyzeEntry host settings task.file)
      match last.outcome with
      | .error problem => ⟨last.events ++ rest.flatMap Task.pending, .error problem⟩
      | .ok entry =>
          let others := finishTasks (host.record last.records) settings rest
          ⟨last.events ++ others.events, others.outcome.map (entry :: ·)⟩

/-- A batch that is shared among workers: the machine with what was logged so far, the events so
far, and the tasks in the order of the batch. -/
structure Pool where
  host : Host
  events : List Event
  tasks : List Task

namespace Pool

def start (host : Host) (files : List (Option String)) : Pool := ⟨host, [], files.map .waiting⟩

/-- A worker turns to the task at an index. -/
def turn (settings : Settings) (pool : Pool) (index : Nat) : Pool :=
  match pool.tasks[index]? with
  | none => pool
  | some task =>
      let (events, turned) := task.turn pool.host settings
      ⟨pool.host.record (events.filterMap Event.record?), pool.events ++ events,
        pool.tasks.set index turned⟩

/-- The entries of the pool when the workers turn to the tasks in the order of `schedule`, which
may name a task any number of times. What the schedule leaves to do is done after it. -/
def run (settings : Settings) (schedule : List Nat) (pool : Pool) : Trace (List Entry) :=
  let worked := schedule.foldl (turn settings) pool
  let rest := finishTasks worked.host settings worked.tasks
  ⟨worked.events ++ rest.events, rest.outcome⟩

end Pool

/-- Fewer files are not worth sharing. -/
def smallestShared : Nat := 4

/-- The batch is done by one worker, one file after the other. -/
def isSequential (settings : Settings) (files : List (Option String)) : Bool :=
  !settings.workers.holds || Settings.compareTo 1 settings.workers == some (some .eq) ||
    files.length < smallestShared

/-- The number of the workers is no number, and then none of them ever begins. -/
def neverBegins : Value → Bool
  | .real x => x.isNaN
  | _ => false

/-- The message that a batch is shared. -/
def announceWorkers (settings : Settings) (files : List (Option String)) : Trace Unit :=
  if settings.workers.tooLong then Trace.stop (.escaped .tooLongToWrite)
  else
    Trace.log analysisLogger .debug
      s!"Analyzing {files.length} files with {settings.workers.shown} workers"

/-- The entries of a batch, when the workers turn to shared files in the order of `schedule`. -/
def analyzeFiles (host : Host) (settings : Settings) (files : List (Option String))
    (schedule : List Nat) : Trace (List Entry) := do
  if isSequential settings files then analyzeInTurn host settings files
  else
    let announced := announceWorkers settings files
    announced
    if neverBegins settings.workers then Trace.stop (.escaped .endless)
    (Pool.start (host.record announced.records) files).run settings schedule

/-- Workers that begin all files, in the order of the batch, before they log anything. -/
def inOrder (files : List (Option String)) : List Nat := List.range files.length

end CodeMetrics
