import CodeMetrics.Command.Run

/-!
# The program

Reads from the machine what a command line can ask about, runs the command, and writes what it has
to say.
-/

namespace CodeMetrics

/-- What stands at a path of the machine. -/
def nodeAt? (path : String) : IO (Option Node) := do
  try
    let found ← IO.FS.realPath path
    match (← found.metadata).type with
    | .dir => return some .folder
    | .file => return some (.file (← IO.FS.readBinFile found).toList)
    | _ => return some (.device false)
  catch _ => return none

/-- The disk with what the machine has at a place and on the way to it. -/
def snapshot (disk : Disk) (place : List String) : IO Disk :=
  (List.range place.length).foldlM (fun disk i => do
    let reached := place.take (i + 1)
    if (disk.node? reached).isSome then return disk
    match ← nodeAt? (Path.absolute reached).text with
    | some node => return disk.put reached node
    | none => return disk) disk

/-- The texts in an argument that can be paths: all of it, and what can be the value of an
option. -/
def mentioned (argument : String) : List String :=
  let cs := argument.toList
  [argument, String.ofList (cs.drop 2), String.ofList ((cs.dropWhile (· != '=')).drop 1)]

/-- The time now, as that of a new file. -/
def now : IO String := do
  let (_, path) ← IO.FS.createTempFile
  let written := (← path.metadata).modified.sec
  IO.FS.removeFile path
  return Report.timeText written

/-- The cells on a line of the terminal. -/
def columns : IO Nat := do
  return ((← IO.getEnv "COLUMNS").bind String.toNat?).getD 80

/-- The machine, as far as the arguments and the settings files lead. It has the libraries that
stand in for others. -/
def surroundings (arguments : List String) : IO Host := do
  let current := Path.components (← IO.currentDir).toString
  let names := "HOME" :: Settings.Field.all.map Settings.Field.variableName
  let environment ← names.filterMapM fun name => do
    return (← IO.getEnv name).map fun value => (name, Wording.whole value)
  let host : Host := {
    disk := .ofNodes []
    current := current
    environment := environment
    logging := .initial
    time := ← now
    account := none
    library := .standIn
    console := .plain (← columns) }
  let home := match host.home with
    | .ok home => [home.join (.ofString Settings.homeFile)]
    | .error _ => []
  let files := .ofString Settings.projectFile :: home ++
    (arguments.flatMap mentioned).map Path.ofString
  let places := current :: files.map fun path => path.resolve current
  return host.withDisk (← places.foldlM snapshot host.disk)

/-- The machine with the log file the settings name. -/
def withLogFile (host : Host) (arguments : List String) : IO Host := do
  let options := match Command.Request.read host arguments with
    | some (.analyze options _) | some (.history options _) => some options
    | _ => none
  match options.map fun options => Settings.load host options.config options.layer with
  | some (.ok settings) =>
      match Logging.placeOf? host.current settings.logFile with
      | .ok (some place) => return host.withDisk (← snapshot host.disk place)
      | _ => return host
  | _ => return host

/-- The records of a command, to the terminal and to the log file. -/
def report (host : Host) (records : List LogRecord) : IO Unit := do
  let stderr ← IO.getStderr
  let kept := records.filter host.logging.keeps
  for entry in kept do
    stderr.putStrLn s!"{entry.level.name} {entry.message}"
  match host.logging.file with
  | some (.at place) =>
      let handle ← IO.FS.Handle.mk (Path.absolute place).text .append
      for entry in kept do
        handle.putStr (host.time ++ " - " ++ Logging.line entry)
  | _ => return

end CodeMetrics

open CodeMetrics in
def main (arguments : List String) : IO UInt32 := do
  let host ← withLogFile (← surroundings arguments) arguments
  let outcome := Command.run host (fun _ => .notInstalled) arguments
  let stderr ← IO.getStderr
  report outcome.host (outcome.events.filterMap fun
    | .logged entry => some entry
    | .ran _ => none)
  IO.print outcome.output
  stderr.putStr outcome.complaints
  match outcome.ending with
  | .exit status => return status.toUInt32
  | .misused =>
      stderr.putStrLn "The arguments are no request."
      return 2
  | .fault fault =>
      stderr.putStrLn fault.text
      return 1
