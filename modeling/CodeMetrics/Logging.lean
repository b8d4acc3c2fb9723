import CodeMetrics.Files.Disk
import CodeMetrics.Trace
import CodeMetrics.Value

/-!
# Logging

Where the records of a computation go. Records below a threshold are dropped; the others are shown
on the terminal and, if there is a log file, appended to it line by line. A log file that is taken
away stays open, but nobody reads what goes there.
-/

namespace CodeMetrics

/-- The fault that a path leads nowhere. -/
def Disk.Lost.fault (path : Path) : Disk.Lost → Fault
  | .missing => .missingFile path.text
  | .underFile => .underFile path.text
  | .nameTooLong => .nameTooLong path.text
  | .loop => .system ⟨40, "Too many levels of symbolic links"⟩ path.text
  | .refused error _ => .system error path.text

inductive Verbosity where
  | quiet
  | normal
  | verbose
  deriving DecidableEq, Repr

def Verbosity.all : List Verbosity := [.quiet, .normal, .verbose]

def Verbosity.name : Verbosity → String
  | .quiet => "quiet"
  | .normal => "normal"
  | .verbose => "verbose"

/-- The least level of the records that are kept. -/
def Verbosity.level : Verbosity → Level
  | .quiet => .error
  | .normal => .warning
  | .verbose => .debug

def Verbosity.ofName? (name : String) : Option Verbosity :=
  Verbosity.all.find? fun verbosity => verbosity.name == name

inductive LogFile where
  | at (place : List String)
  | removed
  deriving DecidableEq, Repr

structure Logging where
  /-- The least level that is kept. -/
  threshold : Level
  file : Option LogFile
  deriving DecidableEq, Repr

namespace Logging

/-- What holds before anything is set up. -/
def initial : Logging := ⟨.warning, none⟩

/-- The threshold of a verbosity; what is none stands for the normal one. -/
def thresholdOf : Value → Except Fault Level
  | .text name => .ok ((Verbosity.ofName? name).getD .normal).level
  | .list items => .error (.unhashable (Value.list items).kindName)
  | .table entries => .error (.unhashable (Value.table entries).kindName)
  | _ => .ok Verbosity.normal.level

/-- The terminal is one place records go to, a log file another. -/
def handlers (logging : Logging) : Nat := if logging.file.isSome then 2 else 1

def keeps (logging : Logging) (entry : LogRecord) : Bool :=
  logging.threshold.weight ≤ entry.level.weight

/-- The place of a new file, and the disk with the file there, empty. The folder has to be there.
When the name is that of a link, the file is where the link leads. -/
def makeFile (disk : Disk) (place : List String) : Except Fault (List String × Disk) :=
  let path := Path.absolute place
  match disk.find [] (.absolute place.dropLast) with
  | .ok (folder, .folder) =>
      let made := disk.target (folder ++ [place.getLastD ""])
      if disk.node? made.dropLast ≠ some .folder then .error (.missingFile path.text)
      else
        match disk.refuses .write made.dropLast with
        | some error => .error (.system error path.text)
        | none => .ok (made, disk.put made (.file []))
  | .ok _ => .error (.underFile path.text)
  | .error lost => .error (lost.fault path)

/-- The log file that a place leads to, and the disk with the file there. -/
def openFile (disk : Disk) (place : List String) : Except Fault (List String × Disk) :=
  let path := Path.absolute place
  match disk.find [] path with
  | .ok (_, .folder) => .error (.isFolder path.text)
  | .ok (found, _) =>
      match disk.refuses .write found with
      | some error => .error (.system error path.text)
      | none => .ok (found, disk)
  | .error .missing => makeFile disk place
  | .error lost => .error (lost.fault path)

/-- The name of a log file, which has to be a text that goes out as bytes. -/
def nameOf : Value → Except Fault String
  | .text name => .ok name
  | .torn name =>
      match Text.encodeEscaped 0 name.points with
      | .ok _ => .ok name.shown
      | .error error => .error (.unencodable error)
  | other => .error (.notPath other.shortKind)

/-- The place of the log file that is asked for, seen from a folder. What is empty or zero asks
for none. -/
def placeOf? (current : List String) (file : Value) : Except Fault (Option (List String)) := do
  if !file.holds then return none
  let path := Path.ofString (← nameOf file)
  if path.hasNul then .error .nullByte
  return some (path.resolve current)

/-- A verbosity and a log file, which may be any values. -/
def setUp (disk : Disk) (current : List String) (verbosity file : Value) :
    Except Fault (Logging × Disk) := do
  let threshold ← thresholdOf verbosity
  match ← placeOf? current file with
  | none => return (⟨threshold, none⟩, disk)
  | some place =>
      let (opened, disk) ← openFile disk place
      return (⟨threshold, some (.at opened)⟩, disk)

/-- The logging after a place, and all that is below it, is taken away. -/
def withdraw (logging : Logging) (place : List String) : Logging :=
  match logging.file with
  | some (.at file) =>
      if place.isPrefixOf file then { logging with file := some .removed } else logging
  | _ => logging

/-- Every line starts with the time it was written. -/
def stampLength : Nat := "YYYY-MM-DD HH:MM:SS - ".length

/-- The line of a record, behind its time. -/
def line (entry : LogRecord) : String :=
  entry.logger ++ " - " ++ entry.level.name ++ " - " ++ entry.message ++ "\n"

/-- The lines of the records that are kept, all written at one time. -/
def lines (logging : Logging) (time : String) (records : List LogRecord) : List String :=
  (records.filter logging.keeps).map fun entry => time ++ " - " ++ line entry

/-- The disk with the records in the log file. -/
def append (logging : Logging) (time : String) (records : List LogRecord) (disk : Disk) : Disk :=
  match logging.file with
  | some (.at place) =>
      let lines := logging.lines time records
      if lines.isEmpty then disk
      else disk.fill place (disk.bytesAt place ++ (String.join lines).toUTF8.toList)
  | _ => disk

/-- What appears of the records where a command prints. -/
def screened (logging : Logging) (time : String) (records : List LogRecord) (disk : Disk) :
    String :=
  match logging.file with
  | some (.at place) =>
      if disk.node? place = some (.device true) then String.join (logging.lines time records)
      else ""
  | _ => ""

end Logging

end CodeMetrics
