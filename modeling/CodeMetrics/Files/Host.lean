import CodeMetrics.Library
import CodeMetrics.Logging
import CodeMetrics.Report.Console

/-!
# Hosts

The machine a computation runs on: its files, the folder it works in, its environment, its logging,
the libraries it has and the console that commands print to. A log file is a file like any other, so
what is logged can change what is read later.
-/

namespace CodeMetrics

structure Host where
  disk : Disk
  current : List String
  environment : Entries Wording
  logging : Logging
  /-- The time now, as log files write it. -/
  time : String
  /-- The user's own folder, as the system knows it. -/
  account : Option String
  library : Library
  console : Report.Console

/-- What a path leads to, and why it cannot be read, if that is refused. -/
structure Found where
  node : Node
  refusal : Option SystemError
  deriving DecidableEq, Repr

/-- There is nothing, as far as the system can tell. -/
def Disk.Lost.isAbsence : Disk.Lost → Bool
  | .missing | .underFile | .loop => true
  | .nameTooLong => false
  | .refused error _ => [2, 9, 20, 40].contains error.number

/-- A circle of links is the number 40 of the system's errors. -/
def Disk.Lost.isLoop : Disk.Lost → Bool
  | .loop => true
  | .refused error _ => error.number == 40
  | _ => false

namespace Host

/-- What a path leads to. A name that is too long is a fault, and so is a folder that one must not
go through. -/
def lookup? (host : Host) (path : Path) : Except Fault (Option Found) :=
  match host.disk.find host.current path with
  | .ok (place, node) => .ok (some ⟨node, host.disk.refuses .read place⟩)
  | .error lost => if lost.isAbsence then .ok none else .error (lost.fault path)

def exists? (host : Host) (path : Path) : Except Fault Bool := do
  return (← host.lookup? path).isSome

/-- The components of a path from the root, with links followed as far as they can be. -/
def settled (host : Host) (path : Path) : List String :=
  host.disk.settle (if path.isAbsolute then [] else host.current) path.parts

/-- The components of a path from the root, without links. -/
def resolve (host : Host) (path : Path) : Except Fault (List String) :=
  if path.hasNul then .error .nullByte
  else
    let place := host.settled path
    match host.disk.find [] (.absolute place) with
    | .ok _ => .ok place
    | .error lost =>
        if lost.isLoop then .error (.linkLoop (Path.absolute place).text) else .ok place

def valueOf? (host : Host) (name : String) : Option Wording := host.environment.lookup name

/-- The folder with the user's own files. A variable names it, or else the system does, and slashes
at its end do not count. -/
def home (host : Host) : Except Fault Path :=
  match (host.valueOf? "HOME").map Wording.shown <|> host.account with
  | none => .error .noHome
  | some named =>
      let kept := (named.toList.reverse.dropWhile (· == '/')).reverse
      if kept.head? = some '~' then .error .noHome
      else .ok (.ofString (if kept.isEmpty then "/" else String.ofList kept))

def withDisk (host : Host) (disk : Disk) : Host := { host with disk := disk }

/-- The host after some records were logged. -/
def record (host : Host) (records : List LogRecord) : Host :=
  host.withDisk (host.logging.append host.time records host.disk)

/-- What appears of some records where a command prints. -/
def screened (host : Host) (records : List LogRecord) : String :=
  host.logging.screened host.time records host.disk

/-- The host with its logging set up anew. -/
def setUpLogging (host : Host) (verbosity file : Value) : Except Fault Host := do
  let (logging, disk) ← Logging.setUp host.disk host.current verbosity file
  return { host with logging := logging, disk := disk }

/-- The host with a folder at the path of some components, which come backwards. Folders that are
missing on the way to it are made first. -/
def makeFolderAt (host : Host) (root : String) : List String → Except Fault Host
  | [] => .ok host
  | last :: before => do
      let path : Path := ⟨root, (last :: before).reverse⟩
      match host.disk.find host.current path with
      | .ok (_, .folder) => return host
      | .ok _ => .error (.fileExists path.text)
      | .error .missing =>
          let made ← makeFolderAt host root before
          match made.disk.find made.current path, made.disk.find made.current path.parent with
          | .ok _, _ => return made
          | .error .missing, .ok (place, .folder) =>
              return made.withDisk (made.disk.put (place ++ [last]) .folder)
          | .error lost, _ => .error (lost.fault path)
      | .error lost => .error (lost.fault path)

/-- The host with a folder at a path, unless it is there. -/
def makeFolder (host : Host) (path : Path) : Except Fault Host :=
  if path.hasNul then .error .nullByte else host.makeFolderAt path.root path.parts.reverse

/-- The host with the bytes of a file, in folders that are made for it. -/
def writeFile (host : Host) (path : Path) (bytes : List UInt8) : Except Fault Host := do
  let host ← host.makeFolder path.parent
  if path.hasNul then .error .nullByte
  match host.disk.find host.current path, host.disk.find host.current path.parent with
  | .ok (_, .folder), _ => .error (.isFolder path.text)
  | .ok (place, _), _ => return host.withDisk (host.disk.fill place bytes)
  | .error .missing, .ok (place, _) =>
      return host.withDisk (host.disk.fill (place ++ [path.name]) bytes)
  | .error lost, _ => .error (lost.fault path)

/-- The host without a file. Records that are logged to it from now on are lost. -/
def removeFile (host : Host) (path : Path) : Except Fault Host :=
  if path.hasNul then .error .nullByte
  else
    match host.disk.find host.current path with
    | .ok (_, .folder) => .error (.isFolder path.text)
    | .ok (place, _) =>
        .ok { host with disk := host.disk.remove place, logging := host.logging.withdraw place }
    | .error lost => .error (lost.fault path)

end Host

end CodeMetrics
