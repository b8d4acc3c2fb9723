import CodeMetrics.Command.Run

/-!
# Sessions

A session is a series of steps on one machine. It keeps what its steps produce: files, variables,
settings, results, and where log records go. A step that goes wrong changes nothing but the log.
-/

namespace CodeMetrics

structure Session where
  host : Host
  /-- The settings in force; none for the standard ones. -/
  settings : Option Settings
  entries : List Entry
  ranking : List Ranked
  points : List Point

/-- What a listing shows. -/
inductive Listing where
  | report
  | ranking
  | history
  deriving DecidableEq, Repr

inductive Step where
  | write (path : String) (bytes : List UInt8)
  | makeFolder (path : String)
  | remove (path : String)
  | setVariables (values : List (String × Option Wording))
  | giveSettings (layer : Settings.Layer)
  | loadSettings (file : Option String) (overrides : Settings.Layer)
  | readSource (path : String) (encoding limit : Value)
  | tokenizeFile (path : String) (asked encoding limit : Value)
  | readDump (path : String) (encoding limit : Value)
  | analyzeFile (path : Option String)
  | analyzeFiles (paths : List (Option String))
  | rank (metric : Value)
  | history (folder path : String) (git : Git)
  | list (listing : Listing) (layout precision metric : Value)
  | setUpLogging (verbosity file : Value)
  | log (logger : Value) (level : Level) (message : String)
  | readLog (path : String)
  | command (arguments : List String) (git : Git)

inductive Answer where
  | nothing
  | settings (settings : Settings)
  | text (text : String)
  | tokens (tokens : List Token)
  | run (run : Run)
  | entries (entries : List Entry)
  | ranking (ranking : List Ranked)
  | points (points : List Point)
  | logging (logging : Logging)
  | lines (lines : List String)
  | outcome (outcome : Command.Outcome)

namespace Session

def withHost (session : Session) (host : Host) : Session := { session with host := host }

def inForce (session : Session) : Settings := session.settings.getD .standard

/-- The environment with one of its variables set or taken away. A text goes there as bytes, and is
read from there again. -/
def assign (environment : Entries Wording) (name : String) :
    Option Wording → Except Fault (Entries Wording)
  | none => .ok (environment.filter fun entry => entry.1 != name)
  | some value =>
      match value.exported with
      | .error error => .error (.unencodable error)
      | .ok exported =>
          if name.toList.contains '\x00' || value.hasNul then .error .nullByte
          else .ok ((name, exported) :: environment.filter fun entry => entry.1 != name)

/-- The revisions a session looks at. -/
def revisionLimit : Value := .int 100

/-- The listing of what the session has. -/
def listingParts (session : Session) (listing : Listing) (layout precision metric : Value) :
    Except Fault Report.Parts := do
  let layout ← Report.Layout.require layout
  match listing with
  | .report => Report.report layout precision session.entries
  | .ranking =>
      let standings := session.ranking.map Ranked.standing
      Report.ranking layout precision metric standings (← rankingSummary standings)
  | .history => Report.history layout precision metric session.points

/-- The records in a log file, without their times. -/
def logLines (session : Session) (path : Path) : Except Fault (List String) :=
  match session.host.disk.find session.host.current path with
  | .ok (_, .file bytes) =>
      .ok ((Text.lines (Text.Encoding.decodeLenient .utf8 bytes)).map fun line =>
        String.ofList (line.drop Logging.stampLength))
  | .ok (_, .folder) => .error (.isFolder path.text)
  | .ok _ => .ok []
  | .error lost => .error (lost.fault path)

/-- A step, with what it answers and the session behind it. -/
def step (session : Session) : Step → Trace (Answer × Session)
  | .write path bytes => do
      return (.nothing, session.withHost (← session.host.writeFile (.ofString path) bytes))
  | .makeFolder path => do
      return (.nothing, session.withHost (← session.host.makeFolder (.ofString path)))
  | .remove path => do
      return (.nothing, session.withHost (← session.host.removeFile (.ofString path)))
  | .setVariables values => do
      let environment ← values.foldlM (fun known entry => assign known entry.1 entry.2)
        session.host.environment
      return (.nothing, session.withHost { session.host with environment := environment })
  | .giveSettings layer => do
      let settings ← Settings.ofLayer layer
      return (.settings settings, { session with settings := some settings })
  | .loadSettings file overrides => do
      let settings ← Settings.load session.host (file.map .ofString) overrides
      return (.settings settings, { session with settings := some settings })
  | .readSource path encoding limit => do
      let code ← readSource session.host (.ofString path) encoding limit
      return (.text code.shown, session)
  | .tokenizeFile path asked encoding limit => do
      let tokens ← tokenizeFile session.host (.ofString path) asked encoding limit
      return (.tokens tokens, session)
  | .readDump path encoding limit => do
      return (.tokens (← readDumpFile session.host path encoding limit), session)
  | .analyzeFile path => do
      return (.run (← CodeMetrics.analyzeFile session.host session.inForce path), session)
  | .analyzeFiles paths => do
      let entries ← CodeMetrics.analyzeFiles session.host session.inForce paths (inOrder paths)
      return (.entries entries, { session with entries := entries })
  | .rank metric => do
      let ranking ← CodeMetrics.rank metric session.entries
      return (.ranking ranking, { session with ranking := ranking })
  | .history folder path git => do
      let points ← Timeline.points session.host git session.inForce (.ofString folder) path
        revisionLimit
      return (.points points, { session with points := points })
  | .list listing layout precision metric => do
      let parts ← session.listingParts listing layout precision metric
      return (.text (← parts.text), session)
  | .setUpLogging verbosity file => do
      let host ← session.host.setUpLogging verbosity file
      return (.logging host.logging, session.withHost host)
  | .log logger level message => do
      Trace.log (← loggerName logger) level message
      return (.nothing, session)
  | .readLog path => do return (.lines (← session.logLines (.ofString path)), session)
  | .command arguments git =>
      let outcome := Command.run session.host git arguments
      ⟨outcome.events, .ok (.outcome outcome, session.withHost outcome.host)⟩

/-- The session after a step, with the records that were kept; the log file has them too. -/
def perform (session : Session) (step : Step) :
    Session × List LogRecord × Except Problem Answer :=
  let trace := session.step step
  let (answer, next) : Except Problem Answer × Session := match trace.outcome with
    | .ok (answer, next) => (.ok answer, next)
    | .error problem => (.error problem, session)
  (next.withHost (next.host.record trace.records),
    trace.records.filter next.host.logging.keeps, answer)

/-- A session on a machine where nothing has been done. -/
def start (host : Host) : Session := ⟨host, none, [], [], []⟩

end Session

end CodeMetrics
