import CodeMetrics.Command.Arguments
import CodeMetrics.History.Timeline
import CodeMetrics.Settings.Load

/-!
# Commands

What the program does for a request: it loads the settings, sets up logging, analyses and prints.
A failure ends it with a message and a status; a fault goes out to the caller.
-/

namespace CodeMetrics.Command

/-- How a command ended. -/
inductive Ending where
  | exit (status : Nat)
  /-- The arguments were no request. -/
  | misused
  | fault (fault : Fault)
  deriving DecidableEq

structure Outcome where
  ending : Ending
  output : String
  complaints : String
  events : List Event
  /-- The machine with the logging the command set up. -/
  host : Host

def version : String := "0.2.0"

/-- Markup as a line for people: tabs are blanks, and what a terminal would act on is left out.
Lines may be wider than the terminal. -/
def complaint (markup : String) : Except Fault String := do
  let shown ← Report.resolve markup
  Report.checkStyles .left shown
  let lines := (Text.splitAt '\n' shown.text).map Text.expandTabs
  return String.ofList (['\n'].intercalate lines ++ ['\n'])

def Outcome.plain (host : Host) (ending : Ending) (output complaints : String) : Outcome :=
  ⟨ending, output, complaints, [], host⟩

/-- The end of a command that failed. -/
def Outcome.failed (host : Host) (status : Nat) (events : List Event) (failure : Failure) :
    Outcome :=
  match complaint ("[red]Error:[/red] " ++ Markup.escape failure.text) with
  | .ok text => ⟨.exit status, "", text, events, host⟩
  | .error fault => ⟨.fault fault, "", "", events, host⟩

/-- The end of a command that printed a report. -/
def Outcome.reported (host : Host) (succeeded : Bool) (complaints : String) (events : List Event)
    (parts : Except Fault Report.Parts) : Outcome :=
  match parts with
  | .error fault => ⟨.fault fault, "", complaints, events, host⟩
  | .ok parts =>
      match parts.shown with
      | (text, some fault) => ⟨.fault fault, text, complaints, events, host⟩
      | (text, none) => ⟨.exit (if succeeded then 0 else 1), text, complaints, events, host⟩

/-- The outcome with what a log on the screen shows in front of what is printed. -/
def Outcome.behindLog (outcome : Outcome) : Outcome :=
  let records := outcome.events.filterMap Event.record?
  { outcome with output := outcome.host.screened records ++ outcome.output }

def optionalInt : Option Int → Value
  | none => .null
  | some n => .int n

/-- The layer of the options. -/
def Options.layer (options : Options) : Settings.Layer :=
  [("metric", .ofOption options.metric),
   ("precision", optionalInt options.precision),
   ("output_format", .ofOption options.layout),
   ("lexer", .ofOption options.lexer),
   ("ppi_dump", if options.dump then .bool true else .null),
   ("workers", optionalInt options.workers),
   ("git_max_commits", optionalInt options.maxCommits),
   ("log_file", .ofOption (options.logFile.map Path.text)),
   ("verbose", .bool options.verbose),
   ("quiet", .bool options.quiet)]

/-- A request with its settings loaded and logging set up. -/
def withSettings (host : Host) (options : Options) (work : Host → Settings → Outcome) : Outcome :=
  match Settings.load host options.config options.layer with
  | .error (.reported failure) => .failed host 2 [] failure
  | .error (.escaped fault) => .plain host (.fault fault) "" ""
  | .ok settings =>
      match host.setUpLogging (.text settings.verbosity.name) settings.logFile with
      | .error fault => .plain host (.fault fault) "" ""
      | .ok host => work host settings

/-- The listing of a batch: the report, or the ranking by the metric of the settings. -/
def listing (console : Report.Console) (options : Options) (settings : Settings)
    (entries : List Entry) : Except Fault Report.Parts :=
  if options.report then
    Report.reportOn console settings.layout settings.reportPrecision entries
  else do
    let ranking := (← rankBy settings.metric entries).map Ranked.standing
    Report.rankingOn console settings.layout settings.rankingPrecision
      (.text settings.metric.name) ranking (← rankingSummary ranking)

def succeeded (outcome : Except Failure Run) : Bool :=
  match outcome with
  | .ok _ => true
  | .error _ => false

/-- The message about a file that does not exist. -/
def absent (settings : Settings) (file : Path) : Except Fault String :=
  if settings.verbosity = .quiet then .ok ""
  else complaint s!"[yellow]File {Markup.escape file.text} does not exist.[/yellow]"

/-- The files that exist, with the messages about the others. -/
def existing (host : Host) (settings : Settings) : List Path → String × Except Fault (List Path)
  | [] => ("", .ok [])
  | file :: rest =>
      let (complaints, others) := existing host settings rest
      match host.exists? file with
      | .error fault => ("", .error fault)
      | .ok true => (complaints, others.map (file :: ·))
      | .ok false =>
          match absent settings file with
          | .error fault => ("", .error fault)
          | .ok text => (text ++ complaints, others)

/-- The files that exist are analysed; the command succeeds when one of them can be. -/
def analyze (host : Host) (options : Options) (files : List Path) : Outcome :=
  withSettings host options fun host settings =>
    match existing host settings files with
    | (complaints, .error fault) => .plain host (.fault fault) "" complaints
    | (complaints, .ok files) =>
        let names := files.map fun file => some file.text
        let trace := analyzeFiles host settings names (inOrder names)
        match trace.outcome with
        | .error (.escaped fault) => ⟨.fault fault, "", complaints, trace.events, host⟩
        | .error (.reported _) => ⟨.exit 1, "", complaints, trace.events, host⟩
        | .ok entries =>
            .reported host (entries.any fun entry => succeeded entry.outcome) complaints
              trace.events (listing host.console options settings entries)

/-- The timeline of a file, in the repository around its folder. -/
def timeline (host : Host) (git : Git) (settings : Settings) (file : Path) :
    Trace (List Point) := do
  let folder := (Path.absolute (← host.resolve file)).parent
  Timeline.points host git settings folder file.text settings.maxCommits

/-- The timeline is shown; the command succeeds when one of its revisions can be analysed. -/
def history (host : Host) (git : Git) (options : Options) (file : Path) : Outcome :=
  withSettings host options fun host settings =>
    let trace := timeline host git settings file
    match trace.outcome with
    | .error (.escaped fault) => ⟨.fault fault, "", "", trace.events, host⟩
    | .error (.reported failure) => .failed host 1 trace.events failure
    | .ok points =>
        .reported host (points.any fun point => succeeded point.outcome) "" trace.events
          (Report.historyOn host.console settings.layout settings.reportPrecision
            (.text settings.metric.name) points)

/-- What is done for a request. -/
def answer (host : Host) (git : Git) : Option Request → Outcome
  | none => .plain host .misused "" ""
  | some .version => .plain host (.exit 0) s!"halstead-metrics {version}\n" ""
  | some .help => .plain host (.exit 0) "" ""
  | some (.analyze options files) => analyze host options files
  | some (.history options file) => history host git options file

def run (host : Host) (git : Git) (arguments : List String) : Outcome :=
  (answer host git (Request.read host arguments)).behindLog

end CodeMetrics.Command
