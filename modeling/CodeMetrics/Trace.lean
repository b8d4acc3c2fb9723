import CodeMetrics.Problem

/-!
# Traces

A computation that reads sources, runs git or reports progress leaves a trace: what it logged and
which commands it ran, in order, up to the point where it stopped. Its outcome is a value or the
problem that stopped it.
-/

namespace CodeMetrics

inductive Level where
  | debug
  | info
  | warning
  | error
  | critical
  deriving DecidableEq, Repr

def Level.name : Level → String
  | .debug => "DEBUG"
  | .info => "INFO"
  | .warning => "WARNING"
  | .error => "ERROR"
  | .critical => "CRITICAL"

def Level.weight : Level → Nat
  | .debug => 10
  | .info => 20
  | .warning => 30
  | .error => 40
  | .critical => 50

structure LogRecord where
  logger : String
  level : Level
  message : String
  deriving DecidableEq, Repr

inductive Event where
  | logged (entry : LogRecord)
  /-- A command with its arguments. -/
  | ran (command : List String)
  deriving DecidableEq, Repr

/-- What an event adds to the log. -/
def Event.record? : Event → Option LogRecord
  | .logged entry => some entry
  | .ran _ => none

structure Trace (α : Type) where
  events : List Event
  outcome : Except Problem α

namespace Trace

def pure {α : Type} (a : α) : Trace α := ⟨[], .ok a⟩

def stop {α : Type} (problem : Problem) : Trace α := ⟨[], .error problem⟩

def fail {α : Type} (failure : Failure) : Trace α := stop (.reported failure)

def bind {α β : Type} (first : Trace α) (next : α → Trace β) : Trace β :=
  match first.outcome with
  | .error problem => ⟨first.events, .error problem⟩
  | .ok a => ⟨first.events ++ (next a).events, (next a).outcome⟩

instance : Monad Trace where
  pure := pure
  bind := bind

/-- An outcome that leaves no events. -/
def ofOutcome {α : Type} (outcome : Except Problem α) : Trace α := ⟨[], outcome⟩

instance : MonadLift (Except Problem) Trace := ⟨ofOutcome⟩

instance : MonadLift (Except Failure) Trace where
  monadLift
    | .ok a => pure a
    | .error failure => fail failure

instance : MonadLift (Except Fault) Trace where
  monadLift
    | .ok a => pure a
    | .error fault => stop (.escaped fault)

def emit (event : Event) : Trace Unit := ⟨[event], .ok ()⟩

def log (logger : String) (level : Level) (message : String) : Trace Unit :=
  emit (.logged ⟨logger, level, message⟩)

/-- A failure becomes a value; a fault goes on. -/
def attempt {α : Type} (trace : Trace α) : Trace (Except Failure α) :=
  ⟨trace.events, match trace.outcome with
    | .ok a => .ok (.ok a)
    | .error (.reported failure) => .ok (.error failure)
    | .error problem => .error problem⟩

def records {α : Type} (trace : Trace α) : List LogRecord :=
  trace.events.filterMap Event.record?

def commands {α : Type} (trace : Trace α) : List (List String) :=
  trace.events.filterMap fun
    | .ran command => some command
    | .logged _ => none

end Trace

/-- The logger of the whole library; the loggers of its parts stand below it. -/
def libraryLogger : String := "halstead_metrics"

/-- A logger below the library's, unless the name already says so; the library's own without a
name. -/
def loggerName : Value → Except Fault String
  | .null => .ok libraryLogger
  | .text name =>
      .ok (if libraryLogger.isPrefixOf name then name else libraryLogger ++ "." ++ name)
  | other => .error (.lacks other.kindName "startswith")

end CodeMetrics
