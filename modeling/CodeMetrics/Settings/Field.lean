import CodeMetrics.Number.Literal
import CodeMetrics.Problem

/-!
# Fields of the settings

Every field has a name, a value that holds when nothing sets it, and the kind of text it is read
from in the environment.
-/

namespace CodeMetrics.Settings

inductive Field where
  | metric
  | precision
  | layout
  | lexer
  | dump
  | encoding
  | maxFileSize
  | roles
  | workers
  | maxCommits
  | verbosity
  | logFile
  deriving DecidableEq, Repr

def Field.all : List Field :=
  [.metric, .precision, .layout, .lexer, .dump, .encoding, .maxFileSize, .roles, .workers,
   .maxCommits, .verbosity, .logFile]

def Field.name : Field → String
  | .metric => "metric"
  | .precision => "precision"
  | .layout => "output_format"
  | .lexer => "lexer"
  | .dump => "ppi_dump"
  | .encoding => "encoding"
  | .maxFileSize => "max_file_size_mb"
  | .roles => "roles"
  | .workers => "workers"
  | .maxCommits => "git_max_commits"
  | .verbosity => "verbosity"
  | .logFile => "log_file"

def Field.ofName? (name : String) : Option Field := Field.all.find? fun f => f.name == name

def Field.default : Field → Value
  | .metric => .text "effort"
  | .precision | .lexer | .workers | .logFile => .null
  | .layout => .text "rich"
  | .dump => .bool false
  | .encoding => .text "utf-8"
  | .maxFileSize => .real 10.0
  | .roles => .table []
  | .maxCommits => .int 100
  | .verbosity => .text "normal"

/-- How a text becomes a value. -/
inductive Reading where
  | switch
  | whole
  | real
  | text
  /-- Tables and lists are not read from texts. -/
  | unread
  deriving DecidableEq, Repr

def Field.reading : Field → Reading
  | .metric | .layout | .lexer | .encoding | .verbosity | .logFile => .text
  | .precision | .workers | .maxCommits => .whole
  | .maxFileSize => .real
  | .dump => .switch
  | .roles => .unread

/-- A text that cannot be read as the value wanted. -/
inductive ReadError where
  | noSwitch (given : Wording)
  | noInteger (given : Wording)
  | noReal (given : Wording)
  | tooManyDigits (count : Nat)
  deriving DecidableEq, Repr

/-- The characters of a long text that the message about an integer quotes. -/
def quoteLimit : Nat := 200

def ReadError.message : ReadError → String
  | .noSwitch given => s!"expected true/false, got '{given.shown}'"
  | .noInteger given =>
      "invalid literal for int() with base 10: " ++
        String.ofList (given.written.toList.take quoteLimit)
  | .noReal given => Fault.text (.noReal given.written)
  | .tooManyDigits count => Fault.text (.tooManyDigits count)

/-- The words of a switch, in any case. -/
def switch? (text : String) : Option Bool :=
  let word := Text.lower text
  if ["true", "1", "yes", "on"].contains word then some true
  else if ["false", "0", "no", "off"].contains word then some false
  else none

/-- The value a text stands for, when the reading gives one at all. -/
def Reading.read (given : Wording) : Reading → Except ReadError (Option Value)
  | .switch =>
      match switch? (String.ofList given.masked) with
      | some b => .ok (some (.bool b))
      | none => .error (.noSwitch given)
  | .whole =>
      match Number.readInteger given.masked with
      | .ok n => .ok (some (.int n))
      | .error .malformed => .error (.noInteger given)
      | .error (.tooManyDigits count) => .error (.tooManyDigits count)
  | .real =>
      match Number.readReal? given.masked with
      | some x => .ok (some (.real x))
      | none => .error (.noReal given)
  | .text => .ok (some (.ofWording given))
  | .unread => .ok none

end CodeMetrics.Settings
