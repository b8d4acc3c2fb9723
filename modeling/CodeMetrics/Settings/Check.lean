import CodeMetrics.Logging
import CodeMetrics.Policy
import CodeMetrics.Ranking
import CodeMetrics.Report.Layout
import CodeMetrics.Settings.Field

/-!
# Checked settings

Settings are checked once, when they are put together, field by field in a fixed order. Numbers
keep the kind they were given in. What a check does not look at is taken as it is.
-/

namespace CodeMetrics

structure Settings where
  metric : Metric
  /-- Null, or a number from 0 to 12. -/
  precision : Value
  layout : Report.Layout
  lexer : Value
  dump : Value
  encoding : Value
  /-- A number of megabytes. -/
  maxFileSize : Value
  roles : List (String × Value)
  /-- Null, or a number. -/
  workers : Value
  /-- A number. -/
  maxCommits : Value
  verbosity : Verbosity
  logFile : Value

namespace Settings

def get (settings : Settings) : Field → Value
  | .metric => .text settings.metric.name
  | .precision => settings.precision
  | .layout => .text settings.layout.name
  | .lexer => settings.lexer
  | .dump => settings.dump
  | .encoding => settings.encoding
  | .maxFileSize => settings.maxFileSize
  | .roles => .table settings.roles
  | .workers => settings.workers
  | .maxCommits => settings.maxCommits
  | .verbosity => .text settings.verbosity.name
  | .logFile => settings.logFile

/-- The policy with the roles of the settings. Roles that are no roles were refused before. -/
def policy (settings : Settings) : Policy :=
  match Policy.standard.override settings.roles with
  | .ok policy => policy
  | .error _ => .standard

def reportPrecision (settings : Settings) : Value :=
  match settings.precision with
  | .null => .int 2
  | given => given

def rankingPrecision (settings : Settings) : Value :=
  match settings.precision with
  | .null => .int 4
  | given => given

/-- Fields with the values they are given, in the order they were first given. -/
abbrev Layer := Entries Value

def Layer.get (layer : Layer) (field : Field) : Value :=
  (layer.lookup field.name).getD field.default

/-- The order of a number and an integer; NaN has none. The outer option tells whether the value
is a number at all: true and false are 1 and 0. -/
def compareTo (n : Int) : Value → Option (Option Ordering)
  | .bool b => some (some (compare (if b then 1 else 0) n))
  | .int m => some (some (compare m n))
  | .real x => some ((Number.compareInt n x).map Ordering.swap)
  | _ => none

def isNumber (value : Value) : Bool := (compareTo 0 value).isSome

/-- A NaN is on no side of any number. -/
def atLeast (n : Int) (value : Value) : Bool :=
  compareTo n value == some (some .gt) || compareTo n value == some (some .eq)

def atMost (n : Int) (value : Value) : Bool :=
  compareTo n value == some (some .lt) || compareTo n value == some (some .eq)

def below (n : Int) (value : Value) : Bool := compareTo n value == some (some .lt)

def checkPrecision : Value → Except Problem Value
  | .null => .ok .null
  | value =>
      if !isNumber value then .error (.escaped (.unordered "<=" "int" value.kindName))
      else if atLeast 0 value && atMost 12 value then .ok value
      else .error (.invalidSetting "precision" value "must be between 0 and 12")

/-- What a message says of the names a field can have. -/
def choice (names : List String) : String := "choose from " ++ String.intercalate ", " names

def checkLayout (value : Value) : Except Problem Report.Layout :=
  let found := match value with
    | .text name => Report.Layout.ofName? name
    | _ => none
  match found with
  | some layout => .ok layout
  | none =>
      let names := Report.Layout.all.map Report.Layout.name
      .error (.invalidSetting "output_format" value (choice names))

/-- A NaN is not refused. -/
def checkMaxFileSize (value : Value) : Except Problem Value :=
  if !isNumber value then .error (.escaped (.unordered "<=" value.kindName "int"))
  else if atMost 0 value then .error (.invalidSetting "max_file_size_mb" value "must be positive")
  else .ok value

/-- A number that counts something. A NaN is not refused. -/
def checkCount (name : String) (value : Value) : Except Problem Value :=
  if !isNumber value then .error (.escaped (.unordered "<" value.kindName "int"))
  else if below 1 value then .error (.invalidSetting name value "must be at least 1")
  else .ok value

def checkWorkers : Value → Except Problem Value
  | .null => .ok .null
  | value => checkCount "workers" value

def checkVerbosity (value : Value) : Except Problem Verbosity :=
  let found := match value with
    | .text name => Verbosity.ofName? name
    | _ => none
  match found with
  | some verbosity => .ok verbosity
  | none => .error (.invalidSetting "verbosity" value (choice (Verbosity.all.map Verbosity.name)))

/-- The roles have to make a policy. -/
def checkRoles : Value → Except Problem (List (String × Value))
  | .table roles => do
      let _ ← Policy.standard.override roles
      return roles
  | value => .error (.invalidSetting "roles" value "must be a table of category = role")

/-- The first name that is no field. -/
def stranger? (layer : Layer) : Option String :=
  (layer.find? fun entry => (Field.ofName? entry.1).isNone).map Prod.fst

/-- The settings a layer gives, with the defaults for the fields it leaves out. Names that are no
field are refused before any value is looked at. -/
def ofLayer (layer : Layer) : Except Problem Settings :=
  match stranger? layer with
  | some name => .error (.escaped (.unknownSetting name))
  | none => do
      let metric ← requireMetric (layer.get .metric)
      let precision ← checkPrecision (layer.get .precision)
      let layout ← checkLayout (layer.get .layout)
      let maxFileSize ← checkMaxFileSize (layer.get .maxFileSize)
      let workers ← checkWorkers (layer.get .workers)
      let maxCommits ← checkCount "git_max_commits" (layer.get .maxCommits)
      let verbosity ← checkVerbosity (layer.get .verbosity)
      let roles ← checkRoles (layer.get .roles)
      return {
        metric := metric
        precision := precision
        layout := layout
        lexer := layer.get .lexer
        dump := layer.get .dump
        encoding := layer.get .encoding
        maxFileSize := maxFileSize
        roles := roles
        workers := workers
        maxCommits := maxCommits
        verbosity := verbosity
        logFile := layer.get .logFile }

/-- The settings that hold when nothing is given. -/
def standard : Settings where
  metric := .derived .effort
  precision := .null
  layout := .terminal
  lexer := .null
  dump := .bool false
  encoding := .text "utf-8"
  maxFileSize := .real 10.0
  roles := []
  workers := .null
  maxCommits := .int 100
  verbosity := .normal
  logFile := .null

end Settings

end CodeMetrics
