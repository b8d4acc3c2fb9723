import CodeMetrics.Entries
import CodeMetrics.Fault
import CodeMetrics.Value

/-!
# Failures

A failure is the library's own report about an input or a setting: it is recorded in the results
of a batch or a history, and it ends a command with a message. The wording of a failure is a
headline with details behind it, and stands here alone. Callers can make failures of their own, out
of any values, and not all of these have a wording.
-/

namespace CodeMetrics

/-- Why four counts have no metrics. -/
inductive Degeneracy where
  | negative (names : List String)
  | noOperators
  | noOperands
  | noOccurrences
  | notFinite (names : List String)
  | other (reason : Value)
  deriving BEq, Repr

def Degeneracy.reason : Degeneracy → Value
  | .negative names => .text ("negative count for " ++ String.intercalate ", " names)
  | .noOperators => .text "no operators"
  | .noOperands => .text "no operands"
  | .noOccurrences => .text "no operator or operand occurrences"
  | .notFinite names => .text ("non-finite result for " ++ String.intercalate ", " names)
  | .other reason => reason

/-- Why a source cannot be read. -/
inductive Obstacle where
  | missing
  | notRegular
  /-- The size in bytes, and the limit in megabytes as it was given. -/
  | tooLarge (size : Nat) (limit : String)
  | undecodable (encoding reason : String)
  /-- The system does not let it be read. -/
  | refused (error : SystemError)
  | gitMissing
  | gitTimedOut (command : String)
  | outsideGit
  /-- What git had to say. -/
  | gitFailed (complaint : String)
  | outsideRepository (root : String)
  | other (reason : Value)
  deriving BEq, Repr

def Obstacle.reason : Obstacle → Value
  | .missing => .text "file does not exist"
  | .notRegular => .text "not a regular file"
  | .tooLarge size limit => .text s!"file is {size} bytes, limit is {limit}MB"
  | .undecodable encoding reason => .text s!"cannot decode as {encoding}: {reason}"
  | .refused error => .text error.text
  | .gitMissing => .text "git executable not found"
  | .gitTimedOut command => .text s!"git {command} timed out"
  | .outsideGit => .text "not inside a git repository"
  | .gitFailed complaint => .text complaint
  | .outsideRepository root => .text s!"outside repository {root}"
  | .other reason => reason

inductive Failure where
  | general (headline details : Value)
  | analysis (headline details : Value)
  | configuration (headline details : Value)
  | missingInput (what : Value)
  | sourceUnavailable (path : Value) (obstacle : Obstacle)
  /-- Null stands for a path or a lexer that there is none of. -/
  | parseFailure (path reason lexer : Value)
  | degenerate (why : Degeneracy) (counts : Entries Value)
  | invalidSetting (key value reason : Value)
  deriving BEq, Repr

def Failure.headline : Failure → Value
  | .general headline _ | .analysis headline _ | .configuration headline _ => headline
  | .missingInput what => .text s!"No {what.shown} supplied"
  | .sourceUnavailable path _ => .text s!"Cannot read source: {path.shown}"
  | .parseFailure .null _ _ => .text "Failed to tokenize <source>"
  | .parseFailure path _ _ => .text s!"Failed to tokenize {path.shown}"
  | .degenerate why _ => .text s!"Degenerate input: {why.reason.shown}"
  | .invalidSetting key value _ => .text s!"Invalid configuration for {key.shown}: {value.shown}"

/-- Details are a table, but those that a caller gives may be something else. -/
def Failure.details : Failure → Value
  | .general _ details | .analysis _ details | .configuration _ details =>
      if details.holds then details else .table []
  | .missingInput what => .table [("missing", what)]
  | .sourceUnavailable path obstacle =>
      .table [("path", .text path.shown), ("reason", obstacle.reason)]
  | .parseFailure path reason lexer =>
      .table (("reason", reason) ::
        (path.given?.map fun path => ("path", .text path.shown)).toList ++
        (lexer.given?.map fun lexer => ("lexer", lexer)).toList)
  | .degenerate why counts =>
      .table (Entries.merge [("reason", why.reason)]
        (counts.map fun count => (count.1, .text count.2.shown)))
  | .invalidSetting key value reason =>
      .table [("key", key), ("value", .text value.shown), ("reason", reason)]

/-- The headline, with the details in brackets behind it. -/
def Failure.text (failure : Failure) : String :=
  match failure.details with
  | .table (first :: rest) =>
      let details := (first :: rest).map fun detail => detail.1 ++ "=" ++ detail.2.shown
      let listed := String.intercalate ", " details
      s!"{failure.headline.shown} ({listed})"
  | _ => failure.headline.shown

/-- The text of a failure, if it has one. A headline without details has to be a text itself. -/
def Failure.wording (failure : Failure) : Except Fault String :=
  match failure.details, failure.headline with
  | .table [], .text headline => .ok headline
  | .table [], headline => .error (.notText headline.kindName)
  | .table details, headline =>
      if headline.tooLong || Value.anyEntryTooLong details then .error .tooLongToWrite
      else .ok failure.text
  | details, _ => .error (.lacks details.kindName "items")

/-- The name a failure goes by in reports. -/
def Failure.kind : Failure → String
  | .general .. => "HalsteadError"
  | .analysis .. => "AnalysisError"
  | .configuration .. => "ConfigurationError"
  | .missingInput .. => "MissingInputError"
  | .sourceUnavailable .. => "SourceUnavailableError"
  | .parseFailure .. => "ParseFailureError"
  | .degenerate .. => "DegenerateInputError"
  | .invalidSetting .. => "InvalidConfigError"

/-- The kind of a failure and the wider kinds it belongs to, the narrowest first. -/
def Failure.kinds (failure : Failure) : List String :=
  match failure with
  | .general .. => [failure.kind]
  | .analysis .. | .configuration .. => [failure.kind, "HalsteadError"]
  | .invalidSetting .. => [failure.kind, "ConfigurationError", "HalsteadError"]
  | _ => [failure.kind, "AnalysisError", "HalsteadError"]

end CodeMetrics
