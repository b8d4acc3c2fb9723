import CodeMetrics.Problem

/-!
# Failures from arguments

A caller makes a failure of some kind from a list of arguments. Each kind takes its own, and the
last ones may be left out.
-/

namespace CodeMetrics.Failure

/-- What a failure takes: who makes it, the names of the arguments that are needed, and how many
more there can be. -/
structure Signature where
  maker : String
  needed : List String
  further : Nat

/-- The arguments of each kind; the general one makes the kinds that have none of their own. -/
def signature : String → Signature
  | "MissingInputError" => ⟨"MissingInputError", [], 1⟩
  | "SourceUnavailableError" => ⟨"SourceUnavailableError", ["path", "reason"], 0⟩
  | "ParseFailureError" => ⟨"ParseFailureError", ["path", "reason"], 1⟩
  | "DegenerateInputError" => ⟨"DegenerateInputError", ["reason"], 1⟩
  | "InvalidConfigError" => ⟨"InvalidConfigError", ["key", "value", "reason"], 0⟩
  | _ => ⟨"HalsteadError", ["message"], 1⟩

/-- Whether there are as many arguments as are taken. What makes a failure counts itself as an
argument. -/
def Signature.check (s : Signature) (arguments : List Value) : Except Fault Unit :=
  let needed := s.needed.length
  if arguments.length < needed then
    .error (.missingArguments s.maker (s.needed.drop arguments.length))
  else if needed + s.further < arguments.length then
    .error (.extraArguments s.maker (needed + 1) (needed + s.further + 1) (arguments.length + 1))
  else .ok ()

/-- What a missing input is called when nothing is said. -/
def usualInput : Value := .text "token stream"

/-- The counts of a degenerate input. Nothing stands for none, and the rest has to be a table. -/
def countsOf (counts : Value) : Except Fault (Entries Value) :=
  if !counts.holds then .ok []
  else
    match counts with
    | .table entries => .ok entries
    | other => .error (.lacks other.kindName "items")

/-- The failure of a kind from as many arguments as it takes. -/
def ofChecked (kind : String) (arguments : List Value) : Except Fault Failure :=
  let argument (i : Nat) : Value := arguments.getD i .null
  match kind with
  | "AnalysisError" => .ok (.analysis (argument 0) (argument 1))
  | "ConfigurationError" => .ok (.configuration (argument 0) (argument 1))
  | "MissingInputError" => .ok (.missingInput (arguments.headD usualInput))
  | "SourceUnavailableError" => .ok (.sourceUnavailable (argument 0) (.other (argument 1)))
  | "ParseFailureError" => .ok (.parseFailure (argument 0) (argument 1) (argument 2))
  | "DegenerateInputError" => do
      return .degenerate (.other (argument 0)) (← countsOf (argument 1))
  | "InvalidConfigError" => .ok (.invalidSetting (argument 0) (argument 1) (argument 2))
  | _ => .ok (.general (argument 0) (argument 1))

/-- The values that go into the headline and the details as texts. -/
def writtenValues : Failure → List Value
  | .general .. | .analysis .. | .configuration .. => []
  | .missingInput what => [what]
  | .sourceUnavailable path _ => [path]
  | .parseFailure path _ _ => [path]
  | .degenerate why counts => why.reason :: counts.map Prod.snd
  | .invalidSetting key value _ => [key, value]

/-- The failure of a kind from arguments. -/
def ofArguments (kind : String) (arguments : List Value) : Except Fault Failure := do
  (signature kind).check arguments
  let failure ← ofChecked kind arguments
  if Value.anyTooLong failure.writtenValues then .error .tooLongToWrite else return failure

end CodeMetrics.Failure
