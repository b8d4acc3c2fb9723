import CodeMetrics.Lexeme.Stream
import CodeMetrics.Library.Lexer
import CodeMetrics.Metric.Formula

/-!
# Runs

A run is the analysis of one input: its tally, and the metrics derived from it.
-/

namespace CodeMetrics

structure Run where
  tally : Tally
  measures : Measures
  /-- What the input is called, usually its path. -/
  source : Option String

def Tally.get (tally : Tally) : Count → Nat
  | .operators => tally.operators.total
  | .operands => tally.operands.total
  | .distinctOperators => tally.operators.vocabulary.size
  | .distinctOperands => tally.operands.vocabulary.size

def Run.get (run : Run) : Metric → Quantity
  | .count c => .whole (run.tally.get c)
  | .derived d => run.measures.value d

/-- The metric a value names, as a quantity of the run. -/
def Run.find (run : Run) (name : Value) : Except Fault Quantity :=
  match Metric.ofValue? name with
  | some metric => .ok (run.get metric)
  | none => .error (.unknownName name.written)

/-- All sixteen metrics, in the order of the reports. -/
def Run.record (run : Run) : List (Metric × Quantity) :=
  Metric.all.map fun metric => (metric, run.get metric)

def analysisLogger : String := "halstead_metrics.api"

/-- The run of a tally. -/
def Tally.run (tally : Tally) (source : Option String) : Except Problem Run := do
  let measures ← (Counts.ofTally tally).derive
  return ⟨tally, measures, source⟩

/-- The analysis of a stream of tokens. -/
def analyzeTokens (policy : Policy) (source : Option String) (tokens : List Token) : Trace Run := do
  let tally := Tally.ofTokens policy tokens
  let label := (given? source).getD "<tokens>"
  Trace.log analysisLogger .debug
    (s!"{label}: N1={tally.get .operators} N2={tally.get .operands} " ++
      s!"n1={tally.get .distinctOperators} n2={tally.get .distinctOperands}")
  tally.run source

/-- `analyzeTokens`, for a stream that may be missing. -/
def analyze (policy : Policy) (source : Option String) : Option (List Token) → Trace Run
  | none => Trace.fail (.missingInput (.text "token stream"))
  | some tokens => analyzeTokens policy source tokens

def lexerLogger : String := "halstead_metrics.scanning.lexer"

/-- The tokens of a source text. -/
def tokenize (lexers : Lexers) (code : Snippet) (fileName : Option String) (asked : Value) :
    Trace (List Token) := do
  let lexer ← lexers.choose code fileName asked
  let source := (given? fileName).getD "<source>"
  Trace.log lexerLogger .debug s!"Lexing {source} with {lexer.name}"
  match lexer.lexemes code with
  | .ok lexemes => return tokensOf lexemes
  | .error reason =>
      Trace.fail (.parseFailure (.ofOption fileName) (.text reason) (.text lexer.name))

/-- The analysis of a source text. -/
def analyzeSource (lexers : Lexers) (policy : Policy) (fileName : Option String) (asked : Value) :
    Option Snippet → Trace Run
  | none => Trace.fail (.missingInput (.text "source text"))
  | some code => do analyzeTokens policy fileName (← tokenize lexers code fileName asked)

/-- One input of a batch: what it is called, if it has a name, and its run or the failure that
stopped it. -/
structure Entry where
  source : Option String
  outcome : Except Failure Run

end CodeMetrics
