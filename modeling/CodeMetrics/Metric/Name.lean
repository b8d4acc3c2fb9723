import CodeMetrics.Value

/-!
# Metrics

Four metrics are counted and twelve derive from them. The formulas know the counts by the short
names of the literature, the reports by long ones.
-/

namespace CodeMetrics

inductive Count where
  | operators
  | operands
  | distinctOperators
  | distinctOperands
  deriving DecidableEq, Repr

inductive Derived where
  | vocabulary
  | length
  | estimatedLength
  | volume
  | minimumVolume
  | difficulty
  | level
  | languageLevel
  | intelligence
  | effort
  | time
  | bugs
  deriving DecidableEq, Repr

inductive Metric where
  | count (c : Count)
  | derived (d : Derived)
  deriving DecidableEq, Repr

/-- The counts in the order the formulas take them. -/
def Count.inputs : List Count :=
  [.distinctOperators, .distinctOperands, .operators, .operands]

/-- The counts in the order reports list them. -/
def Count.all : List Count :=
  [.operators, .operands, .distinctOperators, .distinctOperands]

def Derived.all : List Derived :=
  [.vocabulary, .length, .estimatedLength, .volume, .minimumVolume, .difficulty, .level,
   .languageLevel, .intelligence, .effort, .time, .bugs]

def Metric.all : List Metric := Count.all.map .count ++ Derived.all.map .derived

/-- The short name: `n` for kinds, `N` for occurrences, 1 for operators, 2 for operands. -/
def Count.symbol : Count → String
  | .distinctOperators => "n1"
  | .distinctOperands => "n2"
  | .operators => "N1"
  | .operands => "N2"

def Count.name : Count → String
  | .operators => "n_operators"
  | .operands => "n_operands"
  | .distinctOperators => "n_distinct_operators"
  | .distinctOperands => "n_distinct_operands"

def Derived.name : Derived → String
  | .vocabulary => "prog_vocab"
  | .length => "prog_length"
  | .estimatedLength => "est_prog_length"
  | .volume => "volume"
  | .minimumVolume => "min_volume"
  | .difficulty => "difficulty"
  | .level => "level"
  | .languageLevel => "lang_level"
  | .intelligence => "intel_content"
  | .effort => "effort"
  | .time => "time_to_program"
  | .bugs => "delivered_bugs"

def Metric.name : Metric → String
  | .count c => c.name
  | .derived d => d.name

/-- The name inside a formula. -/
def Metric.variable : Metric → String
  | .count c => c.symbol
  | .derived d => d.name

def Metric.ofName? (name : String) : Option Metric :=
  Metric.all.find? fun metric => metric.name == name

/-- The metric a value names. -/
def Metric.ofValue? : Value → Option Metric
  | .text name => Metric.ofName? name
  | _ => none

/-- What a report calls the metric. -/
def Metric.label : Metric → String
  | .count .operators => "Total operators"
  | .count .operands => "Total operands"
  | .count .distinctOperators => "Distinct operators"
  | .count .distinctOperands => "Distinct operands"
  | .derived .vocabulary => "Program vocabulary"
  | .derived .length => "Program length"
  | .derived .estimatedLength => "Estimated program length"
  | .derived .volume => "Program volume"
  | .derived .minimumVolume => "Minimum volume"
  | .derived .difficulty => "Program difficulty"
  | .derived .level => "Program level"
  | .derived .languageLevel => "Language level"
  | .derived .intelligence => "Intelligence content"
  | .derived .effort => "Program effort"
  | .derived .time => "Time to program"
  | .derived .bugs => "Delivered bugs"

end CodeMetrics
