import CodeMetrics.Run
import CodeMetrics.Statistics

/-!
# Rankings

A ranking lists the analysed files of a batch by one metric, ascending; files with the same value
keep the order of the batch. Files whose analysis failed have no place in it.
-/

namespace CodeMetrics

structure Ranked where
  position : Nat
  source : Option String
  value : Float
  outlier : Bool

/-- The metric of a name, or the report that there is none. -/
def requireMetric (name : Value) : Except Problem Metric :=
  match Metric.ofValue? name with
  | some metric => .ok metric
  | none => .error (.invalidSetting "metric" name "unknown Halstead metric")

/-- The sources of the analysed entries, with their values as doubles. -/
def scores (metric : Metric) : List Entry → Except Fault (List (Option String × Float))
  | [] => .ok []
  | entry :: rest =>
      match entry.outcome with
      | .error _ => scores metric rest
      | .ok run => do
          let value ← (run.get metric).toReal
          return (entry.source, value) :: (← scores metric rest)

/-- Scores in the order of their values; equal values keep their order. -/
def sortScores (scored : List (Option String × Float)) : List (Option String × Float) :=
  scored.mergeSort fun a b => !Arithmetic.less b.2 a.2

/-- Scores with their places, from one on, and whether they stand out. -/
def ranked (scored : List (Option String × Float)) : List Ranked :=
  let flags := outliers usualMultiplier (scored.map Prod.snd)
  (scored.zip flags).zipIdx.map fun ((score, outlier), i) => ⟨i + 1, score.1, score.2, outlier⟩

def rankBy (metric : Metric) (entries : List Entry) : Except Fault (List Ranked) := do
  return ranked (sortScores (← scores metric entries))

def rank (metric : Value) (entries : List Entry) : Except Problem (List Ranked) := do
  let metric ← requireMetric metric
  rankBy metric entries

/-- A place in a ranking as reports take it: the parts may be any values, when a caller made the
ranking. -/
structure Standing where
  position : Value
  source : Value
  value : Value
  outlier : Value

def Ranked.standing (ranked : Ranked) : Standing :=
  ⟨.int ranked.position, .ofOption ranked.source, .real ranked.value, .bool ranked.outlier⟩

/-- The distribution of the ranked values. -/
def rankingSummary (ranking : List Standing) : Except Fault (Option (Statistics.Summary Float)) :=
  summarizeValues (ranking.map Standing.value)

end CodeMetrics
