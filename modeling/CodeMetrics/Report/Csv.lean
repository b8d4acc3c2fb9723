import CodeMetrics.History.Revision
import CodeMetrics.Ranking
import CodeMetrics.Report.Figure

/-!
# Comma-separated values

Reports as rows of fields. A field is quoted when it holds a comma, a quote or a line break, and
quotes inside it are doubled. Every row of a report has as many fields as its header.
-/

namespace CodeMetrics.Report.Csv

/-- A character that cannot stand in a bare field. -/
def isSpecial (c : Char) : Bool := c == ',' || c == '\x22' || c == '\r' || c == '\n'

def doubleQuotes (cs : List Char) : List Char :=
  cs.flatMap fun c => if c = '\x22' then ['\x22', '\x22'] else [c]

def field (text : String) : List Char :=
  if text.toList.any isSpecial then '\x22' :: doubleQuotes text.toList ++ ['\x22']
  else text.toList

/-- The fields of a row with commas between them, and the end of the row. -/
def row (fields : List String) : List Char :=
  [','].intercalate (fields.map field) ++ ['\r', '\n']

def table (rows : List (List String)) : String := String.ofList (rows.flatMap row)

def names (metrics : List Metric) : List String := metrics.map Metric.name

/-- A value as a field. Null is an empty one. -/
def valueText (value : Value) : Except Fault String :=
  if value.tooLong then .error .tooLongToWrite
  else if value.isNull then .ok ""
  else .ok value.shown

/-- The figures of a run, in the order of the metrics. -/
def figures (precision : Value) (run : Run) : Except Fault (List String) :=
  run.record.mapM fun entry => figure precision entry.2.toValue

def reportRow (precision : Value) (entry : Entry) : Except Fault (List String) :=
  match entry.outcome with
  | .ok run => do return entry.source.getD "" :: (← figures precision run) ++ [""]
  | .error failure => do
      return entry.source.getD "" :: Metric.all.map (fun _ => "") ++ [← failure.wording]

def report (precision : Value) (entries : List Entry) : Except Fault String := do
  let rows ← entries.mapM (reportRow precision)
  return table (("source" :: names Metric.all ++ ["error"]) :: rows)

def rankingRow (precision : Value) (standing : Standing) : Except Fault (List String) := do
  let value ← fixed precision standing.value
  let mark ← standing.outlier.toInt
  return [← valueText standing.position, ← valueText standing.source, value, ← wholeText mark]

def ranking (precision metric : Value) (ranking : List Standing) : Except Fault String := do
  let header := ["position", "source", ← valueText metric, "outlier"]
  return table (header :: (← ranking.mapM (rankingRow precision)))

/-- The fields of a point for its figure and its failure. -/
def outcomeFields (precision metric : Value) : Except Failure Run → Except Fault (List String)
  | .ok run => do return [← figure precision (← run.find metric).toValue, ""]
  | .error failure => do return ["", ← failure.wording]

def historyRow (precision metric : Value) (point : Point) : Except Fault (List String) := do
  let fields ← outcomeFields precision metric point.outcome
  let revision := point.revision
  return [revision.sha, ← wholeText revision.timestamp, revision.subject.getD ""] ++ fields

def history (precision metric : Value) (points : List Point) : Except Fault String := do
  let header := ["sha", "timestamp", "subject", ← valueText metric, "error"]
  return table (header :: (← points.mapM (historyRow precision metric)))

end CodeMetrics.Report.Csv
