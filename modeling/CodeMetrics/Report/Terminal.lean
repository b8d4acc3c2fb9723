import CodeMetrics.History.Revision
import CodeMetrics.Ranking
import CodeMetrics.Report.Console
import CodeMetrics.Report.Date
import CodeMetrics.Report.Figure
import CodeMetrics.Text.Case

/-!
# Terminal reports

Reports as grids and lines of text.
-/

namespace CodeMetrics.Report.Terminal

open Text

/-- A value as a text without markup. Only texts are searched for it. -/
def escaped : Value → Except Fault String
  | .text s => .ok (Markup.escape s)
  | .torn t => .ok (Markup.escape t.shown)
  | other => .error (.notSearched other.kindName)

/-- The listing of one input, numbered from one on. -/
def entryBlock (precision : Value) (number : Nat) (entry : Entry) : Except Fault Block := do
  let source ← escaped (.ofOption entry.source)
  let title := s!"{number}. {source}"
  match entry.outcome with
  | .error failure =>
      return .text s!"[red]{title}: {Markup.escape (← failure.wording)}[/red]"
  | .ok run =>
      let figures ← run.record.mapM fun entry => figure precision entry.2.toValue
      let labels := run.record.map fun entry => entry.1.label
      return .grid ⟨title, .left,
        [⟨.text "Metric", .left, none, labels⟩, ⟨.text "Value", .right, none, figures⟩]⟩

def report (precision : Value) (entries : List Entry) : Except Fault (List Block) :=
  entries.zipIdx.mapM fun (entry, i) => entryBlock precision (i + 1) entry

/-- What reports call a metric; a value that names none stands for itself. -/
def labelOf (metric : Value) : Except Fault Value :=
  match metric with
  | .list _ | .table _ => .error (.unhashable metric.kindName)
  | _ =>
      match Metric.ofValue? metric with
      | some known => .ok (.text known.label)
      | none => .ok metric

def lowerLabel (metric : Value) : Except Fault String := do
  match ← labelOf metric with
  | .text label => return lower label
  | .torn label => return lower label.shown
  | other => .error (.lacks other.kindName "lower")

/-- The distribution of a ranking in one line; a single value has none. -/
def summaryBlock (precision : Value) : Option (Statistics.Summary Float) →
    Except Fault (List Block)
  | none => .ok []
  | some s =>
      if s.count ≤ 1 then .ok []
      else do
        let minimum ← fixed precision (.real s.minimum)
        let median ← fixed precision (.real s.median)
        let mean ← fixed precision (.real s.mean)
        let p90 ← fixed precision (.real s.p90)
        let maximum ← fixed precision (.real s.maximum)
        return [.text (s!"[dim]n={s.count}  min={minimum}  median={median}  mean={mean}  " ++
          s!"p90={p90}  max={maximum}[/dim]")]

/-- The position, the value and the source of a standing. -/
def standingCells (precision : Value) (standing : Standing) :
    Except Fault (String × String × String) := do
  let value ← fixed precision standing.value
  let value := if standing.outlier.holds then s!"[red bold]{value}[/red bold]" else value
  if standing.position.tooLong then .error .tooLongToWrite
  return (standing.position.shown, value, ← escaped standing.source)

def ranking (precision metric : Value) (ranking : List Standing)
    (distribution : Option (Statistics.Summary Float)) : Except Fault (List Block) := do
  if ranking.isEmpty then return [.text "[yellow]No files could be ranked.[/yellow]"]
  let title := "Files by " ++ (← lowerLabel metric)
  let cells ← ranking.mapM (standingCells precision)
  let grid : Grid := ⟨title, .center,
    [⟨.text "#", .right, none, cells.map fun cell => cell.1⟩,
     ⟨metric, .right, none, cells.map fun cell => cell.2.1⟩,
     ⟨.text "File", .left, none, cells.map fun cell => cell.2.2⟩]⟩
  return .grid grid :: (← summaryBlock precision distribution)

/-- The cell of a point: its figure, or the kind of its failure. -/
def pointFigure (precision metric : Value) : Except Failure Run → Except Fault String
  | .error failure => .ok s!"[red]{failure.kind}[/red]"
  | .ok run => do figure precision (← run.find metric).toValue

/-- The date, the figure and the subject of a point. -/
def pointCells (precision metric : Value) (point : Point) :
    Except Fault (String × String × String) := do
  let date ← dateText point.revision.timestamp
  let figure ← pointFigure precision metric point.outcome
  return (date, figure, ← escaped (.ofOption point.revision.subject))

/-- The most cells a subject takes on a line. -/
def subjectWidth : Nat := 50

def history (precision metric : Value) (points : List Point) : Except Fault (List Block) := do
  if points.isEmpty then return [.text "[yellow]No revisions found.[/yellow]"]
  let label ← labelOf metric
  if label.tooLong then .error .tooLongToWrite
  let cells ← points.mapM (pointCells precision metric)
  let commits := points.map fun point => point.revision.shortSha
  return [.grid ⟨s!"{label.shown} by revision", .center,
    [⟨.text "Commit", .left, none, commits⟩,
     ⟨.text "Date", .left, none, cells.map fun cell => cell.1⟩,
     ⟨metric, .right, none, cells.map fun cell => cell.2.1⟩,
     ⟨.text "Subject", .left, some subjectWidth, cells.map fun cell => cell.2.2⟩]⟩]

end CodeMetrics.Report.Terminal
