import CodeMetrics.Proofs.Calendar
import CodeMetrics.Proofs.Log
import CodeMetrics.Proofs.Objects

/-!
# Histories that can be rendered

A log may give any time that has not too many digits, and tables and documents write it as the
number it is. On the terminal a revision is shown with its date, and there are no dates from the
year 10000 on: a single revision of such a time keeps the whole history from being shown. What else
can keep a history from being written is a failure without a wording or a figure with too many
digits, and each layout only minds those that it shows.

Results:
1. `exists_pointCells_iff`, `drawable_of_pointCells`: points on the terminal.
2. `terminalHistory_iff`: histories on the terminal.
3. `history_of_log`: when the history of a log is written, in each layout.
4. `history_lateTimestamp`: a revision that is read and not shown.
-/

namespace CodeMetrics.Report

open Markup (Drawable)

variable {console : Console} {precision : Value} {metric : Metric} {point : Point}
  {points : List Point}

/-! ## Points on the terminal -/

/-- The figure of an outcome, if it has one, is not too long. -/
def HasShortFigure (metric : Metric) : Except Failure Run → Prop
  | .ok run => (run.get metric).toValue.tooLong = false
  | .error _ => True

theorem pointFigure_ok (run : Run) :
    Terminal.pointFigure precision (.text metric.name) (.ok run) =
      figure precision (run.get metric).toValue := by
  rw [Terminal.pointFigure, Run.find_name]
  rfl

theorem exists_pointFigure_iff (places : Places precision) (outcome : Except Failure Run) :
    (∃ text, Terminal.pointFigure precision (.text metric.name) outcome = .ok text) ↔
      HasShortFigure metric outcome := by
  cases outcome with
  | ok run => rw [pointFigure_ok, Csv.exists_figure_iff places, HasShortFigure]
  | error failure => exact iff_of_true ⟨_, rfl⟩ trivial

theorem bareText_kind (failure : Failure) : BareText failure.kind := by
  cases failure <;> rw [Failure.kind] <;> decide

theorem drawable_of_pointFigure (places : Places precision) {outcome : Except Failure Run}
    {text : String}
    (written : Terminal.pointFigure precision (.text metric.name) outcome = .ok text) :
    Drawable text := by
  cases outcome with
  | ok run =>
      rw [pointFigure_ok] at written
      exact (bareText_of_figure places.accepted written).drawable
  | error failure =>
      cases written
      refine Markup.drawable_marked Markup.opens_red
        (Markup.readsAsText_of_bare (bareText_kind failure) _) (Markup.readsAsText_nil []) ?_
      simp [Markup.red, toString_text]

theorem pointCells_eq_ok {cells : String × String × String} {subject : String}
    (told : point.revision.subject = some subject) :
    Terminal.pointCells precision (.text metric.name) point = .ok cells ↔
      dateText point.revision.timestamp = .ok cells.1 ∧
      Terminal.pointFigure precision (.text metric.name) point.outcome = .ok cells.2.1 ∧
      Markup.escape subject = cells.2.2 := by
  have name : Terminal.escaped (.ofOption point.revision.subject) =
      .ok (Markup.escape subject) := by
    rw [told]
    rfl
  obtain ⟨date, figure, shown⟩ := cells
  simp [Terminal.pointCells, bind_eq_ok, name, pure, Except.pure]

/-- A point of a log is shown if its time has a date and its figure is not too long. -/
theorem exists_pointCells_iff (places : Places precision) (readable : Log.Readable point.revision) :
    (∃ cells, Terminal.pointCells precision (.text metric.name) point = .ok cells) ↔
      point.revision.timestamp < yearTenThousand ∧ HasShortFigure metric point.outcome := by
  obtain ⟨subject, told⟩ := readable.subject_some
  rw [← exists_dateText_iff readable.timestamp_nonneg, ← exists_pointFigure_iff places]
  simp only [pointCells_eq_ok told]
  constructor
  · rintro ⟨cells, date, figure, -⟩
    exact ⟨⟨_, date⟩, _, figure⟩
  · rintro ⟨⟨date, dated⟩, figure, written⟩
    exact ⟨(date, figure, Markup.escape subject), dated, written, rfl⟩

theorem drawable_of_pointCells (places : Places precision)
    (readable : Log.Readable point.revision) {cells : String × String × String}
    (written : Terminal.pointCells precision (.text metric.name) point = .ok cells) :
    Drawable cells.1 ∧ Drawable cells.2.1 ∧ Drawable cells.2.2 := by
  obtain ⟨subject, told⟩ := readable.subject_some
  obtain ⟨date, figure, escaped⟩ := (pointCells_eq_ok told).1 written
  exact ⟨(bareText_of_dateText date).drawable, drawable_of_pointFigure places figure,
    escaped ▸ drawable_escape subject⟩

theorem bareText_shortSha {revision : Revision} (readable : Log.Readable revision) :
    BareText revision.shortSha := by
  intro c member
  rw [Revision.shortSha, String.toList_ofList] at member
  have hex := readable.sha_hex c (List.mem_of_mem_take member)
  constructor
  · rintro rfl
    cases hex
  · rintro rfl
    cases hex

/-! ## Histories on the terminal -/

/-- The grid of a history. -/
def historyGrid (metric : Metric) (points : List Point) (cells : List (String × String × String)) :
    Grid :=
  ⟨s!"{metric.label} by revision", .center,
    [⟨.text "Commit", .left, none, points.map fun point => point.revision.shortSha⟩,
     ⟨.text "Date", .left, none, cells.map fun cell => cell.1⟩,
     ⟨.text metric.name, .right, none, cells.map fun cell => cell.2.1⟩,
     ⟨.text "Subject", .left, some Terminal.subjectWidth, cells.map fun cell => cell.2.2⟩]⟩

theorem terminalHistory_eq (nonempty : points ≠ []) :
    Terminal.history precision (.text metric.name) points =
      (points.mapM (Terminal.pointCells precision (.text metric.name))).map fun cells =>
        [.grid (historyGrid metric points cells)] := by
  have shown : ¬ points.isEmpty = true := by simpa using nonempty
  rw [Terminal.history, if_neg shown, labelOf_name, bind_ok]
  show (points.mapM (Terminal.pointCells precision (.text metric.name)) >>= fun cells => _) = _
  cases points.mapM (Terminal.pointCells precision (.text metric.name)) <;> rfl

theorem canBeDrawn_historyGrid {cells : List (String × String × String)}
    (readable : ∀ point ∈ points, Log.Readable point.revision)
    (drawable : ∀ cell ∈ cells, Drawable cell.1 ∧ Drawable cell.2.1 ∧ Drawable cell.2.2) :
    (historyGrid metric points cells).CanBeDrawn where
  title := (bareText_append.2 ⟨bareText_label metric, by decide⟩).drawable
  columns := by
    refine List.forall_mem_cons.2 ⟨?_, List.forall_mem_cons.2 ⟨?_, List.forall_mem_cons.2 ⟨?_,
      List.forall_mem_singleton.2 ?_⟩⟩⟩
    · exact Column.canBeDrawn_of_bare (by decide) (List.forall_mem_map.2 fun point member =>
        (bareText_shortSha (readable point member)).drawable)
    · exact Column.canBeDrawn_of_bare (by decide)
        (List.forall_mem_map.2 fun cell member => (drawable cell member).1)
    · exact Column.canBeDrawn_of_bare (bareText_name metric)
        (List.forall_mem_map.2 fun cell member => (drawable cell member).2.1)
    · exact Column.canBeDrawn_of_bare (by decide)
        (List.forall_mem_map.2 fun cell member => (drawable cell member).2.2)

/-- A history has a form in documents when what its points tell has one. -/
theorem hasMoment_history (metric : Metric) (formed : ∀ point ∈ points, HasForm point.outcome) :
    hasMoment (.table [("metric", .text metric.name),
      ("revisions", .list (points.map Json.point))]) = false := by
  have each : anyHasMoment (points.map Json.point) = false := by
    refine anyHasMoment_eq_false.2 (List.forall_mem_map.2 fun point member => ?_)
    rw [Json.point, hasMoment, anyEntryHasMoment_eq_false]
    exact List.forall_mem_cons.2 ⟨rfl, List.forall_mem_cons.2 ⟨rfl, List.forall_mem_cons.2
      ⟨hasMoment_ofOption _, List.forall_mem_singleton.2
        ((hasMoment_outcome_iff _).2 (formed point member))⟩⟩⟩
  rw [hasMoment, anyEntryHasMoment_eq_false]
  exact List.forall_mem_cons.2 ⟨rfl, List.forall_mem_singleton.2 each⟩

section Histories

variable (places : Places precision) (readable : ∀ point ∈ points, Log.Readable point.revision)

include places readable

theorem canBeDrawn_of_history {blocks : List Block}
    (written : Terminal.history precision (.text metric.name) points = .ok blocks) :
    ∀ block ∈ blocks, block.CanBeDrawn := by
  by_cases empty : points = []
  · subst empty
    cases written
    have bare : BareText "No revisions found." := by decide
    exact List.forall_mem_singleton.2 (drawable_notice bare)
  · rw [terminalHistory_eq empty] at written
    obtain ⟨cells, each, rfl⟩ := map_eq_ok.1 written
    refine List.forall_mem_singleton.2 (canBeDrawn_historyGrid readable fun cell member => ?_)
    obtain ⟨point, found, written⟩ := exists_of_mem_mapM each member
    exact drawable_of_pointCells places (readable point found) written

/-- A history of readable revisions is shown on the terminal if all its points are. -/
theorem terminalHistory_iff :
    (∃ blocks, Terminal.history precision (.text metric.name) points = .ok blocks) ↔
      ∀ point ∈ points, point.revision.timestamp < yearTenThousand ∧
        HasShortFigure metric point.outcome := by
  by_cases empty : points = []
  · subst empty
    exact iff_of_true ⟨_, rfl⟩ nofun
  · rw [terminalHistory_eq empty, exists_map_iff, exists_mapM_iff]
    exact forall₂_congr fun point member => exists_pointCells_iff places (readable point member)

theorem history_terminal_iff (draws : console.Draws) (metric : Metric) :
    (∃ text, historyOn console .terminal precision (.text metric.name) points >>= Parts.text =
      .ok text) ↔
      ∀ point ∈ points, point.revision.timestamp < yearTenThousand ∧
        HasShortFigure metric point.outcome := by
  rw [historyOn, text_printed draws fun _ => canBeDrawn_of_history places readable,
    terminalHistory_iff places readable]

/-! ## Histories in tables and documents -/

omit places in
/-- The digits of a time that was read can be written again. -/
theorem tooLong_timestamp (member : point ∈ points) :
    Number.tooLong point.revision.timestamp = false := by
  rw [← Bool.not_eq_true, tooLong_iff, Nat.not_le]
  exact (readable point member).timestamp_short

theorem history_csv_iff (metric : Metric) :
    (∃ text, historyOn console .csv precision (.text metric.name) points >>= Parts.text =
      .ok text) ↔ ∀ point ∈ points, Csv.CanBeWritten [metric] point.outcome := by
  rw [historyOn, text_whole, Csv.history_eq, exists_map_iff, exists_mapM_iff]
  refine forall₂_congr fun point member => ?_
  rw [Csv.exists_historyRow_iff places]
  exact and_iff_right (tooLong_timestamp readable member)

omit places in
theorem history_json_iff (formed : ∀ point ∈ points, HasForm point.outcome) (metric : Metric) :
    (∃ text, historyOn console .json precision (.text metric.name) points >>= Parts.text =
      .ok text) ↔ ∀ point ∈ points, Json.IsShort point.outcome := by
  rw [historyOn, text_whole, Json.history, document_iff, Json.tooLong_history_iff,
    and_iff_left (hasMoment_history metric formed)]
  exact forall₂_congr fun point member => and_iff_right (tooLong_timestamp readable member)

end Histories

/-! ## Histories of logs -/

/-- Whatever log the revisions are from, with a number of places their history is written: on the
terminal if all times are before the year 10000 and no figure is too long, as a table if each point
has a figure that is not too long or a failure with a wording, and as a document if no integer in it
is too long. A terminal has to draw what can be drawn. -/
theorem history_of_log {log : List Char} {revisions : List Revision}
    (found : Log.read log = .ok revisions) (matched : points.map Point.revision = revisions)
    (places : Places precision) (draws : console.Draws) (metric : Metric) :
    ((∃ text, historyOn console .terminal precision (.text metric.name) points >>= Parts.text =
      .ok text) ↔
      ∀ point ∈ points, point.revision.timestamp < yearTenThousand ∧
        HasShortFigure metric point.outcome) ∧
    ((∃ text, historyOn console .csv precision (.text metric.name) points >>= Parts.text =
      .ok text) ↔ ∀ point ∈ points, Csv.CanBeWritten [metric] point.outcome) ∧
    ((∀ point ∈ points, HasForm point.outcome) →
      ((∃ text, historyOn console .json precision (.text metric.name) points >>= Parts.text =
        .ok text) ↔ ∀ point ∈ points, Json.IsShort point.outcome)) := by
  have readable : ∀ point ∈ points, Log.Readable point.revision := fun point member =>
    Log.readable_of_read found _ (matched ▸ List.mem_map_of_mem member)
  exact ⟨history_terminal_iff places readable draws metric,
    history_csv_iff places readable metric,
    fun formed => history_json_iff readable formed metric⟩

/-- The line of a commit of some time. -/
def lineAt (time : String) : List Char :=
  ("aaaaaaaaaaaaaaaaaaaaaaaaaaaaaaaaaaaaaaaa|" ++ time ++ "|x").toList

/-- The point of that commit, which could not be analysed. -/
def pointAt (time : Int) : Point :=
  ⟨⟨"aaaaaaaaaaaaaaaaaaaaaaaaaaaaaaaaaaaaaaaa", time, some "x"⟩,
    .error (.missingInput (.text "file"))⟩

/-- A commit of the last second that has a date is shown in each layout. -/
theorem history_of_log_lastSecond :
    Log.read (lineAt "253402300799") = .ok ([pointAt 253402300799].map Point.revision) ∧
      ∀ layout, ∃ text, history layout (.int 2) (.text "effort") [pointAt 253402300799] >>=
        Parts.text = .ok text := by
  have found : Log.read (lineAt "253402300799") =
      .ok ([pointAt 253402300799].map Point.revision) := by decide +kernel
  have places : Places (.int 2) := ⟨2, by decide, rfl⟩
  obtain ⟨terminal, csv, json⟩ :=
    history_of_log found rfl places (Console.draws_plain Console.recorderWidth) (.derived .effort)
  refine ⟨found, fun layout => ?_⟩
  cases layout with
  | terminal => exact terminal.2 (List.forall_mem_singleton.2 ⟨by decide, trivial⟩)
  | csv => exact csv.2 (List.forall_mem_singleton.2 ⟨_, rfl⟩)
  | json =>
      exact (json (List.forall_mem_singleton.2 ⟨rfl, rfl⟩)).2
        (List.forall_mem_singleton.2 ⟨rfl, rfl⟩)

/-- A commit of the next second is read from a log as well, and it is written in each layout but on
the terminal. -/
theorem history_lateTimestamp :
    Log.read (lineAt "253402300800") = .ok ([pointAt 253402300800].map Point.revision) ∧
      ∀ layout, (∃ text, history layout (.int 2) (.text "effort") [pointAt 253402300800] >>=
        Parts.text = .ok text) ↔ layout ≠ .terminal := by
  have found : Log.read (lineAt "253402300800") =
      .ok ([pointAt 253402300800].map Point.revision) := by decide +kernel
  have places : Places (.int 2) := ⟨2, by decide, rfl⟩
  have readable : ∀ point ∈ [pointAt 253402300800], Log.Readable point.revision :=
    List.forall_mem_map.1 (Log.readable_of_read found)
  refine ⟨found, fun layout => ?_⟩
  cases layout with
  | terminal =>
      refine iff_of_false (fun shown => ?_) (fun other => other rfl)
      have dated := (history_terminal_iff places readable
        (Console.draws_plain Console.recorderWidth) (.derived .effort)).1 shown
      have early := (dated (pointAt 253402300800) List.mem_cons_self).1
      cases early
  | csv =>
      refine iff_of_true ?_ nofun
      exact (history_csv_iff places readable (.derived .effort)).2
        (List.forall_mem_singleton.2 ⟨_, rfl⟩)
  | json =>
      refine iff_of_true ?_ nofun
      exact (history_json_iff readable (List.forall_mem_singleton.2 ⟨rfl, rfl⟩)
        (.derived .effort)).2 (List.forall_mem_singleton.2 ⟨rfl, rfl⟩)

end CodeMetrics.Report
