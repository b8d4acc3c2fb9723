import CodeMetrics.Proofs.Reporting

/-!
# Tables that are read back

A table is read one character after the other. A quoted field ends at a quote that no second one
follows, a bare field has neither quotes nor line breaks in it, and a row ends with a carriage
return and a newline. Whatever texts are written, reading gives back the rows they stood in, so a
report is read back as its header and one row for each item.

The only items without a row are those that no text exists for: a whole number with too many digits,
a value beyond the doubles, or a failure without a wording.

Results:
1. `foldlM_field`, `foldlM_row`: what a reader makes of a field, and of a row.
2. `read_table`: a table is read as its rows.
3. `readsBack_of_rows`: so is a table of items.
4. `tables_read_back`: reports, rankings and histories.
-/

namespace CodeMetrics.Report.Csv

/-! ## The reader -/

/-- Where in a record a reader is. -/
inductive Place where
  | start
  | bare
  | quoted
  /-- Behind a quote of a quoted field: it is the last one, or the first of two. -/
  | quote
  /-- Behind a carriage return: a newline follows. -/
  | turn
  deriving DecidableEq

/-- A reader of records. The field and the record it is in have only begun. -/
structure Reader where
  place : Place
  field : List Char
  record : List String
  records : List (List String)

/-- A character of a bare field. -/
def isPlain (c : Char) : Bool := c ≠ ',' && c ≠ '\x22' && c ≠ '\r' && c ≠ '\n'

namespace Reader

/-- In front of a record. -/
def fresh (records : List (List String)) : Reader := ⟨.start, [], [], records⟩

def endField (r : Reader) : Reader :=
  { r with place := .start, field := [], record := r.record ++ [String.ofList r.field] }

def endRecord (r : Reader) : Reader := fresh (r.records ++ [r.endField.record])

def add (r : Reader) (place : Place) (c : Char) : Reader :=
  { r with place := place, field := r.field ++ [c] }

/-- What can stand behind a field. -/
def leave (r : Reader) (c : Char) : Option Reader :=
  if c = ',' then some r.endField
  else if c = '\r' then some { r with place := .turn }
  else none

def readBare (r : Reader) (c : Char) : Option Reader :=
  if isPlain c then some (r.add .bare c) else r.leave c

/-- One character is read, if it can stand there. -/
def step (r : Reader) (c : Char) : Option Reader :=
  match r.place with
  | .start => if c = '\x22' then some { r with place := .quoted } else r.readBare c
  | .bare => r.readBare c
  | .quoted => some (if c = '\x22' then { r with place := .quote } else r.add .quoted c)
  | .quote => if c = '\x22' then some (r.add .quoted c) else r.leave c
  | .turn => if c = '\n' then some r.endRecord else none

/-- The records at the end of the text. The last one need not have an end of its own. -/
def finish (r : Reader) : Option (List (List String)) :=
  match r.place with
  | .quoted | .turn => none
  | .start => some (if r.record.isEmpty then r.records else r.endRecord.records)
  | .bare | .quote => some r.endRecord.records

end Reader

/-- The records of a text, if it is a table. -/
def read (text : String) : Option (List (List String)) :=
  (text.toList.foldlM Reader.step (.fresh [])).bind Reader.finish

example : read "a,\x22b,\x22\x22\x22\r\n,\r\n" = some [["a", "b,\x22"], ["", ""]] := by decide

/-- A bare quote, and a newline on its own, are in no table. -/
example : read "a\x22b" = none ∧ read "a\nb" = none := by decide

/-! ## Fields -/

open Reader (fresh step)

variable {text : String} {record fields : List String} {records rows : List (List String)}

theorem isPlain_eq (c : Char) : isPlain c = !isSpecial c := by
  simp [isPlain, isSpecial, Bool.and_assoc, beq_eq_decide]

theorem foldlM_append {r s : Reader} {cs : List Char} (first : cs.foldlM step r = some s)
    (rest : List Char) : (cs ++ rest).foldlM step r = rest.foldlM step s := by
  rw [List.foldlM_append, first]
  rfl

/-- Plain characters are read as they are. -/
theorem foldlM_plain {cs : List Char} (plain : ∀ c ∈ cs, isPlain c = true) (begun : List Char) :
    cs.foldlM step ⟨.bare, begun, record, records⟩ =
      some ⟨.bare, begun ++ cs, record, records⟩ := by
  induction cs generalizing begun with
  | nil => rw [List.append_nil]; rfl
  | cons c rest ih =>
      obtain ⟨first, others⟩ := List.forall_mem_cons.1 plain
      have read : step ⟨.bare, begun, record, records⟩ c =
          some ⟨.bare, begun ++ [c], record, records⟩ := if_pos first
      rw [List.foldlM_cons, read, List.append_cons begun c rest]
      exact ih others (begun ++ [c])

/-- Doubled quotes are read as single ones. -/
theorem foldlM_doubleQuotes (cs begun : List Char) :
    (doubleQuotes cs).foldlM step ⟨.quoted, begun, record, records⟩ =
      some ⟨.quoted, begun ++ cs, record, records⟩ := by
  induction cs generalizing begun with
  | nil => rw [List.append_nil]; rfl
  | cons c rest ih =>
      have read : (if c = '\x22' then ['\x22', '\x22'] else [c]).foldlM step
          ⟨.quoted, begun, record, records⟩ = some ⟨.quoted, begun ++ [c], record, records⟩ := by
        by_cases quote : c = '\x22'
        · subst quote
          rfl
        · rw [if_neg quote, List.foldlM_cons]
          exact congrArg some (if_neg quote)
      rw [doubleQuotes, List.flatMap_cons, foldlM_append read, List.append_cons begun c rest]
      exact ih (begun ++ [c])

/-- The reader is behind a field that can end here. -/
def Place.CanEnd (place : Place) : Prop := place = .start ∨ place = .bare ∨ place = .quote

/-- A field is read as the text it was written for. -/
theorem foldlM_field (text : String) (record : List String) (records : List (List String)) :
    ∃ place : Place, place.CanEnd ∧ (field text).foldlM step ⟨.start, [], record, records⟩ =
      some ⟨place, text.toList, record, records⟩ := by
  rw [field]
  by_cases special : text.toList.any isSpecial = true
  · refine ⟨.quote, .inr (.inr rfl), ?_⟩
    have opened : ('\x22' :: doubleQuotes text.toList).foldlM step ⟨.start, [], record, records⟩ =
        some ⟨.quoted, text.toList, record, records⟩ := foldlM_doubleQuotes text.toList []
    rw [if_pos special, foldlM_append opened]
    rfl
  · rw [if_neg special]
    have plain : ∀ c ∈ text.toList, isPlain c = true := by
      simpa [isPlain_eq] using special
    cases chars : text.toList with
    | nil => exact ⟨.start, .inl rfl, rfl⟩
    | cons c rest =>
        rw [chars] at plain
        obtain ⟨first, others⟩ := List.forall_mem_cons.1 plain
        have noQuote : c ≠ '\x22' := by
          rintro rfl
          cases first
        have read : step ⟨.start, [], record, records⟩ c = some ⟨.bare, [c], record, records⟩ :=
          (if_neg noQuote).trans (if_pos first)
        refine ⟨.bare, .inr (.inl rfl), ?_⟩
        rw [List.foldlM_cons, read]
        exact foldlM_plain others [c]

/-! ## Rows -/

theorem step_comma {place : Place} (canEnd : place.CanEnd) (begun : List Char) :
    step ⟨place, begun, record, records⟩ ',' =
      some ⟨.start, [], record ++ [String.ofList begun], records⟩ := by
  rcases canEnd with rfl | rfl | rfl <;> rfl

theorem foldlM_lineBreak {place : Place} (canEnd : place.CanEnd) (begun : List Char) :
    ['\r', '\n'].foldlM step ⟨place, begun, record, records⟩ =
      some (fresh (records ++ [record ++ [String.ofList begun]])) := by
  rcases canEnd with rfl | rfl | rfl <;> rfl

/-- A row is read as its fields, behind those that were read. -/
theorem foldlM_row (text : String) (more record : List String) (records : List (List String)) :
    (row (text :: more)).foldlM step ⟨.start, [], record, records⟩ =
      some (fresh (records ++ [record ++ text :: more])) := by
  obtain ⟨place, canEnd, read⟩ := foldlM_field text record records
  induction more generalizing text record place with
  | nil =>
      have single : row [text] = field text ++ ['\r', '\n'] := by
        simp [row, List.intercalate]
      rw [single, foldlM_append read, foldlM_lineBreak canEnd, String.ofList_toList]
  | cons second rest ih =>
      have parts : row (text :: second :: rest) = field text ++ ',' :: row (second :: rest) := by
        simp [row, List.intercalate]
      obtain ⟨next, canEndNext, readNext⟩ :=
        foldlM_field second (record ++ [text]) records
      rw [parts, foldlM_append read, List.foldlM_cons, step_comma canEnd, String.ofList_toList]
      show (row (second :: rest)).foldlM step ⟨.start, [], record ++ [text], records⟩ = _
      rw [ih second (record ++ [text]) next canEndNext readNext, List.append_assoc]
      rfl

theorem foldlM_rows (filled : ∀ fields ∈ rows, fields ≠ []) (records : List (List String)) :
    (rows.flatMap row).foldlM step (fresh records) = some (fresh (records ++ rows)) := by
  induction rows generalizing records with
  | nil => rw [List.append_nil]; rfl
  | cons fields rest ih =>
      obtain ⟨first, others⟩ := List.forall_mem_cons.1 filled
      obtain ⟨text, more, rfl⟩ := List.exists_cons_of_ne_nil first
      have read : (row (text :: more)).foldlM step (fresh records) =
          some (fresh (records ++ [text :: more])) := foldlM_row text more [] records
      rw [List.flatMap_cons, foldlM_append read, ih others, List.append_assoc]
      rfl

/-- A table is read as its rows, whatever texts are in them. -/
theorem read_table (filled : ∀ fields ∈ rows, fields ≠ []) : read (table rows) = some rows := by
  rw [read, table, String.toList_ofList, foldlM_rows filled, List.nil_append]
  rfl

/-! ## Tables of items -/

/-- A table that is written when every item can be, and is then read back as its header and a row
for each item, all of one width. -/
structure ReadsBack {α : Type} (width : Nat) (header : List String) (writable : α → Prop)
    (tells : α → List String → Prop) (items : List α) (table : Except Fault String) : Prop where
  written : (∃ text, table = .ok text) ↔ ∀ item ∈ items, writable item
  sized : header.length = width
  rows : ∀ text, table = .ok text → ∃ rows, read text = some (header :: rows) ∧
    List.Forall₂ tells items rows ∧ ∀ fields ∈ rows, fields.length = width

theorem readsBack_of_rows {α : Type} {width : Nat} {header : List String} {writable : α → Prop}
    {tells : α → List String → Prop} {items : List α} {f : α → Except Fault (List String)}
    {table : Except Fault String}
    (eq : table = (items.mapM f).map fun rows => Csv.table (header :: rows))
    (sized : header.length = width) (positive : 0 < width)
    (written : ∀ item ∈ items, (∃ fields, f item = .ok fields) ↔ writable item)
    (told : ∀ item ∈ items, ∀ fields, f item = .ok fields → tells item fields)
    (wide : ∀ {item fields}, tells item fields → fields.length = width) :
    ReadsBack width header writable tells items table := by
  subst eq
  refine ⟨?_, sized, fun text shown => ?_⟩
  · rw [exists_map_iff, exists_mapM_iff]
    exact forall₂_congr written
  · obtain ⟨rows, each, rfl⟩ := map_eq_ok.1 shown
    have each := mapM_eq_ok.1 each
    have paired : List.Forall₂ tells items rows :=
      List.forall₂_iff_zip.2 ⟨each.length_eq, fun {item fields} pair =>
        told item (List.of_mem_zip pair).1 fields (List.forall₂_zip each pair)⟩
    have widths : ∀ fields ∈ rows, fields.length = width := by
      intro fields member
      obtain ⟨item, found, written⟩ := exists_of_mem_mapM (mapM_eq_ok.2 each) member
      exact wide (told item found fields written)
    refine ⟨rows, read_table (List.forall_mem_cons.2 ⟨?_, fun fields member => ?_⟩), paired,
      widths⟩
    · exact List.ne_nil_of_length_pos (sized ▸ positive)
    · exact List.ne_nil_of_length_pos (widths fields member ▸ positive)

/-! ## Items -/

open Number (integerText mostAsked tooLong)

variable {precision : Value}

/-- What a report takes of an outcome can be written: figures that are not too long, or a failure
that has a wording. -/
def CanBeWritten (metrics : List Metric) : Except Failure Run → Prop
  | .ok run => ∀ metric ∈ metrics, (run.get metric).toValue.tooLong = false
  | .error failure => ∃ text, failure.wording = .ok text

/-- The row of an entry has its figures in the order of the metrics, or the wording of its failure
behind as many empty fields. -/
inductive EntryRow (precision : Value) : Entry → List String → Prop where
  | run {source : Option String} {run : Run} {figures : List String}
      (written : List.Forall₂ (fun metric text =>
        figure precision (run.get metric).toValue = .ok text) Metric.all figures) :
      EntryRow precision ⟨source, .ok run⟩ (source.getD "" :: figures ++ [""])
  | failure {source : Option String} {failure : Failure} {text : String}
      (worded : failure.wording = .ok text) :
      EntryRow precision ⟨source, .error failure⟩
        (source.getD "" :: List.replicate 16 "" ++ [text])

/-- The parts of a standing are of the kinds that places of a ranking have. -/
inductive Regular : Standing → Prop where
  | intro (position : Int) (source : Option String) (value : Quantity) (outlier : Bool) :
      Regular ⟨.int position, .ofOption source, value.toValue, .bool outlier⟩

/-- The row of a place has its number, its file, the value with its places and the mark. -/
inductive StandingRow (precision : Value) : Standing → List String → Prop where
  | intro {position : Int} {source : Option String} {value : Quantity} {outlier : Bool}
      {text : String} (written : fixed precision value.toValue = .ok text) :
      StandingRow precision ⟨.int position, .ofOption source, value.toValue, .bool outlier⟩
        [integerText position, source.getD "", text, if outlier then "1" else "0"]

/-- The row of a point has its revision, and its figure or the wording of its failure. -/
inductive PointRow (precision : Value) (metric : Metric) : Point → List String → Prop where
  | run {revision : Revision} {run : Run} {text : String}
      (written : figure precision (run.get metric).toValue = .ok text) :
      PointRow precision metric ⟨revision, .ok run⟩
        [revision.sha, integerText revision.timestamp, revision.subject.getD "", text, ""]
  | failure {revision : Revision} {failure : Failure} {text : String}
      (worded : failure.wording = .ok text) :
      PointRow precision metric ⟨revision, .error failure⟩
        [revision.sha, integerText revision.timestamp, revision.subject.getD "", "", text]

theorem EntryRow.length_eq {entry : Entry} (row : EntryRow precision entry fields) :
    fields.length = 18 := by
  cases row with
  | run written =>
      rw [List.length_append, List.length_cons, ← written.length_eq]
      rfl
  | failure worded => rfl

theorem PointRow.length_eq {metric : Metric} {point : Point}
    (row : PointRow precision metric point fields) : fields.length = 5 := by
  cases row <;> rfl

theorem StandingRow.length_eq {standing : Standing} (row : StandingRow precision standing fields) :
    fields.length = 4 := by
  cases row
  rfl

/-! ### The rows that are written -/

theorem wholeText_iff {n : Int} {text : String} :
    wholeText n = .ok text ↔ tooLong n = false ∧ integerText n = text := by
  rw [wholeText]
  split_ifs with long <;> simp [long]

/-- With a number of places every figure is written that is not too long. -/
theorem exists_figure_iff (places : Places precision) (q : Quantity) :
    (∃ text, figure precision q.toValue = .ok text) ↔ q.toValue.tooLong = false := by
  cases q with
  | whole n =>
      show (∃ text, wholeText n = .ok text) ↔ tooLong n = false
      simp [wholeText_iff]
  | real x =>
      obtain ⟨text, written, -⟩ := fixed_of_places places x
      exact iff_of_true ⟨text, written⟩ rfl

theorem figures_eq_ok {run : Run} {texts : List String} :
    figures precision run = .ok texts ↔ List.Forall₂ (fun metric text =>
      figure precision (run.get metric).toValue = .ok text) Metric.all texts := by
  rw [figures, mapM_eq_ok, Run.record, List.forall₂_map_left_iff]

theorem exists_figures_iff (places : Places precision) {run : Run} :
    (∃ texts, figures precision run = .ok texts) ↔
      ∀ metric ∈ Metric.all, (run.get metric).toValue.tooLong = false := by
  rw [figures, exists_mapM_iff, Run.record, List.forall_mem_map]
  exact forall₂_congr fun metric _ => exists_figure_iff places (run.get metric)

theorem exists_reportRow_iff (places : Places precision) (entry : Entry) :
    (∃ fields, reportRow precision entry = .ok fields) ↔ CanBeWritten Metric.all entry.outcome := by
  obtain ⟨source, outcome⟩ := entry
  cases outcome with
  | ok run =>
      rw [CanBeWritten, ← exists_figures_iff places, reportRow]
      simp [bind_eq_ok, pure, Except.pure]
  | error failure =>
      rw [CanBeWritten, reportRow]
      simp [bind_eq_ok, pure, Except.pure]

theorem entryRow_of_written {entry : Entry} (written : reportRow precision entry = .ok fields) :
    EntryRow precision entry fields := by
  obtain ⟨source, outcome⟩ := entry
  cases outcome with
  | ok run =>
      obtain ⟨texts, figures, returned⟩ := bind_eq_ok.1 written
      cases returned
      exact .run (figures_eq_ok.1 figures)
  | error failure =>
      obtain ⟨text, worded, returned⟩ := bind_eq_ok.1 written
      cases returned
      exact .failure worded

/-- With a number of places every value is written that doubles have. -/
theorem exists_fixed_iff (places : Places precision) (q : Quantity) :
    (∃ text, fixed precision q.toValue = .ok text) ↔ ∃ x, q.toValue.toReal = .ok x := by
  cases q with
  | real x =>
      obtain ⟨text, written, -⟩ := fixed_of_places places x
      exact iff_of_true ⟨text, written⟩ ⟨x, rfl⟩
  | whole n =>
      show (∃ text, fixed precision (.int n) = .ok text) ↔ ∃ x, realOfInt n = .ok x
      rw [fixed_whole places]
      constructor
      · rintro ⟨text, written⟩
        obtain ⟨x, real, -⟩ := bind_eq_ok.1 written
        exact ⟨x, real⟩
      · rintro ⟨x, real⟩
        obtain ⟨text, written, -⟩ := fixed_of_places places x
        exact ⟨text, bind_eq_ok.2 ⟨x, real, written⟩⟩

/-- A place can be written: its number is not too long, and its value is one that doubles have. -/
def CanBePlaced (standing : Standing) : Prop :=
  standing.position.tooLong = false ∧ ∃ x, standing.value.toReal = .ok x

/-- The parts of a row that is written. -/
theorem parts_of_rankingRow {standing : Standing}
    (row : rankingRow precision standing = .ok fields) :
    standing.position.tooLong = false ∧ ∃ text, fixed precision standing.value = .ok text := by
  obtain ⟨text, written, row⟩ := bind_eq_ok.1 row
  obtain ⟨_, -, row⟩ := bind_eq_ok.1 row
  obtain ⟨number, position, -⟩ := bind_eq_ok.1 row
  refine ⟨?_, text, written⟩
  by_contra long
  rw [valueText, if_pos (Bool.eq_true_of_not_eq_false long)] at position
  cases position

theorem exists_rankingRow_iff (places : Places precision) {standing : Standing}
    (regular : Regular standing) :
    (∃ fields, rankingRow precision standing = .ok fields) ↔ CanBePlaced standing := by
  obtain ⟨position, source, value, outlier⟩ := regular
  rw [CanBePlaced, ← exists_fixed_iff places]
  constructor
  · rintro ⟨fields, row⟩
    exact parts_of_rankingRow row
  · rintro ⟨short, text, written⟩
    exact ⟨_, rankingRow_eq outlier short written⟩

theorem standingRow_of_written {standing : Standing} (regular : Regular standing)
    (row : rankingRow precision standing = .ok fields) :
    StandingRow precision standing fields := by
  obtain ⟨short, text, written⟩ := parts_of_rankingRow row
  obtain ⟨position, source, value, outlier⟩ := regular
  rw [rankingRow_eq outlier short written] at row
  cases row
  cases outlier <;> exact .intro written

theorem outcomeFields_ok (metric : Metric) (run : Run) :
    outcomeFields precision (.text metric.name) (.ok run) =
      (figure precision (run.get metric).toValue).map fun text => [text, ""] := by
  rw [outcomeFields, Run.find_name, bind_ok]
  cases figure precision (run.get metric).toValue <;> rfl

theorem outcomeFields_error (metric : Value) (failure : Failure) :
    outcomeFields precision metric (.error failure) =
      failure.wording.map fun text => ["", text] := by
  rw [outcomeFields]
  cases failure.wording <;> rfl

theorem exists_outcomeFields_iff (places : Places precision) (metric : Metric)
    (outcome : Except Failure Run) :
    (∃ fields, outcomeFields precision (.text metric.name) outcome = .ok fields) ↔
      CanBeWritten [metric] outcome := by
  cases outcome with
  | ok run =>
      rw [outcomeFields_ok, exists_map_iff, exists_figure_iff places, CanBeWritten,
        List.forall_mem_singleton]
  | error failure => rw [outcomeFields_error, exists_map_iff, CanBeWritten]

theorem historyRow_eq_ok {metric : Value} {point : Point} :
    historyRow precision metric point = .ok fields ↔
      tooLong point.revision.timestamp = false ∧
      ∃ outcome, outcomeFields precision metric point.outcome = .ok outcome ∧
        [point.revision.sha, integerText point.revision.timestamp,
          point.revision.subject.getD ""] ++ outcome = fields := by
  rw [historyRow, bind_eq_ok]
  constructor
  · rintro ⟨outcome, written, returned⟩
    obtain ⟨text, whole, returned⟩ := bind_eq_ok.1 returned
    obtain ⟨short, rfl⟩ := wholeText_iff.1 whole
    exact ⟨short, outcome, written, Except.ok.inj returned⟩
  · rintro ⟨short, outcome, written, rfl⟩
    exact ⟨outcome, written, bind_eq_ok.2 ⟨_, wholeText_iff.2 ⟨short, rfl⟩, rfl⟩⟩

theorem exists_historyRow_iff (places : Places precision) (metric : Metric) (point : Point) :
    (∃ fields, historyRow precision (.text metric.name) point = .ok fields) ↔
      tooLong point.revision.timestamp = false ∧ CanBeWritten [metric] point.outcome := by
  rw [← exists_outcomeFields_iff places]
  simp only [historyRow_eq_ok]
  exact ⟨fun ⟨_, short, outcome, written, _⟩ => ⟨short, outcome, written⟩,
    fun ⟨short, outcome, written⟩ => ⟨_, short, outcome, written, rfl⟩⟩

theorem pointRow_of_written {metric : Metric} {point : Point}
    (row : historyRow precision (.text metric.name) point = .ok fields) :
    PointRow precision metric point fields := by
  obtain ⟨-, outcome, written, rfl⟩ := historyRow_eq_ok.1 row
  obtain ⟨revision, outcome⟩ := point
  cases outcome with
  | ok run =>
      rw [outcomeFields_ok] at written
      obtain ⟨text, figure, rfl⟩ := map_eq_ok.1 written
      exact .run figure
  | error failure =>
      rw [outcomeFields_error] at written
      obtain ⟨text, worded, rfl⟩ := map_eq_ok.1 written
      exact .failure worded

/-! ### Reports, rankings and histories -/

theorem history_eq (metric : String) (points : List Point) :
    history precision (.text metric) points =
      (points.mapM (historyRow precision (.text metric))).map fun rows =>
        table (["sha", "timestamp", "subject", metric, "error"] :: rows) := by
  show (points.mapM (historyRow precision (.text metric)) >>= fun rows => _) = _
  cases points.mapM (historyRow precision (.text metric)) <;> rfl

/-- With a number of places, the tables are written unless a whole number is too long, a value is
beyond the doubles or a failure has no wording, and then they are read back item by item. -/
theorem tables_read_back (places : Places precision) (metric : Metric) :
    (∀ entries : List Entry,
      ReadsBack 18 ("source" :: Metric.all.map Metric.name ++ ["error"])
        (fun entry => CanBeWritten Metric.all entry.outcome) (EntryRow precision) entries
        (report precision entries)) ∧
    (∀ (name : String) (standings : List Standing), (∀ standing ∈ standings, Regular standing) →
      ReadsBack 4 ["position", "source", name, "outlier"]
        CanBePlaced (StandingRow precision) standings
        (ranking precision (.text name) standings)) ∧
    ∀ points : List Point,
      ReadsBack 5 ["sha", "timestamp", "subject", metric.name, "error"]
        (fun point => tooLong point.revision.timestamp = false ∧
          CanBeWritten [metric] point.outcome) (PointRow precision metric) points
        (history precision (.text metric.name) points) := by
  refine ⟨fun entries => ?_, fun name standings regular => ?_, fun points => ?_⟩
  · exact readsBack_of_rows (csvReport_eq precision entries) rfl (by decide)
      (fun entry _ => exists_reportRow_iff places entry)
      (fun _ _ _ => entryRow_of_written) EntryRow.length_eq
  · exact readsBack_of_rows (csvRanking_eq precision name standings) rfl (by decide)
      (fun standing member => exists_rankingRow_iff places (regular standing member))
      (fun standing member _ => standingRow_of_written (regular standing member))
      StandingRow.length_eq
  · exact readsBack_of_rows (history_eq metric.name points) rfl (by decide)
      (fun point _ => exists_historyRow_iff places metric point)
      (fun _ _ _ => pointRow_of_written) PointRow.length_eq

/-- A failed entry whose name has all that a reader takes for something else. -/
theorem tables_read_back_special :
    let entry : Entry :=
      ⟨some " a,\x22b\x22\r\n", .error (.missingInput (.text "code, if \x22any\x22"))⟩
    Places (.int 2) ∧ ∃ text rows, report (.int 2) [entry] = .ok text ∧
      read text = some (("source" :: Metric.all.map Metric.name ++ ["error"]) :: rows) ∧
      List.Forall₂ (EntryRow (.int 2)) [entry] rows := by
  intro entry
  have places : Places (.int 2) := ⟨2, by decide, rfl⟩
  obtain ⟨back, -, -⟩ := tables_read_back places (.derived .vocabulary)
  obtain ⟨text, written⟩ := (back [entry]).written.2 (List.forall_mem_singleton.2 ⟨_, rfl⟩)
  obtain ⟨rows, read, told, -⟩ := (back [entry]).rows text written
  exact ⟨places, text, rows, written, read, told⟩

/-- A value beyond the doubles is in no table, a timestamp with too many digits neither, and nor is
a failure whose headline is no text. -/
theorem tables_not_written :
    (¬ ∃ text, ranking (.int 2) (.text "effort")
      [⟨.int 1, .text "a", .int (10 ^ 400), .bool false⟩] = .ok text) ∧
    (¬ ∃ text, history (.int 2) (.text "effort")
      [⟨⟨"0a", 10 ^ 4300, some "late"⟩, .error (.missingInput (.text "file"))⟩] = .ok text) ∧
    ¬ ∃ text, report (.int 2) [⟨some "a", .error (.general (.int 5) .null)⟩] = .ok text := by
  have places : Places (.int 2) := ⟨2, by decide, rfl⟩
  refine ⟨?_, ?_, ?_⟩
  · rintro ⟨text, written⟩
    rw [csvRanking_eq] at written
    obtain ⟨rows, each, -⟩ := map_eq_ok.1 written
    have row := exists_mapM_iff.1 ⟨rows, each⟩ _ List.mem_cons_self
    have regular := Regular.intro 1 (some "a") (.whole (10 ^ 400)) false
    obtain ⟨-, x, real⟩ := (exists_rankingRow_iff places regular).1 row
    have beyond : realOfInt (10 ^ 400) = .error .integerTooLarge :=
      realOfInt_of_beyond (by decide +kernel)
    cases beyond.symm.trans real
  · rintro ⟨text, written⟩
    rw [history_eq] at written
    obtain ⟨rows, each, -⟩ := map_eq_ok.1 written
    obtain ⟨fields, row⟩ := exists_mapM_iff.1 ⟨rows, each⟩ _ List.mem_cons_self
    cases tooLong_power.symm.trans (historyRow_eq_ok.1 row).1
  · rintro ⟨text, written⟩
    cases written

end CodeMetrics.Report.Csv
