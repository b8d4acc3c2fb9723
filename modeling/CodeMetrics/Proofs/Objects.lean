import CodeMetrics.Proofs.Document
import CodeMetrics.Proofs.Rows

/-!
# Objects of documents

The documents of a report, of a ranking and of a history hold an object for each item, in order. The
object of an entry or of a point tells what it is called, and either its metrics, each under its
name, or the kind, the headline and the details of its failure. Integers are in it as they are, and
doubles by their short text.

There is a document unless an integer has too many digits. It can be read when all its doubles are
finite.

Results:
1. `tooLong_entry_iff`, `tooLong_point_iff`: what is too long in an item.
2. `decodes_of_document`: a document is read as the objects of its items.
3. `documents_read_back`: reports, rankings and histories.
-/

namespace CodeMetrics.Report.Json

open Number (shortText tooLong)

/-! ## Objects -/

def nameTree : Option String → Tree
  | none => .null
  | some s => .text s

def quantityTree : Quantity → Tree
  | .whole n => .whole n
  | .real x => .decimal (shortText x)

/-- All metrics under their names. -/
def metricsTree (run : Run) : Tree :=
  .table (Metric.all.map fun metric => (metric.name, quantityTree (run.get metric)))

def failureTree (f : Failure) : Tree :=
  .table [("type", .text f.kind), ("message", treeOf f.headline), ("details", treeOf f.details)]

def summaryTree : Option (Statistics.Summary Float) → Tree
  | none => .null
  | some s =>
      .table [("count", .whole s.count), ("minimum", .decimal (shortText s.minimum)),
        ("maximum", .decimal (shortText s.maximum)), ("mean", .decimal (shortText s.mean)),
        ("median", .decimal (shortText s.median)), ("p90", .decimal (shortText s.p90))]

/-- The object of an entry. -/
inductive EntryObject : Entry → Tree → Prop where
  | run (source : Option String) (run : Run) :
      EntryObject ⟨source, .ok run⟩
        (.table [("source", nameTree source), ("metrics", metricsTree run)])
  | failure (source : Option String) (failure : Failure) :
      EntryObject ⟨source, .error failure⟩
        (.table [("source", nameTree source), ("error", failureTree failure)])

/-- The object of a place in a ranking. -/
inductive StandingObject : Standing → Tree → Prop where
  | intro (position : Int) (source : Option String) (value : Quantity) (outlier : Bool) :
      StandingObject ⟨.int position, .ofOption source, value.toValue, .bool outlier⟩
        (.table [("position", .whole position), ("source", nameTree source),
          ("value", quantityTree value), ("outlier", .bool outlier)])

/-- The object of a point. -/
inductive PointObject : Point → Tree → Prop where
  | run (revision : Revision) (run : Run) :
      PointObject ⟨revision, .ok run⟩
        (.table [("sha", .text revision.sha), ("timestamp", .whole revision.timestamp),
          ("subject", nameTree revision.subject), ("metrics", metricsTree run)])
  | failure (revision : Revision) (failure : Failure) :
      PointObject ⟨revision, .error failure⟩
        (.table [("sha", .text revision.sha), ("timestamp", .whole revision.timestamp),
          ("subject", nameTree revision.subject), ("error", failureTree failure)])

/-! ## What can be told -/

/-- The doubles of an outcome are finite, and in its failure there are no moments, and no texts that
are not made of characters. -/
def IsPlain : Except Failure Run → Prop
  | .ok run => ∀ metric, isPlainValue (run.get metric).toValue = true
  | .error failure => isPlainValue failure.headline = true ∧ isPlainValue failure.details = true

/-- No integer of an outcome has too many digits. -/
def IsShort : Except Failure Run → Prop
  | .ok run => ∀ metric, (run.get metric).toValue.tooLong = false
  | .error failure => failure.headline.tooLong = false ∧ failure.details.tooLong = false

/-- All figures of a distribution are finite. -/
def HasFiniteFigures (s : Statistics.Summary Float) : Prop :=
  ∀ x ∈ [s.minimum, s.maximum, s.mean, s.median, s.p90], x.isFinite = true

theorem arePlain_iff {items : List Value} :
    arePlain items = true ↔ ∀ item ∈ items, isPlainValue item = true := by
  induction items with
  | nil => exact iff_of_true rfl nofun
  | cons item rest ih => rw [arePlain, Bool.and_eq_true, ih, List.forall_mem_cons]

theorem areEntriesPlain_iff {entries : List (String × Value)} :
    areEntriesPlain entries = true ↔ ∀ entry ∈ entries, isPlainValue entry.2 = true := by
  induction entries with
  | nil => exact iff_of_true rfl nofun
  | cons entry rest ih => rw [areEntriesPlain, Bool.and_eq_true, ih, List.forall_mem_cons]

mutual

/-- What can be told has a form. -/
theorem hasMoment_of_plain {v : Value} (plain : isPlainValue v = true) : hasMoment v = false := by
  cases v with
  | list items => exact anyHasMoment_of_plain plain
  | table entries => exact anyEntryHasMoment_of_plain plain
  | moment => cases plain
  | null | bool | int | real | text | torn => rfl

theorem anyHasMoment_of_plain {items : List Value} (plain : arePlain items = true) :
    anyHasMoment items = false := by
  cases items with
  | nil => rfl
  | cons item rest =>
      obtain ⟨first, others⟩ := Bool.and_eq_true_iff.1 plain
      exact Bool.or_eq_false_iff.2 ⟨hasMoment_of_plain first, anyHasMoment_of_plain others⟩

theorem anyEntryHasMoment_of_plain {entries : List (String × Value)}
    (plain : areEntriesPlain entries = true) : anyEntryHasMoment entries = false := by
  cases entries with
  | nil => rfl
  | cons entry rest =>
      obtain ⟨key, value⟩ := entry
      obtain ⟨first, others⟩ := Bool.and_eq_true_iff.1 plain
      exact Bool.or_eq_false_iff.2 ⟨hasMoment_of_plain first, anyEntryHasMoment_of_plain others⟩

end

theorem treesOf_eq_map (items : List Value) : treesOf items = items.map treeOf := by
  induction items with
  | nil => rfl
  | cons item rest ih => rw [treesOf, ih, List.map_cons]

theorem memberTrees_eq_map (entries : List (String × Value)) :
    memberTrees entries = entries.map fun entry => (entry.1, treeOf entry.2) := by
  induction entries with
  | nil => rfl
  | cons entry rest ih => rw [memberTrees, ih, List.map_cons]

theorem tooLong_table_iff {entries : List (String × Value)} :
    (Value.table entries).tooLong = false ↔ ∀ entry ∈ entries, entry.2.tooLong = false :=
  Value.anyEntryTooLong_eq_false

theorem forall_metric_iff {property : Metric → Prop} :
    (∀ metric ∈ Metric.all, property metric) ↔ ∀ metric, property metric :=
  forall_congr' fun metric => forall_prop_of_true metric.mem_all

/-! ### Outcomes -/

theorem treeOf_toValue (q : Quantity) : treeOf q.toValue = quantityTree q := by cases q <;> rfl

theorem treeOf_ofOption (source : Option String) : treeOf (.ofOption source) = nameTree source := by
  cases source <;> rfl

theorem treeOf_metrics (run : Run) : treeOf (metrics run) = metricsTree run := by
  rw [metrics, treeOf, memberTrees_eq_map, Run.record, List.map_map, List.map_map, metricsTree]
  congr 1
  exact List.map_congr_left fun metric _ => by
    simp only [Function.comp, treeOf_toValue]

theorem tooLong_metrics_iff (run : Run) :
    (metrics run).tooLong = false ↔ ∀ metric, (run.get metric).toValue.tooLong = false := by
  rw [metrics, tooLong_table_iff, List.forall_mem_map, Run.record, List.forall_mem_map]
  exact forall_metric_iff

theorem isPlain_metrics {run : Run} (plain : IsPlain (.ok run)) :
    isPlainValue (metrics run) = true := by
  rw [metrics, isPlainValue, areEntriesPlain_iff, List.forall_mem_map, Run.record,
    List.forall_mem_map]
  exact fun metric _ => plain metric

theorem isPlain_outcome {o : Except Failure Run} (plain : IsPlain o) :
    isPlainValue (outcome o).2 = true := by
  cases o with
  | ok run => exact isPlain_metrics plain
  | error f =>
      exact areEntriesPlain_iff.2 (List.forall_mem_cons.2 ⟨rfl, List.forall_mem_cons.2
        ⟨plain.1, List.forall_mem_singleton.2 plain.2⟩⟩)

theorem tooLong_outcome_iff (o : Except Failure Run) :
    (outcome o).2.tooLong = false ↔ IsShort o := by
  cases o with
  | ok run => exact tooLong_metrics_iff run
  | error f =>
      refine tooLong_table_iff.trans ?_
      simp [IsShort, Value.tooLong]

/-! ### Items -/

theorem isPlain_entry {e : Entry} (plain : IsPlain e.outcome) : isPlainValue (entry e) = true := by
  refine areEntriesPlain_iff.2 (List.forall_mem_cons.2 ⟨?_, List.forall_mem_singleton.2
    (isPlain_outcome plain)⟩)
  cases e.source <;> rfl

theorem tooLong_entry_iff (e : Entry) : (entry e).tooLong = false ↔ IsShort e.outcome := by
  have source : (Value.ofOption e.source).tooLong = false := by cases e.source <;> rfl
  rw [entry, tooLong_table_iff, List.forall_mem_cons, List.forall_mem_singleton,
    tooLong_outcome_iff]
  exact and_iff_right source

theorem entryObject_treeOf (e : Entry) : EntryObject e (treeOf (entry e)) := by
  obtain ⟨source, outcome⟩ := e
  cases outcome with
  | ok run =>
      have tree := EntryObject.run source run
      rw [← treeOf_ofOption, ← treeOf_metrics] at tree
      exact tree
  | error f =>
      have tree := EntryObject.failure source f
      rw [← treeOf_ofOption] at tree
      exact tree

theorem isPlain_point {p : Point} (plain : IsPlain p.outcome) : isPlainValue (point p) = true := by
  refine areEntriesPlain_iff.2 (List.forall_mem_cons.2 ⟨rfl, List.forall_mem_cons.2 ⟨rfl,
    List.forall_mem_cons.2 ⟨?_, List.forall_mem_singleton.2 (isPlain_outcome plain)⟩⟩⟩)
  cases p.revision.subject <;> rfl

theorem tooLong_point_iff (p : Point) :
    (point p).tooLong = false ↔ tooLong p.revision.timestamp = false ∧ IsShort p.outcome := by
  have subject : (Value.ofOption p.revision.subject).tooLong = false := by
    cases p.revision.subject <;> rfl
  rw [point, tooLong_table_iff]
  simp only [List.forall_mem_cons, List.not_mem_nil, false_implies, implies_true, and_true,
    true_and, subject, tooLong_outcome_iff, Value.tooLong]

theorem pointObject_treeOf (p : Point) : PointObject p (treeOf (point p)) := by
  obtain ⟨revision, outcome⟩ := p
  cases outcome with
  | ok run =>
      have tree := PointObject.run revision run
      rw [← treeOf_ofOption, ← treeOf_metrics] at tree
      exact tree
  | error f =>
      have tree := PointObject.failure revision f
      rw [← treeOf_ofOption] at tree
      exact tree

/-- The value of a place is finite. -/
def HasFiniteValue (s : Standing) : Prop := isPlainValue s.value = true

theorem isPlain_standing {s : Standing} (regular : Csv.Regular s) (finite : HasFiniteValue s) :
    isPlainValue (standing s) = true := by
  obtain ⟨position, source, value, outlier⟩ := regular
  refine areEntriesPlain_iff.2 (List.forall_mem_cons.2 ⟨rfl, List.forall_mem_cons.2 ⟨?_,
    List.forall_mem_cons.2 ⟨finite, List.forall_mem_singleton.2 rfl⟩⟩⟩)
  cases source <;> rfl

/-- No integer of a place has too many digits. -/
def HasShortParts (s : Standing) : Prop := s.position.tooLong = false ∧ s.value.tooLong = false

theorem tooLong_standing_iff {s : Standing} (regular : Csv.Regular s) :
    (standing s).tooLong = false ↔ HasShortParts s := by
  obtain ⟨position, source, value, outlier⟩ := regular
  have name : (Value.ofOption source).tooLong = false := by cases source <;> rfl
  refine tooLong_table_iff.trans ?_
  simp only [List.forall_mem_cons, List.not_mem_nil, false_implies, implies_true, and_true,
    true_and, name, HasShortParts, Value.tooLong]

theorem standingObject_treeOf {s : Standing} (regular : Csv.Regular s) :
    StandingObject s (treeOf (standing s)) := by
  obtain ⟨position, source, value, outlier⟩ := regular
  have tree := StandingObject.intro position source value outlier
  rw [← treeOf_ofOption, ← treeOf_toValue] at tree
  exact tree

/-! ### Distributions -/

theorem isPlain_summary {distribution : Option (Statistics.Summary Float)}
    (finite : ∀ s ∈ distribution, HasFiniteFigures s) :
    isPlainValue (summary distribution) = true := by
  cases distribution with
  | none => rfl
  | some s =>
      obtain ⟨minimum, maximum, mean, median, p90⟩ : s.minimum.isFinite = true ∧
          s.maximum.isFinite = true ∧ s.mean.isFinite = true ∧ s.median.isFinite = true ∧
          s.p90.isFinite = true := by
        simpa [HasFiniteFigures] using finite s rfl
      refine areEntriesPlain_iff.2 ?_
      simp [isPlainValue, minimum, maximum, mean, median, p90]

theorem tooLong_summary_iff (distribution : Option (Statistics.Summary Float)) :
    (summary distribution).tooLong = false ↔ IsCounted distribution := by
  cases distribution with
  | none => exact iff_of_true rfl nofun
  | some s =>
      refine tooLong_table_iff.trans ?_
      simp [Value.tooLong, IsCounted]

theorem treeOf_summary (distribution : Option (Statistics.Summary Float)) :
    treeOf (summary distribution) = summaryTree distribution := by
  cases distribution <;> rfl

/-! ## Documents of items -/

/-- A document that is written under a condition, with a line feed behind it, and is then read back
as an object for each item. -/
structure Decodes {α : Type} (writable : Prop) (tells : α → Tree → Prop) (items : List α)
    (whole : List Tree → Tree) (document : Except Fault String) : Prop where
  written : (∃ text, document = .ok text) ↔ writable
  objects : ∀ text, document = .ok text → ∃ body objects, text = body ++ "\n" ∧
    read body = some (whole objects) ∧ List.Forall₂ tells items objects

theorem decodes_of_document {α : Type} {writable : Prop} {tells : α → Tree → Prop}
    {items : List α} {whole : List Tree → Tree} {v : Value} {objects : List Tree}
    (plain : isPlainValue v = true) (short : v.tooLong = false ↔ writable)
    (tree : treeOf v = whole objects) (told : List.Forall₂ tells items objects) :
    Decodes writable tells items whole (document v) := by
  refine ⟨(document_iff.trans (and_iff_left (hasMoment_of_plain plain))).trans short,
    fun text written => ?_⟩
  obtain ⟨body, rfl, back⟩ := read_document plain written
  exact ⟨body, objects, rfl, back.trans (congrArg some tree), told⟩

theorem told_of_each {α : Type} {tells : α → Tree → Prop} {f : α → Value} {items : List α}
    (each : ∀ item ∈ items, tells item (treeOf (f item))) :
    List.Forall₂ tells items (treesOf (items.map f)) := by
  rw [treesOf_eq_map, List.map_map, List.forall₂_map_right_iff, List.forall₂_same]
  exact each

theorem arePlain_map {α : Type} {f : α → Value} {items : List α}
    (each : ∀ item ∈ items, isPlainValue (f item) = true) : arePlain (items.map f) = true :=
  arePlain_iff.2 (List.forall_mem_map.2 each)

theorem anyTooLong_map_iff {α : Type} {f : α → Value} {items : List α} {short : α → Prop}
    (each : ∀ item ∈ items, ((f item).tooLong = false ↔ short item)) :
    Value.anyTooLong (items.map f) = false ↔ ∀ item ∈ items, short item := by
  rw [Value.anyTooLong_eq_false, List.forall_mem_map]
  exact forall₂_congr each

theorem tooLong_history_iff (name : String) (points : List Point) :
    (Value.table [("metric", .text name),
      ("revisions", .list (points.map point))]).tooLong = false ↔
      ∀ point ∈ points, tooLong point.revision.timestamp = false ∧ IsShort point.outcome := by
  refine tooLong_table_iff.trans ?_
  simp only [List.forall_mem_cons, List.not_mem_nil, false_implies, implies_true, and_true,
    Value.tooLong, true_and]
  exact anyTooLong_map_iff fun p _ => tooLong_point_iff p

/-- Where all doubles are finite, the documents are written unless an integer is too long, and then
they are read back object by object. -/
theorem documents_read_back :
    (∀ entries : List Entry, (∀ entry ∈ entries, IsPlain entry.outcome) →
      Decodes (∀ entry ∈ entries, IsShort entry.outcome) EntryObject entries .list
        (report entries)) ∧
    (∀ (name : String) (standings : List Standing)
        (distribution : Option (Statistics.Summary Float)),
      (∀ standing ∈ standings, Csv.Regular standing ∧ HasFiniteValue standing) →
      (∀ s ∈ distribution, HasFiniteFigures s) →
      Decodes ((∀ standing ∈ standings, HasShortParts standing) ∧ IsCounted distribution)
        StandingObject standings
        (fun objects => .table [("metric", .text name), ("ranking", .list objects),
          ("summary", summaryTree distribution)])
        (ranking (.text name) standings distribution)) ∧
    ∀ (name : String) (points : List Point), (∀ point ∈ points, IsPlain point.outcome) →
      Decodes (∀ point ∈ points, tooLong point.revision.timestamp = false ∧
          IsShort point.outcome) PointObject points
        (fun objects => .table [("metric", .text name), ("revisions", .list objects)])
        (history (.text name) points) := by
  refine ⟨fun entries plain => ?_, fun name standings distribution plain finite => ?_,
    fun name points plain => ?_⟩
  · refine decodes_of_document ?_ ?_ rfl (told_of_each fun e _ => entryObject_treeOf e)
    · exact arePlain_map fun e member => isPlain_entry (plain e member)
    · exact anyTooLong_map_iff fun e _ => tooLong_entry_iff e
  · refine decodes_of_document ?_ ?_ ?_
      (told_of_each fun s member => standingObject_treeOf (plain s member).1)
    · refine areEntriesPlain_iff.2 (List.forall_mem_cons.2 ⟨rfl, List.forall_mem_cons.2 ⟨?_,
        List.forall_mem_singleton.2 (isPlain_summary finite)⟩⟩)
      exact arePlain_map fun s member => isPlain_standing (plain s member).1 (plain s member).2
    · refine tooLong_table_iff.trans ?_
      simp only [List.forall_mem_cons, List.not_mem_nil, false_implies, implies_true, and_true,
        true_and, tooLong_summary_iff, Value.tooLong]
      rw [anyTooLong_map_iff fun s member => tooLong_standing_iff (plain s member).1]
    · rw [treeOf, memberTrees_eq_map]
      simp only [List.map_cons, List.map_nil, treeOf_summary, treeOf]
  · refine decodes_of_document ?_ (tooLong_history_iff name points) rfl
      (told_of_each fun p _ => pointObject_treeOf p)
    refine areEntriesPlain_iff.2 (List.forall_mem_cons.2 ⟨rfl, List.forall_mem_singleton.2 ?_⟩)
    exact arePlain_map fun p member => isPlain_point (plain p member)

/-- A failed entry whose name has a quote, a backslash, a control character, one that takes two
units and a few more. -/
theorem documents_read_back_special :
    let entry : Entry := ⟨some "\x22\\\x01é😀", .error (.missingInput (.text "code"))⟩
    (∀ other ∈ [entry], IsPlain other.outcome) ∧ ∃ body object,
      report [entry] = .ok (body ++ "\n") ∧ read body = some (.list [object]) ∧
      EntryObject entry object := by
  intro entry
  have plain : ∀ other ∈ [entry], IsPlain other.outcome := List.forall_mem_singleton.2 ⟨rfl, rfl⟩
  have decodes := documents_read_back.1 [entry] plain
  obtain ⟨text, written⟩ := decodes.written.2 (List.forall_mem_singleton.2 ⟨rfl, rfl⟩)
  obtain ⟨body, objects, rfl, back, told⟩ := decodes.objects text written
  obtain ⟨object, _, first, others, rfl⟩ := List.forall₂_cons_left_iff.1 told
  cases others
  exact ⟨plain, body, object, written, back, first⟩

/-- A document with a double in it that is no number cannot be read, and a timestamp with too many
digits is in no document. -/
theorem documents_not_read :
    (∃ body, report [⟨some "a", .error (.general (.text "m")
        (.table [("x", .real (0.0 / 0.0))]))⟩] = .ok (body ++ "\n") ∧ read body = none) ∧
    ¬ ∃ text, history (.text "effort")
      [⟨⟨"0a", 10 ^ 4300, some "late"⟩, .error (.missingInput (.text "file"))⟩] = .ok text := by
  constructor
  · refine ⟨String.ofList (value 0 (.list [entry ⟨some "a", .error (.general (.text "m")
      (.table [("x", .real (0.0 / 0.0))]))⟩])), ?_, by decide +kernel⟩
    have formed : refusal? (.list ([(⟨some "a", .error (.general (.text "m")
        (.table [("x", .real (0.0 / 0.0))]))⟩ : Entry)].map entry)) = none := rfl
    rw [report, document, formed, String.ofList_append]
    rfl
  · rintro ⟨text, written⟩
    have short := (tooLong_history_iff "effort" _).1 (document_iff.1 ⟨text, written⟩).1
    cases tooLong_power.symm.trans (short _ List.mem_cons_self).1

end CodeMetrics.Report.Json
