import CodeMetrics.Proofs.Drawing
import CodeMetrics.Proofs.Figures
import CodeMetrics.Proofs.Ranking

/-!
# Reports that can be written

A report is written when all its texts can be drawn and all its figures can be written. What is not
a figure is either known or escaped; only the name of a file and the wording of its failure stand in
one text, and there a bracket of the one must not be closed by the other. So it depends on the
figures alone, and doubles among them take a number of places, in any layout but the one that writes
doubles as they are.

Results:
1. `drawable_failure`, `canBeDrawn_of_entryBlock`: entries on the terminal.
2. `tooLong_entry`: entries in documents.
3. `document_iff`: what documents have no form for.
4. `report_iff`: when the report about some entries is written.
5. `ranking_iff`: when a ranking is written.
-/

namespace CodeMetrics

open Markup (Drawable ReadsAsText)

theorem BareText.drawable {s : String} (bare : BareText s) : Drawable s :=
  (Markup.readsAsText_of_bare bare []).drawable

theorem drawable_escape (s : String) : Drawable (Markup.escape s) :=
  (Markup.readsAsText_escape rfl s).drawable

theorem Metric.mem_all (metric : Metric) : metric ∈ Metric.all := by
  cases metric with
  | count c => cases c <;> decide
  | derived d => cases d <;> decide

theorem Run.find_name (run : Run) (metric : Metric) :
    run.find (.text metric.name) = .ok (run.get metric) := by
  rw [Run.find, Metric.ofValue?, Metric.ofName?_name]

theorem Value.anyTooLong_eq_false {items : List Value} :
    Value.anyTooLong items = false ↔ ∀ item ∈ items, item.tooLong = false := by
  induction items with
  | nil => exact iff_of_true rfl nofun
  | cons item rest ih => rw [Value.anyTooLong, Bool.or_eq_false_iff, ih, List.forall_mem_cons]

theorem Value.anyEntryTooLong_eq_false {entries : List (String × Value)} :
    Value.anyEntryTooLong entries = false ↔ ∀ entry ∈ entries, entry.2.tooLong = false := by
  induction entries with
  | nil => exact iff_of_true rfl nofun
  | cons entry rest ih => rw [Value.anyEntryTooLong, Bool.or_eq_false_iff, ih, List.forall_mem_cons]

namespace Report

variable {console : Console} {precision : Value} {run : Run} {entry : Entry}

/-! ## Runs -/

/-- All metrics are finite, as those of runs that were analysed are. -/
def HasFinite (run : Run) : Prop := ∀ metric, (run.get metric).isFinite = .ok true

/-- All metrics are whole numbers. -/
def HasWhole (run : Run) : Prop := ∀ metric, ∃ n, run.get metric = .whole n

theorem figures_iff (accepted : Accepted precision) (finite : HasFinite run) :
    (∃ figures, Csv.figures precision run = .ok figures) ↔ HasWhole run ∨ Places precision := by
  rw [Csv.figures, exists_mapM_iff, Run.record, List.forall_mem_map, HasWhole, ← forall_or_right]
  exact forall_congr' fun metric =>
    (forall_prop_of_true metric.mem_all).trans (figure_iff accepted (finite metric))

theorem bareText_of_figures (accepted : Accepted precision) {figures : List String}
    (written : Csv.figures precision run = .ok figures) : ∀ text ∈ figures, BareText text := by
  intro text member
  obtain ⟨measure, -, written⟩ := exists_of_mem_mapM written member
  exact bareText_of_figure accepted written

/-! ## Entries -/

/-- An entry that can be shown: it has a name, and a run of finite metrics or a failure with a
wording. The wording must not close a bracket of the name, for it stands behind it in one text. -/
inductive Legible : Entry → Prop where
  | run {source : String} {run : Run} (finite : HasFinite run) : Legible ⟨some source, .ok run⟩
  | failure {source text : String} {failure : Failure} (worded : failure.wording = .ok text)
      (fenced : '[' ∉ source.toList ∨ Markup.bodyAt? text.toList = none) :
      Legible ⟨some source, .error failure⟩

/-- All metrics of the entry, if it has any, are whole numbers. -/
def IsWhole (entry : Entry) : Prop := ∀ run, entry.outcome = .ok run → HasWhole run

theorem isWhole_run {source : Option String} : IsWhole ⟨source, .ok run⟩ ↔ HasWhole run :=
  ⟨fun whole => whole run rfl, fun whole _ same => Except.ok.inj same ▸ whole⟩

theorem isWhole_failure {source : Option String} {failure : Failure} :
    IsWhole ⟨source, .error failure⟩ := nofun

theorem reportRow_iff (accepted : Accepted precision) (legible : Legible entry) :
    (∃ row, Csv.reportRow precision entry = .ok row) ↔ IsWhole entry ∨ Places precision := by
  cases legible with
  | run finite =>
      rw [isWhole_run, ← figures_iff accepted finite, Csv.reportRow]
      simp only [bind_eq_ok]
      exact ⟨fun ⟨_, figures, written, _⟩ => ⟨figures, written⟩,
        fun ⟨figures, written⟩ => ⟨_, figures, written, rfl⟩⟩
  | failure worded fenced =>
      refine iff_of_true ?_ (.inl isWhole_failure)
      simp only [Csv.reportRow, worded]
      exact ⟨_, rfl⟩

/-! ### Entries on the terminal -/

/-- What stands over an entry. -/
def titleOf (number : Nat) (source : String) : String := s!"{number}. {Markup.escape source}"

theorem bareText_number (number : Nat) : BareText s!"{number}. " :=
  bareText_append.2 ⟨Number.bareText_toString number, by decide⟩

theorem toString_text (s : String) : toString s = s := rfl

theorem toList_titleOf (number : Nat) (source : String) :
    (titleOf number source).toList = (s!"{number}. ").toList ++ (Markup.escape source).toList := by
  simp [titleOf, toString_text]

theorem readsAsText_titleOf {source : String} {behind : List Char}
    (reads : ReadsAsText (Markup.escape source).toList behind) (number : Nat) :
    ReadsAsText (titleOf number source).toList behind :=
  toList_titleOf number source ▸ reads.bare_append (bareText_number number)

theorem drawable_titleOf (number : Nat) (source : String) : Drawable (titleOf number source) :=
  (readsAsText_titleOf (Markup.readsAsText_escape rfl source) number).drawable

/-- The failure of an entry is told behind its name. -/
theorem drawable_failure {source text : String}
    (fenced : '[' ∉ source.toList ∨ Markup.bodyAt? text.toList = none) (number : Nat) :
    Drawable s!"[red]{titleOf number source}: {Markup.escape text}[/red]" := by
  let closing : List Char := '[' :: ('/' :: Markup.red ++ ']' :: [])
  have name : ReadsAsText (Markup.escape source).toList
      (':' :: [' '] ++ (Markup.escape text).toList ++ closing) := by
    rcases fenced with noBracket | unclosed
    · exact Markup.readsAsText_of_noBracket (Markup.notMem_escape noBracket) _
    · refine Markup.readsAsText_escape ?_ source
      exact (Markup.bodyAt?_cons (by decide) (by decide)).2
        ((Markup.bodyAt?_cons (by decide) (by decide)).2 (Markup.bodyAt?_escape rfl unclosed))
  have message : ReadsAsText (Markup.escape text).toList closing :=
    Markup.readsAsText_escape rfl text
  have between : ∀ c ∈ [':', ' '], IsBare c := List.forall_iff_forall_mem.1 (by decide)
  have inside := (readsAsText_titleOf name number).append between message
  refine Markup.drawable_marked Markup.opens_red inside (Markup.readsAsText_nil []) ?_
  simp [Markup.red, toString_text]

theorem entryBlock_run (number : Nat) (source : String) (run : Run) :
    Terminal.entryBlock precision number ⟨some source, .ok run⟩ =
      (Csv.figures precision run).map fun figures => .grid ⟨titleOf number source, .left,
        [⟨.text "Metric", .left, none, run.record.map fun measure => measure.1.label⟩,
         ⟨.text "Value", .right, none, figures⟩]⟩ := by
  show (Csv.figures precision run >>= fun figures => _) = _
  cases Csv.figures precision run <;> rfl

theorem entryBlock_failure (number : Nat) (source : String) (failure : Failure) :
    Terminal.entryBlock precision number ⟨some source, .error failure⟩ =
      failure.wording.map fun text =>
        .text s!"[red]{titleOf number source}: {Markup.escape text}[/red]" := by
  show (failure.wording >>= fun text => _) = _
  cases failure.wording <;> rfl

theorem entryBlock_iff (accepted : Accepted precision) (legible : Legible entry) (number : Nat) :
    (∃ block, Terminal.entryBlock precision number entry = .ok block) ↔
      IsWhole entry ∨ Places precision := by
  cases legible with
  | run finite => rw [isWhole_run, ← figures_iff accepted finite, entryBlock_run, exists_map_iff]
  | failure worded fenced =>
      refine iff_of_true ?_ (.inl isWhole_failure)
      rw [entryBlock_failure, worded]
      exact ⟨_, rfl⟩

theorem bareText_label (metric : Metric) : BareText metric.label := by
  cases metric with
  | count c => cases c <;> decide
  | derived d => cases d <;> decide

/-- A column of cells that can be drawn, under a header without a meaning in markup. -/
theorem Column.canBeDrawn_of_bare {header : String} {cells : List String} {how : Text.Justify}
    {limit : Option Nat} (bareHeader : BareText header) (drawable : ∀ cell ∈ cells, Drawable cell) :
    (⟨.text header, how, limit, cells⟩ : Column).CanBeDrawn where
  header := ⟨header, rfl, bareHeader.drawable⟩
  cells := drawable

theorem canBeDrawn_of_entryBlock (accepted : Accepted precision) (legible : Legible entry)
    {number : Nat} {block : Block}
    (written : Terminal.entryBlock precision number entry = .ok block) : block.CanBeDrawn := by
  cases legible with
  | @run source run finite =>
      rw [entryBlock_run] at written
      obtain ⟨figures, writtenFigures, rfl⟩ := map_eq_ok.1 written
      refine ⟨drawable_titleOf number source, List.forall_mem_cons.2
        ⟨?_, List.forall_mem_singleton.2 ?_⟩⟩
      · exact Column.canBeDrawn_of_bare (by decide)
          (List.forall_mem_map.2 fun measure _ => (bareText_label measure.1).drawable)
      · exact Column.canBeDrawn_of_bare (by decide) fun text member =>
          (bareText_of_figures accepted writtenFigures text member).drawable
  | @failure source text failure worded fenced =>
      rw [entryBlock_failure, worded] at written
      cases written
      exact drawable_failure fenced number

/-! ### Entries in documents -/

theorem tooLong_metrics (finite : HasFinite run) : (Json.metrics run).tooLong = false :=
  Value.anyEntryTooLong_eq_false.2 (List.forall_mem_map.2 fun _ member => by
    obtain ⟨metric, -, rfl⟩ := List.mem_map.1 member
    exact tooLong_of_isFinite (finite metric))

/-- A failure that can be put into words can be put into a document. -/
theorem tooLong_failure {failure : Failure} {text : String}
    (worded : failure.wording = .ok text) : (Json.failure failure).tooLong = false := by
  have parts : failure.headline.tooLong = false ∧ failure.details.tooLong = false := by
    rw [Failure.wording] at worded
    split at worded
    · next details headline =>
      rw [details, headline]
      exact ⟨rfl, rfl⟩
    · cases worded
    · next details listed headline =>
      rw [listed]
      split at worded
      · cases worded
      · next short => exact Bool.or_eq_false_iff.1 (Bool.eq_false_iff.2 short)
    · cases worded
  refine Value.anyEntryTooLong_eq_false.2 (List.forall_mem_cons.2 ⟨rfl, List.forall_mem_cons.2
    ⟨parts.1, List.forall_mem_singleton.2 parts.2⟩⟩)

theorem tooLong_entry (legible : Legible entry) : (Json.entry entry).tooLong = false := by
  refine Value.anyEntryTooLong_eq_false.2 (List.forall_mem_cons.2 ?_)
  cases legible with
  | run finite => exact ⟨rfl, List.forall_mem_singleton.2 (tooLong_metrics finite)⟩
  | failure worded fenced => exact ⟨rfl, List.forall_mem_singleton.2 (tooLong_failure worded)⟩

/-! ## Reports -/

theorem text_whole (text : Except Fault String) :
    (∃ shown, whole text >>= Parts.text = .ok shown) ↔ ∃ shown, text = .ok shown := by
  cases text with
  | error fault => exact iff_of_false nofun nofun
  | ok text => exact iff_of_true ⟨_, rfl⟩ ⟨_, rfl⟩

/-- Blocks that can be drawn are printed on any console that draws them. -/
theorem text_printed (draws : console.Draws) {blocks : Except Fault (List Block)}
    (canBeDrawn : ∀ drawn, blocks = .ok drawn → ∀ block ∈ drawn, block.CanBeDrawn) :
    (∃ shown, printed console blocks >>= Parts.text = .ok shown) ↔
      ∃ drawn, blocks = .ok drawn := by
  cases blocks with
  | error fault => exact iff_of_false nofun nofun
  | ok drawn =>
      refine iff_of_true ?_ ⟨drawn, rfl⟩
      obtain ⟨texts, printed⟩ : ∃ texts, (drawn.map console.print).mapM id = .ok texts :=
        exists_mapM_iff.2 (List.forall_mem_map.2 fun block member =>
          draws block (canBeDrawn drawn rfl block member))
      show ∃ shown, Parts.text (drawn.map console.print) = .ok shown
      rw [Parts.text, printed]
      exact ⟨_, rfl⟩

/-! ### Forms in documents -/

mutual

/-- There is a moment in the value. -/
def hasMoment : Value → Bool
  | .moment _ => true
  | .list items => anyHasMoment items
  | .table entries => anyEntryHasMoment entries
  | _ => false

def anyHasMoment : List Value → Bool
  | [] => false
  | item :: rest => hasMoment item || anyHasMoment rest

def anyEntryHasMoment : List (String × Value) → Bool
  | [] => false
  | (_, value) :: rest => hasMoment value || anyEntryHasMoment rest

end

/-- Documents have a form for all that an outcome tells: there is no moment in it. -/
def HasForm : Except Failure Run → Prop
  | .ok _ => True
  | .error failure => hasMoment failure.headline = false ∧ hasMoment failure.details = false

theorem orElse_eq_none {first second : Option Fault} :
    (first <|> second) = none ↔ first = none ∧ second = none := by
  cases first <;> simp

mutual

/-- Nothing else keeps a value out of a document. -/
theorem refusal?_eq_none (v : Value) :
    Json.refusal? v = none ↔ v.tooLong = false ∧ hasMoment v = false := by
  cases v with
  | int n => simp [Json.refusal?, Value.tooLong, hasMoment]
  | moment m => simp [Json.refusal?, hasMoment]
  | list items =>
      rw [Json.refusal?, Value.tooLong, hasMoment]
      exact itemRefusal?_eq_none items
  | table entries =>
      rw [Json.refusal?, Value.tooLong, hasMoment]
      exact memberRefusal?_eq_none entries
  | null | bool | real | text | torn => exact iff_of_true rfl ⟨rfl, rfl⟩

theorem itemRefusal?_eq_none (items : List Value) :
    Json.itemRefusal? items = none ↔
      Value.anyTooLong items = false ∧ anyHasMoment items = false := by
  cases items with
  | nil => exact iff_of_true rfl ⟨rfl, rfl⟩
  | cons item rest =>
      rw [Json.itemRefusal?, Value.anyTooLong, anyHasMoment, orElse_eq_none, refusal?_eq_none item,
        itemRefusal?_eq_none rest, Bool.or_eq_false_iff, Bool.or_eq_false_iff]
      exact and_and_and_comm

theorem memberRefusal?_eq_none (entries : List (String × Value)) :
    Json.memberRefusal? entries = none ↔
      Value.anyEntryTooLong entries = false ∧ anyEntryHasMoment entries = false := by
  cases entries with
  | nil => exact iff_of_true rfl ⟨rfl, rfl⟩
  | cons entry rest =>
      obtain ⟨key, value⟩ := entry
      rw [Json.memberRefusal?, Value.anyEntryTooLong, anyEntryHasMoment, orElse_eq_none,
        refusal?_eq_none value, memberRefusal?_eq_none rest, Bool.or_eq_false_iff,
        Bool.or_eq_false_iff]
      exact and_and_and_comm

end

theorem anyHasMoment_eq_false {items : List Value} :
    anyHasMoment items = false ↔ ∀ item ∈ items, hasMoment item = false := by
  induction items with
  | nil => exact iff_of_true rfl nofun
  | cons item rest ih => rw [anyHasMoment, Bool.or_eq_false_iff, ih, List.forall_mem_cons]

theorem anyEntryHasMoment_eq_false {entries : List (String × Value)} :
    anyEntryHasMoment entries = false ↔ ∀ entry ∈ entries, hasMoment entry.2 = false := by
  induction entries with
  | nil => exact iff_of_true rfl nofun
  | cons entry rest ih =>
      rw [anyEntryHasMoment, Bool.or_eq_false_iff, ih, List.forall_mem_cons]

theorem hasMoment_toValue (q : Quantity) : hasMoment q.toValue = false := by cases q <;> rfl

theorem hasMoment_ofOption (text : Option String) : hasMoment (.ofOption text) = false := by
  cases text <;> rfl

/-- Metrics are no moments. -/
theorem hasMoment_outcome_iff (outcome : Except Failure Run) :
    hasMoment (Json.outcome outcome).2 = false ↔ HasForm outcome := by
  cases outcome with
  | ok run =>
      refine iff_of_true (anyEntryHasMoment_eq_false.2 (List.forall_mem_map.2 fun measure _ => ?_))
        trivial
      exact hasMoment_toValue measure.2
  | error failure =>
      refine anyEntryHasMoment_eq_false.trans ?_
      simp [HasForm, hasMoment]

theorem hasMoment_entry_iff (entry : Entry) :
    hasMoment (Json.entry entry) = false ↔ HasForm entry.outcome := by
  rw [Json.entry, hasMoment, anyEntryHasMoment_eq_false, List.forall_mem_cons,
    List.forall_mem_singleton, hasMoment_outcome_iff]
  exact and_iff_right (hasMoment_ofOption entry.source)

theorem document_iff {value : Value} :
    (∃ text, Json.document value = .ok text) ↔
      value.tooLong = false ∧ hasMoment value = false := by
  rw [← refusal?_eq_none, Json.document]
  cases Json.refusal? value <;> simp

/-- What holds of each entry in turn holds of each of them. -/
theorem forall_mem_zipIdx_iff {entries : List Entry} {property : Entry → Prop} :
    (∀ numbered ∈ entries.zipIdx, property numbered.1) ↔ ∀ entry ∈ entries, property entry := by
  conv_rhs => rw [← List.zipIdx_map_fst 0 entries]
  exact List.forall_mem_map.symm

theorem csvReport_eq (precision : Value) (entries : List Entry) :
    Csv.report precision entries = (entries.mapM (Csv.reportRow precision)).map
      fun rows => Csv.table (("source" :: Csv.names Metric.all ++ ["error"]) :: rows) := by
  rw [Csv.report]
  cases entries.mapM (Csv.reportRow precision) <;> rfl

section Reports

variable {entries : List Entry} (accepted : Accepted precision)
  (legible : ∀ entry ∈ entries, Legible entry)

include accepted legible

theorem csvReport_iff :
    (∃ text, Csv.report precision entries = .ok text) ↔
      ∀ entry ∈ entries, IsWhole entry ∨ Places precision := by
  rw [csvReport_eq, exists_map_iff, exists_mapM_iff]
  exact forall₂_congr fun entry member => reportRow_iff accepted (legible entry member)

theorem terminalReport_iff :
    (∃ blocks, Terminal.report precision entries = .ok blocks) ↔
      ∀ entry ∈ entries, IsWhole entry ∨ Places precision := by
  rw [Terminal.report, exists_mapM_iff, ← forall_mem_zipIdx_iff]
  exact forall₂_congr fun numbered member =>
    entryBlock_iff accepted (forall_mem_zipIdx_iff.2 legible numbered member) _

theorem canBeDrawn_of_report {blocks : List Block}
    (written : Terminal.report precision entries = .ok blocks) :
    ∀ block ∈ blocks, block.CanBeDrawn := by
  intro block member
  obtain ⟨numbered, found, written⟩ := exists_of_mem_mapM written member
  exact canBeDrawn_of_entryBlock accepted (forall_mem_zipIdx_iff.2 legible numbered found) written

/-- A report of entries that can be shown is written as a document if there is a form for all that
is in it. In any other layout it is written if all metrics are whole numbers, or if there is a
number of places. -/
theorem report_iff (draws : console.Draws) (layout : Layout) :
    (∃ text, reportOn console layout precision entries >>= Parts.text = .ok text) ↔
      (layout = .json ∧ ∀ entry ∈ entries, HasForm entry.outcome) ∨
        layout ≠ .json ∧ ((∀ entry ∈ entries, IsWhole entry) ∨ Places precision) := by
  have shared : (∀ entry ∈ entries, IsWhole entry ∨ Places precision) ↔
      (∀ entry ∈ entries, IsWhole entry) ∨ Places precision := by
    simp only [← forall_or_right]
  cases layout with
  | json =>
      have short : (Value.list (entries.map Json.entry)).tooLong = false :=
        Value.anyTooLong_eq_false.2 (List.forall_mem_map.2 fun entry member =>
          tooLong_entry (legible entry member))
      have formed : hasMoment (.list (entries.map Json.entry)) = false ↔
          ∀ entry ∈ entries, HasForm entry.outcome := by
        rw [hasMoment, anyHasMoment_eq_false, List.forall_mem_map]
        exact forall₂_congr fun entry _ => hasMoment_entry_iff entry
      rw [reportOn, text_whole, Json.report, document_iff, formed]
      simp [short]
  | csv =>
      rw [reportOn, text_whole, csvReport_iff accepted legible, shared]
      simp
  | terminal =>
      rw [reportOn, text_printed draws fun _ => canBeDrawn_of_report accepted legible,
        terminalReport_iff accepted legible, shared]
      simp

end Reports

/-! ## Rankings -/

/-- A ranked file that can be shown: it has a name, and its position is not too long. -/
structure IsListed (ranked : Ranked) : Prop where
  named : ∃ source, ranked.source = some source
  short : Number.tooLong ranked.position = false

/-- The number of values of a distribution is not too long. -/
def IsCounted (distribution : Option (Statistics.Summary Float)) : Prop :=
  ∀ s ∈ distribution, Number.tooLong s.count = false

variable {ranked : Ranked} {ranking : List Ranked} {metric : Metric}
  {distribution : Option (Statistics.Summary Float)}

/-- The number of a mark. -/
def markOf (outlier : Bool) : Int := if outlier then 1 else 0

theorem wholeText_markOf (outlier : Bool) :
    wholeText (markOf outlier) = .ok (Number.integerText (markOf outlier)) := by
  cases outlier <;> exact if_neg (by decide)

theorem rankingRow_eq {position : Int} {source : Option String} {value : Value} {text : String}
    (outlier : Bool) (short : Number.tooLong position = false)
    (written : fixed precision value = .ok text) :
    Csv.rankingRow precision ⟨.int position, .ofOption source, value, .bool outlier⟩ =
      .ok [Number.integerText position, source.getD "", text,
        Number.integerText (markOf outlier)] := by
  have mark : (Value.bool outlier).toInt = .ok (markOf outlier) := rfl
  have number : Csv.valueText (.int position) = .ok (Number.integerText position) :=
    if_neg (ne_true_of_eq_false short)
  have name : Csv.valueText (.ofOption source) = .ok (source.getD "") := by cases source <;> rfl
  rw [Csv.rankingRow, written, bind_ok, mark, bind_ok, number, bind_ok, name, bind_ok,
    wholeText_markOf]
  rfl

theorem rankingRow_iff (accepted : Accepted precision) (listed : IsListed ranked) :
    (∃ row, Csv.rankingRow precision ranked.standing = .ok row) ↔ Places precision := by
  rw [← fixed_iff accepted ranked.value]
  constructor
  · rintro ⟨row, written⟩
    obtain ⟨text, value, -⟩ := bind_eq_ok.1 written
    exact ⟨text, value⟩
  · rintro ⟨text, value⟩
    exact ⟨_, rankingRow_eq ranked.outlier listed.short value⟩

/-- A value that stands out is marked. -/
def markedText (outlier : Bool) (text : String) : String :=
  if outlier then s!"[red bold]{text}[/red bold]" else text

theorem standingCells_eq {text source : String} (named : ranked.source = some source)
    (short : Number.tooLong ranked.position = false)
    (written : fixed precision (.real ranked.value) = .ok text) :
    Terminal.standingCells precision ranked.standing =
      .ok (Number.integerText ranked.position, markedText ranked.outlier text,
        Markup.escape source) := by
  have position : ranked.standing.position.tooLong = false := short
  have value : fixed precision ranked.standing.value = .ok text := written
  have name : Terminal.escaped ranked.standing.source = .ok (Markup.escape source) := by
    show Terminal.escaped (.ofOption ranked.source) = _
    rw [named]
    rfl
  rw [Terminal.standingCells, value, bind_ok, position, name]
  rfl

theorem drawable_markedText {text : String} (bare : BareText text) (outlier : Bool) :
    Drawable (markedText outlier text) := by
  cases outlier with
  | false => exact bare.drawable
  | true =>
      refine Markup.drawable_marked Markup.opens_redBold (Markup.readsAsText_of_bare bare _)
        (Markup.readsAsText_nil []) ?_
      simp [markedText, Markup.redBold, Markup.red, toString_text]

theorem labelOf_name (metric : Metric) :
    Terminal.labelOf (.text metric.name) = .ok (.text metric.label) := by
  rw [Terminal.labelOf]
  · rw [Metric.ofValue?, Metric.ofName?_name]
  · intro _ other
    cases other
  · intro _ other
    cases other

theorem lowerLabel_name (metric : Metric) :
    Terminal.lowerLabel (.text metric.name) = .ok (Text.lower metric.label) := by
  rw [Terminal.lowerLabel, labelOf_name]
  rfl

theorem bareText_lower_label (metric : Metric) : BareText (Text.lower metric.label) := by
  cases metric with
  | count c => cases c <;> decide
  | derived d => cases d <;> decide

theorem bareText_name (metric : Metric) : BareText metric.name := by
  cases metric with
  | count c => cases c <;> decide
  | derived d => cases d <;> decide

theorem standingCells_iff (accepted : Accepted precision) (listed : IsListed ranked) :
    (∃ cells, Terminal.standingCells precision ranked.standing = .ok cells) ↔
      Places precision := by
  rw [← fixed_iff accepted ranked.value]
  constructor
  · rintro ⟨cells, written⟩
    obtain ⟨text, value, -⟩ := bind_eq_ok.1 written
    exact ⟨text, value⟩
  · rintro ⟨text, value⟩
    obtain ⟨source, named⟩ := listed.named
    exact ⟨_, standingCells_eq named listed.short value⟩

theorem exists_standingCells (places : Places precision) (listed : IsListed ranked) :
    ∃ cells, Terminal.standingCells precision ranked.standing = .ok cells ∧
      Drawable cells.1 ∧ Drawable cells.2.1 ∧ Drawable cells.2.2 := by
  obtain ⟨source, named⟩ := listed.named
  obtain ⟨text, value, bare⟩ := fixed_of_places places ranked.value
  exact ⟨_, standingCells_eq named listed.short value, (Number.bareText_integerText _).drawable,
    drawable_markedText bare ranked.outlier, drawable_escape source⟩

/-- The distribution is shown in one line. -/
theorem exists_summaryBlock (places : Places precision)
    (distribution : Option (Statistics.Summary Float)) :
    ∃ blocks, Terminal.summaryBlock precision distribution = .ok blocks ∧
      ∀ block ∈ blocks, block.CanBeDrawn := by
  cases distribution with
  | none => exact ⟨[], rfl, nofun⟩
  | some s =>
      rw [Terminal.summaryBlock]
      split
      · exact ⟨[], rfl, nofun⟩
      · obtain ⟨minimum, writtenMinimum, bareMinimum⟩ := fixed_of_places places s.minimum
        obtain ⟨median, writtenMedian, bareMedian⟩ := fixed_of_places places s.median
        obtain ⟨mean, writtenMean, bareMean⟩ := fixed_of_places places s.mean
        obtain ⟨p90, writtenP90, bareP90⟩ := fixed_of_places places s.p90
        obtain ⟨maximum, writtenMaximum, bareMaximum⟩ := fixed_of_places places s.maximum
        rw [writtenMinimum, bind_ok, writtenMedian, bind_ok, writtenMean, bind_ok, writtenP90,
          bind_ok, writtenMaximum, bind_ok]
        refine ⟨_, rfl, List.forall_mem_singleton.2 ?_⟩
        have inside : BareText (s!"n={s.count}  min={minimum}  median={median}  mean={mean}  " ++
            s!"p90={p90}  max={maximum}") := by
          simp only [bareText_append, toString_text, Number.bareText_toString, bareMinimum,
            bareMedian, bareMean, bareP90, bareMaximum, and_true]
          decide
        refine Markup.drawable_marked Markup.opens_dim (Markup.readsAsText_of_bare inside _)
          (Markup.readsAsText_nil []) ?_
        simp [Markup.dim, toString_text]

/-- The grid of a ranking. -/
def rankingGrid (metric : Metric) (cells : List (String × String × String)) : Grid :=
  ⟨"Files by " ++ Text.lower metric.label, .center,
    [⟨.text "#", .right, none, cells.map fun cell => cell.1⟩,
     ⟨.text metric.name, .right, none, cells.map fun cell => cell.2.1⟩,
     ⟨.text "File", .left, none, cells.map fun cell => cell.2.2⟩]⟩

theorem terminalRanking_eq {standings : List Standing} (nonempty : standings ≠ []) :
    Terminal.ranking precision (.text metric.name) standings distribution =
      standings.mapM (Terminal.standingCells precision) >>= fun cells =>
        (Terminal.summaryBlock precision distribution).map fun blocks =>
          .grid (rankingGrid metric cells) :: blocks := by
  have shown : ¬ standings.isEmpty = true := by simpa using nonempty
  rw [Terminal.ranking, if_neg shown, lowerLabel_name, bind_ok]
  refine bind_congr_of_ok fun cells _ => ?_
  cases Terminal.summaryBlock precision distribution <;> rfl

theorem canBeDrawn_rankingGrid {cells : List (String × String × String)}
    (drawable : ∀ cell ∈ cells, Drawable cell.1 ∧ Drawable cell.2.1 ∧ Drawable cell.2.2) :
    (rankingGrid metric cells).CanBeDrawn where
  title := (bareText_append.2 ⟨by decide, bareText_lower_label metric⟩).drawable
  columns := by
    refine List.forall_mem_cons.2 ⟨?_, List.forall_mem_cons.2 ⟨?_, List.forall_mem_singleton.2 ?_⟩⟩
    · exact Column.canBeDrawn_of_bare (by decide)
        (List.forall_mem_map.2 fun cell member => (drawable cell member).1)
    · exact Column.canBeDrawn_of_bare (bareText_name metric)
        (List.forall_mem_map.2 fun cell member => (drawable cell member).2.1)
    · exact Column.canBeDrawn_of_bare (by decide)
        (List.forall_mem_map.2 fun cell member => (drawable cell member).2.2)

/-- What stands for a report without items. -/
theorem drawable_notice {notice : String} (bare : BareText notice) :
    Drawable s!"[yellow]{notice}[/yellow]" := by
  refine Markup.drawable_marked Markup.opens_yellow (Markup.readsAsText_of_bare bare _)
    (Markup.readsAsText_nil []) ?_
  simp [Markup.yellow, toString_text]

/-- What takes a number of places for each file takes one if there are files. -/
theorem forall_ranked_iff {property : Ranked → Prop}
    (each : ∀ ranked ∈ ranking, (property ranked ↔ Places precision)) :
    (∀ ranked ∈ ranking, property ranked) ↔ ranking = [] ∨ Places precision := by
  rw [forall₂_congr each]
  cases ranking with
  | nil => exact iff_of_true nofun (.inl rfl)
  | cons first rest =>
      exact ⟨fun places => .inr (places first List.mem_cons_self),
        fun places _ _ => places.resolve_left nofun⟩

theorem csvRanking_eq (precision : Value) (name : String) (standings : List Standing) :
    Csv.ranking precision (.text name) standings =
      (standings.mapM (Csv.rankingRow precision)).map fun rows =>
        Csv.table (["position", "source", name, "outlier"] :: rows) := by
  show (standings.mapM (Csv.rankingRow precision) >>= fun rows => _) = _
  cases standings.mapM (Csv.rankingRow precision) <;> rfl

/-- A ranking has a form in documents. -/
theorem hasMoment_ranking (metric : Metric) (ranking : List Ranked)
    (distribution : Option (Statistics.Summary Float)) :
    hasMoment (.table [("metric", .text metric.name),
      ("ranking", .list ((ranking.map Ranked.standing).map Json.standing)),
      ("summary", Json.summary distribution)]) = false := by
  have standings :
      anyHasMoment ((ranking.map Ranked.standing).map Json.standing) = false := by
    rw [List.map_map]
    refine anyHasMoment_eq_false.2 (List.forall_mem_map.2 fun ranked _ => ?_)
    simp [Json.standing, Ranked.standing, hasMoment, anyEntryHasMoment, hasMoment_ofOption]
  have summary : hasMoment (Json.summary distribution) = false := by cases distribution <;> rfl
  rw [hasMoment, anyEntryHasMoment_eq_false]
  exact List.forall_mem_cons.2 ⟨rfl, List.forall_mem_cons.2 ⟨standings,
    List.forall_mem_singleton.2 summary⟩⟩

section Rankings

variable (accepted : Accepted precision) (listed : ∀ ranked ∈ ranking, IsListed ranked)

include listed

theorem exists_terminalRanking (places : Places precision) (nonempty : ranking ≠ []) :
    ∃ blocks, Terminal.ranking precision (.text metric.name) (ranking.map Ranked.standing)
      distribution = .ok blocks ∧ ∀ block ∈ blocks, block.CanBeDrawn := by
  obtain ⟨cells, written, drawable⟩ := exists_mapM_of (List.forall_mem_map.2 fun ranked member =>
    exists_standingCells places (listed ranked member))
  obtain ⟨blocks, writtenBlocks, canBeDrawn⟩ := exists_summaryBlock places distribution
  rw [terminalRanking_eq (by simpa using nonempty), written, bind_ok, writtenBlocks]
  exact ⟨_, rfl, List.forall_mem_cons.2 ⟨canBeDrawn_rankingGrid drawable, canBeDrawn⟩⟩

theorem tooLong_ranking (counted : IsCounted distribution) :
    (Value.table [("metric", .text metric.name),
      ("ranking", .list ((ranking.map Ranked.standing).map Json.standing)),
      ("summary", Json.summary distribution)]).tooLong = false := by
  refine Value.anyEntryTooLong_eq_false.2 (List.forall_mem_cons.2 ⟨rfl, List.forall_mem_cons.2
    ⟨Value.anyTooLong_eq_false.2 ?_, List.forall_mem_singleton.2 ?_⟩⟩)
  · rw [List.map_map]
    refine List.forall_mem_map.2 fun ranked member => ?_
    obtain ⟨source, named⟩ := (listed ranked member).named
    have short : (Value.int ranked.position).tooLong = false := (listed ranked member).short
    simpa [Json.standing, Ranked.standing, named, Value.ofOption, Value.tooLong,
      Value.anyEntryTooLong] using short
  · cases distribution with
    | none => rfl
    | some s =>
        have short : Number.tooLong s.count = false := counted s rfl
        simp [Json.summary, Value.tooLong, Value.anyEntryTooLong, short]

include accepted

theorem csvRanking_iff :
    (∃ text, Csv.ranking precision (.text metric.name) (ranking.map Ranked.standing) = .ok text) ↔
      ranking = [] ∨ Places precision := by
  rw [csvRanking_eq, exists_map_iff, exists_mapM_iff, List.forall_mem_map]
  exact forall_ranked_iff fun ranked member => rankingRow_iff accepted (listed ranked member)

theorem terminalRanking_iff :
    (∃ blocks, Terminal.ranking precision (.text metric.name) (ranking.map Ranked.standing)
      distribution = .ok blocks) ↔ ranking = [] ∨ Places precision := by
  by_cases empty : ranking = []
  · subst empty
    exact iff_of_true ⟨_, rfl⟩ (.inl rfl)
  constructor
  · rintro ⟨blocks, written⟩
    rw [terminalRanking_eq (by simpa using empty)] at written
    obtain ⟨cells, writtenCells, -⟩ := bind_eq_ok.1 written
    have each := exists_mapM_iff.1 ⟨cells, writtenCells⟩
    rw [List.forall_mem_map] at each
    exact (forall_ranked_iff fun ranked member =>
      standingCells_iff accepted (listed ranked member)).1 each
  · intro places
    obtain ⟨blocks, written, -⟩ := exists_terminalRanking listed (places.resolve_left empty) empty
    exact ⟨blocks, written⟩

theorem canBeDrawn_of_ranking {blocks : List Block}
    (written : Terminal.ranking precision (.text metric.name) (ranking.map Ranked.standing)
      distribution = .ok blocks) : ∀ block ∈ blocks, block.CanBeDrawn := by
  by_cases empty : ranking = []
  · subst empty
    cases written
    have bare : BareText "No files could be ranked." := by decide
    exact List.forall_mem_singleton.2 (drawable_notice bare)
  · have places := ((terminalRanking_iff accepted listed).1 ⟨blocks, written⟩).resolve_left empty
    obtain ⟨drawn, writtenDrawn, canBeDrawn⟩ := exists_terminalRanking listed places empty
    cases writtenDrawn.symm.trans written
    exact canBeDrawn

/-- A ranking of files that can be shown is written if it is a document, if there are no files, or
if there is a number of places. -/
theorem ranking_iff (draws : console.Draws) (counted : IsCounted distribution) (layout : Layout) :
    (∃ text, rankingOn console layout precision (.text metric.name) (ranking.map Ranked.standing)
      distribution >>= Parts.text = .ok text) ↔
      layout = .json ∨ ranking = [] ∨ Places precision := by
  cases layout with
  | json =>
      exact iff_of_true ((text_whole _).2 (document_iff.2 ⟨tooLong_ranking listed counted,
        hasMoment_ranking metric ranking distribution⟩)) (.inl rfl)
  | csv =>
      rw [rankingOn, text_whole, csvRanking_iff accepted listed]
      exact (or_iff_right nofun).symm
  | terminal =>
      rw [rankingOn, text_printed draws fun _ => canBeDrawn_of_ranking accepted listed,
        terminalRanking_iff accepted listed]
      exact (or_iff_right nofun).symm

end Rankings

end Report

end CodeMetrics
