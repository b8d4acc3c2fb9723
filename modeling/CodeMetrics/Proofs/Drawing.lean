import CodeMetrics.Command.Run
import CodeMetrics.Proofs.Markup

/-!
# Drawing

Grids and lines of text are drawn when all their texts can be: their markup has to be read, and the
styles it names. The styles of the reports are known, and texts from elsewhere are escaped, so that
the message of a command that failed can always be shown.

Results:
1. `opens_red`, `opens_redBold`, `opens_dim`, `opens_yellow`: the styles of the reports.
2. `Grid.lines_of_drawable`, `Console.draws_plain`: what is drawn.
3. `complaint_ends`: the message about a failure.
4. `failed_eq`: a command that failed ends with its message and its status.
-/

namespace CodeMetrics

namespace Markup

/-! ## The styles of the reports -/

def red : List Char := ['r', 'e', 'd']

def redBold : List Char := red ++ [' ', 'b', 'o', 'l', 'd']

def boldRed : List Char := ['b', 'o', 'l', 'd', ' '] ++ red

def dim : List Char := ['d', 'i', 'm']

def yellow : List Char := ['y', 'e', 'l', 'l', 'o', 'w']

theorem isColor_red : isColor "red".toList = .ok true := by
  have fits : 23 < colorLines.length := by decide
  exact isColor_of_listed fits (by simp [colorLines, Text.splitAt])

theorem isColor_yellow : isColor "yellow".toList = .ok true := by
  have fits : 26 < colorLines.length := by decide
  exact isColor_of_listed fits (by simp [colorLines, Text.splitAt])

theorem lone_red : Lone "red" := ⟨rfl, rfl⟩

theorem lone_bold : Lone "bold" := ⟨rfl, rfl⟩

theorem lone_dim : Lone "dim" := ⟨rfl, rfl⟩

theorem lone_yellow : Lone "yellow" := ⟨rfl, rfl⟩

/-- Words that say what a style is. -/
theorem ofText_of_words {text : List Char} (words : List String) {known : Style}
    (split : (Text.blankSeparated text).map String.ofList = words)
    (read : Style.plain.read words = .ok (some known)) : Style.ofText text = .ok (some known) := by
  rw [Style.ofText, split, read]

theorem normalStyle_of_ofText {text : List Char} {known : Style}
    (notBlank : text.all Text.isBlank = false) (read : Style.ofText text = .ok (some known)) :
    normalStyle text = .ok (String.intercalate " " known.words) := by
  rw [normalStyle, if_neg (by rw [notBlank]; exact Bool.false_ne_true), read]
  rfl

theorem ofText_red : Style.ofText red = .ok (some { Style.plain with color := some "red" }) :=
  ofText_of_words ["red"] rfl
    (read_color lone_red rfl isColor_red Style.plain [])

theorem ofText_yellow :
    Style.ofText yellow = .ok (some { Style.plain with color := some "yellow" }) :=
  ofText_of_words ["yellow"] rfl
    (read_color lone_yellow rfl isColor_yellow Style.plain [])

theorem ofText_dim : Style.ofText dim = .ok (some (Style.plain.switch "dim" true)) :=
  ofText_of_words ["dim"] rfl
    (read_attribute lone_dim rfl Style.plain [])

def boldRedStyle : Style := { Style.plain.switch "bold" true with color := some "red" }

theorem attribute?_bold : attribute? "bold" = some "bold" := rfl

theorem ofText_redBold : Style.ofText redBold = .ok (some boldRedStyle) := by
  refine ofText_of_words ["red", "bold"] rfl ?_
  rw [read_color lone_red rfl isColor_red, read_attribute lone_bold attribute?_bold]
  rfl

theorem ofText_boldRed : Style.ofText boldRed = .ok (some boldRedStyle) := by
  refine ofText_of_words ["bold", "red"] rfl ?_
  rw [read_attribute lone_bold attribute?_bold, read_color lone_red rfl isColor_red]
  rfl

theorem opens_red : Opens red "red" where
  normal := normalStyle_of_ofText (by decide) ofText_red
  read := ⟨_, by simpa [red] using ofText_red⟩

theorem opens_yellow : Opens yellow "yellow" where
  normal := normalStyle_of_ofText (by decide) ofText_yellow
  read := ⟨_, by simpa [yellow] using ofText_yellow⟩

theorem opens_dim : Opens dim "dim" where
  normal := normalStyle_of_ofText (by decide) ofText_dim
  read := ⟨_, by simpa [dim] using ofText_dim⟩

/-- Attributes come first in the normal form. -/
theorem opens_redBold : Opens redBold "bold red" where
  normal := normalStyle_of_ofText (by decide) ofText_redBold
  read := ⟨_, by simpa [boldRed, red] using ofText_boldRed⟩

/-- Styles that can be read do not keep a text from being drawn. -/
theorem Styled.check {shown : Shown} (styled : Styled shown) (how : Text.Justify) :
    shown.check how = .ok () :=
  forM_of_ok fun span member => by
    obtain ⟨style, read⟩ := styled span (List.mem_of_mem_filter member)
    rw [read]
    rfl

end Markup

/-! ## Grids and lines -/

namespace Report

open Markup (Styled Drawable)

theorem checkStyles_of_styled {shown : Markup.Shown} (styled : Styled shown) (how : Text.Justify) :
    checkStyles how shown = .ok () := by
  rw [checkStyles, styled.check]
  rfl

theorem resolve_of_drawable {markup : String} (drawable : Drawable markup) :
    ∃ shown, resolve markup = .ok shown ∧ Styled shown := by
  obtain ⟨shown, read, styled⟩ := drawable
  refine ⟨shown, ?_, styled⟩
  rw [resolve, read]
  rfl

/-- The header of a column is a text, and it can be drawn, as all cells below it. -/
structure Column.CanBeDrawn (column : Column) : Prop where
  header : ∃ header, column.header = .text header ∧ Drawable header
  cells : ∀ cell ∈ column.cells, Drawable cell

structure Grid.CanBeDrawn (grid : Grid) : Prop where
  title : Drawable grid.title
  columns : ∀ column ∈ grid.columns, column.CanBeDrawn

/-- The styles of the texts of a column can be read. -/
structure PlainColumn.HasStyles (column : PlainColumn) : Prop where
  header : Styled column.header
  cells : ∀ cell ∈ column.cells, Styled cell

theorem PlainColumn.HasStyles.cell {column : PlainColumn} (styles : column.HasStyles) (i : Nat) :
    Styled (column.cell i) := by
  rw [PlainColumn.cell, List.getD_eq_getElem?_getD]
  cases found : column.cells[i]? with
  | none => exact nofun
  | some cell => exact styles.cells cell (List.mem_of_getElem? found)

theorem Column.plain_of_canBeDrawn {column : Column} (canBeDrawn : column.CanBeDrawn) :
    ∃ plain, column.plain = .ok plain ∧ plain.HasStyles := by
  obtain ⟨text, given, drawable⟩ := canBeDrawn.header
  obtain ⟨header, resolved, styled⟩ := resolve_of_drawable drawable
  obtain ⟨cells, read, styledCells⟩ := exists_mapM_of fun cell member =>
    resolve_of_drawable (canBeDrawn.cells cell member)
  refine ⟨⟨header, column.justify, column.limit, cells⟩, ?_, styled, styledCells⟩
  rw [Column.plain, given, headerText, bind_ok, resolved, bind_ok, read]
  rfl

/-- A grid of texts that can be drawn is drawn. -/
theorem Grid.lines_of_canBeDrawn {grid : Grid} (canBeDrawn : grid.CanBeDrawn) (room : Nat) :
    ∃ lines, grid.lines room = .ok lines := by
  obtain ⟨columns, read, styles⟩ := exists_mapM_of fun column member =>
    Column.plain_of_canBeDrawn (canBeDrawn.columns column member)
  obtain ⟨title, resolved, styled⟩ := resolve_of_drawable canBeDrawn.title
  have checked (rows : List (PlainColumn → Markup.Shown))
      (styledRows : ∀ row ∈ rows, ∀ column : PlainColumn, column.HasStyles → Styled (row column)) :
      (rows.forM fun row => columns.forM fun column => checkStyles column.justify (row column)) =
        .ok ⟨⟩ :=
    forM_of_ok fun row ofRows => forM_of_ok fun column ofColumns =>
      checkStyles_of_styled (styledRows row ofRows column (styles column ofColumns)) _
  rw [Grid.lines, read, bind_ok, resolved, bind_ok]
  dsimp only
  rw [checkStyles_of_styled styled, bind_ok, checked, bind_ok]
  · exact ⟨_, rfl⟩
  · intro row member column styles
    rcases List.mem_cons.1 member with rfl | below
    · exact styles.header
    · obtain ⟨i, -, rfl⟩ := List.mem_map.1 below
      exact styles.cell i

def Block.CanBeDrawn : Block → Prop
  | .grid g => g.CanBeDrawn
  | .text markup => Drawable markup

/-- The console prints every block of texts that can be drawn. -/
def Console.Draws (console : Console) : Prop :=
  ∀ block : Block, block.CanBeDrawn → ∃ text, console.print block = .ok text

/-- A plain console does, whatever its width. -/
theorem Console.draws_plain (width : Nat) : (Console.plain width).Draws := by
  intro block canBeDrawn
  obtain ⟨lines, drawn⟩ : ∃ lines, block.lines width = .ok lines := by
    cases block with
    | grid g => exact Grid.lines_of_canBeDrawn canBeDrawn width
    | text markup =>
        obtain ⟨shown, resolved, styled⟩ := resolve_of_drawable canBeDrawn
        rw [Block.lines, resolved, bind_ok, checkStyles_of_styled styled, bind_ok]
        exact ⟨_, rfl⟩
  refine ⟨String.ofList (lines.flatMap fun line => line ++ ['\n']), ?_⟩
  change Block.print width block = _
  rw [Block.print, drawn, bind_ok]
  rfl

end Report

/-! ## Complaints -/

namespace Command

open Markup

/-- The message about a failure can be shown. -/
theorem complaint_ends (s : String) :
    ∃ text, complaint ("[red]Error:[/red] " ++ escape s) = .ok text := by
  have word : ReadsAsText "Error:".toList
      ('[' :: ('/' :: red ++ ']' :: (' ' :: (escape s).toList))) :=
    readsAsText_of_bare (List.forall_iff_forall_mem.1 (by decide)) _
  have message : ReadsAsText ([' '] ++ (escape s).toList) [] :=
    (readsAsText_escape rfl s).bare_append (by simp)
  have drawable : Drawable ("[red]Error:[/red] " ++ escape s) :=
    drawable_marked opens_red word message (by simp [red])
  obtain ⟨shown, resolved, styled⟩ := Report.resolve_of_drawable drawable
  rw [complaint, resolved, bind_ok, Report.checkStyles_of_styled styled, bind_ok]
  exact ⟨_, rfl⟩

/-- A command that failed ends with a message and its status. -/
theorem failed_eq (host : Host) (status : Nat) (events : List Event) (failure : Failure) :
    ∃ text, complaint ("[red]Error:[/red] " ++ escape failure.text) = .ok text ∧
      Outcome.failed host status events failure = ⟨.exit status, "", text, events, host⟩ := by
  obtain ⟨text, written⟩ := complaint_ends failure.text
  refine ⟨text, written, ?_⟩
  rw [Outcome.failed, written]

end Command

end CodeMetrics
