import CodeMetrics.Fault
import CodeMetrics.Number.Nearest
import CodeMetrics.Text.Wrap
import CodeMetrics.Value

/-!
# Grids

Tables drawn with box characters. All texts of a grid are markup. A column is as wide as its widest
cell, up to its limit, and every cell has a blank on either side; when the columns together are
wider than there is room, the widest ones are narrowed first. The title stands above the grid and
is as wide.
-/

namespace CodeMetrics.Report

open Text

/-- A colour whose parts are no numbers. -/
def colorFault : Number.IntegerError → Fault
  | .malformed => .noInteger (quoted "")
  | .tooManyDigits count => .tooManyDigits count

/-- What markup shows. -/
def resolve (markup : String) : Except Fault Markup.Shown :=
  (Markup.shown markup).mapError fun
    | .tag error => .markup error
    | .color error => colorFault error

/-- The styles of a text are read when it is drawn. -/
def checkStyles (how : Justify) (shown : Markup.Shown) : Except Fault Unit :=
  (shown.check how).mapError colorFault

structure Column where
  /-- Only a text can be shown. -/
  header : Value
  justify : Justify
  /-- The most cells of text a line of the column may have. -/
  limit : Option Nat
  /-- The texts below the header. -/
  cells : List String

structure Grid where
  title : String
  titleJustify : Justify
  columns : List Column

/-- A column whose markup is resolved. -/
structure PlainColumn where
  header : Markup.Shown
  justify : Justify
  limit : Option Nat
  cells : List Markup.Shown

def headerText : Value → Except Fault String
  | .text s => .ok s
  | .torn t => .ok t.shown
  | other => .error (.notShowable other.written)

def Column.plain (column : Column) : Except Fault PlainColumn := do
  let header ← resolve (← headerText column.header)
  return ⟨header, column.justify, column.limit, ← column.cells.mapM resolve⟩

/-! ## Widths -/

/-- The blanks on both sides of a cell. -/
def padding : Nat := 2

/-- The cells a column takes with its padding, `room` at most. -/
def PlainColumn.width (room : Nat) (column : PlainColumn) : Nat :=
  let texts := (column.header :: column.cells).map (·.text)
  let natural := (texts.map naturalWidth).foldl max 0
  let padded := min (natural + padding) room
  match column.limit with
  | none => padded
  | some limit => min padded (limit + padding)

def total (widths : List Nat) : Nat := widths.foldl (· + ·) 0

/-- The widths with `excess` cells taken from the `sharing` columns that are as wide as the widest:
each gives an even share of what is left to take, but `most` cells at most. -/
def share (widest most : Nat) (excess sharing : Nat) : List Nat → List Nat
  | [] => []
  | width :: rest =>
      if width = widest ∧ sharing ≠ 0 then
        let taken := min most (Number.roundHalfEven excess sharing)
        (width - taken) :: share widest most (excess - taken) (sharing - 1) rest
      else width :: share widest most excess sharing rest

/-- The widths narrowed until they fit into the room. The widest columns are narrowed down to the
next ones, as often as `steps` allows. -/
def narrow (room : Nat) : Nat → List Nat → List Nat
  | 0, widths => widths
  | steps + 1, widths =>
      if total widths ≤ room then widths
      else
        let widest := widths.foldl max 0
        let next := (widths.filter (· != widest)).foldl max 0
        let excess := total widths - room
        narrow room steps
          (share widest (min excess (widest - next)) excess (widths.count widest) widths)

/-- The widths of columns with their padding, when the lines between them and around them fit into
the room as well. Every step of narrowing takes one cell at least. -/
def columnWidths (room : Nat) (columns : List PlainColumn) : List Nat :=
  let inner := room - (columns.length + 1)
  let widths := columns.map fun column => column.width inner
  narrow inner (total widths) widths

/-! ## Drawing -/

/-- The characters of a horizontal rule. -/
structure Rule where
  left : Char
  line : Char
  joint : Char
  right : Char

def topRule : Rule := ⟨'┏', '━', '┳', '┓'⟩

def headRule : Rule := ⟨'┡', '━', '╇', '┩'⟩

def bottomRule : Rule := ⟨'└', '─', '┴', '┘'⟩

/-- A rule over columns of the given widths. -/
def Rule.draw (rule : Rule) (widths : List Nat) : List Char :=
  rule.left :: [rule.joint].intercalate (widths.map fun width => List.replicate width rule.line) ++
    [rule.right]

/-- Where the lines of a cell stand in a row that is higher. -/
inductive Side where
  | top
  | bottom
  deriving DecidableEq, Repr

/-- A text set into the lines of a column, with its padding. -/
def cellLines (how : Justify) (width : Nat) (text : List Char) : List (List Char) :=
  let inner := width - padding
  (wrap false inner text).map fun line =>
    ' ' :: settle inner (justify how true inner line) ++ [' ']

/-- The lines with empty ones added on the other side. -/
def Side.fill (side : Side) (width height : Nat) (lines : List (List Char)) : List (List Char) :=
  let missing := List.replicate (height - lines.length) (List.replicate width ' ')
  match side with
  | .top => lines ++ missing
  | .bottom => missing ++ lines

/-- A row of cells with their widths, as high as the highest of them. -/
def drawRow (border : Char) (side : Side) (cells : List (Nat × List (List Char))) :
    List (List Char) :=
  let height := (cells.map fun cell => cell.2.length).foldl max 1
  let filled := cells.map fun (width, lines) => side.fill width height lines
  (List.range height).map fun i =>
    border :: filled.flatMap fun lines => lines.getD i [] ++ [border]

/-- The lines of the title over a grid of the given width. -/
def titleLines (how : Justify) (width : Nat) (title : List Char) : List (List Char) :=
  (wrap true width title).map (justify how false width)

/-- The cell of a column in a row; further rows are empty. -/
def PlainColumn.cell (row : Nat) (column : PlainColumn) : Markup.Shown :=
  column.cells.getD row ⟨[], []⟩

/-- The lines of a grid. The columns are resolved one after the other, and the title after them;
then the styles are read, from the title down. -/
def Grid.lines (room : Nat) (grid : Grid) : Except Fault (List (List Char)) := do
  let columns ← grid.columns.mapM Column.plain
  let title ← resolve grid.title
  let height := (columns.map fun column => column.cells.length).foldl max 0
  let rows := PlainColumn.header :: (List.range height).map PlainColumn.cell
  checkStyles grid.titleJustify title
  rows.forM fun row => columns.forM fun column => checkStyles column.justify (row column)
  let widths := columnWidths room columns
  let full := total widths + columns.length + 1
  let cells (row : PlainColumn → Markup.Shown) : List (Nat × List (List Char)) :=
    (columns.zip widths).map fun (column, width) =>
      (width, cellLines column.justify width (row column).text)
  return titleLines grid.titleJustify full title.text ++
    topRule.draw widths :: drawRow '┃' .bottom (cells PlainColumn.header) ++
    headRule.draw widths ::
      ((List.range height).flatMap fun i => drawRow '│' .top (cells (PlainColumn.cell i))) ++
    [bottomRule.draw widths]

end CodeMetrics.Report
