import CodeMetrics.Report.Grid

/-!
# Consoles

Reports for people are blocks: grids, and markup set into lines. A console turns a block into what
it prints, in its own width and with the colours it has. The recorder is a console of fixed width
without colours, from which the text of a report is taken.
-/

namespace CodeMetrics.Report

/-- A grid, or markup set into lines. -/
inductive Block where
  | grid (grid : Grid)
  | text (markup : String)

/-- What is printed of each block, which may be none that can be shown. -/
structure Console where
  print : Block → Except Fault String

/-- The lines of a block on a plain terminal. -/
def Block.lines (width : Nat) : Block → Except Fault (List (List Char))
  | .grid g => g.lines width
  | .text markup => do
      let shown ← resolve markup
      checkStyles .left shown
      return (Text.wrap true width shown.text).map (Text.truncate false width)

def Block.print (width : Nat) (block : Block) : Except Fault String := do
  return String.ofList ((← block.lines width).flatMap fun line => line ++ ['\n'])

/-- A console without colours. -/
def Console.plain (width : Nat) : Console := ⟨Block.print width⟩

/-- The cells on a line of the recorder. -/
def Console.recorderWidth : Nat := 120

def Console.recorder : Console := .plain recorderWidth

end CodeMetrics.Report
