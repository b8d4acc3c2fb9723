import CodeMetrics.Text.Blank
import CodeMetrics.Text.Cluster
import CodeMetrics.Text.Line

/-!
# Wrapping

Setting a text into a column of a given width. Lines break before words; a word carries the blanks
behind it, and they do not count when it is seen whether the word fits. A word wider than the
column is either folded into pieces or left to be cut.
-/

namespace CodeMetrics.Text

/-- Runs of blanks and of other characters, in turn. -/
def runs (cs : List Char) : List (List Char) := cs.splitBy fun a b => isBlank a == isBlank b

/-- Each run of characters takes the blanks behind it. -/
def withBlanks : List (List Char) → List (List Char)
  | word :: blanks :: rest => (word ++ blanks) :: withBlanks rest
  | rest => rest

/-- The words of a line, which are the whole line; the first one takes the blanks in front. -/
def words (cs : List Char) : List (List Char) :=
  match runs cs with
  | [] => []
  | first :: rest =>
      if first.all isBlank then
        match withBlanks rest with
        | [] => [first]
        | word :: others => (first ++ word) :: others
      else withBlanks (first :: rest)

/-- The pieces of a word that is too wide, the last one under way. -/
def lastPiece : List (List Char) → List (List Char) × List Char
  | [] => ([], [])
  | [piece] => ([], piece)
  | piece :: rest =>
      let (before, last) := lastPiece rest
      (piece :: before, last)

/-- The lines already complete, with the one under way unless it is empty. -/
def close (line : List Char) (lines : List (List Char)) : List (List Char) :=
  if line.isEmpty then lines else line :: lines

/-- The lines of some words behind the line under way, on which `offset` cells are used. -/
def breakLine (fold : Bool) (width : Nat) (line : List Char) (offset : Nat) :
    List (List Char) → List (List Char)
  | [] => [line]
  | word :: rest =>
      let size := cells (trimRight word)
      if offset + size ≤ width then
        breakLine fold width (line ++ word) (offset + cells word) rest
      else if width < size then
        if fold then
          let (before, last) := lastPiece (chop width word)
          close line (before ++ breakLine fold width last (cells last) rest)
        else close line (breakLine fold width word (cells word) rest)
      else if offset ≠ 0 ∧ line ≠ [] then
        line :: breakLine fold width word (cells word) rest
      else breakLine fold width (line ++ word) offset rest

/-- A line without the blanks that stand beyond the width. -/
def dropExcess (width : Nat) (line : List Char) : List Char :=
  let excess := line.length - width
  let blanks := (line.reverse.takeWhile isBlank).length
  line.take (line.length - min blanks excess)

/-- The pieces of a line between its tabs from a cell on, with the blanks that stand for the tabs. A
tab counts as a blank itself and reaches to the next multiple of eight cells. -/
def fillTabs (position : Nat) : List (List Char) → List Char
  | [] => []
  | [piece] => piece
  | piece :: rest =>
      let filled := piece ++ [' ']
      let reached := position + cells filled
      let missing := (8 - reached % 8) % 8
      filled ++ List.replicate missing ' ' ++ fillTabs (reached + missing) rest

def expandTabs (line : List Char) : List Char := fillTabs 0 (splitAt '\t' line)

/-- The characters a terminal would act on. -/
def isControl (c : Char) : Bool := [7, 8, 11, 12, 13].contains c.toNat

/-- A text set into lines of at most `width` cells, words wider than that aside. -/
def wrap (fold : Bool) (width : Nat) (cs : List Char) : List (List Char) :=
  (splitAt '\n' (cs.filter fun c => !isControl c)).flatMap fun line =>
    (breakLine fold width [] 0 (words (expandTabs line))).map (dropExcess width)

/-- A line that is too wide is cut; with an ellipsis, its last cell shows that. -/
def truncate (ellipsis : Bool) (width : Nat) (line : List Char) : List Char :=
  if cells line ≤ width then line
  else if ellipsis then cutTo (width - 1) line ++ ['…']
  else cutTo width line

inductive Justify where
  | left
  | center
  | right
  deriving DecidableEq, Repr

/-- A line of a column, padded to its width. -/
def justify (how : Justify) (ellipsis : Bool) (width : Nat) (line : List Char) : List Char :=
  let blanks (n : Nat) := List.replicate n ' '
  match how with
  | .left =>
      let line := truncate ellipsis width line
      line ++ blanks (width - cells line)
  | .right =>
      let line := truncate ellipsis width (trimRight line)
      blanks (width - cells line) ++ line
  | .center =>
      let line := truncate ellipsis width (trimRight line)
      let before := (width - cells line) / 2
      blanks before ++ line ++ blanks (width - cells line - before)

/-- A line brought to exactly `width` cells. Blanks that were added behind a joiner may have been
joined, so that some are missing yet. -/
def settle (width : Nat) (line : List Char) : List Char :=
  if width < cells line then cutTo width line
  else line ++ List.replicate (width - cells line) ' '

/-- The widest line of a text that is not wrapped. -/
def naturalWidth (cs : List Char) : Nat :=
  ((lines (cs.filter fun c => !isControl c)).map cells).foldl max 0

end CodeMetrics.Text
