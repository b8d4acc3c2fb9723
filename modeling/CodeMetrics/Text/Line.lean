import CodeMetrics.Text.Coded

/-!
# Lines

A text is cut at every line break, and a carriage return with a line feed behind it is one break.
Two readings are needed: all the line breaks of the character set, for listings, and the unifying
of carriage returns into line feeds, for files.
-/

namespace CodeMetrics.Text

variable {α : Type} [Coded α]

/-- The characters that end a line by themselves. -/
def isLineBreak (c : α) : Bool :=
  [0x0A, 0x0B, 0x0C, 0x0D, 0x1C, 0x1D, 0x1E, 0x85, 0x2028, 0x2029].contains (code c)

def isReturn (c : α) : Bool := code c == 0x0D

def isLineFeed (c : α) : Bool := code c == 0x0A

/-- Every carriage return, alone or before a line feed, becomes a line feed. -/
def unifyBreaks : List α → List α
  | [] => []
  | c :: rest =>
      if !isReturn c then c :: unifyBreaks rest
      else if rest.head?.any isLineFeed then unifyBreaks rest
      else lineFeed :: unifyBreaks rest

/-- The lines of a text without carriage returns whose first line starts with `begun`, written
backwards. -/
def linesFrom (begun : List α) : List α → List (List α)
  | [] => if begun.isEmpty then [] else [begun.reverse]
  | c :: rest =>
      if isLineBreak c then begun.reverse :: linesFrom [] rest else linesFrom (c :: begun) rest

/-- The lines of a text, without their breaks. A break at the end opens no further line. -/
def lines (cs : List α) : List (List α) := linesFrom [] (unifyBreaks cs)

/-- The pieces between the separators: always one more than there are separators. -/
def splitAt (separator : Char) : List Char → List (List Char)
  | [] => [[]]
  | c :: rest =>
      if c = separator then [] :: splitAt separator rest
      else match splitAt separator rest with
        | [] => [[c]]
        | piece :: pieces => (c :: piece) :: pieces

/-- `splitAt` on strings. -/
def pieces (separator : Char) (s : String) : List String :=
  (splitAt separator s.toList).map String.ofList

end CodeMetrics.Text
