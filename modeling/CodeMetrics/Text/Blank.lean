import CodeMetrics.Text.Coded

/-!
# Blanks

Which characters separate words, and the three ways of trimming them from a text. A text is
blank when it holds nothing else.
-/

namespace CodeMetrics.Text

/-- A code point lies in one of the closed ranges. -/
def within (ranges : List (Nat × Nat)) (code : Nat) : Bool :=
  ranges.any fun range => range.1 ≤ code && code ≤ range.2

/-- The white-space characters, and the four separators U+001C to U+001F. -/
def blankRanges : List (Nat × Nat) :=
  [(0x09, 0x0D), (0x1C, 0x20), (0x85, 0x85), (0xA0, 0xA0), (0x1680, 0x1680), (0x2000, 0x200A),
   (0x2028, 0x2029), (0x202F, 0x202F), (0x205F, 0x205F), (0x3000, 0x3000)]

variable {α : Type} [Coded α]

def isBlank (c : α) : Bool := within blankRanges (code c)

def trimLeft (cs : List α) : List α := cs.dropWhile isBlank

def trimRight (cs : List α) : List α := (cs.reverse.dropWhile isBlank).reverse

def trim (cs : List α) : List α := trimRight (trimLeft cs)

/-- The text without the blanks at its ends. -/
def trimmed (s : String) : String := String.ofList (trim s.toList)

/-- The empty text is blank too. -/
def allBlank (s : String) : Bool := s.toList.all isBlank

/-- The first word of a line and what follows it after the blanks between them; nothing when
the line holds fewer than two words. -/
def firstWord? (line : List α) : Option (List α × List α) :=
  let line := trim line
  match (line.dropWhile fun c => !isBlank c).dropWhile isBlank with
  | [] => none
  | rest => some (line.takeWhile fun c => !isBlank c, rest)

/-- The runs of characters between the blanks of a text. -/
def blankSeparated (cs : List Char) : List (List Char) :=
  (cs.splitBy fun a b => isBlank a == isBlank b).filter fun run => !run.all isBlank

end CodeMetrics.Text
