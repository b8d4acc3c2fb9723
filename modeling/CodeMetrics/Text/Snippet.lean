import CodeMetrics.Text.Blank

/-!
# Snippets

The text of a piece of source. It is a list of code points, of which some may be no characters: a
quoted text can name the two halves of a surrogate pair apart, and each half alone. Snippets are
ordered as their code points are.
-/

namespace CodeMetrics

structure Snippet where
  points : List Nat
  deriving DecidableEq, Repr

namespace Snippet

def empty : Snippet := ⟨[]⟩

def ofChars (cs : List Char) : Snippet := ⟨cs.map Char.toNat⟩

def ofString (s : String) : Snippet := ofChars s.toList

/-- The snippet of some units of text. -/
def ofUnits {α : Type} [Text.Coded α] (cs : List α) : Snippet := ⟨cs.map Text.code⟩

def append (a b : Snippet) : Snippet := ⟨a.points ++ b.points⟩

instance : Append Snippet := ⟨append⟩

/-- Snippets one behind the other. -/
def join (snippets : List Snippet) : Snippet := ⟨snippets.flatMap Snippet.points⟩

theorem join_append (a b : List Snippet) : join (a ++ b) = join a ++ join b :=
  congrArg Snippet.mk List.flatMap_append

/-! ## Blanks -/

/-- The empty snippet is blank too. -/
def allBlank (snippet : Snippet) : Bool := snippet.points.all Text.isBlank

/-- The snippet without the blanks at its start. -/
def trimLeft (snippet : Snippet) : Snippet := ⟨Text.trimLeft snippet.points⟩

/-- The snippet without the blanks at its ends. -/
def trimmed (snippet : Snippet) : Snippet := ⟨Text.trim snippet.points⟩

/-! ## Order -/

instance : LT Snippet := ⟨fun a b => List.lt a.points b.points⟩

instance : LE Snippet := ⟨fun a b => ¬ List.lt b.points a.points⟩

instance (a b : Snippet) : Decidable (a < b) := List.decidableLT a.points b.points

instance (a b : Snippet) : Decidable (a ≤ b) :=
  @instDecidableNot _ (List.decidableLT b.points a.points)

theorem lt_trans {a b c : Snippet} (first : a < b) (second : b < c) : a < c :=
  List.lt_trans (α := Nat) first second

theorem le_trans {a b c : Snippet} (first : a ≤ b) (second : b ≤ c) : a ≤ c :=
  List.le_trans (α := Nat) first second

theorem le_total (a b : Snippet) : a ≤ b ∨ b ≤ a := List.le_total a.points b.points

theorem lt_of_le_of_ne {a b : Snippet} (le : a ≤ b) (different : a ≠ b) : a < b :=
  Decidable.byContradiction fun notLess => different <| by
    cases a
    cases b
    exact congrArg Snippet.mk (List.le_antisymm le (List.not_lt.mp notLess))

/-! ## Showing -/

def isHighHalf (point : Nat) : Bool := 0xD800 ≤ point && point < 0xDC00

def isLowHalf (point : Nat) : Bool := 0xDC00 ≤ point && point < 0xE000

/-- A half alone is no character. -/
def isHalf (point : Nat) : Bool := isHighHalf point || isLowHalf point

/-- The code point of a surrogate pair. -/
def pairPoint (high low : Nat) : Nat := 0x10000 + 1024 * (high - 0xD800) + (low - 0xDC00)

/-- The characters of some code points. Two halves that stand together are shown as the character
they make, and a half alone as the character for what cannot be shown. -/
def shownPoints : List Nat → List Char
  | [] => []
  | [point] => [if isHalf point then '\uFFFD' else Char.ofNat point]
  | point :: next :: rest =>
      if isHighHalf point && isLowHalf next then
        Char.ofNat (pairPoint point next) :: shownPoints rest
      else
        (if isHalf point then '\uFFFD' else Char.ofNat point) :: shownPoints (next :: rest)

def shown (snippet : Snippet) : String := String.ofList (shownPoints snippet.points)

end Snippet

end CodeMetrics
