/-!
# Units of text

A text is a list of units: of characters, or of code points, of which some are no characters. What
is done with a text depends on the codes of its units alone.
-/

namespace CodeMetrics.Text

class Coded (α : Type) where
  code : α → Nat
  lineFeed : α
  code_lineFeed : code lineFeed = 0x0A

export Coded (code lineFeed code_lineFeed)

instance : Coded Char := ⟨Char.toNat, '\n', rfl⟩

instance : Coded Nat := ⟨id, 0x0A, rfl⟩

@[simp]
theorem code_char (c : Char) : code c = c.toNat := rfl

@[simp]
theorem code_point (point : Nat) : code point = point := rfl

end CodeMetrics.Text
