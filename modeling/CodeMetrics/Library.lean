import CodeMetrics.Library.Codec
import CodeMetrics.Library.Language
import CodeMetrics.Toml.Document

/-!
# Libraries

The code of others that an analysis rests on: the lexers that cut sources, the codecs that read
bytes, and the reader of settings files. It is taken as it is given, and what is said of an analysis
is said of it with any of these. What they are relied on for is that each of them ends, and that
the same question has the same answer.
-/

namespace CodeMetrics

/-- A reader of TOML gives the table of a document. It is foreseen that a document has none, and the
reason says why. -/
abbrev Toml.Reader := List Char → Except Stop (Dictionary Value)

structure Library where
  lexers : Lexers
  codecs : Codecs
  toml : Toml.Reader

/-- The reader of TOML with which the program can be run. -/
def Toml.standIn : Toml.Reader := fun cs =>
  match Toml.read cs with
  | .ok table => .ok (.ofEntries table)
  | .error .malformed => .error (.foreseen "<toml>")
  | .error (.tooManyDigits count) => .error (.unforeseen (.tooManyDigits count))

/-- The library with which the program can be run. -/
def Library.standIn : Library := ⟨.standIn, .standIn, Toml.standIn⟩

end CodeMetrics
