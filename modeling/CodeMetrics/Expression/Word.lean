import CodeMetrics.Expression.Number

/-!
# Words of expressions

An expression is read word by word: names and keywords, numbers, quoted texts, and marks, which
are operators and brackets. The words of a text go as far as the text can be read.
-/

namespace CodeMetrics.Expression

/-- A quoted text as it was written: what stands in front of it, and what is inside the quotes. -/
structure Quotation where
  isBytes : Bool
  isRaw : Bool
  isFormatted : Bool
  inside : List Char
  deriving DecidableEq, Repr

inductive Shape where
  | name (text : String)
  | keyword (text : String)
  | number (numeral : Numeral)
  | quotation (text : Quotation)
  | mark (text : String)
  /-- The end of a line outside all brackets. -/
  | lineEnd
  /-- Blanks at the start of a line outside all brackets. -/
  | indent
  | finish
  deriving DecidableEq, Repr

structure Word where
  shape : Shape
  /-- The line on which the word starts, from one on. -/
  line : Nat
  /-- The brackets that are open behind the word. -/
  depth : Nat
  /-- The text had to be read to its very end to tell where the word ends. -/
  meetsEnd : Bool
  deriving DecidableEq, Repr

/-- Names that are reserved. -/
def keywords : List String :=
  ["False", "None", "True", "and", "as", "assert", "async", "await", "break", "class", "continue",
   "def", "del", "elif", "else", "except", "finally", "for", "from", "global", "if", "import",
   "in", "is", "lambda", "nonlocal", "not", "or", "pass", "raise", "return", "try", "while",
   "with", "yield"]

/-- Names that are reserved in some places. -/
def softKeywords : List String := ["_", "case", "match"]

/-- The marks of several characters, longer ones first. -/
def longMarks : List String :=
  ["**=", "//=", ">>=", "<<=", "...", "!=", "%=", "&=", "**", "*=", "+=", "-=", "->", "//", "/=",
   ":=", "<<", "<=", "<>", "==", ">=", ">>", "@=", "^=", "|="]

def Shape.ofName (text : String) : Shape :=
  if keywords.contains text then .keyword text else .name text

/-- Where the words of a text end before the text does. -/
structure Break where
  error : Error
  /-- Whether the error counts even when nobody reads so far. -/
  isPressing : Bool

/-- The words of a text. -/
structure Words where
  words : Array Word
  broken : Option Break
  /-- The last bracket that is open where the words end, with its line. -/
  opened : Option (Char × Nat)

end CodeMetrics.Expression
