import CodeMetrics.Calendar.Moment
import CodeMetrics.Text.Line
import CodeMetrics.Text.Wording

/-!
# Setting values

The values a settings file or a caller can give. They keep the kind they were written in, for
messages show a value as it was given.
-/

namespace CodeMetrics

inductive Value where
  | null
  | bool (b : Bool)
  | int (n : Int)
  | real (x : Float)
  | text (s : String)
  /-- A text that is not made of characters alone. -/
  | torn (text : Torn)
  | moment (m : Moment)
  | list (items : List Value)
  /-- Entries in the order they were written. -/
  | table (entries : List (String × Value))
  deriving BEq, Repr, Inhabited

def boolText (b : Bool) : String := if b then "True" else "False"

mutual

/-- A value as it stands inside a list or a table. -/
def Value.written : Value → String
  | .null => "None"
  | .bool b => boolText b
  | .int n => Number.integerText n
  | .real x => Number.shortText x
  | .text s => Text.quoted s
  | .torn t => t.written
  | .moment m => m.written
  | .list items => "[" ++ String.intercalate ", " (Value.writtenItems items) ++ "]"
  | .table entries => "\x7b" ++ String.intercalate ", " (Value.writtenEntries entries) ++ "\x7d"

def Value.writtenItems : List Value → List String
  | [] => []
  | item :: rest => item.written :: Value.writtenItems rest

def Value.writtenEntries : List (String × Value) → List String
  | [] => []
  | (key, value) :: rest => (Text.quoted key ++ ": " ++ value.written) :: Value.writtenEntries rest

end

mutual

/-- An integer inside the value has too many digits to be written out. -/
def Value.tooLong : Value → Bool
  | .int n => Number.tooLong n
  | .list items => Value.anyTooLong items
  | .table entries => Value.anyEntryTooLong entries
  | _ => false

def Value.anyTooLong : List Value → Bool
  | [] => false
  | item :: rest => item.tooLong || Value.anyTooLong rest

def Value.anyEntryTooLong : List (String × Value) → Bool
  | [] => false
  | (_, value) :: rest => value.tooLong || Value.anyEntryTooLong rest

end

/-- A value as it stands in a message: a text is shown without quotes, a moment without its kind. -/
def Value.shown : Value → String
  | .text s => s
  | .torn t => t.shown
  | .moment m => m.shown
  | value => value.written

/-- Whether the value switches something on: all values do but the empty and the zero ones. -/
def Value.holds : Value → Bool
  | .null => false
  | .bool b => b
  | .int n => n != 0
  | .real x => x != 0.0
  | .text s => !s.isEmpty
  | .torn _ | .moment _ => true
  | .list items => !items.isEmpty
  | .table entries => !entries.isEmpty

/-- A text that may be missing. -/
def Value.ofOption : Option String → Value
  | none => .null
  | some s => .text s

def Value.ofWording : Wording → Value
  | .whole s => .text s
  | .torn t => .torn t

def Value.isNull : Value → Bool
  | .null => true
  | _ => false

/-- The value, unless it is null. -/
def Value.given? (value : Value) : Option Value := if value.isNull then none else some value

/-- The name of a value's kind in messages. -/
def Value.kindName : Value → String
  | .null => "NoneType"
  | .bool _ => "bool"
  | .int _ => "int"
  | .real _ => "float"
  | .text _ | .torn _ => "str"
  | .moment m => m.kindName
  | .list _ => "list"
  | .table _ => "dict"

/-- The name of a value's kind without what the kind belongs to. -/
def Value.shortKind (value : Value) : String := (Text.pieces '.' value.kindName).getLastD ""

end CodeMetrics
