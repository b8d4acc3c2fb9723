import CodeMetrics.History.Revision
import CodeMetrics.Ranking
import CodeMetrics.Report.Figure

/-!
# Documents

Reports as JSON, indented by two spaces. Texts keep to ASCII: all other characters are written by
their UTF-16 units. Figures are exact, so no number of places applies.
-/

namespace CodeMetrics.Report.Json

/-- One UTF-16 unit by its number. -/
def unit (n : Nat) : List Char := '\\' :: 'u' :: Text.hexDigits 4 n

def escape (c : Char) : List Char :=
  if c = '\x22' ∨ c = '\\' then ['\\', c]
  else if c = '\n' then ['\\', 'n']
  else if c = '\r' then ['\\', 'r']
  else if c = '\t' then ['\\', 't']
  else if c = '\x08' then ['\\', 'b']
  else if c = '\x0C' then ['\\', 'f']
  else if 0x20 ≤ c.toNat ∧ c.toNat < 0x7F then [c]
  else if c.toNat < 0x10000 then unit c.toNat
  else
    let beyond := c.toNat - 0x10000
    unit (0xD800 + beyond / 1024) ++ unit (0xDC00 + beyond % 1024)

def text (s : String) : List Char := '\x22' :: s.toList.flatMap escape ++ ['\x22']

/-- A half of a surrogate pair is a unit by itself. -/
def tornText (text : Torn) : List Char :=
  let escaped := text.points.flatMap fun point =>
    if Snippet.isHalf point then unit point else escape (Char.ofNat point)
  '\x22' :: escaped ++ ['\x22']

def real (x : Float) : List Char :=
  if x.isNaN then "NaN".toList
  else if x.isInf then (if Number.isNegative x then "-Infinity" else "Infinity").toList
  else (Number.shortText x).toList

/-- A new line at a depth of nesting. -/
def newLine (depth : Nat) : List Char := '\n' :: List.replicate (2 * depth) ' '

mutual

/-- A value at a depth of nesting. -/
def value (depth : Nat) : Value → List Char
  | .null => "null".toList
  | .bool true => "true".toList
  | .bool false => "false".toList
  | .int n => (Number.integerText n).toList
  | .real x => real x
  | .text s => text s
  | .torn t => tornText t
  -- A moment has no form, and is refused before.
  | .moment m => text m.shown
  | .list [] => "[]".toList
  | .list (first :: rest) =>
      '[' :: newLine (depth + 1) ++ value (depth + 1) first ++ items (depth + 1) rest ++
        newLine depth ++ [']']
  | .table [] => ['\x7b', '\x7d']
  | .table ((key, first) :: rest) =>
      '\x7b' :: newLine (depth + 1) ++ text key ++ ':' :: ' ' :: value (depth + 1) first ++
        members (depth + 1) rest ++ newLine depth ++ ['\x7d']

/-- The items behind the first one. -/
def items (depth : Nat) : List Value → List Char
  | [] => []
  | item :: rest => ',' :: newLine depth ++ value depth item ++ items depth rest

/-- The members behind the first one. -/
def members (depth : Nat) : List (String × Value) → List Char
  | [] => []
  | (key, member) :: rest =>
      ',' :: newLine depth ++ text key ++ ':' :: ' ' :: value depth member ++ members depth rest

end

mutual

/-- What keeps a value out of a document: the first integer with too many digits, or the first
moment. -/
def refusal? : Value → Option Fault
  | .int n => if Number.tooLong n then some .tooLongToWrite else none
  | .moment m => some (.noForm (Value.moment m).shortKind)
  | .list items => itemRefusal? items
  | .table entries => memberRefusal? entries
  | _ => none

def itemRefusal? : List Value → Option Fault
  | [] => none
  | item :: rest => refusal? item <|> itemRefusal? rest

def memberRefusal? : List (String × Value) → Option Fault
  | [] => none
  | (_, value) :: rest => refusal? value <|> memberRefusal? rest

end

/-- A document ends with a line feed. -/
def document (v : Value) : Except Fault String :=
  match refusal? v with
  | some fault => .error fault
  | none => .ok (String.ofList (value 0 v ++ ['\n']))

def failure (f : Failure) : Value :=
  .table [("type", .text f.kind), ("message", f.headline), ("details", f.details)]

def metrics (run : Run) : Value :=
  .table (run.record.map fun entry => (entry.1.name, entry.2.toValue))

/-- What became of an input: its metrics or its failure. -/
def outcome : Except Failure Run → String × Value
  | .ok run => ("metrics", metrics run)
  | .error f => ("error", failure f)

def entry (e : Entry) : Value := .table [("source", .ofOption e.source), outcome e.outcome]

def report (entries : List Entry) : Except Fault String := document (.list (entries.map entry))

def standing (s : Standing) : Value :=
  .table [("position", s.position), ("source", s.source), ("value", s.value),
    ("outlier", s.outlier)]

def summary : Option (Statistics.Summary Float) → Value
  | none => .null
  | some s =>
      .table [("count", .int s.count), ("minimum", .real s.minimum), ("maximum", .real s.maximum),
        ("mean", .real s.mean), ("median", .real s.median), ("p90", .real s.p90)]

def ranking (metric : Value) (ranking : List Standing)
    (distribution : Option (Statistics.Summary Float)) : Except Fault String :=
  document (.table [("metric", metric), ("ranking", .list (ranking.map standing)),
    ("summary", summary distribution)])

def point (p : Point) : Value :=
  .table [("sha", .text p.revision.sha), ("timestamp", .int p.revision.timestamp),
    ("subject", .ofOption p.revision.subject), outcome p.outcome]

def history (metric : Value) (points : List Point) : Except Fault String :=
  document (.table [("metric", metric), ("revisions", .list (points.map point))])

end CodeMetrics.Report.Json
