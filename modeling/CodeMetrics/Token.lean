import CodeMetrics.Text.Snippet

/-!
# Tokens

A token is a piece of source text with its category. The categories are closed: whatever a lexer
or a listing calls its pieces, each belongs to one of these.
-/

namespace CodeMetrics

inductive Category where
  | number
  | symbol
  | heredoc
  | data
  | quote
  | regex
  | comment
  | documentation
  | endMarker
  | whitespace
  | keyword
  | operator
  | punctuation
  | structural
  | other
  deriving DecidableEq, Repr

/-- The categories in the order messages list them. -/
def Category.all : List Category :=
  [.number, .symbol, .heredoc, .data, .quote, .regex, .comment, .documentation, .endMarker,
   .whitespace, .keyword, .operator, .punctuation, .structural, .other]

def Category.name : Category → String
  | .number => "number"
  | .symbol => "symbol"
  | .heredoc => "heredoc"
  | .data => "data"
  | .quote => "quote"
  | .regex => "regex"
  | .comment => "comment"
  | .documentation => "documentation"
  | .endMarker => "end_marker"
  | .whitespace => "whitespace"
  | .keyword => "keyword"
  | .operator => "operator"
  | .punctuation => "punctuation"
  | .structural => "structure"
  | .other => "other"

def Category.ofName? (name : String) : Option Category :=
  Category.all.find? fun category => category.name == name

structure Token where
  kind : Category
  text : Snippet
  deriving DecidableEq, Repr

end CodeMetrics
