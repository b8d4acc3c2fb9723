import CodeMetrics.Expression.Number

/-!
# Expressions

An expression as far as it matters: values are written out of constants, tuples, sets and tables,
and all else is known by its kind only.
-/

namespace CodeMetrics.Expression

inductive Tree where
  | name (id : String)
  | nothing
  | bool (b : Bool)
  | ellipsis
  | number (numeral : Numeral)
  | text
  /-- A text with expressions inside. -/
  | formatted
  | attribute
  /-- A call, with how many arguments it has by place and by name, and whether a table of arguments
  is among the latter. -/
  | call (callee : Tree) (placed named : Nat) (unpacks : Bool)
  /-- A plus or a minus sign in front. -/
  | signed (inner : Tree)
  /-- A sum or a difference. -/
  | sum (left right : Tree)
  | operation
  /-- A comparison by what it starts with, and whether it first asks for a member. -/
  | comparison (first : Tree) (asksMember : Bool)
  | conditional
  | lambda
  | generator
  | setComprehension
  | tableComprehension
  | tuple (items : List Tree)
  | set (items : List Tree)
  /-- Entries without a key stand for the entries of another table. -/
  | table (entries : List (Option Tree × Tree))
  | starred (inner : Tree)
  | assignment
  | yielding
  | awaiting

/-- What messages call an expression. -/
def Tree.kind : Tree → String
  | .name _ => "name"
  | .nothing => "None"
  | .bool b => if b then "True" else "False"
  | .ellipsis => "ellipsis"
  | .number _ | .text => "literal"
  | .formatted => "f-string expression"
  | .attribute => "attribute"
  | .call .. => "function call"
  | .signed _ | .sum .. | .operation => "expression"
  | .comparison .. => "comparison"
  | .conditional => "conditional expression"
  | .lambda => "lambda"
  | .generator => "generator expression"
  | .setComprehension => "set comprehension"
  | .tableComprehension => "dict comprehension"
  | .tuple _ => "tuple"
  | .set _ => "set display"
  | .table _ => "dict literal"
  | .starred _ => "starred"
  | .assignment => "named expression"
  | .yielding => "yield expression"
  | .awaiting => "await expression"

mutual

/-- The part of an expression that the variable of a comprehension cannot be. -/
def Tree.nonTarget? : Tree → Option Tree
  | .name _ | .attribute => none
  | .tuple items => Tree.anyNonTarget? items
  | .starred inner => inner.nonTarget?
  | .comparison first asksMember => if asksMember then first.nonTarget? else none
  | other => some other

def Tree.anyNonTarget? : List Tree → Option Tree
  | [] => none
  | item :: rest => item.nonTarget?.orElse fun _ => Tree.anyNonTarget? rest

end

end CodeMetrics.Expression
