import CodeMetrics.Expression.Target

/-!
# Operators and expressions

The rules from the tightest operator to whole texts. A rule calls a looser one only behind a word
of its own; such calls go through `self`, so that the number of words bounds their nesting.
-/

namespace CodeMetrics.Expression

open CodeMetrics.Expression.Parser

namespace Rules

variable (self : Rules)

/-- Operands with operators in between, joined from the left. -/
def chain (rule : Rule) (operand : Parser Tree)
    (operators : List (String × (Tree → Tree → Tree))) : Parser Tree :=
  remembered rule fun _ => do
    let left ← operand
    let others ← many <| first <| operators.map fun (text, join) => do
      mark text
      let right ← operand
      return (join, right)
    return others.foldl (fun left (join, right) => join left right) left

/-! ## Operators -/

def primary : Parser Tree :=
  remembered .primary fun _ => do follow self.trailer (← self.atom)

def awaited : Parser Tree :=
  remembered .awaited fun _ => first
    [do keyword "await"; discard self.primary; return .awaiting, self.primary]

def factor : Parser Tree :=
  remembered .factor fun _ => first
    [do discard (first [mark "+", mark "-"]); return .signed (← self .factor),
     do mark "~"; discard (self .factor); return .operation,
     do
      discard self.awaited
      mark "**"
      discard (self .factor)
      return .operation,
     self.awaited]

def operation (texts : List String) : List (String × (Tree → Tree → Tree)) :=
  texts.map fun text => (text, fun _ _ => .operation)

def term : Parser Tree := chain .term self.factor (operation ["*", "/", "//", "%", "@"])

def sum : Parser Tree := chain .sum self.term [("+", .sum), ("-", .sum)]

def shift : Parser Tree := chain .shift self.sum (operation ["<<", ">>"])

def bitAnd : Parser Tree := chain .bitAnd self.shift (operation ["&"])

def bitXor : Parser Tree := chain .bitXor self.bitAnd (operation ["^"])

def bitOr : Parser Tree := chain .bitOr self.bitXor (operation ["|"])

/-- What compares, and whether it asks for a member. -/
def comparator : Parser Bool :=
  first <|
    (["==", "!=", "<=", "<", ">=", ">"].map fun text => do mark text; return false) ++
    [do keyword "not"; keyword "in"; return false,
     do keyword "in"; return true,
     do keyword "is"; keyword "not"; return false,
     do keyword "is"; return false]

def comparison : Parser Tree := do
  let tree ← self.bitOr
  let others ← many do
    let asksMember ← comparator
    discard self.bitOr
    return asksMember
  match others with
  | [] => return tree
  | asksMember :: _ => return .comparison tree asksMember

def inversion : Parser Tree :=
  remembered .inversion fun _ => first
    [do keyword "not"; discard (self .inversion); return .operation, self.comparison]

/-- Operands with a keyword in between. -/
def joined (rule : Rule) (operand : Parser Tree) (text : String) : Parser Tree :=
  remembered rule fun _ => do
    let tree ← operand
    let others ← many do keyword text; operand
    return if others.isEmpty then tree else .operation

def conjunction : Parser Tree := joined .conjunction self.inversion "and"

def disjunction : Parser Tree := joined .disjunction self.conjunction "or"

/-! ## Expressions -/

def lambda : Parser Tree := do
  keyword "lambda"
  discard (maybe self.parameters)
  mark ":"
  discard (self .expression)
  return .lambda

def plainExpression : Parser Tree :=
  first
    [do
      discard self.disjunction
      keyword "if"
      discard self.disjunction
      keyword "else"
      discard (self .expression)
      return .conditional,
     self.disjunction,
     self.lambda]

/-- A name that once could be called without brackets. -/
def legacyName? : Tree → Option String
  | .name id => if id = "print" ∨ id = "exec" then some id else none
  | _ => none

def softName : Parser Unit := do
  if softKeywords.contains (← name) then return () else absent

/-- Two expressions without anything in between, or half of a conditional one. -/
def badExpression : Parser Tree :=
  decide
    [do
      notAhead (first [do discard name; discard quotation, softName])
      let tree ← self.disjunction
      discard (plainly self.plainExpression)
      if (legacyName? tree).isSome || (← lastWord).depth = 0 then return absent
      return wrong .missingComma,
     do
      discard self.disjunction
      keyword "if"
      discard self.disjunction
      notAhead (first [keyword "else", mark ":"])
      return wrong .missingElse]

def starred : Parser Tree :=
  remembered .starred fun _ => first
    [do mark "*"; return .starred (← self .bitOr), self .expression]

def starredList : Parser Tree := do
  let tree ← self .starred
  let others ← many do mark ","; self .starred
  let ends ← maybe (mark ",")
  return if others.isEmpty && ends.isNone then tree else .tuple (tree :: others)

def legacyCall : Parser Tree := do
  let callee ← name
  notAhead (mark "(")
  discard self.starredList
  match legacyName? (.name callee) with
  | some name => wrong (.missingParentheses name)
  | none => absent

def expression : Parser Tree :=
  remembered .expression fun _ => first
    [reason self.badExpression, reason self.legacyCall, self.plainExpression]

/-- An equals sign where none can stand, or a name that is none. -/
def badNamedExpression : Parser Tree :=
  remembered .assigned fun _ => first
    [do
      let tree ← self .expression
      mark ":="
      discard (self .expression)
      wrong (.namedWith tree.kind),
     do
      discard name
      mark "="
      discard self.bitOr
      notAhead (first [mark "=", mark ":="])
      wrong .assigned,
     do
      notAhead (first
        [self.tuple, self.generator,
         first (["True", "None", "False"].map fun text => do keyword text; return .nothing)])
      let tree ← self.bitOr
      mark "="
      discard self.bitOr
      notAhead (first [mark "=", mark ":="])
      wrong (.assignedTo tree.kind)]

def named : Parser Tree :=
  first [self.assignment, reason self.badNamedExpression, self.unassigned]

/-- The parser of every rule. -/
def parser : Rules
  | .expression => self.expression
  | .named => self.named
  | .assigned => self.badNamedExpression
  | .starred => self.starred
  | .starredList => self.starredList
  | .disjunction => self.disjunction
  | .conjunction => self.conjunction
  | .inversion => self.inversion
  | .bitOr => self.bitOr
  | .bitXor => self.bitXor
  | .bitAnd => self.bitAnd
  | .shift => self.shift
  | .sum => self.sum
  | .term => self.term
  | .factor => self.factor
  | .awaited => self.awaited
  | .primary => self.primary
  | .arguments => self.arguments
  | .quotations => quotations
  | .targets => self.targets
  | .target => self.target
  | .plainTarget => self.plainTarget
  | .targetOwner => self.targetOwner

/-- The rules up to a depth of nesting. -/
def within : Nat → Rules
  | 0, _ => absent
  | depth + 1, rule => fun source progress => parser (within depth) rule source progress

/-- A whole text: one expression, or several with commas. -/
def whole : Parser Tree := do
  let tree ← self .expression
  let others ← many do mark ","; self .expression
  let ends ← maybe (mark ",")
  discard (many (shape .lineEnd))
  shape .finish
  return if others.isEmpty && ends.isNone then tree else .tuple (tree :: others)

end Rules

end CodeMetrics.Expression
