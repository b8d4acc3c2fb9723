import CodeMetrics.Expression.Formatted
import CodeMetrics.Expression.Parameter

/-!
# Comprehensions, displays and atoms

What stands in brackets, and what needs none: names, constants, numbers and texts. Square brackets
do not occur: the texts that hold expressions have no room for them.

Parsers marked as reasons find what somebody may have meant. Their order decides between several
explanations of one text.
-/

namespace CodeMetrics.Expression

open CodeMetrics.Expression.Parser

namespace Rules

variable (self : Rules)

/-! ## Comprehensions -/

/-- One clause of a comprehension. Behind its `in` nothing else can be meant. -/
def clause : Parser Unit :=
  let clauseOf (start : Parser Unit) : Parser (Parser Unit) := do
    start
    keyword "for"
    discard (self .targets)
    keyword "in"
    return do
      discard (self .disjunction)
      discard (many do keyword "if"; discard (self .disjunction))
  decide
    [clauseOf (keyword "async"), clauseOf (pure ()),
     reason do
      discard (maybe (keyword "async"))
      keyword "for"
      match (← self .starredList).nonTarget? with
      | some tree => wrong (.target tree.kind)
      | none => absent]

def clauses : Parser Unit := discard (many1 self.clause)

/-- Something with a star. A star that has nothing behind it is an error at once. -/
def unpacked : Parser Tree :=
  first
    [do mark "*"; return .starred (← self .expression),
     do mark "*"; wrong .bareStar]

/-- An item of a display. -/
def item : Parser Tree :=
  first [do mark "*"; return .starred (← self .bitOr), self .named]

def items : Parser (List Tree) := do
  let items ← separated self.item
  discard (maybe (mark ","))
  return items

/-- What a comprehension in brackets cannot start with. -/
def badComprehension : Parser Tree :=
  let openings (texts : List String) : Parser Unit := first (texts.map mark)
  reason <| first
    [do
      openings ["(", "\x7b"]
      discard self.unpacked
      self.clauses
      wrong .starredComprehension,
     do
      openings ["\x7b"]
      discard self.item
      mark ","
      discard self.items
      self.clauses
      wrong .bareTarget,
     do
      openings ["\x7b"]
      discard self.item
      mark ","
      self.clauses
      wrong .bareTarget]

/-- A name that gets a value on the way. -/
def assignment : Parser Tree := do
  discard name
  mark ":="
  discard (self .expression)
  return .assignment

/-- An expression that gives no name to what stands in front of it. -/
def unassigned : Parser Tree := do
  let tree ← self .expression
  notAhead (mark ":=")
  return tree

def generator : Parser Tree :=
  first
    [do
      mark "("
      discard (first [self.assignment, self.unassigned])
      self.clauses
      mark ")"
      return .generator,
     self.badComprehension]

/-! ## Displays -/

def tuple : Parser Tree := do
  mark "("
  let items ← maybe do
    let item ← self.item
    mark ","
    return item :: ((← maybe self.items).getD [])
  mark ")"
  return .tuple (items.getD [])

def yielding : Parser Tree :=
  first
    [do keyword "yield"; keyword "from"; discard (self .expression); return .yielding,
     do keyword "yield"; discard (maybe (self .starredList)); return .yielding]

def group : Parser Tree :=
  first
    [do
      mark "("
      let tree ← first [self.yielding, self .named]
      mark ")"
      return tree,
     reason do mark "("; discard self.unpacked; mark ")"; wrong .starred,
     reason do mark "("; mark "**"; discard (self .expression); mark ")"; wrong .doubleStarred]

def pair : Parser (Option Tree × Tree) := do
  let key ← self .expression
  mark ":"
  return (some key, ← self .expression)

def entry : Parser (Option Tree × Tree) :=
  first [do mark "**"; return (none, ← self .bitOr), self.pair]

def badValue {α : Type} : Parser α :=
  first
    [do discard (self .expression); mark ":"; mark "*"; discard (self .bitOr); wrong .starredValue,
     do
      discard (self .expression)
      mark ":"
      ahead (first [mark "\x7d", mark ","])
      wrong .missingValue]

def badEntries {α : Type} : Parser α :=
  first
    [do
      discard (separated self.entry)
      mark ","
      first
        [do discard (self .expression); notAhead (mark ":"); wrong .missingColon,
         self.badValue],
     self.badValue]

def table : Parser Tree :=
  first
    [do
      mark "\x7b"
      let entries ← maybe do
        let entries ← separated self.entry
        discard (maybe (mark ","))
        return entries
      mark "\x7d"
      return .table (entries.getD []),
     do mark "\x7b"; self.badEntries]

def set : Parser Tree := do
  mark "\x7b"
  let items ← self.items
  mark "\x7d"
  return .set items

def tableComprehension : Parser Tree :=
  first
    [do
      mark "\x7b"
      discard self.pair
      self.clauses
      mark "\x7d"
      return .tableComprehension,
     reason do
      mark "\x7b"
      mark "**"
      discard (self .bitOr)
      self.clauses
      mark "\x7d"
      wrong .unpackedComprehension]

def setComprehension : Parser Tree :=
  first
    [do
      mark "\x7b"
      discard (self .named)
      self.clauses
      mark "\x7d"
      return .setComprehension,
     self.badComprehension]

/-! ## Atoms -/

def quotation : Parser Quotation := do
  match (← word).shape with
  | .quotation text => return text
  | _ => absent

def quotations : Parser Tree :=
  remembered .quotations fun _ => do
    let texts ← many1 quotation
    check fun read => checkQuotations read texts
    return if texts.any (·.isFormatted) then .formatted else .text

def number : Parser Tree := do
  match (← word).shape with
  | .number numeral => do
      check fun _ => numeral.check
      return .number numeral
  | _ => absent

def atom : Parser Tree :=
  first
    [do return .name (← name),
     do keyword "True"; return .bool true,
     do keyword "False"; return .bool false,
     do keyword "None"; return .nothing,
     quotations,
     number,
     do ahead (mark "("); first [self.tuple, self.group, self.generator],
     do
      ahead (mark "\x7b")
      first [self.table, self.set, self.tableComprehension, self.setComprehension],
     do mark "..."; return .ellipsis]

end Rules

end CodeMetrics.Expression
