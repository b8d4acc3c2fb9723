import CodeMetrics.Expression.Display

/-!
# Arguments of calls

Arguments by place come first, then those by name, then tables of arguments. A starred argument can
stand anywhere but behind a table.
-/

namespace CodeMetrics.Expression

open CodeMetrics.Expression.Parser

namespace Rules

variable (self : Rules)

/-- The arguments of a call: how many there are by place and by name, and whether a table of
arguments is among the latter. -/
structure Given where
  placed : Nat
  named : Nat
  unpacks : Bool

def Given.join (parts : List Given) : Given where
  placed := parts.foldl (fun n part => n + part.placed) 0
  named := parts.foldl (fun n part => n + part.named) 0
  unpacks := parts.any (·.unpacks)

/-- What an argument by name cannot look like. -/
def badNamed {α : Type} : Parser α :=
  reason <| first
    [do
      let word ← first (["True", "False", "None"].map fun text => do keyword text; return text)
      mark "="
      wrong (.keywordTarget word),
     do
      discard name
      mark "="
      discard (self .expression)
      self.clauses
      wrong .assigned,
     do
      notAhead do discard name; mark "="
      discard (self .expression)
      mark "="
      wrong .keywordExpression]

def namedArgument : Parser Given := do
  discard name
  mark "="
  discard (self .expression)
  return ⟨0, 1, false⟩

def namedOrUnpacked : Parser Given :=
  first [self.badNamed, self.namedArgument, do discard self.unpacked; return ⟨1, 0, false⟩]

def namedOrTable : Parser Given :=
  first
    [self.badNamed, self.namedArgument,
     do mark "**"; discard (self .expression); return ⟨0, 1, true⟩]

def namedArguments : Parser Given :=
  first
    [do
      let parts ← separated self.namedOrUnpacked
      mark ","
      return .join (parts ++ (← separated self.namedOrTable)),
     .join <$> separated self.namedOrUnpacked,
     .join <$> separated self.namedOrTable]

def placedArgument : Parser Given :=
  first
    [do discard self.unpacked; return ⟨1, 0, false⟩,
     do
      discard (first [self.assignment, self.unassigned])
      notAhead (mark "=")
      return ⟨1, 0, false⟩]

def given : Parser Given :=
  first
    [do
      let placed ← separated self.placedArgument
      let named ← maybe do mark ","; self.namedArguments
      return .join (placed ++ named.toList),
     self.namedArguments]

/-- What is wrong with arguments as a whole. -/
def badGiven : Parser Tree :=
  reason <| decide
    [do
      discard <| first
        [do discard (separated self.placedArgument); mark ","; self.namedArguments,
         self.namedArguments]
      mark ","
      discard <| separated do discard self.unpacked; notAhead (mark "=")
      return wrong .starredBehindUnpacking,
     do
      discard (self .expression)
      self.clauses
      mark ","
      discard <| maybe <| first
        [discard self.given, do discard (self .expression); self.clauses]
      return wrong .generatorArgument,
     do
      discard name
      mark "="
      discard (self .expression)
      self.clauses
      return wrong .assigned,
     do
      let given ← self.given
      self.clauses
      return if 1 < given.placed then wrong .generatorArgument else absent,
     do
      discard self.given
      mark ","
      discard (self .expression)
      self.clauses
      return wrong .generatorArgument,
     do
      let given ← self.given
      mark ","
      discard self.given
      return wrong (if given.unpacks then .behindUnpacking else .behindKeyword)]

/-- The arguments of a call whose callee is not known yet. -/
def arguments : Parser Tree :=
  remembered .arguments fun _ => first
    [do
      let given ← self.given
      discard (maybe (mark ","))
      ahead (mark ")")
      return .call .nothing given.placed given.named given.unpacks,
     self.badGiven]

end Rules

end CodeMetrics.Expression
