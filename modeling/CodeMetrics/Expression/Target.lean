import CodeMetrics.Expression.Argument

/-!
# Targets

What the variables of a comprehension can be: names, attributes, and tuples of these.
-/

namespace CodeMetrics.Expression

open CodeMetrics.Expression.Parser

namespace Rules

variable (self : Rules)

/-- Something may follow that an owner of an attribute can have. -/
def continuesOwner : Parser Unit := first [mark "(", mark "."]

/-- What can stand behind an expression: an attribute, or arguments. -/
def trailer (owner : Tree) : Parser Tree :=
  first
    [do mark "."; discard name; return .attribute,
     do discard self.generator; return .call owner 1 0 false,
     do
      mark "("
      let given ← maybe self.arguments
      mark ")"
      match given with
      | some (.call _ placed named unpacks) => return .call owner placed named unpacks
      | _ => return .call owner 0 0 false]

/-- Something that is followed by an attribute. -/
def targetOwner : Parser Tree :=
  remembered .targetOwner fun _ => do
    let tree ← self.atom
    ahead continuesOwner
    follow (fun tree => do
      let longer ← self.trailer tree
      ahead continuesOwner
      return longer) tree

def plainTarget : Parser Tree :=
  remembered .plainTarget fun _ => first
    [do
      discard self.targetOwner
      mark "."
      discard name
      notAhead continuesOwner
      return .attribute,
     do return .name (← name),
     do
      mark "("
      let tree ← self .plainTarget
      mark ")"
      return tree,
     do
      mark "("
      discard <| maybe <| first
        [do
          discard (self .target)
          discard (many1 do mark ","; self .target)
          discard (maybe (mark ",")),
         do discard (self .target); mark ","]
      mark ")"
      return .tuple []]

def target : Parser Tree :=
  remembered .target fun _ => first
    [do
      mark "*"
      notAhead (mark "*")
      return .starred (← self .target),
     self.plainTarget]

def targets : Parser Tree :=
  first
    [do
      let tree ← self.target
      notAhead (mark ",")
      return tree,
     do
      let tree ← self.target
      let others ← many do mark ","; self.target
      discard (maybe (mark ","))
      return .tuple (tree :: others)]

end Rules

end CodeMetrics.Expression
