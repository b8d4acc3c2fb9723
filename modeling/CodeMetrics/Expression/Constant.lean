import CodeMetrics.Expression.Reading

/-!
# Constants

The expressions that stand for a value without anything being called or looked up: numbers, with a
sign or as the sum of a real and an imaginary one, texts, the constant names, and tuples, sets and
tables of these. What a set holds and the keys of a table must be hashable, which sets and tables
are not.
-/

namespace CodeMetrics.Expression

/-- Why a text stands for no constant. -/
inductive Flaw where
  | misread (error : Error)
  | notHashable (type : String)
  | notConstant
  /-- A number too large to be added to an imaginary one. -/
  | tooLarge
  /-- A table among the entries of another. -/
  | entries
  deriving DecidableEq, Repr

def Flaw.message : Flaw → String
  | .misread error => error.message
  | .notHashable type => s!"unhashable type: '{type}'"
  | .notConstant => "malformed node or string on line 1"
  | .tooLarge => "int too large to convert to float"
  | .entries => "malformed node or string: None"

/-- The type inside a value that is not hashable, if there is one. -/
abbrev Hashing := Option String

/-- A value that has to be hashable. -/
def Hashing.require : Hashing → Except Flaw Unit
  | none => .ok ()
  | some type => .error (.notHashable type)

/-- A number by itself or with a sign. -/
def Tree.numeral? : Tree → Option Numeral
  | .number numeral | .signed (.number numeral) => some numeral
  | _ => none

/-- The real part of a number with an imaginary one. -/
def checkReal : Option Numeral → Except Flaw Unit
  | none | some .imaginary => .error .notConstant
  | some numeral =>
      if numeral.value?.any fun n => Number.isBeyond n 1 then .error .tooLarge else .ok ()

mutual

/-- The expression is a constant; what is known of it is whether it is hashable. -/
def Tree.constant : Tree → Except Flaw Hashing
  | .nothing | .bool _ | .ellipsis | .number _ | .text | .signed (.number _) => .ok none
  | .sum left (.number .imaginary) => (checkReal left.numeral?).map fun _ => none
  | .tuple items => Tree.tupleConstant items
  | .set items => do
      Tree.setConstant items
      return some "set"
  | .call (.name "set") 0 0 _ => .ok (some "set")
  | .table entries => do
      Tree.tableConstant entries
      return some "dict"
  | _ => .error .notConstant

/-- The first item that is not hashable keeps a tuple from being so. -/
def Tree.tupleConstant : List Tree → Except Flaw Hashing
  | [] => .ok none
  | item :: rest => do
      let first ← item.constant
      let others ← Tree.tupleConstant rest
      return if first.isSome then first else others

def Tree.setConstant : List Tree → Except Flaw Unit
  | [] => .ok ()
  | item :: rest => do
      Hashing.require (← item.constant)
      Tree.setConstant rest

def Tree.tableConstant : List (Option Tree × Tree) → Except Flaw Unit
  | [] => .ok ()
  | (none, _) :: _ => .error .entries
  | (some key, value) :: rest => do
      let hashing ← key.constant
      discard value.constant
      hashing.require
      Tree.tableConstant rest

end

/-- The text stands for a constant. -/
def checkConstant (cs : List Char) : Except Flaw Unit :=
  match Tree.ofText cs with
  | .ok tree => discard tree.constant
  | .error error => .error (.misread error)

end CodeMetrics.Expression
