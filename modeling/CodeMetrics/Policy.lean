import CodeMetrics.Problem
import CodeMetrics.Token

/-!
# Policies

A policy gives every category its role in the counts. It is total: overriding some categories
leaves the others as they were, and a policy written out from nothing has to name them all.
-/

namespace CodeMetrics

inductive Role where
  | operator
  | operand
  | ignored
  deriving DecidableEq, Repr

def Role.name : Role → String
  | .operator => "operator"
  | .operand => "operand"
  | .ignored => "ignored"

/-- The role a setting names; only its exact text does. -/
def Role.ofValue? : Value → Option Role
  | .text "operator" => some .operator
  | .text "operand" => some .operand
  | .text "ignored" => some .ignored
  | _ => none

/-- A value that could not be taken, as it is written inside a list. -/
def writtenOr (value : Value) (fault : String → Fault) : Fault :=
  if value.tooLong then .tooLongToWrite else fault value.written

/-- The category that a caller names. -/
def Category.require (name : Value) : Except Fault Category :=
  let found := match name with
    | .text name => Category.ofName? name
    | _ => none
  match found with
  | some category => .ok category
  | none => .error (writtenOr name .noCategory)

/-- The role that a caller names. -/
def Role.require (name : Value) : Except Fault Role :=
  match Role.ofValue? name with
  | some role => .ok role
  | none => .error (writtenOr name .noRole)

structure Policy where
  roleOf : Category → Role

/-- Names and literals are operands, text that is no code is ignored, and all else operates. -/
def Policy.standard : Policy where
  roleOf
    | .number | .symbol | .heredoc | .data | .quote | .regex => .operand
    | .comment | .documentation | .endMarker | .whitespace => .ignored
    | .keyword | .operator | .punctuation | .structural | .other => .operator

/-- The policy with one category in another role. -/
def Policy.assign (policy : Policy) (category : Category) (role : Role) : Policy where
  roleOf c := if c = category then role else policy.roleOf c

/-- The category a caller means: one of them, or the one of a name. -/
inductive CategoryKey where
  | member (category : Category)
  | named (name : String)
  deriving DecidableEq, Repr

def CategoryKey.read : CategoryKey → Except Problem Category
  | .member category => .ok category
  | .named name =>
      match Category.ofName? name with
      | some category => .ok category
      | none => .error (.invalidSetting "roles" (.text name) "unknown token category")

/-- The role a caller means: one of them, or the one that a value names. -/
inductive RoleKey where
  | member (role : Role)
  | named (value : Value)
  deriving Repr

/-- The role for a category. The report says which category it was meant for. -/
def RoleKey.read (category : Category) : RoleKey → Except Problem Role
  | .member role => .ok role
  | .named value =>
      match Role.ofValue? value with
      | some role => .ok role
      | none => .error (.invalidSetting ("roles." ++ category.name) value "unknown role")

/-- An entry of a table of roles. -/
structure Override where
  key : CategoryKey
  role : RoleKey
  deriving Repr

/-- What an entry assigns. A category that is not known is reported before its role is looked
at. -/
def Override.read (entry : Override) : Except Problem (Category × Role) := do
  let category ← entry.key.read
  let role ← entry.role.read category
  return (category, role)

/-- The policy with the entries assigned one after the other. The first bad entry is reported. -/
def Policy.reassign (policy : Policy) : List Override → Except Problem Policy
  | [] => .ok policy
  | entry :: rest => do
      let (category, role) ← entry.read
      (policy.assign category role).reassign rest

/-- An entry of names, as settings have them. -/
def Override.ofEntry (entry : String × Value) : Override := ⟨.named entry.1, .named entry.2⟩

/-- The policy with the entries of a table of names. -/
def Policy.override (policy : Policy) (roles : List (String × Value)) : Except Problem Policy :=
  policy.reassign (roles.map Override.ofEntry)

/-- The entries of a table of roles that a caller writes out. -/
def Policy.requireEntries (roles : List (String × Value)) :
    Except Fault (List (Category × Role)) :=
  roles.mapM fun (key, value) => do
    return (← Category.require (.text key), ← Role.require value)

/-- The policy a complete table of roles describes. Categories without a role are reported
together. -/
def Policy.ofTable (roles : List (Category × Role)) : Except Problem Policy :=
  match Category.all.filter fun category => (roles.lookup category).isNone with
  | [] => .ok (roles.foldl (fun policy entry => policy.assign entry.1 entry.2) Policy.standard)
  | missing =>
      let names := String.intercalate ", " (missing.map Category.name)
      .error (.invalidSetting "roles" (.text names) "categories without a role")

end CodeMetrics
