import CodeMetrics.Fault
import CodeMetrics.Text.Case
import CodeMetrics.Text.Line
import CodeMetrics.Text.Snippet

/-!
# Kinds of lexemes

Lexers name the pieces they find by paths: each component narrows the kind before it, and a kind
lies under every path that begins its own. Three names stand for other paths when they come first.
A caller can also go from a kind to its members, such as the kind above it, and ends up at a kind
or at something else.
-/

namespace CodeMetrics

/-- A path below the root kind; the root itself is empty. -/
structure Kind where
  path : List String
  deriving DecidableEq, Repr

def Kind.root : Kind := ⟨[]⟩

/-- The kind of a name below a kind. Three names below the root stand for others. -/
def Kind.child (kind : Kind) (name : String) : Kind :=
  match kind.path, name with
  | [], "Token" => .root
  | [], "String" => ⟨["Literal", "String"]⟩
  | [], "Number" => ⟨["Literal", "Number"]⟩
  | path, name => ⟨path ++ [name]⟩

/-- The kind above; nothing is above the root. -/
def Kind.parent? (kind : Kind) : Option Kind :=
  if kind.path.isEmpty then none else some ⟨kind.path.dropLast⟩

/-- The kind of a path written with dots; the empty text is the root. -/
def Kind.ofDotted (text : String) : Kind :=
  if text.isEmpty then .root else (Text.pieces '.' text).foldl Kind.child .root

/-! ## Members -/

/-- What a caller's path leads to. -/
inductive Member where
  | kind (kind : Kind)
  /-- Something else, by the name of its type. -/
  | thing (type : String)
  /-- A type, by its name. -/
  | type (name : String)
  deriving DecidableEq, Repr

namespace Member

/-- The members of everything, by the names of their types. -/
def universal : List (String × String) :=
  (["__delattr__", "__eq__", "__ge__", "__getattribute__", "__gt__", "__hash__", "__init__",
    "__le__", "__lt__", "__ne__", "__repr__", "__setattr__", "__str__"].map
      fun name => (name, "method-wrapper")) ++
  ["__dir__", "__format__", "__getstate__", "__init_subclass__", "__new__", "__reduce__",
    "__reduce_ex__", "__sizeof__", "__subclasshook__"].map
      (fun name => (name, "builtin_function_or_method")) ++
  [("__doc__", "str")]

/-- The members of a kind that are no kinds, by the names of their types. -/
def ofKind : List (String × String) :=
  [("subtypes", "set"), ("split", "function"), ("count", "builtin_function_or_method"),
   ("index", "builtin_function_or_method"), ("__doc__", "NoneType"), ("__dict__", "dict"),
   ("__module__", "str"), ("__add__", "method-wrapper"), ("__getitem__", "method-wrapper"),
   ("__iter__", "method-wrapper"), ("__len__", "method-wrapper"), ("__mul__", "method-wrapper"),
   ("__rmul__", "method-wrapper"), ("__contains__", "function"), ("__copy__", "function"),
   ("__deepcopy__", "function"), ("__getattr__", "function"), ("__init__", "function"),
   ("__repr__", "function"), ("__class_getitem__", "builtin_function_or_method"),
   ("__getnewargs__", "builtin_function_or_method")] ++ universal

/-- The name of the type of kinds. -/
def kindType : String := "_TokenType"

/-- A step of a path. A name that starts with a capital letter narrows a kind. -/
def step : Member → String → Except Fault Member
  | .kind here, "parent" => .ok (here.parent?.elim (.thing "NoneType") .kind)
  | .kind _, "__class__" => .ok (.type kindType)
  | .kind here, name =>
      if name.toList.head?.any Text.isCapital then .ok (.kind (here.child name))
      else match ofKind.lookup name with
        | some found => .ok (.thing found)
        | none => .error (.lacks kindType name)
  | .thing here, "__class__" => .ok (.type here)
  | .thing here, name =>
      match universal.lookup name with
      | some found => .ok (.thing found)
      | none => .error (.lacks here name)
  | .type _, "__class__" => .ok (.type "type")
  | .type here, name =>
      match universal.lookup name with
      | some found => .ok (.thing found)
      | none => .error (.typeLacks here name)

/-- What is no kind lies under no kind, and so is as good as the root. -/
def asKind : Member → Kind
  | .kind found => found
  | .thing _ | .type _ => .root

end Member

/-- The kind that a caller names. -/
def Kind.require (text : String) : Except Fault Kind := do
  if text.isEmpty then return .root
  return (← (Text.pieces '.' text).foldlM Member.step (.kind .root)).asKind

/-- The kind is the other one, or narrower. -/
def Kind.isUnder (kind other : Kind) : Bool := other.path.isPrefixOf kind.path

namespace Kind

def comment : Kind := ⟨["Comment"]⟩

def preprocessor : Kind := ⟨["Comment", "Preproc"]⟩

def multilineComment : Kind := ⟨["Comment", "Multiline"]⟩

def name : Kind := ⟨["Name"]⟩

def builtin : Kind := ⟨["Name", "Builtin"]⟩

def literal : Kind := ⟨["Literal"]⟩

def number : Kind := ⟨["Literal", "Number"]⟩

def docstring : Kind := ⟨["Literal", "String", "Doc"]⟩

def heredoc : Kind := ⟨["Literal", "String", "Heredoc"]⟩

def regex : Kind := ⟨["Literal", "String", "Regex"]⟩

def keyword : Kind := ⟨["Keyword"]⟩

def operator : Kind := ⟨["Operator"]⟩

def punctuation : Kind := ⟨["Punctuation"]⟩

def text : Kind := ⟨["Text"]⟩

def whitespace : Kind := ⟨["Text", "Whitespace"]⟩

end Kind

/-- A piece of source text as a lexer names it. -/
structure Lexeme where
  kind : Kind
  text : Snippet
  deriving DecidableEq, Repr

end CodeMetrics
