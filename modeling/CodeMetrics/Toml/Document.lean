import CodeMetrics.Entries
import CodeMetrics.Toml.Moment

/-!
# TOML documents

A document is read statement by statement into one table. What a statement may still change is
kept in marks: the path of an inline table or an array is closed for good with everything below it,
and a path that a header or a dotted key has opened is not opened by a header again.
-/

namespace CodeMetrics.Toml

/-- The entries of a table, in the order they were written. -/
abbrev Table := Entries Value

/-- The table with `change` done to the table at a path. Tables on the way are made where there
are none; a list on the way stands for its last item, when lists are entered at all. -/
def Table.change (enterLists : Bool) (change : Table → Option Table) (table : Table) :
    List String → Option Table
  | [] => change table
  | name :: path =>
      match table.lookup name with
      | none => do
          let inner ← Table.change enterLists change [] path
          return table.put name (.table inner)
      | some (.table inner) => do
          let inner ← Table.change enterLists change inner path
          return table.put name (.table inner)
      | some (.list items) =>
          match enterLists, items.getLast? with
          | true, some (.table inner) => do
              let inner ← Table.change enterLists change inner path
              return table.put name (.list (items.dropLast ++ [.table inner]))
          | _, _ => none
      | some _ => none

/-- A new key in the table. -/
def Table.add (name : String) (value : Value) (table : Table) : Option Table :=
  if (table.lookup name).isSome then none else some (table.put name value)

/-- One more empty table at the end of the list under a key. -/
def Table.append (name : String) (table : Table) : Option Table :=
  match table.lookup name with
  | none => some (table.put name (.list [.table []]))
  | some (.list items) => some (table.put name (.list (items ++ [.table []])))
  | some _ => none

/-- What may not happen to a path any more. -/
inductive Mark where
  /-- It is closed, with everything below it. -/
  | closed
  /-- No header may open it again. -/
  | opened
  deriving DecidableEq, Repr

abbrev Marks := List (List String × Mark)

/-- The path or one above it is closed. The document itself never is. -/
def Marks.isClosed (marks : Marks) (path : List String) : Bool :=
  marks.any fun mark => mark.2 == .closed && mark.1.isPrefixOf path

def Marks.isOpened (marks : Marks) (path : List String) : Bool :=
  !path.isEmpty && marks.contains (path, .opened)

/-- The marks without those of the path and all below it. -/
def Marks.free (marks : Marks) (path : List String) : Marks :=
  marks.filter fun mark => !path.isPrefixOf mark.1

/-- Whether a value closes the path it is put under. -/
def isContainer : Value → Bool
  | .list _ | .table _ => true
  | _ => false

/-- A last part and the parts before it. -/
def splitLast (parts : List String) : List String × String :=
  (parts.dropLast, parts.getLastD "")

/-- A step that can be refused. -/
def orMalformed {α : Type} : Option α → Except Error α
  | some a => .ok a
  | none => .error .malformed

/-! ## Values -/

/-- Blanks, breaks and comments between the items of an array; `fuel` bounds the comments. -/
def skipBetween (fuel : Nat) (cs : List Char) : Except Error (List Char) :=
  match fuel, cs.dropWhile isBlankOrBreak with
  | fuel + 1, '#' :: rest => do skipBetween fuel (← skipComment ('#' :: rest))
  | _, rest => .ok rest

mutual

/-- A value; `fuel` bounds the characters left. -/
def value (fuel : Nat) (cs : List Char) : Except Error (Value × List Char) :=
  match fuel with
  | 0 => .error .malformed
  | fuel + 1 =>
      match string? cs with
      | some (.ok (text, rest)) => .ok (.text (String.ofList text), rest)
      | some (.error error) => .error error
      | none =>
          match cs with
          | 't' :: 'r' :: 'u' :: 'e' :: rest => .ok (.bool true, rest)
          | 'f' :: 'a' :: 'l' :: 's' :: 'e' :: rest => .ok (.bool false, rest)
          | '[' :: rest => do
              let (items, rest) ← arrayItems fuel (← skipBetween rest.length rest)
              return (.list items, rest)
          | '\x7b' :: rest =>
              match skipBlanks rest with
              | '\x7d' :: rest => .ok (.table [], rest)
              | rest => do
                  let (entries, rest) ← inlineEntries fuel [] [] rest
                  return (.table entries, rest)
          | cs =>
              match moment? cs, number? cs with
              | some (.ok (moment, rest)), _ => .ok (.moment moment, rest)
              | some (.error error), _ => .error error
              | none, some read => read
              | none, none => .error .malformed

/-- The items of an array up to its closing bracket; a comma may stand behind the last one. -/
def arrayItems (fuel : Nat) (cs : List Char) : Except Error (List Value × List Char) :=
  match fuel, cs with
  | _, ']' :: rest => .ok ([], rest)
  | 0, _ => .error .malformed
  | fuel + 1, cs => do
      let (item, rest) ← value fuel cs
      match ← skipBetween rest.length rest with
      | ']' :: rest => return ([item], rest)
      | ',' :: rest =>
          let (items, rest) ← arrayItems fuel (← skipBetween rest.length rest)
          return (item :: items, rest)
      | _ => .error .malformed

/-- The entries of an inline table behind those in `table`, up to its closing brace. -/
def inlineEntries (fuel : Nat) (table : Table) (marks : Marks) (cs : List Char) :
    Except Error (Table × List Char) :=
  match fuel with
  | 0 => .error .malformed
  | fuel + 1 => do
      let (path, rest) ← key cs
      match rest with
      | '=' :: rest =>
          let (item, rest) ← value fuel (skipBlanks rest)
          if marks.isClosed path then .error .malformed
          else
            let (parents, last) := splitLast path
            let table ← orMalformed (Table.change false (Table.add last item) table parents)
            match skipBlanks rest with
            | '\x7d' :: rest => return (table, rest)
            | ',' :: rest =>
                let marks := if isContainer item then (path, .closed) :: marks else marks
                inlineEntries fuel table marks (skipBlanks rest)
            | _ => .error .malformed
      | _ => .error .malformed

end

/-! ## Statements -/

/-- A document under way. -/
structure Document where
  table : Table
  marks : Marks
  /-- Marks that hold from the next header on. -/
  pending : Marks
  /-- The path of the last header. -/
  header : List String

def Document.empty : Document := ⟨[], [], [], []⟩

/-- A path that is put under a header, with the paths of the tables on its way. -/
def onTheWay (header path : List String) : List (List String) :=
  (List.range path.length).drop 1 |>.map fun i => header ++ path.take i

/-- A key with its value. -/
def Document.keyValue (document : Document) (cs : List Char) :
    Except Error (Document × List Char) := do
  let (path, rest) ← key cs
  match rest with
  | '=' :: rest =>
      let (item, rest) ← value (rest.length + 1) (skipBlanks rest)
      let between := onTheWay document.header path
      let (parents, last) := splitLast path
      let parents := document.header ++ parents
      if between.any document.marks.isOpened || document.marks.isClosed parents then
        .error .malformed
      else
        let table ← orMalformed (Table.change true (Table.add last item) document.table parents)
        let closed : Marks :=
          if isContainer item then [(document.header ++ path, .closed)] else []
        return ({ document with
          table := table
          marks := closed ++ document.marks
          pending := between.map (·, .opened) ++ document.pending }, rest)
  | _ => .error .malformed

/-- A header in single brackets, which are read already. -/
def Document.tableHeader (document : Document) (cs : List Char) :
    Except Error (Document × List Char) := do
  let (path, rest) ← key (skipBlanks cs)
  if document.marks.isOpened path || document.marks.isClosed path then .error .malformed
  else
    let table ← orMalformed (Table.change true some document.table path)
    match rest with
    | ']' :: rest =>
        return ({ document with
          table := table
          marks := (path, .opened) :: document.marks
          header := path }, rest)
    | _ => .error .malformed

/-- A header in double brackets, which are read already: what it opens is new, so that its tables
may be opened again. -/
def Document.listHeader (document : Document) (cs : List Char) :
    Except Error (Document × List Char) := do
  let (path, rest) ← key (skipBlanks cs)
  if document.marks.isClosed path then .error .malformed
  else
    let (parents, last) := splitLast path
    let table ← orMalformed (Table.change true (Table.append last) document.table parents)
    match rest with
    | ']' :: ']' :: rest =>
        return ({ document with
          table := table
          marks := (path, .opened) :: document.marks.free path
          header := path }, rest)
    | _ => .error .malformed

def Document.settle (document : Document) : Document :=
  { document with marks := document.pending ++ document.marks, pending := [] }

/-- A statement at the start of a line, blanks aside. -/
def Document.statement (document : Document) (cs : List Char) :
    Except Error (Document × List Char) :=
  match cs with
  | '[' :: '[' :: rest => document.settle.listHeader rest
  | '[' :: rest => document.settle.tableHeader rest
  | '#' :: _ => .ok (document, cs)
  | c :: _ =>
      if isKeyChar c || c == '\x22' || c == '\x27' then document.keyValue cs
      else .error .malformed
  | [] => .ok (document, [])

/-- The document with the statements that follow, one on a line; `fuel` bounds the lines. -/
def Document.read (fuel : Nat) (document : Document) (cs : List Char) : Except Error Table :=
  match fuel, skipBlanks cs with
  | _, [] => .ok document.table
  | 0, _ => .error .malformed
  | fuel + 1, '\n' :: rest => document.read fuel rest
  | fuel + 1, cs => do
      let (document, rest) ← document.statement cs
      match ← skipComment (skipBlanks rest) with
      | [] => return document.table
      | '\n' :: rest => document.read fuel rest
      | _ => .error .malformed

/-- A carriage return before a line feed does not count. -/
def dropReturns : List Char → List Char
  | '\r' :: '\n' :: rest => '\n' :: dropReturns rest
  | c :: rest => c :: dropReturns rest
  | [] => []

/-- The table a document describes. -/
def read (cs : List Char) : Except Error Table :=
  Document.empty.read (cs.length + 1) (dropReturns cs)

end CodeMetrics.Toml
