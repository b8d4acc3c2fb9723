import CodeMetrics.Expression.Tree
import CodeMetrics.Expression.Word

/-!
# Parsers

A parser reads words from a place on. It finds something, or does not, in which case another one
is tried from the same place, or it finds an error, which ends everything. What most rules found at
a place is remembered, and taken as it is when the rule is tried there again.

Expressions are read twice: once plainly, and when that fails once more by parsers that look for
the reason.
-/

namespace CodeMetrics.Expression

inductive Rule where
  | expression
  | named
  | assigned
  | starred
  | starredList
  | disjunction
  | conjunction
  | inversion
  | bitOr
  | bitXor
  | bitAnd
  | shift
  | sum
  | term
  | factor
  | awaited
  | primary
  | arguments
  | quotations
  | targets
  | target
  | plainTarget
  | targetOwner
  deriving DecidableEq, Repr

inductive Outcome (α : Type) where
  | found (value : α)
  | absent
  | wrong (error : Error)

/-- What a rule found, with the place behind it. -/
structure Memory where
  rule : Rule
  result : Option (Tree × Nat)

structure Progress where
  place : Nat
  /-- The furthest place that was looked at. -/
  furthest : Nat
  /-- What rules found, by the place where they were tried. -/
  memories : Array (List Memory)

/-- Nothing is read of so many words. -/
def Progress.start (size : Nat) : Progress := ⟨0, 0, Array.replicate (size + 1) []⟩

structure Source where
  words : Words
  /-- Whether parsers look for reasons. -/
  seeksReasons : Bool
  /-- Reads an expression that stands inside a text. -/
  readInside : List Char → Except Error Unit

def Parser (α : Type) : Type := Source → Progress → Outcome α × Progress

namespace Parser

protected def pure {α : Type} (a : α) : Parser α := fun _ progress => (.found a, progress)

protected def bind {α β : Type} (p : Parser α) (next : α → Parser β) : Parser β :=
  fun source progress =>
    match p source progress with
    | (.found a, progress) => next a source progress
    | (.absent, progress) => (.absent, progress)
    | (.wrong error, progress) => (.wrong error, progress)

instance : Monad Parser where
  pure := Parser.pure
  bind := Parser.bind

def absent {α : Type} : Parser α := fun _ progress => (.absent, progress)

def wrong {α : Type} (error : Error) : Parser α := fun _ progress => (.wrong error, progress)

/-- The first parser that finds something, each tried from the same place. -/
def first {α : Type} : List (Parser α) → Parser α
  | [] => absent
  | p :: rest => fun source progress =>
      match p source progress with
      | (.absent, tried) => first rest source { tried with place := progress.place }
      | result => result

/-- What the first parser that finds something leads to. What follows is not tried any more. -/
def decide {α : Type} (cases : List (Parser (Parser α))) : Parser α := do
  (← first cases)

def maybe {α : Type} (p : Parser α) : Parser (Option α) :=
  first [some <$> p, Parser.pure none]

/-- The parser would find something here. Nothing is read. -/
def ahead {α : Type} (p : Parser α) : Parser Unit := fun source progress =>
  match p source progress with
  | (.found _, tried) => (.found (), { tried with place := progress.place })
  | (.absent, tried) => (.absent, { tried with place := progress.place })
  | (.wrong error, tried) => (.wrong error, tried)

/-- The parser would find nothing here. -/
def notAhead {α : Type} (p : Parser α) : Parser Unit := fun source progress =>
  match p source progress with
  | (.found _, tried) => (.absent, { tried with place := progress.place })
  | (.absent, tried) => (.found (), { tried with place := progress.place })
  | (.wrong error, tried) => (.wrong error, tried)

/-- What the parser finds one after the other; `fuel` bounds the repetitions. -/
def manyFrom {α : Type} (p : Parser α) : Nat → Parser (List α)
  | 0 => Parser.pure []
  | fuel + 1 => do
      match ← maybe p with
      | none => return []
      | some a => return a :: (← manyFrom p fuel)

/-- The number of words. -/
def size : Parser Nat := fun source progress => (.found source.words.words.size, progress)

def many {α : Type} (p : Parser α) : Parser (List α) := do manyFrom p (← size)

/-- What comes of a beginning when the parser goes on from it as often as it can. -/
def followFrom {α : Type} (next : α → Parser α) : Nat → α → Parser α
  | 0, begun => Parser.pure begun
  | fuel + 1, begun => do
      match ← maybe (next begun) with
      | none => return begun
      | some longer => followFrom next fuel longer

def follow {α : Type} (next : α → Parser α) (begun : α) : Parser α := do
  followFrom next (← size) begun

def many1 {α : Type} (p : Parser α) : Parser (List α) := do return (← p) :: (← many p)

/-- The next word. Reading on where the words break off is an error. -/
def word : Parser Word := fun source progress =>
  match source.words.words[progress.place]?, source.words.broken with
  | some word, _ =>
      let furthest := max progress.furthest progress.place
      (.found word, { progress with place := progress.place + 1, furthest := furthest })
  | none, some broken => (.wrong broken.error, progress)
  | none, none => (.absent, progress)

def shape (expected : Shape) : Parser Unit := do
  if (← word).shape = expected then return () else absent

def mark (text : String) : Parser Unit := shape (.mark text)

def keyword (text : String) : Parser Unit := shape (.keyword text)

def name : Parser String := do
  match (← word).shape with
  | .name text => return text
  | _ => absent

/-- What the parser finds, with commas in between. -/
def separated {α : Type} (p : Parser α) : Parser (List α) := do
  return (← p) :: (← many do mark ","; p)

/-- The last word that was read. -/
def lastWord : Parser Word := fun source progress =>
  match source.words.words[progress.place - 1]? with
  | some word => (.found word, progress)
  | none => (.absent, progress)

/-- A check that may read expressions inside texts. -/
def check (p : (List Char → Except Error Unit) → Except Error Unit) : Parser Unit :=
  fun source progress =>
    match p source.readInside with
    | .ok _ => (.found (), progress)
    | .error error => (.wrong error, progress)

/-- A parser for the second reading only. -/
def reason {α : Type} (p : Parser α) : Parser α := fun source progress =>
  if source.seeksReasons then p source progress else (.absent, progress)

/-- The parser without looking for reasons. -/
def plainly {α : Type} (p : Parser α) : Parser α := fun source progress =>
  p { source with seeksReasons := false } progress

/-- The parser of a rule, which takes what is remembered. -/
def remembered (rule : Rule) (p : Unit → Parser Tree) : Parser Tree := fun source progress =>
  match (progress.memories.getD progress.place []).find? fun memory => memory.rule == rule with
  | some memory =>
      match memory.result with
      | some (tree, place) => (.found tree, { progress with place := place })
      | none => (.absent, progress)
  | none =>
      let remember (result : Option (Tree × Nat)) (after : Progress) : Progress :=
        { after with memories := after.memories.modify progress.place (⟨rule, result⟩ :: ·) }
      match p () source progress with
      | (.found tree, after) => (.found tree, remember (some (tree, after.place)) after)
      | (.absent, after) => (.absent, remember none after)
      | (.wrong error, after) => (.wrong error, after)

end Parser

end CodeMetrics.Expression
