import CodeMetrics.Policy

/-!
# Tallies

A tally counts the operators and the operands of a stream of tokens, and keeps the different texts
of each. It is taken in one pass over the tokens, and blank ones count for nothing. A tally knows
nothing of the order of the tokens: the texts stand in a vocabulary, which is ascending and so has
one form only.
-/

namespace CodeMetrics

/-- Ascending texts with one more in its place, unless it stands there already. -/
def insertText (text : Snippet) : List Snippet → List Snippet
  | [] => [text]
  | next :: rest =>
      if text < next then text :: next :: rest
      else if text = next then next :: rest
      else next :: insertText text rest

theorem mem_insertText {text other : Snippet} {texts : List Snippet} :
    other ∈ insertText text texts ↔ other = text ∨ other ∈ texts := by
  induction texts with
  | nil => simp [insertText]
  | cons next rest ih =>
      simp only [insertText]
      split
      · simp
      · split
        · simp_all
        · simp only [List.mem_cons, ih]
          exact or_left_comm

theorem insertText_pairwise_lt {text : Snippet} {texts : List Snippet}
    (ascending : texts.Pairwise (· < ·)) : (insertText text texts).Pairwise (· < ·) := by
  induction texts with
  | nil => simp [insertText]
  | cons next rest ih =>
      obtain ⟨least, ascendingRest⟩ := List.pairwise_cons.1 ascending
      simp only [insertText]
      split
      · rename_i before
        refine List.pairwise_cons.2 ⟨fun other member => ?_, ascending⟩
        cases List.mem_cons.1 member with
        | inl equal => exact equal ▸ before
        | inr later => exact Snippet.lt_trans before (least other later)
      · rename_i notBefore
        split
        · exact ascending
        · rename_i different
          refine List.pairwise_cons.2 ⟨fun other member => ?_, ih ascendingRest⟩
          cases mem_insertText.1 member with
          | inl equal => exact equal ▸ Snippet.lt_of_le_of_ne notBefore (Ne.symm different)
          | inr later => exact least other later

/-- Different texts, in the order of their code points. -/
structure Vocabulary where
  texts : List Snippet
  ascending : texts.Pairwise (· < ·)
  deriving DecidableEq, Repr

namespace Vocabulary

def empty : Vocabulary := ⟨[], .nil⟩

def insert (v : Vocabulary) (text : Snippet) : Vocabulary where
  texts := insertText text v.texts
  ascending := insertText_pairwise_lt v.ascending

def ofList (texts : List Snippet) : Vocabulary := texts.foldl insert empty

def size (v : Vocabulary) : Nat := v.texts.length

instance : Membership Snippet Vocabulary := ⟨fun v text => text ∈ v.texts⟩

end Vocabulary

/-- The occurrences of one role: how many, and which texts. -/
@[ext]
structure Occurrences where
  total : Nat
  vocabulary : Vocabulary
  deriving DecidableEq, Repr

def Occurrences.empty : Occurrences := ⟨0, .empty⟩

/-- One occurrence more. -/
def Occurrences.add (seen : Occurrences) (text : Snippet) : Occurrences :=
  ⟨seen.total + 1, seen.vocabulary.insert text⟩

@[ext]
structure Tally where
  operators : Occurrences
  operands : Occurrences
  deriving DecidableEq, Repr

namespace Tally

def empty : Tally := ⟨.empty, .empty⟩

/-- The tally with one token more. The policy says which role it counts for. -/
def count (policy : Policy) (tally : Tally) (token : Token) : Tally :=
  if token.text.allBlank then tally
  else match policy.roleOf token.kind with
    | .operator => { tally with operators := tally.operators.add token.text }
    | .operand => { tally with operands := tally.operands.add token.text }
    | .ignored => tally

def ofTokens (policy : Policy) (tokens : List Token) : Tally :=
  tokens.foldl (count policy) empty

end Tally

end CodeMetrics
