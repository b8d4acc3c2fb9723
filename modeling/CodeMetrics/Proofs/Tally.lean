import Mathlib.Data.Finset.Card
import Mathlib.Data.List.Sort
import CodeMetrics.Tally

/-!
# What a tally knows of its tokens

The pass over the tokens adds each text to the role that the policy gives it. So the tally of a
stream is known from two lists, the texts that operate and the texts that are operated on: their
lengths are the totals, and what stands in them are the vocabularies. The order of the tokens is
forgotten, and the tallies of two streams are all there is to know about the tally of both.

Results:
1. `Vocabulary.ext`: vocabularies of the same texts are equal.
2. `count_eq`, `foldl_count`: what one token and what the whole pass adds to a tally.
3. `ofTokens_eq`: the tally of a stream, from the texts of its roles.
4. `ofTokens_append`, `ofTokens_perm`: the tally of two streams, and of a stream in another order.
-/

namespace CodeMetrics

/-! ## Vocabularies -/

theorem Snippet.lt_irrefl (text : Snippet) : ¬ text < text := List.lt_irrefl text.points

namespace Vocabulary

theorem not_mem_empty (text : Snippet) : text ∉ empty := List.not_mem_nil

theorem mem_insert {v : Vocabulary} {text other : Snippet} :
    other ∈ v.insert text ↔ other = text ∨ other ∈ v :=
  mem_insertText

theorem mem_foldl_insert {texts : List Snippet} {v : Vocabulary} {other : Snippet} :
    other ∈ texts.foldl insert v ↔ other ∈ v ∨ other ∈ texts := by
  induction texts generalizing v with
  | nil => simp
  | cons text rest ih =>
      rw [List.foldl_cons, ih, mem_insert, List.mem_cons]
      exact or_assoc.trans or_left_comm

theorem mem_ofList {texts : List Snippet} {other : Snippet} :
    other ∈ ofList texts ↔ other ∈ texts := by
  rw [ofList, mem_foldl_insert]
  simp [not_mem_empty]

/-- A vocabulary has one form only. -/
theorem ext {v w : Vocabulary} (same : ∀ text, text ∈ v ↔ text ∈ w) : v = w := by
  have : Std.Irrefl (· < · : Snippet → Snippet → Prop) := ⟨Snippet.lt_irrefl⟩
  have : Std.Antisymm (· < · : Snippet → Snippet → Prop) :=
    ⟨fun a b first second => absurd (Snippet.lt_trans first second) (Snippet.lt_irrefl a)⟩
  have equal : v.texts = w.texts := v.ascending.eq_of_mem_iff w.ascending same
  cases v
  cases w
  cases equal
  rfl

/-- The texts as a set. -/
def toFinset (v : Vocabulary) : Finset Snippet := v.texts.toFinset

theorem mem_toFinset {v : Vocabulary} {text : Snippet} : text ∈ v.toFinset ↔ text ∈ v :=
  List.mem_toFinset

theorem size_eq_card (v : Vocabulary) : v.size = v.toFinset.card := by
  have different : v.texts.Nodup := by
    apply v.ascending.imp
    intro a b before equal
    subst equal
    exact Snippet.lt_irrefl a before
  exact (List.toFinset_card_of_nodup different).symm

theorem toFinset_ofList (texts : List Snippet) : (ofList texts).toFinset = texts.toFinset := by
  ext text
  rw [mem_toFinset, mem_ofList, List.mem_toFinset]

theorem size_ofList (texts : List Snippet) : (ofList texts).size = texts.toFinset.card := by
  rw [size_eq_card, toFinset_ofList]

theorem size_ofList_eq_zero {texts : List Snippet} : (ofList texts).size = 0 ↔ texts = [] := by
  rw [size_ofList, Finset.card_eq_zero, List.toFinset_eq_empty_iff]

/-- The texts of both. -/
def union (v w : Vocabulary) : Vocabulary := w.texts.foldl insert v

theorem mem_union {v w : Vocabulary} {text : Snippet} :
    text ∈ v.union w ↔ text ∈ v ∨ text ∈ w :=
  mem_foldl_insert

theorem toFinset_union (v w : Vocabulary) :
    (v.union w).toFinset = v.toFinset ∪ w.toFinset := by
  ext text
  rw [mem_toFinset, mem_union, Finset.mem_union, mem_toFinset, mem_toFinset]

theorem ofList_append (texts others : List Snippet) :
    ofList (texts ++ others) = (ofList texts).union (ofList others) := by
  apply ext
  intro text
  rw [mem_union, mem_ofList, mem_ofList, mem_ofList, List.mem_append]

end Vocabulary

/-! ## Occurrences -/

namespace Occurrences

/-- What the occurrences of some texts are, whatever their order. -/
def ofTexts (texts : List Snippet) : Occurrences := ⟨texts.length, .ofList texts⟩

def union (seen others : Occurrences) : Occurrences :=
  ⟨seen.total + others.total, seen.vocabulary.union others.vocabulary⟩

/-- The counter and the vocabulary go in step. -/
theorem foldl_add (texts : List Snippet) (seen : Occurrences) :
    texts.foldl add seen =
      ⟨seen.total + texts.length, texts.foldl Vocabulary.insert seen.vocabulary⟩ := by
  induction texts generalizing seen with
  | nil => rfl
  | cons text rest ih =>
      rw [List.foldl_cons, ih, List.foldl_cons, List.length_cons]
      simp only [add, Nat.add_assoc, Nat.add_comm 1]

theorem foldl_add_empty (texts : List Snippet) : texts.foldl add empty = ofTexts texts := by
  rw [foldl_add]
  exact congrArg (Occurrences.mk · _) (Nat.zero_add texts.length)

theorem ofTexts_append (texts others : List Snippet) :
    ofTexts (texts ++ others) = (ofTexts texts).union (ofTexts others) := by
  have total : (texts ++ others).length = texts.length + others.length := List.length_append
  have vocabulary := Vocabulary.ofList_append texts others
  exact Occurrences.ext total vocabulary

theorem ofTexts_perm {texts others : List Snippet} (reordered : texts.Perm others) :
    ofTexts texts = ofTexts others := by
  have total : texts.length = others.length := reordered.length_eq
  have vocabulary : Vocabulary.ofList texts = Vocabulary.ofList others := by
    apply Vocabulary.ext
    intro text
    rw [Vocabulary.mem_ofList, Vocabulary.mem_ofList]
    exact reordered.mem_iff
  exact Occurrences.ext total vocabulary

end Occurrences

/-! ## The texts of a role -/

/-- The token counts for the role: it is not blank, and the policy gives its category that role. -/
def Token.CountsFor (policy : Policy) (role : Role) (token : Token) : Prop :=
  token.text.allBlank = false ∧ policy.roleOf token.kind = role

instance (policy : Policy) (role : Role) (token : Token) :
    Decidable (token.CountsFor policy role) :=
  inferInstanceAs (Decidable (_ ∧ _))

/-- The texts of the tokens that count for the role, in the order of the stream. -/
def textsOf (policy : Policy) (role : Role) (tokens : List Token) : List Snippet :=
  (tokens.filter fun token => token.CountsFor policy role).map Token.text

theorem textsOf_append (policy : Policy) (role : Role) (tokens others : List Token) :
    textsOf policy role (tokens ++ others) =
      textsOf policy role tokens ++ textsOf policy role others := by
  rw [textsOf, List.filter_append, List.map_append]
  rfl

theorem textsOf_perm {policy : Policy} {role : Role} {tokens others : List Token}
    (reordered : tokens.Perm others) :
    (textsOf policy role tokens).Perm (textsOf policy role others) :=
  (reordered.filter _).map _

/-! ## The pass over the tokens -/

namespace Tally

def union (tally other : Tally) : Tally :=
  ⟨tally.operators.union other.operators, tally.operands.union other.operands⟩

/-- A tally with some texts added to each role. -/
def adding (tally : Tally) (operators operands : List Snippet) : Tally :=
  ⟨operators.foldl .add tally.operators, operands.foldl .add tally.operands⟩

/-- One token adds its text to the role it counts for, and nothing anywhere else. -/
theorem count_eq (policy : Policy) (tally : Tally) (token : Token) :
    tally.count policy token =
      tally.adding (textsOf policy .operator [token]) (textsOf policy .operand [token]) := by
  -- The two tests of the step are those of `CountsFor`, in the same order.
  cases blank : token.text.allBlank with
  | true => simp [count, textsOf, Token.CountsFor, adding, blank]
  | false =>
      cases role : policy.roleOf token.kind <;>
        simp [count, textsOf, Token.CountsFor, adding, blank, role]

/-- What the pass adds to a tally depends on the texts of the two roles only. -/
theorem foldl_count (policy : Policy) (tokens : List Token) (tally : Tally) :
    tokens.foldl (count policy) tally =
      tally.adding (textsOf policy .operator tokens) (textsOf policy .operand tokens) := by
  -- The tally is any tally: the rest of the tokens is added to one that is no longer empty.
  induction tokens generalizing tally with
  | nil => rfl
  | cons token rest ih =>
      have split (role : Role) :
          textsOf policy role (token :: rest) =
            textsOf policy role [token] ++ textsOf policy role rest :=
        textsOf_append policy role [token] rest
      rw [List.foldl_cons, ih, count_eq, split, split]
      simp only [adding, List.foldl_append]

theorem ofTokens_eq (policy : Policy) (tokens : List Token) :
    ofTokens policy tokens =
      ⟨.ofTexts (textsOf policy .operator tokens), .ofTexts (textsOf policy .operand tokens)⟩ := by
  rw [ofTokens, foldl_count, adding, empty, Occurrences.foldl_add_empty,
    Occurrences.foldl_add_empty]

theorem ofTokens_append (policy : Policy) (tokens others : List Token) :
    ofTokens policy (tokens ++ others) =
      (ofTokens policy tokens).union (ofTokens policy others) := by
  simp only [ofTokens_eq, textsOf_append, Occurrences.ofTexts_append, union]

theorem ofTokens_perm {policy : Policy} {tokens others : List Token}
    (reordered : tokens.Perm others) : ofTokens policy tokens = ofTokens policy others := by
  rw [ofTokens_eq, ofTokens_eq, Occurrences.ofTexts_perm (textsOf_perm reordered),
    Occurrences.ofTexts_perm (textsOf_perm reordered)]

end Tally

end CodeMetrics
