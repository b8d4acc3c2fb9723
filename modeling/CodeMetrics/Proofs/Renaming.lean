import CodeMetrics.Proofs.Analysis

/-!
# Analyses up to renaming

An analysis asks of a text whether it is blank, and whether it is the same as another text of its
role. So tokens can be renamed as long as blank texts stay blank and others do not become so, and
different texts of one role stay different: the counts are the same ones, and with them all metrics
and every report that there are none.

The two roles are renamed apart. A text that operates and a text that is operated on can become the
same, or have been the same before, for there is a vocabulary for each role.

Results:
1. `textsOf_rename`: the texts of a role are renamed one by one.
2. `card_map_of_injOn`: as many different texts as before.
3. `get_rename`, `record_congr`: the counts stay, and the metrics go by them.
4. `analyze_renamed`: the analysis of renamed tokens.
-/

namespace CodeMetrics

/-- What the texts of each role are called instead. -/
structure Renaming where
  operator : Snippet → Snippet
  operand : Snippet → Snippet

namespace Renaming

/-- Texts that do not count keep their names. -/
def ofRole (names : Renaming) : Role → Snippet → Snippet
  | .operator => names.operator
  | .operand => names.operand
  | .ignored => id

def token (names : Renaming) (policy : Policy) (token : Token) : Token :=
  { token with text := names.ofRole (policy.roleOf token.kind) token.text }

/-- The names tell of the texts what an analysis asks of them. -/
structure Keeps (names : Renaming) (policy : Policy) (tokens : List Token) : Prop where
  operator_blank : ∀ text, (names.operator text).allBlank = text.allBlank
  operand_blank : ∀ text, (names.operand text).allBlank = text.allBlank
  operator_injOn : Set.InjOn names.operator { text | text ∈ textsOf policy .operator tokens }
  operand_injOn : Set.InjOn names.operand { text | text ∈ textsOf policy .operand tokens }

variable {names : Renaming} {policy : Policy} {tokens : List Token}

theorem Keeps.blank (keeps : names.Keeps policy tokens) (role : Role) (text : Snippet) :
    (names.ofRole role text).allBlank = text.allBlank := by
  cases role with
  | operator => exact keeps.operator_blank text
  | operand => exact keeps.operand_blank text
  | ignored => rfl

/-! ## Texts -/

/-- A token counts for the role it counted for. -/
theorem Keeps.countsFor_iff (keeps : names.Keeps policy tokens) {role : Role} {token : Token} :
    (names.token policy token).CountsFor policy role ↔ token.CountsFor policy role := by
  unfold Token.CountsFor
  rw [Renaming.token, keeps.blank]

/-- The texts of a role are renamed one by one, and nothing comes to them or is lost. -/
theorem Keeps.textsOf_rename (keeps : names.Keeps policy tokens) (role : Role) :
    textsOf policy role (tokens.map (names.token policy)) =
      (textsOf policy role tokens).map (names.ofRole role) := by
  unfold textsOf
  rw [List.filter_map, List.map_map, List.map_map]
  have same : ((fun token : Token => decide (token.CountsFor policy role)) ∘
      names.token policy) = fun token => decide (token.CountsFor policy role) := by
    funext token
    exact decide_eq_decide.2 keeps.countsFor_iff
  rw [same]
  apply List.map_congr_left
  intro token member
  -- Only tokens of the role are left, so that it is the function of the role that renames them.
  have counts := of_decide_eq_true (List.mem_filter.1 member).2
  simp only [Function.comp_apply, Renaming.token, counts.2]

/-! ## Counts -/

/-- A function that keeps different texts apart leaves as many of them. -/
theorem card_map_of_injOn {rename : Snippet → Snippet} {texts : List Snippet}
    (injective : Set.InjOn rename { text | text ∈ texts }) :
    (texts.map rename).toFinset.card = texts.toFinset.card := by
  have image : (texts.map rename).toFinset = texts.toFinset.image rename := by
    ext text
    simp
  rw [image]
  apply Finset.card_image_of_injOn
  intro text member other memberOther equal
  exact injective (List.mem_toFinset.1 member) (List.mem_toFinset.1 memberOther) equal

theorem Keeps.get_rename (keeps : names.Keeps policy tokens) (c : Count) :
    (Tally.ofTokens policy (tokens.map (names.token policy))).get c =
      (Tally.ofTokens policy tokens).get c := by
  obtain ⟨operators, operands, distinctOperators, distinctOperands⟩ := get_ofTokens policy tokens
  obtain ⟨operators', operands', distinctOperators', distinctOperands'⟩ :=
    get_ofTokens policy (tokens.map (names.token policy))
  rw [keeps.textsOf_rename] at operators' operands' distinctOperators' distinctOperands'
  cases c with
  | operators => rw [operators', operators, List.length_map]
  | operands => rw [operands', operands, List.length_map]
  | distinctOperators =>
      rw [distinctOperators', distinctOperators]
      exact card_map_of_injOn keeps.operator_injOn
  | distinctOperands =>
      rw [distinctOperands', distinctOperands]
      exact card_map_of_injOn keeps.operand_injOn

end Renaming

/-! ## Metrics -/

/-- Tallies with the same counts have the same metrics, or the same problem. -/
theorem Tally.record_congr {tally other : Tally} (same : ∀ c, tally.get c = other.get c)
    (source : Option String) :
    (tally.run source).map Run.record = (other.run source).map Run.record := by
  have operators : tally.operators.total = other.operators.total := same .operators
  have operands : tally.operands.total = other.operands.total := same .operands
  have distinctOperators : tally.operators.vocabulary.size = other.operators.vocabulary.size :=
    same .distinctOperators
  have distinctOperands : tally.operands.vocabulary.size = other.operands.vocabulary.size :=
    same .distinctOperands
  have counts : Counts.ofTally tally = Counts.ofTally other := by
    unfold Counts.ofTally
    rw [operators, operands, distinctOperators, distinctOperands]
  unfold Tally.run
  rw [counts]
  cases (Counts.ofTally other).derive with
  | error problem => rfl
  | ok measures =>
      apply congrArg Except.ok
      apply List.map_congr_left
      intro metric _
      cases metric with
      | count c => simp only [Run.get, same]
      | derived d => rfl

/-- Renamed tokens have the metrics they had, all sixteen of them, or the analysis is stopped by the
problem that stopped it before, with the same reason and the same counts. What is logged is the same
as well. -/
theorem analyze_renamed {policy : Policy} {tokens : List Token} {names : Renaming}
    (keeps : names.Keeps policy tokens) (source : Option String) :
    let before := analyze policy source (some tokens)
    let after := analyze policy source (some (tokens.map (names.token policy)))
    after.outcome.map Run.record = before.outcome.map Run.record ∧
      after.events = before.events := by
  intro before after
  constructor
  · simp only [before, after, analyze_outcome]
    exact Tally.record_congr keeps.get_rename source
  · simp only [before, after, analyze, analyzeTokens, keeps.get_rename]
    rfl

/-- Names are exchanged, and an operator takes one of them. -/
theorem analyze_renamed_exchanged :
    let x := Snippet.ofString "x"
    let y := Snippet.ofString "y"
    let plus := Snippet.ofString "+"
    let names : Renaming :=
      ⟨fun text => if text = plus then x else text,
        fun text => if text = x then y else if text = y then x else text⟩
    let tokens : List Token := [⟨.symbol, x⟩, ⟨.operator, plus⟩, ⟨.symbol, y⟩, ⟨.symbol, x⟩]
    let exchanged : List Token := [⟨.symbol, y⟩, ⟨.operator, x⟩, ⟨.symbol, x⟩, ⟨.symbol, y⟩]
    names.Keeps .standard tokens ∧
    (analyze .standard none (some exchanged)).outcome.map Run.record =
      (analyze .standard none (some tokens)).outcome.map Run.record := by
  intro x y plus names tokens exchanged
  have keeps : names.Keeps .standard tokens := {
    operator_blank := by
      intro text
      simp only [names]
      split_ifs with same
      · rw [same]
        decide
      · rfl
    operand_blank := by
      intro text
      simp only [names]
      split_ifs with first second
      · rw [first]
        decide
      · rw [second]
        decide
      · rfl
    operator_injOn := by
      have texts : textsOf .standard .operator tokens = [plus] := by decide
      simp [texts]
    operand_injOn := by
      have texts : textsOf .standard .operand tokens = [x, y, x] := by decide
      rw [texts]
      intro text member other memberOther equal
      have different : x ≠ y := by decide
      simp only [List.mem_cons, List.not_mem_nil, or_false, Set.mem_ofPred_eq] at member memberOther
      rcases member with rfl | rfl | rfl <;> rcases memberOther with rfl | rfl | rfl <;>
        simp_all [names] }
  exact ⟨keeps, (analyze_renamed keeps none).1⟩

end CodeMetrics
