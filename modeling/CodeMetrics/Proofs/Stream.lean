import CodeMetrics.Lexeme.Stream
import CodeMetrics.Proofs.Tally

/-!
# What the pass over the lexemes keeps

A pass gives out tokens and holds back some text: the fragments of a symbol inside the code, and
the pieces behind a marker. What is out and what is held back are together all that was read. A
marker cuts the lexemes in two: what stands in front of it gives the tokens it would give alone,
and what follows it gives one token at most.

Results:
1. `step_symbol`, `step_marker`, `step_plain`: the three steps inside the code.
2. `step_text`, `tokens_text`: one step and the whole pass lose no text.
3. `tokensOf_text`: the tokens join to the text of the lexemes.
4. `tokensOf_append_marker`: the tokens of a stream with a marker in it.
5. `tally_of_marked`: what follows a marker does not count, or counts as one token.
-/

namespace CodeMetrics

/-! ## Text -/

namespace Snippet

theorem empty_append (a : Snippet) : empty ++ a = a := rfl

theorem append_empty (a : Snippet) : a ++ empty = a :=
  congrArg Snippet.mk (List.append_nil a.points)

theorem append_assoc (a b c : Snippet) : a ++ b ++ c = a ++ (b ++ c) :=
  congrArg Snippet.mk (List.append_assoc a.points b.points c.points)

theorem join_singleton (a : Snippet) : join [a] = a := append_empty a

end Snippet

/-- The text of some tokens, one behind the other. -/
def joinedText (tokens : List Token) : Snippet := .join (tokens.map Token.text)

theorem joinedText_append (tokens others : List Token) :
    joinedText (tokens ++ others) = joinedText tokens ++ joinedText others := by
  rw [joinedText, List.map_append, Snippet.join_append]
  rfl

theorem joinedText_flushSymbol (symbol : Option Snippet) :
    joinedText (flushSymbol symbol) = symbol.getD .empty := by
  cases symbol with
  | none => rfl
  | some text => exact Snippet.join_singleton text

/-! ## Steps -/

theorem Marker.category_ne_symbol (marker : Marker) : marker.category ≠ .symbol := by
  cases marker <;> decide

/-- What is no marker has a category that is no marker's. -/
theorem Lexeme.plainCategory_ne_marker (lexeme : Lexeme) (marker : Marker) :
    lexeme.plainCategory ≠ marker.category := by
  unfold plainCategory
  cases marker <;>
    simp only [Marker.category, ne_eq, ite_eq_iff, reduceCtorEq, and_false, or_self,
      not_false_eq_true]

theorem Lexeme.category_of_marker {lexeme : Lexeme} {marker : Marker}
    (marked : lexeme.marker? = some marker) : lexeme.category = marker.category := by
  rw [category, marked]

namespace Pass

theorem step_symbol {lexeme : Lexeme} (symbolic : lexeme.category = .symbol)
    (symbol : Option Snippet) :
    (code symbol).step lexeme = ([], code (some (symbol.getD .empty ++ lexeme.text))) :=
  if_pos symbolic

/-- A marker lets the symbol in front of it out, as the end of the lexemes would. -/
theorem step_marker {lexeme : Lexeme} {marker : Marker} (marked : lexeme.marker? = some marker)
    (symbol : Option Snippet) :
    (code symbol).step lexeme =
      (flushSymbol symbol ++ [⟨.endMarker, lexeme.text⟩], trailing marker.category #[]) := by
  have kind := Lexeme.category_of_marker marked
  simp only [step, kind, marked, if_neg marker.category_ne_symbol]

theorem step_plain {lexeme : Lexeme} (unmarked : lexeme.marker? = none)
    (notSymbolic : lexeme.category ≠ .symbol) (symbol : Option Snippet) :
    (code symbol).step lexeme =
      (flushSymbol symbol ++ [⟨lexeme.category, lexeme.text⟩], code none) := by
  simp only [step, unmarked, if_neg notSymbolic]

/-! ## No text is lost -/

/-- The text that was read and is not given out yet. -/
def held : Pass → Snippet
  | .code symbol => symbol.getD .empty
  | .trailing _ pieces => .join pieces.toList

/-- What a step lets out and what is held back behind it are what was held back in front of it
and the text of the lexeme. -/
theorem step_text (pass : Pass) (lexeme : Lexeme) :
    joinedText (pass.step lexeme).1 ++ (pass.step lexeme).2.held = pass.held ++ lexeme.text := by
  have letOut (symbol : Option Snippet) (kind : Category) :
      joinedText (flushSymbol symbol ++ [⟨kind, lexeme.text⟩]) ++ .empty =
        symbol.getD .empty ++ lexeme.text := by
    rw [Snippet.append_empty, joinedText_append, joinedText_flushSymbol]
    exact congrArg (symbol.getD .empty ++ ·) (Snippet.join_singleton lexeme.text)
  cases pass with
  | trailing category pieces =>
      show Snippet.join (pieces.push lexeme.text).toList = _
      rw [Array.toList_push, Snippet.join_append, Snippet.join_singleton]
      rfl
  | code symbol =>
      by_cases symbolic : lexeme.category = .symbol
      · rw [step_symbol symbolic]
        rfl
      · cases marked : lexeme.marker? with
        | some marker =>
            rw [step_marker marked]
            exact letOut symbol .endMarker
        | none =>
            rw [step_plain marked symbolic]
            exact letOut symbol lexeme.category

/-- At the end everything that is held back is given out. -/
theorem finish_text (pass : Pass) : joinedText pass.finish = pass.held := by
  cases pass with
  | code symbol => exact joinedText_flushSymbol symbol
  | trailing category pieces =>
      rw [finish, held]
      split
      · rename_i nothing
        rw [Array.isEmpty_iff.1 nothing]
        rfl
      · exact Snippet.join_singleton _

theorem tokens_cons (pass : Pass) (lexeme : Lexeme) (rest : List Lexeme) :
    pass.tokens (lexeme :: rest) = (pass.step lexeme).1 ++ (pass.step lexeme).2.tokens rest :=
  rfl

theorem tokens_text (pass : Pass) (lexemes : List Lexeme) :
    joinedText (pass.tokens lexemes) = pass.held ++ .join (lexemes.map Lexeme.text) := by
  -- The text held back carries the induction: each step moves some of it to what is given out.
  induction lexemes generalizing pass with
  | nil =>
      rw [tokens, finish_text]
      exact (Snippet.append_empty _).symm
  | cons lexeme rest ih =>
      rw [tokens_cons, joinedText_append, ih, ← Snippet.append_assoc, step_text,
        Snippet.append_assoc]
      rfl

end Pass

/-- No text is lost, given out twice or moved. -/
theorem tokensOf_text (lexemes : List Lexeme) :
    Snippet.join ((tokensOf lexemes).map Token.text) =
      Snippet.join (lexemes.map Lexeme.text) :=
  Pass.start.tokens_text lexemes

/-! ## Markers -/

/-- What follows a marker, in the marker's category: one token, or none if nothing follows. -/
def trailingTokens (category : Category) : List Lexeme → List Token
  | [] => []
  | rest => [⟨category, .join (rest.map Lexeme.text)⟩]

namespace Pass

/-- Behind a marker nothing is let out before the end, whatever comes. -/
theorem tokens_trailing (category : Category) (lexemes : List Lexeme) (pieces : Array Snippet) :
    (trailing category pieces).tokens lexemes =
      (trailing category (pieces ++ (lexemes.map Lexeme.text).toArray)).finish := by
  induction lexemes generalizing pieces with
  | nil => simp only [tokens, List.map_nil, Array.append_empty]
  | cons lexeme rest ih =>
      have joined : pieces.push lexeme.text ++ (rest.map Lexeme.text).toArray =
          pieces ++ ((lexeme :: rest).map Lexeme.text).toArray := by
        simp
      show (trailing category (pieces.push lexeme.text)).tokens rest = _
      rw [ih, joined]

theorem tokens_trailing_start (category : Category) (lexemes : List Lexeme) :
    (trailing category #[]).tokens lexemes = trailingTokens category lexemes := by
  rw [tokens_trailing, Array.empty_append]
  cases lexemes with
  | nil => rfl
  | cons lexeme rest => rfl

/-- A pass that meets no marker stays inside the code. What it lets out and what symbol it holds
back do not depend on what comes after. -/
theorem tokens_append_unmarked {lexemes : List Lexeme}
    (unmarked : ∀ lexeme ∈ lexemes, lexeme.marker? = none) (symbol : Option Snippet) :
    ∃ out pending, ∀ rest,
      (code symbol).tokens (lexemes ++ rest) = out ++ (code pending).tokens rest := by
  induction lexemes generalizing symbol with
  | nil => exact ⟨[], symbol, fun _ => rfl⟩
  | cons lexeme others ih =>
      have unmarkedOthers : ∀ other ∈ others, other.marker? = none :=
        fun other member => unmarked other (List.mem_cons_of_mem lexeme member)
      by_cases symbolic : lexeme.category = .symbol
      · -- The fragment joins the symbol, and nothing is let out.
        obtain ⟨out, pending, continued⟩ :=
          ih unmarkedOthers (some (symbol.getD .empty ++ lexeme.text))
        refine ⟨out, pending, fun rest => ?_⟩
        rw [List.cons_append, tokens_cons, step_symbol symbolic]
        exact continued rest
      · -- The symbol and the lexeme are let out, and nothing is held back.
        obtain ⟨out, pending, continued⟩ := ih unmarkedOthers none
        refine ⟨flushSymbol symbol ++ [⟨lexeme.category, lexeme.text⟩] ++ out, pending,
          fun rest => ?_⟩
        rw [List.cons_append, tokens_cons, step_plain (unmarked lexeme List.mem_cons_self) symbolic,
          List.append_assoc _ out]
        exact congrArg (_ ++ ·) (continued rest)

end Pass

/-- A marker cuts the lexemes in two: in front of it the tokens are those of a stream that ends
there, then comes the marker itself, and then what follows as one token. -/
theorem tokensOf_append_marker {lexemes : List Lexeme} {lexeme : Lexeme} {marker : Marker}
    (unmarked : ∀ other ∈ lexemes, other.marker? = none)
    (marked : lexeme.marker? = some marker) (rest : List Lexeme) :
    tokensOf (lexemes ++ lexeme :: rest) =
      tokensOf lexemes ++ (⟨.endMarker, lexeme.text⟩ :: trailingTokens marker.category rest) := by
  obtain ⟨out, pending, continued⟩ := Pass.tokens_append_unmarked unmarked none
  -- With nothing behind it the pass lets the pending symbol out, as the marker does.
  have ended : tokensOf lexemes = out ++ flushSymbol pending := by
    have nothingMore := continued []
    rw [List.append_nil] at nothingMore
    exact nothingMore
  rw [ended]
  show (Pass.code none).tokens _ = _
  rw [continued, Pass.tokens_cons, Pass.step_marker marked, Pass.tokens_trailing_start]
  simp only [List.append_assoc, List.singleton_append]

/-! ## What a trailing section counts -/

namespace Tally

/-- A token that is blank, or whose category is ignored, changes nothing. -/
theorem count_uncounted {policy : Policy} (token : Token)
    (uncounted : token.text.allBlank = true ∨ policy.roleOf token.kind = .ignored)
    (tally : Tally) : tally.count policy token = tally := by
  unfold count
  rcases uncounted with blank | ignored
  · rw [if_pos blank]
  · rw [ignored, ite_self]

/-- A single token is one occurrence at most. -/
theorem total_singleton_le (policy : Policy) (token : Token) :
    (ofTokens policy [token]).operators.total + (ofTokens policy [token]).operands.total ≤ 1 := by
  show (empty.count policy token).operators.total + (empty.count policy token).operands.total ≤ 1
  unfold count
  split
  · exact Nat.zero_le 1
  · split
    · exact Nat.le_refl 1
    · exact Nat.le_refl 1
    · exact Nat.zero_le 1

/-- What a marker and the text behind it add: one token of the marker's category, and a blank one
where nothing follows. -/
theorem ofTokens_marked {policy : Policy} (ignoring : policy.roleOf .endMarker = .ignored)
    (marker : Snippet) (category : Category) (rest : List Lexeme) :
    ofTokens policy (⟨.endMarker, marker⟩ :: trailingTokens category rest) =
      ofTokens policy [⟨category, .join (rest.map Lexeme.text)⟩] := by
  have passed : empty.count policy ⟨.endMarker, marker⟩ = empty :=
    count_uncounted _ (.inr ignoring) empty
  rw [ofTokens, List.foldl_cons, passed]
  cases rest with
  | nil =>
      have blank : empty.count policy ⟨category, .join []⟩ = empty :=
        count_uncounted _ (.inl rfl) empty
      exact blank.symm
  | cons lexeme others => rfl

end Tally

/-- With a policy that ignores end markers, what follows `__END__` has no part in the tally, and
what follows `__DATA__` has the part of one token, which counts once at most and not at all when
it is blank. What stands in front of the marker is tallied as if the lexemes ended there. -/
theorem tally_of_marked {policy : Policy} (ignoring : policy.roleOf .endMarker = .ignored)
    {lexemes : List Lexeme} (unmarked : ∀ other ∈ lexemes, other.marker? = none)
    {lexeme : Lexeme} {marker : Marker} (marked : lexeme.marker? = some marker)
    (rest : List Lexeme) :
    let code := Tally.ofTokens policy (tokensOf lexemes)
    let whole := Tally.ofTokens policy (tokensOf (lexemes ++ [lexeme] ++ rest))
    let text := Snippet.join (rest.map Lexeme.text)
    let data := Tally.ofTokens policy [⟨.data, text⟩]
    (marker = .stop → whole = code) ∧
      (marker = .data → whole = code.union data ∧
        data.operators.total + data.operands.total ≤ 1 ∧
        (rest = [] ∨ text.allBlank = true → data = .empty ∧ whole = code)) := by
  intro code whole text data
  have united : whole = code.union (Tally.ofTokens policy [⟨marker.category, text⟩]) := by
    rw [← Tally.ofTokens_marked ignoring lexeme.text, ← Tally.ofTokens_append,
      ← tokensOf_append_marker unmarked marked, List.append_cons]
  refine ⟨?_, ?_⟩
  · rintro rfl
    have nothing : Tally.ofTokens policy [⟨.endMarker, text⟩] = .empty :=
      Tally.count_uncounted _ (.inr ignoring) .empty
    exact united.trans (congrArg code.union nothing)
  · rintro rfl
    refine ⟨united, Tally.total_singleton_le policy _, fun absent => ?_⟩
    have blank : text.allBlank = true := by
      rcases absent with nothing | blank
      · rw [show text = .join (rest.map Lexeme.text) from rfl, nothing]
        rfl
      · exact blank
    have nothing : data = .empty := Tally.count_uncounted _ (.inl blank) .empty
    exact ⟨nothing, united.trans (congrArg code.union nothing)⟩

/-- A symbol that is still held back when the marker comes counts. The two lexemes behind the
marker, one of them a marker too, count as one token. -/
theorem tally_of_marked_symbol :
    let lexemes : List Lexeme :=
      [⟨.keyword, .ofString "my"⟩, ⟨.name, .ofString "$"⟩, ⟨.name, .ofString "x"⟩]
    let marker : Lexeme := ⟨.builtin, .ofString "__DATA__"⟩
    let rest : List Lexeme := [⟨.name, .ofString "y"⟩, ⟨.preprocessor, .ofString "__END__"⟩]
    let code := Tally.ofTokens .standard (tokensOf lexemes)
    let data := Tally.ofTokens .standard [⟨.data, .ofString "y__END__"⟩]
    Policy.standard.roleOf .endMarker = .ignored ∧
      (∀ other ∈ lexemes, other.marker? = none) ∧ marker.marker? = some .data ∧
      Tally.ofTokens .standard (tokensOf (lexemes ++ [marker] ++ rest)) = code.union data ∧
      code.operands.total = 1 ∧ data.operands.total = 1 := by
  intro lexemes marker rest code data
  have ignoring : Policy.standard.roleOf .endMarker = .ignored := rfl
  have unmarked : ∀ other ∈ lexemes, other.marker? = none := by decide
  have marked : marker.marker? = some .data := by decide
  have settled := (tally_of_marked ignoring unmarked marked rest).2 rfl
  exact ⟨ignoring, unmarked, marked, settled.1, by decide, by decide⟩

end CodeMetrics
