import Mathlib.Data.List.SplitBy
import Mathlib.Data.List.TakeWhile
import CodeMetrics.Proofs.Stream

/-!
# The shape of a stream of tokens

The lexemes in front of the first marker fall into runs: the symbols that stand together, as many as
there are, and every other lexeme alone. Each run is one token. Behind them come the marker and what
follows it, one token each.

Results:
1. `areLongest_runs`, `AreLongest.eq_runs`: how lexemes fall into runs, in one way only.
2. `Pass.tokens_held`: a pass inside the code gives out the runs, and the fragments that it holds
   back belong to the first of them.
3. `tokensOf_unmarked`: the tokens of lexemes without a marker.
4. `tokensOf_shape`: the tokens of any lexemes.
-/

namespace CodeMetrics

/-! ## Runs -/

/-- Two lexemes that stand together are fragments of one symbol. -/
def Lexeme.joins (lexeme next : Lexeme) : Bool :=
  lexeme.category = .symbol && next.category = .symbol

/-- The lexemes cut wherever two that stand together are not fragments of one symbol. -/
def runs (lexemes : List Lexeme) : List (List Lexeme) := lexemes.splitBy Lexeme.joins

/-- The token of a run: the category of its lexemes, and all of their text. -/
def runToken (run : List Lexeme) : Token :=
  ⟨(run.head?.map Lexeme.category).getD .symbol, .join (run.map Lexeme.text)⟩

/-- Fragments of one symbol. -/
def AreSymbols (run : List Lexeme) : Prop :=
  run ≠ [] ∧ ∀ lexeme ∈ run, lexeme.category = .symbol

/-- A lexeme that is no fragment of a symbol. -/
def IsAlone (run : List Lexeme) : Prop :=
  ∃ lexeme, run = [lexeme] ∧ lexeme.category ≠ .symbol

/-- The runs hold the lexemes in their order. Each is a symbol or a single lexeme of another
category, and no symbol goes on in the next run. -/
structure AreLongest (lexemes : List Lexeme) (runs : List (List Lexeme)) : Prop where
  flatten_eq : runs.flatten = lexemes
  each : ∀ run ∈ runs, AreSymbols run ∨ IsAlone run
  longest : runs.IsChain fun run next => ¬ (AreSymbols run ∧ AreSymbols next)

theorem Lexeme.joins_iff {lexeme next : Lexeme} :
    lexeme.joins next = true ↔ lexeme.category = .symbol ∧ next.category = .symbol := by
  simp [joins]

/-- Lexemes that are all joined to the next one are fragments of one symbol, unless there is one
lexeme only. -/
theorem areSymbols_or_isAlone {run : List Lexeme} (nonempty : run ≠ [])
    (joined : run.IsChain fun lexeme next => lexeme.joins next = true) :
    AreSymbols run ∨ IsAlone run := by
  obtain ⟨first, rest, rfl⟩ := List.exists_cons_of_ne_nil nonempty
  by_cases symbolic : first.category = .symbol
  · refine .inl ⟨nonempty, ?_⟩
    induction rest generalizing first with
    | nil => exact List.forall_mem_singleton.2 symbolic
    | cons next others ih =>
        obtain ⟨here, behind⟩ := List.isChain_cons_cons.1 joined
        exact List.forall_mem_cons.2 ⟨symbolic, ih next (List.cons_ne_nil _ _) behind
          (Lexeme.joins_iff.1 here).2⟩
  · cases rest with
    | nil => exact .inr ⟨first, rfl, symbolic⟩
    | cons next others =>
        have here := (List.isChain_cons_cons.1 joined).1
        exact absurd (Lexeme.joins_iff.1 here).1 symbolic

theorem areLongest_runs (lexemes : List Lexeme) : AreLongest lexemes (runs lexemes) where
  flatten_eq := List.flatten_splitBy _ _
  each _ member :=
    areSymbols_or_isAlone (List.ne_nil_of_mem_splitBy member) (List.isChain_of_mem_splitBy member)
  longest := by
    refine (List.isChain_getLast_head_splitBy Lexeme.joins lexemes).imp ?_
    rintro run next ⟨nonempty, nonemptyNext, apart⟩ ⟨symbols, symbolsNext⟩
    have joined : (run.getLast nonempty).joins (next.head nonemptyNext) = true :=
      Lexeme.joins_iff.2 ⟨symbols.2 _ (List.getLast_mem nonempty),
        symbolsNext.2 _ (List.head_mem nonemptyNext)⟩
    rw [apart] at joined
    cases joined

theorem AreSymbols.isChain {run : List Lexeme} (symbols : AreSymbols run) :
    run.IsChain fun lexeme next => lexeme.joins next = true :=
  List.Pairwise.isChain <| List.pairwise_of_forall_mem_list fun _ member _ memberNext =>
    Lexeme.joins_iff.2 ⟨symbols.2 _ member, symbols.2 _ memberNext⟩

theorem runs_of_areSymbols {run : List Lexeme} (symbols : AreSymbols run) : runs run = [run] :=
  List.splitBy_of_isChain symbols.1 symbols.isChain

/-- A run with a fragment of a symbol in it is a symbol. -/
theorem areSymbols_of_mem {run : List Lexeme} (either : AreSymbols run ∨ IsAlone run)
    {lexeme : Lexeme} (member : lexeme ∈ run) (symbolic : lexeme.category = .symbol) :
    AreSymbols run := by
  rcases either with symbols | ⟨only, rfl, other⟩
  · exact symbols
  · exact absurd (List.mem_singleton.1 member ▸ symbolic) other

/-- There is one way only for lexemes to fall into runs as long as they can be. -/
theorem AreLongest.eq_runs {lexemes : List Lexeme} {cut : List (List Lexeme)}
    (longest : AreLongest lexemes cut) : cut = runs lexemes := by
  have nonempty : ∀ run ∈ cut, run ≠ [] := by
    intro run member
    rcases longest.each run member with symbols | ⟨lexeme, rfl, -⟩
    · exact symbols.1
    · exact List.cons_ne_nil lexeme []
  refine (List.splitBy_eq_iff.2 ⟨longest.flatten_eq.symm, fun empty => nonempty [] empty rfl,
    ?_, ?_⟩).symm
  · intro run member
    rcases longest.each run member with symbols | ⟨lexeme, rfl, -⟩
    · exact symbols.isChain
    · exact List.isChain_singleton lexeme
  · refine List.IsChain.imp_of_mem_imp ?_ longest.longest
    intro run next member memberNext apart
    refine ⟨nonempty run member, nonempty next memberNext,
      Bool.eq_false_iff.2 fun joined => apart ?_⟩
    obtain ⟨symbolic, symbolicNext⟩ := Lexeme.joins_iff.1 joined
    exact ⟨areSymbols_of_mem (longest.each run member) (List.getLast_mem _) symbolic,
      areSymbols_of_mem (longest.each next memberNext) (List.head_mem _) symbolicNext⟩

/-- A lexeme that is no symbol ends the run in front of it, and is one itself. -/
theorem runs_append_cons (before : List Lexeme) {lexeme : Lexeme}
    (other : lexeme.category ≠ .symbol) (rest : List Lexeme) :
    runs (before ++ lexeme :: rest) = runs before ++ [lexeme] :: runs rest := by
  have noFirst (next : Lexeme) : next.joins lexeme = false :=
    Bool.eq_false_iff.2 fun joined => other (Lexeme.joins_iff.1 joined).2
  have noSecond (next : Lexeme) : lexeme.joins next = false :=
    Bool.eq_false_iff.2 fun joined => other (Lexeme.joins_iff.1 joined).1
  have ends : runs (lexeme :: rest) = runs [lexeme] ++ runs rest :=
    List.splitBy_append (l := [lexeme]) fun last single next _ => by
      cases single
      exact noSecond next
  rw [runs, List.splitBy_append_cons rest fun last _ => noFirst last]
  exact congrArg (runs before ++ ·) ends

theorem runToken_of_areSymbols {run : List Lexeme} (symbols : AreSymbols run) :
    runToken run = ⟨.symbol, .join (run.map Lexeme.text)⟩ := by
  obtain ⟨nonempty, symbolic⟩ := symbols
  obtain ⟨first, rest, rfl⟩ := List.exists_cons_of_ne_nil nonempty
  exact congrArg (Token.mk · _) (symbolic first List.mem_cons_self)

theorem runToken_singleton (lexeme : Lexeme) :
    runToken [lexeme] = ⟨lexeme.category, lexeme.text⟩ :=
  congrArg (Token.mk lexeme.category) (Snippet.join_singleton lexeme.text)

/-! ## The pass -/

namespace Pass

/-- What is held back of a symbol whose fragments were read so far. -/
def heldSymbol : List Lexeme → Option Snippet
  | [] => none
  | fragments => some (.join (fragments.map Lexeme.text))

theorem heldSymbol_append (fragments : List Lexeme) (lexeme : Lexeme) :
    heldSymbol (fragments ++ [lexeme]) =
      some ((heldSymbol fragments).getD .empty ++ lexeme.text) := by
  have held : (heldSymbol fragments).getD .empty = .join (fragments.map Lexeme.text) := by
    cases fragments <;> rfl
  have more : heldSymbol (fragments ++ [lexeme]) =
      some (.join ((fragments ++ [lexeme]).map Lexeme.text)) := by
    cases fragments <;> rfl
  rw [more, held, List.map_append, Snippet.join_append]
  exact congrArg (fun text => some (_ ++ text)) (Snippet.join_singleton lexeme.text)

theorem flushSymbol_heldSymbol {fragments : List Lexeme}
    (symbolic : ∀ lexeme ∈ fragments, lexeme.category = .symbol) :
    flushSymbol (heldSymbol fragments) = (runs fragments).map runToken := by
  cases fragments with
  | nil => rfl
  | cons first rest =>
      have symbols : AreSymbols (first :: rest) := ⟨List.cons_ne_nil _ _, symbolic⟩
      rw [runs_of_areSymbols symbols, List.map_singleton, runToken_of_areSymbols symbols]
      rfl

/-- A pass gives out the tokens of the runs. The fragments that it holds back belong to the first
of them. -/
theorem tokens_held {fragments lexemes : List Lexeme}
    (symbolic : ∀ lexeme ∈ fragments, lexeme.category = .symbol)
    (unmarked : ∀ lexeme ∈ lexemes, lexeme.marker? = none) :
    (code (heldSymbol fragments)).tokens lexemes =
      (runs (fragments ++ lexemes)).map runToken := by
  induction lexemes generalizing fragments with
  | nil =>
      rw [List.append_nil]
      exact flushSymbol_heldSymbol symbolic
  | cons lexeme rest ih =>
      have unmarkedRest : ∀ other ∈ rest, other.marker? = none :=
        fun other member => unmarked other (List.mem_cons_of_mem lexeme member)
      rw [tokens_cons]
      by_cases fragment : lexeme.category = .symbol
      · -- The fragment is held back with the others.
        have symbolicMore : ∀ other ∈ fragments ++ [lexeme], other.category = .symbol := by
          intro other member
          rcases List.mem_append.1 member with earlier | last
          · exact symbolic other earlier
          · exact List.mem_singleton.1 last ▸ fragment
        rw [step_symbol fragment, ← heldSymbol_append, List.append_cons fragments lexeme rest]
        exact ih symbolicMore unmarkedRest
      · -- The symbol ends, and the lexeme is a run of its own.
        rw [step_plain (unmarked lexeme List.mem_cons_self) fragment,
          flushSymbol_heldSymbol symbolic, runs_append_cons fragments fragment, List.map_append,
          List.map_cons, runToken_singleton, List.append_assoc]
        exact congrArg (fun tokens => _ ++ _ :: tokens) (@ih [] nofun unmarkedRest)

end Pass

theorem tokensOf_unmarked {lexemes : List Lexeme}
    (unmarked : ∀ lexeme ∈ lexemes, lexeme.marker? = none) :
    tokensOf lexemes = (runs lexemes).map runToken :=
  @Pass.tokens_held [] lexemes nofun unmarked

/-! ## The code -/

/-- The lexemes in front of the first marker. -/
def codeOf (lexemes : List Lexeme) : List Lexeme :=
  lexemes.takeWhile fun lexeme => lexeme.marker?.isNone

theorem unmarked_codeOf {lexemes : List Lexeme} :
    ∀ lexeme ∈ codeOf lexemes, lexeme.marker? = none :=
  fun _ member => Option.isNone_iff_eq_none.1 <|
    List.mem_takeWhile_imp (p := fun lexeme : Lexeme => lexeme.marker?.isNone) member

/-- Lexemes are code only, or a marker ends the code. -/
theorem codeOf_cases (lexemes : List Lexeme) :
    lexemes = codeOf lexemes ∨ ∃ lexeme marker rest,
      lexemes = codeOf lexemes ++ lexeme :: rest ∧ lexeme.marker? = some marker := by
  let unmarked (lexeme : Lexeme) : Bool := lexeme.marker?.isNone
  have whole : codeOf lexemes ++ lexemes.dropWhile unmarked = lexemes :=
    List.takeWhile_append_dropWhile
  cases left : lexemes.dropWhile unmarked with
  | nil =>
      rw [left, List.append_nil] at whole
      exact .inl whole.symm
  | cons lexeme rest =>
      have nonempty : lexemes.dropWhile unmarked ≠ [] := left ▸ List.cons_ne_nil lexeme rest
      have marked : unmarked lexeme = false := by
        simpa only [left, List.head_cons] using List.head_dropWhile_not unmarked nonempty
      obtain ⟨marker, found⟩ := Option.isSome_iff_exists.1 (Option.isNone_eq_false_iff.1 marked)
      rw [left] at whole
      exact .inr ⟨lexeme, marker, rest, whole.symm, found⟩

/-- Only what follows a marker is data. -/
theorem Lexeme.category_ne_data {lexeme : Lexeme} (unmarked : lexeme.marker? = none) :
    lexeme.category ≠ .data := by
  have plain : lexeme.category = lexeme.plainCategory := by rw [category, unmarked]
  exact plain ▸ lexeme.plainCategory_ne_marker .data

theorem kind_runToken_ne_data {lexemes run : List Lexeme}
    (unmarked : ∀ lexeme ∈ lexemes, lexeme.marker? = none) (member : run ∈ runs lexemes) :
    (runToken run).kind ≠ .data := by
  obtain ⟨first, rest, rfl⟩ := List.exists_cons_of_ne_nil (List.ne_nil_of_mem_splitBy member)
  have read : first ∈ lexemes := by
    rw [← (areLongest_runs lexemes).flatten_eq]
    exact List.mem_flatten_of_mem member List.mem_cons_self
  exact Lexeme.category_ne_data (unmarked first read)

/-! ## Neighbours -/

/-- A symbol token is a run of symbol fragments. -/
theorem kind_runToken_eq_symbol {lexemes run : List Lexeme} (member : run ∈ runs lexemes)
    (symbolic : (runToken run).kind = .symbol) : AreSymbols run := by
  rcases (areLongest_runs lexemes).each run member with symbols | ⟨lexeme, rfl, other⟩
  · exact symbols
  · exact absurd symbolic other

/-- Two tokens that are not both symbols. -/
def Token.Apart (token next : Token) : Prop := ¬ (token.kind = .symbol ∧ next.kind = .symbol)

theorem isChain_runs (lexemes : List Lexeme) :
    ((runs lexemes).map runToken).IsChain Token.Apart := by
  rw [List.isChain_map]
  refine List.IsChain.imp_of_mem_imp ?_ (areLongest_runs lexemes).longest
  exact fun run next member memberNext apart ⟨symbolic, symbolicNext⟩ =>
    apart ⟨kind_runToken_eq_symbol member symbolic, kind_runToken_eq_symbol memberNext symbolicNext⟩

/-- Data ends the tokens, right behind an end marker. -/
def DataEnds (tokens : List Token) : Prop :=
  ∀ before token after, tokens = before ++ token :: after → token.kind = .data →
    after = [] ∧ ∃ marker ∈ before.getLast?, marker.kind = .endMarker

theorem dataEnds_of_not_data {tokens : List Token} (others : ∀ token ∈ tokens, token.kind ≠ .data) :
    DataEnds tokens := by
  rintro before token after rfl data
  exact absurd data (others token (List.mem_append_right before List.mem_cons_self))

theorem trailingTokens_cases (category : Category) (rest : List Lexeme) :
    trailingTokens category rest = [] ∨ ∃ token, trailingTokens category rest = [token] := by
  cases rest with
  | nil => exact .inl rfl
  | cons lexeme others => exact .inr ⟨_, rfl⟩

theorem dataEnds_append {front : List Token} {marker : Token}
    (others : ∀ token ∈ front, token.kind ≠ .data) (ends : marker.kind = .endMarker)
    (category : Category) (rest : List Lexeme) :
    DataEnds (front ++ marker :: trailingTokens category rest) := by
  have othersMarker : ∀ token ∈ front ++ [marker], token.kind ≠ .data := by
    intro token member
    rcases List.mem_append.1 member with code | last
    · exact others token code
    · rw [List.mem_singleton.1 last, ends]
      decide
  rw [List.append_cons]
  rcases trailingTokens_cases category rest with nothing | ⟨last, single⟩
  · rw [nothing, List.append_nil]
    exact dataEnds_of_not_data othersMarker
  · rw [single]
    intro before token after split data
    -- Only the last token is left to be data.
    rcases List.eq_nil_or_concat after with rfl | ⟨inner, other, rfl⟩
    · have whole : front ++ [marker] = before := (List.append_inj' split rfl).1
      exact ⟨rfl, marker, by simp [← whole], ends⟩
    · rw [List.concat_eq_append, ← List.cons_append, ← List.append_assoc] at split
      have whole : front ++ [marker] = before ++ token :: inner := (List.append_inj' split rfl).1
      exact absurd data (othersMarker token (whole ▸ List.mem_append_right _ List.mem_cons_self))

theorem isChain_append_marked {front : List Token} {marker : Token}
    (apart : front.IsChain Token.Apart) (ends : marker.kind = .endMarker)
    (category : Category) (rest : List Lexeme) :
    (front ++ marker :: trailingTokens category rest).IsChain Token.Apart := by
  have ended : marker.kind ≠ .symbol := by
    rw [ends]
    decide
  refine List.isChain_append.2 ⟨apart, ?_, ?_⟩
  · rcases trailingTokens_cases category rest with nothing | ⟨last, single⟩
    · rw [nothing]
      exact List.isChain_singleton _
    · rw [single]
      exact List.isChain_pair.2 fun both => ended both.1
  · rintro token - next first both
    cases first
    exact ended both.2

/-! ## The stream -/

/-- The tokens of a stream of lexemes. The code, which ends at the first marker, falls into runs as
long as they can be, and each of them is one token: fragments of a symbol that stand together, and
every other lexeme alone. A marker is a token of its own, and so is all that follows it, in the
category that the marker says. No two symbols are neighbours, and data comes last, right behind an
end marker. -/
theorem tokensOf_shape (lexemes : List Lexeme) :
    let code := codeOf lexemes
    let front := (runs code).map runToken
    (∀ lexeme ∈ code, lexeme.marker? = none) ∧ AreLongest code (runs code) ∧
      (lexemes = code ∧ tokensOf lexemes = front ∨
        ∃ lexeme marker rest, lexemes = code ++ lexeme :: rest ∧ lexeme.marker? = some marker ∧
          tokensOf lexemes =
            front ++ ⟨.endMarker, lexeme.text⟩ :: trailingTokens marker.category rest) ∧
      (tokensOf lexemes).IsChain Token.Apart ∧ DataEnds (tokensOf lexemes) := by
  intro code front
  have unmarked : ∀ lexeme ∈ code, lexeme.marker? = none := unmarked_codeOf
  have tokens : tokensOf code = front := tokensOf_unmarked unmarked
  have apart : front.IsChain Token.Apart := isChain_runs code
  have others : ∀ token ∈ front, token.kind ≠ .data := by
    intro token member
    obtain ⟨run, read, rfl⟩ := List.mem_map.1 member
    exact kind_runToken_ne_data unmarked read
  refine ⟨unmarked, areLongest_runs code, ?_⟩
  rcases codeOf_cases lexemes with only | ⟨lexeme, marker, rest, whole, marked⟩
  · have same : tokensOf lexemes = front := (congrArg tokensOf only).trans tokens
    rw [same]
    exact ⟨.inl ⟨only, rfl⟩, apart, dataEnds_of_not_data others⟩
  · have same : tokensOf lexemes =
        front ++ ⟨.endMarker, lexeme.text⟩ :: trailingTokens marker.category rest := by
      rw [whole, tokensOf_append_marker unmarked marked, tokens]
    rw [same]
    exact ⟨.inr ⟨lexeme, marker, rest, whole, marked, rfl⟩,
      isChain_append_marked apart rfl marker.category rest,
      dataEnds_append others rfl marker.category rest⟩

example :
    tokensOf [⟨.name, .ofString "$"⟩, ⟨.name, .ofString "x"⟩, ⟨.operator, .ofString "="⟩,
        ⟨.builtin, .ofString "__DATA__"⟩, ⟨.name, .ofString "y"⟩, ⟨.name, .ofString "z"⟩] =
      [⟨.symbol, .ofString "$x"⟩, ⟨.operator, .ofString "="⟩,
        ⟨.endMarker, .ofString "__DATA__"⟩, ⟨.data, .ofString "yz"⟩] := by
  decide

end CodeMetrics
