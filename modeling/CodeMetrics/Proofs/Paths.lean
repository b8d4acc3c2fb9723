import CodeMetrics.Files.Path

/-!
# Paths are written as they are read

A path that was read from a text says no more than it needs to: its components are not empty, no
points, and without slashes. So the text that is written for it is read as the same path, and it
makes no difference whether a file is looked for by the path or by its text.

Results:
1. `splitAt_eq_splitOn`: pieces between separators are those of the library.
2. `Path.isPart_of_mem_components`: what a component is.
3. `Path.hasNul_ofString`: a path has a NUL when its text has one.
4. `Path.ofString_text`: the text of a path is read as the path.
-/

namespace CodeMetrics

/-! ## Pieces -/

theorem Text.splitAt_eq_splitOn (separator : Char) (cs : List Char) :
    splitAt separator cs = cs.splitOn separator := by
  induction cs with
  | nil => rfl
  | cons c rest ih =>
      rw [splitAt, List.splitOn_cons_eq_if_modifyHead, ih]
      by_cases here : c = separator
      · rw [if_pos here, if_pos (beq_iff_eq.2 here)]
      · rw [if_neg here, if_neg (by simpa using here)]
        cases split : rest.splitOn separator with
        | nil => exact absurd split (List.splitOn_ne_nil separator rest)
        | cons piece pieces => rfl

/-- The characters of a text other than the separator are those of its pieces. -/
theorem Text.exists_mem_splitAt {separator c : Char} (other : c ≠ separator) {cs : List Char} :
    (∃ piece ∈ splitAt separator cs, c ∈ piece) ↔ c ∈ cs := by
  induction cs with
  | nil => simp [splitAt]
  | cons d rest ih =>
      rw [splitAt, List.mem_cons, ← ih]
      split
      · next separates =>
        have different : c ≠ d := fun equal => other (equal.trans separates)
        simp [different]
      · split
        · next empty => simp [empty]
        · next piece pieces split => simp [split, or_assoc]

/-- No piece has the separator in it. -/
theorem Text.notMem_of_mem_splitAt {separator : Char} {cs piece : List Char}
    (member : piece ∈ splitAt separator cs) : separator ∉ piece := by
  induction cs generalizing piece with
  | nil =>
      rw [List.mem_singleton.1 member]
      exact List.not_mem_nil
  | cons c rest ih =>
      rw [splitAt] at member
      split at member
      · rcases List.mem_cons.1 member with rfl | later
        · exact List.not_mem_nil
        · exact ih later
      · next other =>
        have different : separator ≠ c := fun equal => other equal.symm
        split at member
        · rw [List.mem_singleton.1 member]
          simpa using different
        · next first others pieces =>
          rcases List.mem_cons.1 member with rfl | later
          · exact fun inside => (List.mem_cons.1 inside).elim different
              (ih (pieces ▸ List.mem_cons_self))
          · exact ih (pieces ▸ List.mem_cons_of_mem first later)

namespace Path

/-! ## Components -/

/-- What a component is when it says something. -/
structure IsPart (part : String) : Prop where
  nonempty : part ≠ ""
  noPoint : part ≠ "."
  noSlash : '/' ∉ part.toList

theorem isPart_of_mem_components {text part : String} (member : part ∈ components text) :
    IsPart part := by
  obtain ⟨piece, kept⟩ := List.mem_filter.1 member
  obtain ⟨cs, split, rfl⟩ := List.mem_map.1 piece
  simp only [Bool.and_eq_true, bne_iff_ne, ne_eq] at kept
  exact ⟨kept.1, kept.2, by simpa using Text.notMem_of_mem_splitAt split⟩

/-- Slashes at the start add no component. -/
theorem components_slash (s : String) : components ("/" ++ s) = components s := by
  have pieces : Text.pieces '/' ("/" ++ s) = "" :: Text.pieces '/' s := by
    rw [Text.pieces, String.toList_append]
    rfl
  rw [components, pieces]
  rfl

/-- Between the slashes of a text stand the components it was written with. -/
theorem pieces_intercalate {parts : List String} (each : ∀ part ∈ parts, IsPart part)
    (nonempty : parts ≠ []) : Text.pieces '/' (String.intercalate "/" parts) = parts := by
  rw [Text.pieces, String.toList_intercalate, Text.splitAt_eq_splitOn]
  show (List.splitOn '/' (['/'].intercalate _)).map _ = _
  rw [List.splitOn_intercalate '/' _ (by simpa using nonempty), List.map_map]
  · simp
  · intro part member
    obtain ⟨part, listed, rfl⟩ := List.mem_map.1 member
    exact (each part listed).noSlash

/-- Components that are written with slashes between them are read again. -/
theorem components_intercalate {parts : List String} (each : ∀ part ∈ parts, IsPart part) :
    components (String.intercalate "/" parts) = parts := by
  by_cases empty : parts = []
  · rw [empty]
    rfl
  · rw [components, pieces_intercalate each empty, List.filter_eq_self]
    intro part member
    simp [(each part member).nonempty, (each part member).noPoint]

/-- A NUL in a text is a NUL in one of its components. -/
theorem hasNul_ofString {text : String} :
    (ofString text).hasNul = true ↔ '\x00' ∈ text.toList := by
  rw [← Text.exists_mem_splitAt (show '\x00' ≠ '/' by decide), hasNul, List.any_eq_true]
  constructor
  · rintro ⟨part, member, nul⟩
    obtain ⟨piece, split, rfl⟩ := List.mem_map.1 (List.mem_filter.1 member).1
    exact ⟨piece, split, by simpa using nul⟩
  · rintro ⟨piece, split, nul⟩
    refine ⟨String.ofList piece, List.mem_filter.2 ⟨List.mem_map_of_mem split, ?_⟩, by simpa⟩
    have nonempty : String.ofList piece ≠ "" := by
      rintro empty
      rw [String.ofList_eq_empty_iff.1 empty] at nul
      cases nul
    have noPoint : String.ofList piece ≠ "." := by
      intro point
      rw [← String.toList_ofList (l := piece), point] at nul
      revert nul
      decide
    simp [nonempty, noPoint]

/-! ## Texts -/

theorem rootOf_cases (text : List Char) :
    rootOf text = "" ∨ rootOf text = "/" ∨ rootOf text = "//" := by
  rw [rootOf]
  split <;> simp

/-- What is written behind a root does not change it, unless it starts with a slash. -/
theorem rootOf_append {root : String} (known : root = "" ∨ root = "/" ∨ root = "//")
    {cs : List Char} (behind : cs.head? ≠ some '/') : rootOf (root.toList ++ cs) = root := by
  have stops : cs.takeWhile (· == '/') = [] := by
    cases cs with
    | nil => rfl
    | cons c rest =>
        have other : c ≠ '/' := by simpa using behind
        simp [other]
  have slashes : (root.toList ++ cs).takeWhile (· == '/') = root.toList := by
    rcases known with rfl | rfl | rfl <;> simp [stops]
  rw [rootOf, slashes]
  rcases known with rfl | rfl | rfl <;> rfl

theorem head?_intercalate {parts : List String} (each : ∀ part ∈ parts, IsPart part) :
    (String.intercalate "/" parts).toList.head? ≠ some '/' := by
  cases parts with
  | nil => nofun
  | cons first rest =>
      obtain ⟨nonempty, -, noSlash⟩ := each first List.mem_cons_self
      obtain ⟨c, cs, started⟩ := List.exists_cons_of_ne_nil
        (fun empty => nonempty (String.toList_eq_nil_iff.1 empty))
      have starts : (String.intercalate "/" (first :: rest)).toList.head? = some c := by
        rw [String.toList_intercalate]
        cases rest <;> simp [started]
      rw [starts]
      rintro ⟨⟩
      exact noSlash (started ▸ List.mem_cons_self)

/-- The text of a path is read as the path, if each of its components says something. -/
theorem ofString_text_of_isPart {root : String} (known : root = "" ∨ root = "/" ∨ root = "//")
    {parts : List String} (each : ∀ part ∈ parts, IsPart part) :
    ofString (text ⟨root, parts⟩) = ⟨root, parts⟩ := by
  rw [text]
  split
  · next nothing =>
    simp only [Bool.and_eq_true, beq_iff_eq, List.isEmpty_iff] at nothing
    rw [nothing.1, nothing.2]
    rfl
  · have rooted : rootOf (root ++ String.intercalate "/" parts).toList = root := by
      rw [String.toList_append]
      exact rootOf_append known (head?_intercalate each)
    have written := components_intercalate each
    have listed : components (root ++ String.intercalate "/" parts) = parts := by
      rcases known with rfl | rfl | rfl
      · simpa using written
      · rw [components_slash, written]
      · have doubled : "//" = "/" ++ "/" := rfl
        rw [doubled, String.append_assoc, components_slash, components_slash, written]
    exact (congrArg (Path.mk · _) rooted).trans (congrArg (Path.mk _) listed)

/-- The text of a path that was read is read as the same path. -/
theorem ofString_text (s : String) : ofString (ofString s).text = ofString s :=
  ofString_text_of_isPart (rootOf_cases s.toList) fun _ => isPart_of_mem_components

end Path

end CodeMetrics
