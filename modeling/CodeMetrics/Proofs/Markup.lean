import Mathlib.Data.List.TakeWhile
import CodeMetrics.Markup.Tag
import CodeMetrics.Proofs.Computation

/-!
# Escaped texts

Messages and reports are markup, with texts inside that come from anywhere: names of files, and what
git has to say. Such a text is escaped, and then no tag is read in it, whatever it holds and
whatever stands behind it, as long as that does not close a bracket of the text. So what stands
around it can always be shown.

Results:
1. `piecesFrom_escapeFrom`: the markup of a text is read as texts.
2. `shownFrom_texts`: texts are shown, and leave the open tags alone.
3. `ReadsAsText.drawable`, `drawable_marked`: texts, and texts in a style, can be drawn.
-/

namespace CodeMetrics

namespace Markup

variable {cs body after tag behind : List Char}

/-! ## Tags -/

theorem bodyAt?_cons {c : Char} (noOpening : c ≠ '[') (noClosing : c ≠ ']') :
    bodyAt? (c :: cs) = none ↔ bodyAt? cs = none := by
  rw [bodyAt?]
  · exact Option.map_eq_none_iff
  · exact noClosing
  · exact noOpening

theorem bodyAt?_backslashes (n : Nat) :
    bodyAt? (backslashes n ++ cs) = none ↔ bodyAt? cs = none := by
  induction n with
  | zero => rfl
  | succ n ih => exact (bodyAt?_cons (by decide) (by decide)).trans ih

/-- What stands in front of a closing bracket is found, whatever is behind the bracket. -/
theorem bodyAt?_eq_some (found : bodyAt? cs = some (body, after)) (others : List Char) :
    bodyAt? (body ++ ']' :: others) = some (body, others) := by
  fun_induction bodyAt? cs generalizing body with
  | case1 => cases found
  | case2 rest =>
      cases found
      rfl
  | case3 rest => cases found
  | case4 c rest noClosing noOpening ih =>
      obtain ⟨⟨inner, last⟩, step, equal⟩ := Option.map_eq_some_iff.1 found
      cases equal
      rw [List.cons_append, bodyAt?, ih step]
      · rfl
      · exact noClosing
      · exact noOpening

theorem tagAt?_eq_some (found : tagAt? cs = some (tag, after)) (others : List Char) :
    tagAt? (tag ++ ']' :: others) = some (tag, others) := by
  cases cs with
  | nil => cases found
  | cons c rest =>
      rw [tagAt?] at found
      split at found
      · next starts =>
        obtain ⟨⟨inner, last⟩, step, equal⟩ := Option.map_eq_some_iff.1 found
        cases equal
        rw [List.cons_append, tagAt?, if_pos starts, bodyAt?_eq_some step]
        rfl
      · cases found

/-- Where no bracket is closed, no tag ends. -/
theorem tagAt?_of_bodyAt? (unclosed : bodyAt? cs = none) : tagAt? cs = none := by
  cases cs with
  | nil => rfl
  | cons c rest =>
      rw [tagAt?]
      split
      · next starts =>
        have noOpening : c ≠ '[' := by
          rintro rfl
          cases starts
        have noClosing : c ≠ ']' := by
          rintro rfl
          cases starts
        rw [(bodyAt?_cons noOpening noClosing).1 unclosed]
        rfl
      · rfl

/-! ## Escaped texts -/

/-- Escaping does not close a bracket. -/
theorem bodyAt?_escapeFrom (fenced : bodyAt? behind = none) (slashes : Nat)
    (unclosed : bodyAt? cs = none) : bodyAt? (escapeFrom slashes cs ++ behind) = none := by
  fun_induction escapeFrom slashes cs with
  | case1 slashes => exact (bodyAt?_backslashes slashes).2 fenced
  | case2 slashes rest ih => exact ih ((bodyAt?_cons (by decide) (by decide)).1 unclosed)
  | case3 slashes rest tag after _ ih =>
      rw [List.append_assoc, List.append_assoc]
      exact (bodyAt?_backslashes _).2 rfl
  | case4 slashes rest _ ih =>
      rw [List.append_assoc]
      exact (bodyAt?_backslashes _).2 rfl
  | case5 slashes c rest noSlash noOpening ih =>
      have noClosing : c ≠ ']' := by
        rintro rfl
        cases unclosed
      rw [List.append_assoc]
      exact (bodyAt?_backslashes _).2 ((bodyAt?_cons noOpening noClosing).2
        (ih ((bodyAt?_cons noOpening noClosing).1 unclosed)))

theorem bodyAt?_escape (fenced : bodyAt? behind = none) {s : String}
    (unclosed : bodyAt? s.toList = none) : bodyAt? ((escape s).toList ++ behind) = none := by
  rw [escape, String.toList_ofList]
  split
  · rw [List.append_assoc]
    exact bodyAt?_escapeFrom ((bodyAt?_backslashes 1).2 fenced) 0 unclosed
  · exact bodyAt?_escapeFrom fenced 0 unclosed

theorem notMem_backslashes (n : Nat) : '[' ∉ backslashes n := by
  intro member
  cases List.eq_of_mem_replicate member

/-- Escaping adds no bracket. -/
theorem notMem_escapeFrom (slashes : Nat) (noBracket : '[' ∉ cs) :
    '[' ∉ escapeFrom slashes cs := by
  fun_induction escapeFrom slashes cs with
  | case1 slashes => exact notMem_backslashes slashes
  | case2 slashes rest ih => exact ih (List.not_mem_of_not_mem_cons noBracket)
  | case3 => exact absurd List.mem_cons_self noBracket
  | case4 => exact absurd List.mem_cons_self noBracket
  | case5 slashes c rest noSlash noOpening ih =>
      obtain ⟨different, noneBehind⟩ := List.ne_and_not_mem_of_not_mem_cons noBracket
      simp [notMem_backslashes, different, ih noneBehind]

theorem notMem_escape {s : String} (noBracket : '[' ∉ s.toList) : '[' ∉ (escape s).toList := by
  have noneInside := notMem_escapeFrom 0 noBracket
  rw [escape, String.toList_ofList]
  split
  · simpa using noneInside
  · exact noneInside

/-- Backslashes stay in front of a text. -/
theorem head?_escapeFrom (slashes : Nat) (cs : List Char) :
    (escapeFrom (slashes + 1) cs).head? = some '\\' := by
  generalize more : slashes + 1 = n
  fun_induction escapeFrom n cs generalizing slashes with
  | case1 n =>
      subst more
      rfl
  | case2 n rest ih => exact ih n rfl
  | case3 n rest tag after _ ih => rfl
  | case4 n rest _ ih =>
      subst more
      rfl
  | case5 n c rest noSlash noOpening ih =>
      subst more
      rfl

theorem tagAt?_of_head? {c : Char} (starts : cs.head? = some c) (noTag : startsTag c = false) :
    tagAt? cs = none := by
  obtain ⟨rest, rfl⟩ := List.head?_eq_some_iff.1 starts
  rw [tagAt?, noTag]
  rfl

/-- Escaping makes no tag. -/
theorem tagAt?_escapeFrom (fenced : bodyAt? behind = none) (noTag : tagAt? cs = none) :
    tagAt? (escapeFrom 0 cs ++ behind) = none := by
  have slashed {rest : List Char} (starts : rest.head? = some '\\') :
      tagAt? (rest ++ behind) = none :=
    tagAt?_of_head? (c := '\\') (by rw [List.head?_append, starts]; rfl) (by decide)
  fun_cases escapeFrom 0 cs with
  | case1 => exact tagAt?_of_bodyAt? fenced
  | case2 rest => exact slashed (head?_escapeFrom 0 rest)
  | case3 rest tag after => exact slashed rfl
  | case4 rest => exact tagAt?_of_head? rfl (by decide)
  | case5 c rest noSlash noOpening =>
      show tagAt? (c :: (escapeFrom 0 rest ++ behind)) = none
      rw [tagAt?] at noTag ⊢
      split
      · next starts =>
        rw [if_pos starts, Option.map_eq_none_iff] at noTag
        rw [bodyAt?_escapeFrom fenced 0 noTag]
        rfl
      · rfl

/-! ## Reading -/

theorem piecesFrom_backslashes (position : Nat) (begun : List Char) (slashes n : Nat) :
    piecesFrom position begun slashes (backslashes n ++ cs) =
      piecesFrom (position + n) begun (slashes + n) cs := by
  induction n generalizing position slashes with
  | zero => rfl
  | succ n ih =>
      show piecesFrom position begun slashes ('\\' :: (backslashes n ++ cs)) = _
      rw [piecesFrom, ih, Nat.add_right_comm, Nat.add_assoc, Nat.add_right_comm slashes,
        Nat.add_assoc slashes]

theorem piecesFrom_of_tag (position : Nat) (begun : List Char) (slashes : Nat)
    (found : tagAt? cs = some (tag, after)) :
    piecesFrom position begun slashes ('[' :: cs) =
      Piece.ofText begun.reverse ++ Piece.ofText (backslashes (slashes / 2)) ++
        (if slashes % 2 = 1 then .text ('[' :: tag ++ [']']) else .tag position (.ofBody tag)) ::
          piecesFrom (position + tag.length + 2) [] 0 after := by
  rw [piecesFrom]
  split
  · next other last foundOther =>
    cases found.symm.trans foundOther
    rfl
  · next missing => cases found.symm.trans missing

theorem piecesFrom_of_noTag (position : Nat) (begun : List Char) (slashes : Nat)
    (noTag : tagAt? cs = none) :
    piecesFrom position begun slashes ('[' :: cs) =
      piecesFrom (position + 1) ('[' :: (backslashes slashes ++ begun)) 0 cs := by
  rw [piecesFrom]
  split
  · next found => cases noTag.symm.trans found
  · rfl

/-- Pieces without tags. -/
def texts (pieces : List (List Char)) : List Piece := pieces.map .text

theorem ofText_eq_texts (cs : List Char) : ∃ pieces, Piece.ofText cs = texts pieces := by
  rw [Piece.ofText]
  split
  · exact ⟨[], rfl⟩
  · exact ⟨[cs], rfl⟩

/-- Characters that are neither brackets nor backslashes are read as they stand. -/
theorem piecesFrom_bare (bare : ∀ c ∈ cs, c ≠ '[' ∧ c ≠ '\\') (position : Nat)
    (begun rest : List Char) :
    piecesFrom position begun 0 (cs ++ rest) =
      piecesFrom (position + cs.length) (cs.reverse ++ begun) 0 rest := by
  induction cs generalizing position begun with
  | nil => rfl
  | cons c cs ih =>
      obtain ⟨noOpening, noSlash⟩ := bare c List.mem_cons_self
      rw [List.cons_append, piecesFrom, ih fun d member => bare d (List.mem_cons_of_mem c member)]
      · simp [backslashes, Nat.add_assoc, Nat.add_comm 1]
      · exact noSlash
      · exact noOpening

/-- The markup of a text is read as texts, up to where it ends. -/
theorem piecesFrom_escapeFrom (fenced : bodyAt? behind = none) (position : Nat)
    (begun : List Char) (slashes : Nat) (cs : List Char) :
    ∃ pieces next left slashesLeft,
      piecesFrom position begun 0 (escapeFrom slashes cs ++ behind) =
        texts pieces ++ piecesFrom next left slashesLeft behind := by
  fun_induction escapeFrom slashes cs generalizing position begun with
  | case1 slashes => exact ⟨[], _, _, _, piecesFrom_backslashes _ _ _ _⟩
  | case2 slashes rest ih => exact ih position begun
  | case3 slashes rest tag after found ih =>
      -- An odd number of backslashes stands before the tag, which is a text therefore.
      obtain ⟨first, begunText⟩ := ofText_eq_texts begun.reverse
      obtain ⟨second, slashText⟩ := ofText_eq_texts (backslashes ((0 + (2 * slashes + 1)) / 2))
      have odd : (0 + (2 * slashes + 1)) % 2 = 1 := by omega
      obtain ⟨pieces, next, left, slashesLeft, read⟩ :=
        ih (position + (2 * slashes + 1) + tag.length + 2) []
      refine ⟨first ++ second ++ ('[' :: tag ++ [']']) :: pieces, next, left, slashesLeft, ?_⟩
      rw [List.append_assoc, List.append_assoc, piecesFrom_backslashes]
      show piecesFrom _ _ _ ('[' :: (tag ++ ']' :: (escapeFrom 0 after ++ behind))) = _
      rw [piecesFrom_of_tag _ _ _ (tagAt?_eq_some found _), if_pos odd, read, begunText, slashText]
      simp [texts]
  | case4 slashes rest noTag ih =>
      -- No tag is made by what stands behind the text, for that closes no bracket.
      obtain ⟨pieces, next, left, slashesLeft, read⟩ := ih (position + slashes + 1)
        ('[' :: (backslashes (0 + slashes) ++ begun))
      refine ⟨pieces, next, left, slashesLeft, ?_⟩
      rw [List.append_assoc, piecesFrom_backslashes]
      exact (piecesFrom_of_noTag _ _ _ (tagAt?_escapeFrom fenced noTag)).trans read
  | case5 slashes c rest noSlash noOpening ih =>
      obtain ⟨pieces, next, left, slashesLeft, read⟩ := ih (position + slashes + 1)
        (c :: (backslashes (0 + slashes) ++ begun))
      refine ⟨pieces, next, left, slashesLeft, ?_⟩
      rw [List.append_assoc, piecesFrom_backslashes]
      refine Eq.trans ?_ read
      show piecesFrom _ _ _ (c :: (escapeFrom 0 rest ++ behind)) = _
      rw [piecesFrom]
      · exact noSlash
      · exact noOpening

theorem piecesFrom_escape (fenced : bodyAt? behind = none) (position : Nat) (begun : List Char)
    (s : String) :
    ∃ pieces next left slashesLeft,
      piecesFrom position begun 0 ((escape s).toList ++ behind) =
        texts pieces ++ piecesFrom next left slashesLeft behind := by
  rw [escape, String.toList_ofList]
  split
  · have fencedStill : bodyAt? ('\\' :: behind) = none :=
      (bodyAt?_cons (by decide) (by decide)).2 fenced
    obtain ⟨pieces, next, left, slashesLeft, read⟩ :=
      piecesFrom_escapeFrom fencedStill position begun 0 s.toList
    refine ⟨pieces, next + 1, left, slashesLeft + 1, ?_⟩
    rw [List.append_assoc]
    exact read.trans (congrArg (texts pieces ++ ·) (piecesFrom_backslashes next left slashesLeft 1))
  · exact piecesFrom_escapeFrom fenced position begun 0 s.toList

/-- A character that is neither a bracket nor a backslash is read as it stands. -/
theorem piecesFrom_char {c : Char} (noOpening : c ≠ '[') (noSlash : c ≠ '\\') (position : Nat)
    (begun : List Char) (slashes : Nat) (rest : List Char) :
    piecesFrom position begun slashes (c :: rest) =
      piecesFrom (position + 1) (c :: (backslashes slashes ++ begun)) 0 rest := by
  rw [piecesFrom]
  · exact noSlash
  · exact noOpening

/-- The text is read as texts where it stands, and then what is behind it. -/
def ReadsAsText (cs behind : List Char) : Prop :=
  ∀ position begun, ∃ pieces next left slashes,
    piecesFrom position begun 0 (cs ++ behind) =
      texts pieces ++ piecesFrom next left slashes behind

theorem readsAsText_nil (behind : List Char) : ReadsAsText [] behind :=
  fun position begun => ⟨[], position, begun, 0, rfl⟩

/-- Characters without a meaning can stand in front. -/
theorem ReadsAsText.bare_append (reads : ReadsAsText cs behind)
    (bare : ∀ c ∈ body, c ≠ '[' ∧ c ≠ '\\') : ReadsAsText (body ++ cs) behind := by
  intro position begun
  rw [List.append_assoc, piecesFrom_bare bare]
  exact reads _ _

theorem readsAsText_of_bare (bare : ∀ c ∈ cs, c ≠ '[' ∧ c ≠ '\\') (behind : List Char) :
    ReadsAsText cs behind := by
  have reads := (readsAsText_nil behind).bare_append bare
  rwa [List.append_nil] at reads

/-- A text without brackets is read as a text, with all its backslashes. -/
theorem readsAsText_of_noBracket (noBracket : '[' ∉ cs) (behind : List Char) :
    ReadsAsText cs behind := by
  have reads (cs : List Char) (noBracket : '[' ∉ cs) (position : Nat) (begun : List Char)
      (slashes : Nat) : ∃ next left more,
        piecesFrom position begun slashes (cs ++ behind) = piecesFrom next left more behind := by
    induction cs generalizing position begun slashes with
    | nil => exact ⟨position, begun, slashes, rfl⟩
    | cons c rest ih =>
        obtain ⟨noOpening, noneBehind⟩ := List.ne_and_not_mem_of_not_mem_cons noBracket
        by_cases slash : c = '\\'
        · subst slash
          rw [List.cons_append, piecesFrom]
          exact ih noneBehind _ _ _
        · rw [List.cons_append, piecesFrom_char noOpening.symm slash]
          exact ih noneBehind _ _ _
  intro position begun
  obtain ⟨next, left, slashes, read⟩ := reads cs noBracket position begun 0
  exact ⟨[], next, left, slashes, read⟩

/-- Two texts can stand behind each other, with something between them that is no backslash. -/
theorem ReadsAsText.append {c : Char} {between others : List Char}
    (reads : ReadsAsText cs (c :: between ++ others ++ behind))
    (bare : ∀ d ∈ c :: between, d ≠ '[' ∧ d ≠ '\\') (readsOthers : ReadsAsText others behind) :
    ReadsAsText (cs ++ (c :: between ++ others)) behind := by
  intro position begun
  obtain ⟨first, next, left, slashes, read⟩ := reads position begun
  obtain ⟨noOpening, noSlash⟩ := bare c List.mem_cons_self
  obtain ⟨second, last, leftLast, slashesLast, readOthers⟩ := (readsOthers.bare_append
    fun d member => bare d (List.mem_cons_of_mem c member)) (next + 1)
      (c :: (backslashes slashes ++ left))
  refine ⟨first ++ second, last, leftLast, slashesLast, ?_⟩
  rw [List.append_assoc, read, List.cons_append, List.cons_append,
    piecesFrom_char noOpening noSlash, readOthers, texts, texts, texts, List.map_append,
    List.append_assoc]

theorem readsAsText_escape (fenced : bodyAt? behind = none) (s : String) :
    ReadsAsText (escape s).toList behind :=
  fun position begun => piecesFrom_escape fenced position begun s

/-- A text at the end of the markup. -/
theorem ReadsAsText.pieces (reads : ReadsAsText cs []) (position : Nat) :
    ∃ pieces, piecesFrom position [] 0 cs = texts pieces := by
  obtain ⟨pieces, next, left, slashes, read⟩ := reads position []
  obtain ⟨last, ended⟩ := ofText_eq_texts (left.reverse ++ backslashes slashes)
  refine ⟨pieces ++ last, ?_⟩
  rw [List.append_nil, piecesFrom, ended] at read
  rw [read, texts, texts, texts, List.map_append]

/-! ## Showing -/

/-- What is shown of a text. -/
def shownText (cs : List Char) : List Char :=
  (replaceCodes (dropEscapes cs)).filter fun c => !Text.isControl c

/-- Texts are shown, and leave the open tags alone. -/
theorem shownFrom_texts (place : Nat) (opened : List Opening) (pieces : List (List Char))
    (rest : List Piece) :
    shownFrom place opened (texts pieces ++ rest) =
      (shownFrom (place + (pieces.flatMap shownText).length) opened rest).map fun others =>
        ⟨pieces.flatMap shownText ++ others.text, others.spans⟩ := by
  induction pieces generalizing place with
  | nil =>
      show shownFrom place opened rest = (shownFrom place opened rest).map id
      cases shownFrom place opened rest <;> rfl
  | cons cs pieces ih =>
      have first : shownFrom place opened (texts (cs :: pieces) ++ rest) =
          (shownFrom (place + (shownText cs).length) opened (texts pieces ++ rest)).map
            fun others => ⟨shownText cs ++ others.text, others.spans⟩ := by
        show shownFrom place opened (.text cs :: (texts pieces ++ rest)) = _
        rw [shownFrom]
        show shownFrom (place + (shownText cs).length) opened (texts pieces ++ rest) >>= _ = _
        cases shownFrom (place + (shownText cs).length) opened (texts pieces ++ rest) <;> rfl
      rw [first, ih, List.flatMap_cons, List.length_append, Nat.add_assoc]
      cases shownFrom _ opened rest with
      | error error => rfl
      | ok others =>
          simp only [Except.map, List.append_assoc]

/-- A tag without a slash opens its style. -/
theorem shownFrom_opening {tag : Tag} (noSlash : tag.name.head? ≠ some '/') (place position : Nat)
    (opened : List Opening) (rest : List Piece) :
    shownFrom place opened (.tag position tag :: rest) =
      (normalStyle tag.name).mapError .color >>= fun style =>
        shownFrom place (⟨style, tag.parameters, place⟩ :: opened) rest := by
  rw [shownFrom]
  split
  · next name named =>
    rw [named] at noSlash
    exact absurd rfl noSlash
  · rfl

/-- The styles of a text can be read. -/
def Styled (shown : Shown) : Prop :=
  ∀ span ∈ shown.spans, ∃ style, Style.ofText span.style = .ok style

/-- Markup can be shown, with styles that can be read. -/
def Drawable (markup : String) : Prop := ∃ shown, Markup.shown markup = .ok shown ∧ Styled shown

/-- Text at the end of the markup is shown, in the tags that are open. -/
theorem shownFrom_texts_end (place : Nat) (opened : List Opening) (pieces : List (List Char)) :
    ∃ text stop, shownFrom place opened (texts pieces) =
      .ok ⟨text, opened.map fun opening => opening.span stop⟩ := by
  have shown := shownFrom_texts place opened pieces []
  rw [List.append_nil] at shown
  rw [shown, shownFrom]
  exact ⟨_, _, rfl⟩

theorem ReadsAsText.drawable {s : String} (reads : ReadsAsText s.toList []) : Drawable s := by
  obtain ⟨pieces, read⟩ := reads.pieces 0
  obtain ⟨text, stop, shown⟩ := shownFrom_texts_end 0 [] pieces
  refine ⟨⟨text, []⟩, ?_, nofun⟩
  rw [Markup.shown, read, shown]
  rfl

/-! ## Styles -/

theorem isColor_of_listed {word : List Char} {i : Nat} (fits : i < colorLines.length)
    (listed : (Text.splitAt ' ' colorLines[i].toList).contains word = true) :
    isColor word = .ok true :=
  if_pos (Bool.or_eq_true_iff.2 (.inr (List.any_eq_true.2 ⟨_, List.getElem_mem fits, listed⟩)))

/-- A word in small letters that does not need the next one. -/
structure Lone (word : String) : Prop where
  small : Text.lower word = word
  noKeyword : ["on", "not", "link"].contains word = false

theorem Lone.different {word : String} (lone : Lone word) :
    word ≠ "on" ∧ word ≠ "not" ∧ word ≠ "link" := by
  simpa using lone.noKeyword

theorem read_attribute {word name : String} (lone : Lone word)
    (found : attribute? word = some name) (known : Style) (rest : List String) :
    known.read (word :: rest) = (known.switch name true).read rest := by
  cases rest with
  | nil =>
      conv_lhs => rw [Style.read, lone.small]
      simp only [lone.noKeyword, found]
      rfl
  | cons next rest =>
      obtain ⟨noOn, noNot, noLink⟩ := lone.different
      conv_lhs => rw [Style.read, lone.small]
      simp only [if_neg noOn, if_neg noNot, if_neg noLink, found]

theorem read_color {word : String} (lone : Lone word) (noAttribute : attribute? word = none)
    (color : isColor word.toList = .ok true) (known : Style) (rest : List String) :
    known.read (word :: rest) = { known with color := some word }.read rest := by
  cases rest with
  | nil =>
      conv_lhs => rw [Style.read, lone.small]
      simp only [lone.noKeyword, noAttribute, isColorName, color]
      rfl
  | cons next rest =>
      obtain ⟨noOn, noNot, noLink⟩ := lone.different
      conv_lhs => rw [Style.read, lone.small]
      simp only [if_neg noOn, if_neg noNot, if_neg noLink, noAttribute, isColorName, color]
      rfl

/-! ### Texts in a style -/

/-- The name of a tag, and the style it opens, in normal form. -/
structure Opens (name : List Char) (style : String) : Prop where
  tag_eq : ∀ rest, tagAt? (name ++ ']' :: rest) = some (name, rest) := by exact fun _ => rfl
  closing_eq : ∀ rest, tagAt? ('/' :: name ++ ']' :: rest) = some ('/' :: name, rest) := by
    exact fun _ => rfl
  noParameters : '=' ∉ name := by decide
  noSlash : name.head? ≠ some '/' := by decide
  trimmed : Text.trim name = name := by decide
  named : name ≠ [] := by decide
  noEvent : style.toList.head? ≠ some '@' := by simp
  normal : normalStyle name = .ok style
  read : ∃ known, Style.ofText style.toList = .ok known

variable {name : List Char} {style : String}

theorem ofBody_of_noParameters (noParameters : '=' ∉ name) : Tag.ofBody name = ⟨name, none⟩ := by
  have whole : name.takeWhile (· != '=') = name := by
    rw [List.takeWhile_eq_self_iff]
    intro c member
    simpa using fun equal : c = '=' => noParameters (equal ▸ member)
  rw [Tag.ofBody, whole, if_neg (by simpa using noParameters)]

theorem closed_of_opens (opens : Opens name style) (position start : Nat) :
    closed ⟨'/' :: name, none⟩ position name [⟨style, none, start⟩] =
      .ok (⟨style, none, start⟩, []) := by
  rw [closed.eq_def, opens.trimmed]
  split
  · exact absurd rfl opens.named
  · exact absurd rfl opens.named
  · rw [opens.normal]
    simp only [Except.mapError, bind_ok, List.find?_cons, beq_self_eq_true, List.eraseP_cons]
    rfl

/-- A text in a style is closed. -/
theorem shownFrom_closing (opens : Opens name style) (place position start : Nat)
    (rest : List Piece) :
    shownFrom place [⟨style, none, start⟩] (.tag position ⟨'/' :: name, none⟩ :: rest) =
      (shownFrom place [] rest).map fun others =>
        ⟨others.text, ⟨start, place, style.toList⟩ :: others.spans⟩ := by
  rw [shownFrom]
  split
  · next other named =>
    obtain ⟨-, rfl⟩ := List.cons.inj named
    rw [closed_of_opens opens, bind_ok]
    dsimp only
    have span : (Opening.close ⟨style, none, start⟩ place).mapError Error.tag =
        .ok [⟨start, place, style.toList⟩] := by
      rw [Opening.close, if_neg opens.noEvent]
      simp [Opening.span, Except.mapError]
    rw [span, bind_ok]
    cases shownFrom place [] rest <;> rfl
  · next different => exact absurd rfl (different name)

/-- A text between a tag and the tag that closes it can be drawn, and so can one where a backslash
keeps the tag from being closed. -/
theorem drawable_marked (opens : Opens name style) {inside behind : List Char}
    (reads : ReadsAsText inside ('[' :: ('/' :: name ++ ']' :: behind)))
    (readsBehind : ReadsAsText behind []) {s : String}
    (shape : s.toList = '[' :: (name ++ ']' :: (inside ++ '[' :: ('/' :: name ++ ']' :: behind)))) :
    Drawable s := by
  obtain ⟨first, position, left, slashes, read⟩ := reads (name.length + 2) []
  obtain ⟨begun, begunText⟩ := ofText_eq_texts left.reverse
  obtain ⟨halves, halvesText⟩ := ofText_eq_texts (backslashes (slashes / 2))
  obtain ⟨last, readLast⟩ := readsBehind.pieces (position + ('/' :: name).length + 2)
  have closing : Tag.ofBody ('/' :: name) = ⟨'/' :: name, none⟩ :=
    ofBody_of_noParameters (List.not_mem_cons_of_ne_of_not_mem (by decide) opens.noParameters)
  have whole : piecesFrom 0 [] 0 s.toList = .tag 0 ⟨name, none⟩ ::
      (texts (first ++ begun ++ halves) ++
        (if slashes % 2 = 1 then .text ('[' :: ('/' :: name) ++ [']'])
          else .tag position ⟨'/' :: name, none⟩) :: texts last) := by
    rw [shape, piecesFrom_of_tag _ _ _ (opens.tag_eq _)]
    show Piece.tag 0 (.ofBody name) :: piecesFrom (0 + name.length + 2) [] 0 _ = _
    rw [ofBody_of_noParameters opens.noParameters, Nat.zero_add, read,
      piecesFrom_of_tag _ _ _ (opens.closing_eq _), begunText, halvesText, closing, readLast]
    simp only [texts, List.map_append, List.append_assoc]
  have opened : Markup.shown s = shownFrom 0 [⟨style, none, 0⟩]
      (texts (first ++ begun ++ halves) ++
        (if slashes % 2 = 1 then .text ('[' :: ('/' :: name) ++ [']'])
          else .tag position ⟨'/' :: name, none⟩) :: texts last) := by
    rw [Markup.shown, whole, shownFrom_opening opens.noSlash, opens.normal, Except.mapError,
      bind_ok]
  rw [Drawable, opened]
  split
  · -- The tag stays open until the end.
    have rejoin :
        texts (first ++ begun ++ halves) ++ Piece.text ('[' :: ('/' :: name) ++ [']']) ::
          texts last =
        texts (first ++ begun ++ halves ++ ('[' :: ('/' :: name) ++ [']']) :: last) := by
      simp only [texts, List.map_append, List.map_cons, List.append_assoc]
    obtain ⟨text, stop, shown⟩ := shownFrom_texts_end 0 [⟨style, none, 0⟩]
      (first ++ begun ++ halves ++ ('[' :: ('/' :: name) ++ [']']) :: last)
    refine ⟨_, rejoin ▸ shown, fun span member => ?_⟩
    rw [List.mem_singleton.1 member]
    simpa [Opening.span] using opens.read
  · rw [shownFrom_texts, shownFrom_closing opens]
    obtain ⟨text, stop, shown⟩ := shownFrom_texts_end
      (0 + ((first ++ begun ++ halves).flatMap shownText).length) [] last
    rw [shown]
    refine ⟨_, rfl, fun span member => ?_⟩
    rw [List.mem_singleton.1 member]
    exact opens.read

end Markup

end CodeMetrics
