import Mathlib.Data.List.TakeWhile
import CodeMetrics.Dump
import CodeMetrics.Proofs.Line

/-!
# Listings are read as they were written

A listing names an element on each line. A token has its text behind the name, and what stands
between them, in front of them and behind them is blank. Everything else is structure: a name, or
nothing. Whatever the blanks are, a listing gives back the tokens that were written into it.

Blanks and line breaks are two things. Every line break is blank, so that names hold none. A text
may hold blanks, and structure may even be cut into several lines, which are structure again.

Results:
1. `sublist_of_mem_lines`: a line is part of its text.
2. `HoldsOneWord.firstWord?_eq_none`: a line with one word, however it is padded, has no text.
3. `Payload.firstWord?_line`: the name and the text of a token are found.
4. `tokens_written`: the tokens of a listing.
-/

namespace CodeMetrics.Text

/-! ## Lines and words -/

/-- A line of a text is part of it, but for line feeds that stand for carriage returns: and those
belong to no line. -/
theorem sublist_of_mem_linesFrom {begun cs line : List Char}
    (member : line ∈ linesFrom begun (unifyBreaks cs)) : line.Sublist (begun.reverse ++ cs) := by
  induction cs generalizing begun with
  | nil =>
      cases begun with
      | nil => cases member
      | cons c before =>
          rw [List.append_nil]
          exact List.mem_singleton.1 member ▸ List.Sublist.refl _
  | cons c rest ih =>
      -- The line ends here, or it is one of those that are read from the rest.
      have ended (member : line ∈ begun.reverse :: linesFrom [] (unifyBreaks rest)) :
          line.Sublist (begun.reverse ++ c :: rest) := by
        rcases List.mem_cons.1 member with rfl | later
        · exact List.sublist_append_left _ _
        · exact ((ih later).cons c).trans (List.sublist_append_right _ _)
      cases carriage : isReturn c with
      | false =>
          rw [unifyBreaks_cons_of_plain carriage] at member
          cases ends : isLineBreak c with
          | true => exact ended (linesFrom_cons_of_break ends begun _ ▸ member)
          | false =>
              rw [linesFrom_cons_of_unbroken ends] at member
              have read := ih member
              rwa [List.reverse_cons, List.append_assoc] at read
      | true =>
          cases paired : rest.head?.any isLineFeed with
          | true =>
              rw [unifyBreaks_cons_of_paired carriage paired] at member
              exact (ih member).trans ((List.sublist_cons_self c rest).append_left _)
          | false =>
              rw [unifyBreaks_cons_of_single carriage paired,
                linesFrom_cons_of_break isLineBreak_lineFeed] at member
              exact ended member

theorem sublist_of_mem_lines {cs line : List Char} (member : line ∈ lines cs) :
    line.Sublist cs :=
  @sublist_of_mem_linesFrom [] cs line member

/-- Behind the first word everything is blank. -/
def HoldsOneWord (cs : List Char) : Prop :=
  (trimLeft cs).Pairwise fun c next => isBlank c = true → isBlank next = true

theorem trimLeft_sublist {cs whole : List Char} (part : cs.Sublist whole) :
    (trimLeft cs).Sublist (trimLeft whole) := by
  induction part with
  | slnil => exact .slnil
  | @cons cs whole c part ih =>
      by_cases blank : isBlank c = true
      · rwa [trimLeft, trimLeft, List.dropWhile_cons_of_pos blank]
      · rw [trimLeft, trimLeft, List.dropWhile_cons_of_neg blank]
        exact ((List.dropWhile_sublist _).trans part).cons c
  | @cons_cons cs whole c part ih =>
      by_cases blank : isBlank c = true
      · rwa [trimLeft, trimLeft, List.dropWhile_cons_of_pos blank,
          List.dropWhile_cons_of_pos blank]
      · rw [trimLeft, trimLeft, List.dropWhile_cons_of_neg blank,
          List.dropWhile_cons_of_neg blank]
        exact part.cons_cons c

theorem HoldsOneWord.of_sublist {cs whole : List Char} (one : HoldsOneWord whole)
    (part : cs.Sublist whole) : HoldsOneWord cs :=
  List.Pairwise.sublist (trimLeft_sublist part) one

theorem holdsOneWord_append {before word behind : List Char}
    (blankBefore : ∀ c ∈ before, isBlank c = true) (solid : ∀ c ∈ word, isBlank c = false)
    (blankBehind : ∀ c ∈ behind, isBlank c = true) :
    HoldsOneWord (before ++ word ++ behind) := by
  have padded : HoldsOneWord (word ++ behind) := by
    refine List.Pairwise.sublist (List.dropWhile_sublist _) ?_
    refine List.pairwise_append.2 ⟨?_, ?_, fun _ _ next member _ => blankBehind next member⟩
    · exact List.pairwise_of_forall_mem_list fun c member next memberNext blank =>
        absurd blank (by simp [solid c member])
    · exact List.pairwise_of_forall_mem_list fun _ _ next member _ => blankBehind next member
  rwa [HoldsOneWord, List.append_assoc, trimLeft, List.dropWhile_append_of_pos blankBefore]

theorem trimRight_sublist (cs : List Char) : (trimRight cs).Sublist cs := by
  have part := (List.dropWhile_sublist isBlank (l := cs.reverse)).reverse
  rwa [List.reverse_reverse] at part

/-- A line with one word has no second one. -/
theorem HoldsOneWord.firstWord?_eq_none {line : List Char} (one : HoldsOneWord line) :
    firstWord? line = none := by
  have ordered : (trim line).Pairwise fun c next => isBlank c = true → isBlank next = true :=
    List.Pairwise.sublist (trimRight_sublist _) one
  have nothing : ((trim line).dropWhile fun c => !isBlank c).dropWhile isBlank = [] := by
    cases behind : (trim line).dropWhile fun c => !isBlank c with
    | nil => rfl
    | cons c rest =>
        have filled : (trim line).dropWhile (fun c => !isBlank c) ≠ [] :=
          behind ▸ List.cons_ne_nil c rest
        have blank : isBlank c = true := by
          simpa [behind] using List.head_dropWhile_not (fun c => !isBlank c) filled
        have later := behind ▸ List.Pairwise.sublist (List.dropWhile_sublist _) ordered
        refine List.dropWhile_eq_nil_iff.2 fun other member => ?_
        rcases List.mem_cons.1 member with rfl | inRest
        · exact blank
        · exact (List.pairwise_cons.1 later).1 other inRest blank
  rw [firstWord?, nothing]

end CodeMetrics.Text

namespace CodeMetrics.Dump

open Text

/-! ## What is written -/

def IsSolid (cs : List Char) : Prop := ∀ c ∈ cs, isBlank c = false

/-- Blanks that leave the line in one. -/
def IsPadding (cs : List Char) : Prop := ∀ c ∈ cs, isBlank c = true ∧ isLineBreak c = false

instance (cs : List Char) : Decidable (IsSolid cs) :=
  decidable_of_iff ((cs.all fun c => !isBlank c) = true) (by simp [IsSolid])

instance (cs : List Char) : Decidable (IsPadding cs) :=
  decidable_of_iff ((cs.all fun c => isBlank c && !isLineBreak c) = true) (by simp [IsPadding])

/-- An element without a text: one word, or none, with any blanks around it. -/
structure Bare where
  before : List Char
  name : List Char
  behind : List Char
  beforeBlank : ∀ c ∈ before, isBlank c = true
  nameSolid : IsSolid name
  behindBlank : ∀ c ∈ behind, isBlank c = true

/-- An element with a text, which stands in one line with the name and neither starts nor ends with
a blank. -/
structure Payload where
  indent : List Char
  name : List Char
  gap : List Char
  text : List Char
  trailing : List Char
  indentPads : IsPadding indent
  nameSome : name ≠ []
  nameSolid : IsSolid name
  gapSome : gap ≠ []
  gapPads : IsPadding gap
  textSome : text ≠ []
  textStarts : ∀ c ∈ text.head?, isBlank c = false
  textEnds : ∀ c ∈ text.getLast?, isBlank c = false
  textUnbroken : ∀ c ∈ text, isLineBreak c = false
  trailingPads : IsPadding trailing

inductive Element where
  | bare (element : Bare)
  | payload (element : Payload)

def Bare.line (element : Bare) : List Char := element.before ++ element.name ++ element.behind

def Payload.line (element : Payload) : List Char :=
  element.indent ++ (element.name ++ (element.gap ++ element.text)) ++ element.trailing

def Element.line : Element → List Char
  | .bare element => element.line
  | .payload element => element.line

def Payload.token (element : Payload) : Token :=
  ⟨categoryOf (String.ofList element.name), .ofChars element.text⟩

/-- Structure is no token. -/
def Element.token? : Element → Option Token
  | .bare _ => none
  | .payload element => some element.token

/-- The listing of some elements. -/
def written (elements : List Element) : String :=
  String.ofList (['\n'].intercalate (elements.map Element.line))

/-! ## What is read -/

theorem className_chars (cs : List Char) : className cs = String.ofList cs := by
  simp [className]

/-- However structure is cut into lines, no line of it has a text. -/
theorem filterMap_lines_eq_nil {cs : List Char} (one : HoldsOneWord cs) :
    (lines cs).filterMap tokenOfLine? = [] := by
  refine List.filterMap_eq_nil_iff.2 fun line member => ?_
  have nothing := (one.of_sublist (sublist_of_mem_lines member)).firstWord?_eq_none
  rw [tokenOfLine?, nothing, Option.map_none]

theorem Bare.holdsOneWord (element : Bare) : HoldsOneWord element.line :=
  holdsOneWord_append element.beforeBlank element.nameSolid element.behindBlank

/-- The line feed behind structure is one more blank. -/
theorem Bare.holdsOneWord_newline (element : Bare) : HoldsOneWord (element.line ++ ['\n']) := by
  rw [Bare.line, List.append_assoc]
  refine holdsOneWord_append element.beforeBlank element.nameSolid fun c member => ?_
  rcases List.mem_append.1 member with blank | newline
  · exact element.behindBlank c blank
  · exact List.mem_singleton.1 newline ▸ rfl

namespace Payload

variable (element : Payload)

theorem line_unbroken : ∀ c ∈ element.line, isLineBreak c = false := by
  intro c member
  simp only [line, List.mem_append, or_assoc] at member
  rcases member with padding | named | padding | text | padding
  · exact (element.indentPads c padding).2
  · have solid := element.nameSolid c named
    exact Bool.eq_false_iff.2 fun ends => by simp [isBlank_of_isLineBreak ends] at solid
  · exact (element.gapPads c padding).2
  · exact element.textUnbroken c text
  · exact (element.trailingPads c padding).2

theorem line_ne_nil : element.line ≠ [] := by
  have named := element.nameSome
  simp [line, named]

/-- The padding goes, and nothing else. -/
theorem trim_line : trim element.line = element.name ++ (element.gap ++ element.text) := by
  have first : trimLeft element.line =
      element.name ++ (element.gap ++ element.text) ++ element.trailing := by
    obtain ⟨c, rest, started⟩ := List.exists_cons_of_ne_nil element.nameSome
    have solid : isBlank c = false := element.nameSolid c (started ▸ List.mem_cons_self)
    rw [line, List.append_assoc, trimLeft,
      List.dropWhile_append_of_pos fun c member => (element.indentPads c member).1, started]
    exact List.dropWhile_cons_of_neg (by simp [solid])
  have last : trimRight element.trailing = [] := by
    have all : element.trailing.reverse.dropWhile isBlank = [] :=
      List.dropWhile_eq_nil_iff.2 fun c member =>
        (element.trailingPads c (List.mem_reverse.1 member)).1
    rw [trimRight, all, List.reverse_nil]
  obtain ⟨front, c, ended⟩ : ∃ front c, element.text = front ++ [c] :=
    ⟨_, _, (List.dropLast_concat_getLast element.textSome).symm⟩
  have solid : isBlank c = false := element.textEnds c (by simp [ended])
  have whole : element.name ++ (element.gap ++ element.text) ++ element.trailing =
      (element.name ++ (element.gap ++ front)) ++ c :: element.trailing := by
    simp [ended]
  rw [trim, first, whole, trimRight_append_cons solid, last, ended]
  simp

theorem firstWord?_line : firstWord? element.line = some (element.name, element.text) := by
  obtain ⟨blank, gap, gapped⟩ := List.exists_cons_of_ne_nil element.gapSome
  obtain ⟨c, text, started⟩ := List.exists_cons_of_ne_nil element.textSome
  have apart : isBlank blank = true := (element.gapPads blank (gapped ▸ List.mem_cons_self)).1
  have solid : isBlank c = false := element.textStarts c (started ▸ rfl)
  have name : ∀ c ∈ element.name, (!isBlank c) = true := fun c member => by
    rw [element.nameSolid c member, Bool.not_false]
  have behind : (element.name ++ (element.gap ++ element.text)).dropWhile (fun c => !isBlank c) =
      element.gap ++ element.text := by
    rw [List.dropWhile_append_of_pos name, gapped]
    exact List.dropWhile_cons_of_neg (by simp [apart])
  have word : (element.name ++ (element.gap ++ element.text)).takeWhile (fun c => !isBlank c) =
      element.name := by
    rw [List.takeWhile_append_of_pos name, gapped, List.cons_append,
      List.takeWhile_cons_of_neg (by simp [apart]), List.append_nil]
  have rest : (element.gap ++ element.text).dropWhile isBlank = element.text := by
    rw [List.dropWhile_append_of_pos fun c member => (element.gapPads c member).1, started]
    exact List.dropWhile_cons_of_neg (by simp [solid])
  simp only [firstWord?, trim_line, behind, word, rest]
  rw [started]

theorem tokenOfLine?_line : tokenOfLine? element.line = some element.token := by
  rw [tokenOfLine?, firstWord?_line, Option.map_some]
  dsimp only
  rw [className_chars]
  rfl

end Payload

/-- What the lines of one element come to, in front of other elements. -/
theorem Element.filterMap_lines_newline (element : Element) :
    (lines (element.line ++ ['\n'])).filterMap tokenOfLine? = element.token?.toList := by
  cases element with
  | bare element => exact filterMap_lines_eq_nil element.holdsOneWord_newline
  | payload element =>
      have one : lines (element.line ++ ['\n']) = [element.line] :=
        lines_of_unbroken element.line_unbroken
      rw [line, one, List.filterMap_cons_some element.tokenOfLine?_line]
      rfl

/-- What the lines of the last element come to. -/
theorem Element.filterMap_lines (element : Element) :
    (lines element.line).filterMap tokenOfLine? = element.token?.toList := by
  cases element with
  | bare element => exact filterMap_lines_eq_nil element.holdsOneWord
  | payload element =>
      have one : lines element.line = [element.line] :=
        lines_unended element.line_ne_nil element.line_unbroken
      rw [line, one, List.filterMap_cons_some element.tokenOfLine?_line]
      rfl

/-- A listing gives back its tokens: one for each element with a text, in the order of the
elements, in the category of the name and with that text. -/
theorem tokens_written (elements : List Element) :
    tokens (written elements) = elements.filterMap Element.token? := by
  rw [tokens, tokensIn, written, String.toList_ofList]
  induction elements with
  | nil => rfl
  | cons element others ih =>
      have here : (element :: others).filterMap Element.token? =
          element.token?.toList ++ others.filterMap Element.token? := by
        rw [List.filterMap_cons]
        cases element.token? <;> rfl
      cases others with
      | nil =>
          rw [here, List.map_singleton, List.intercalate_singleton, element.filterMap_lines]
          exact (List.append_nil _).symm
      | cons next rest =>
          have cut (behind : List Char) : lines (element.line ++ '\n' :: behind) =
              lines (element.line ++ ['\n']) ++ lines behind :=
            lines_append_newline element.line behind
          rw [here, List.map_cons, List.map_cons, List.intercalate_cons_cons, List.append_assoc,
            List.singleton_append, cut, List.filterMap_append, element.filterMap_lines_newline,
            ← ih]
          rfl

/-- A class alone on its line, with a form feed behind it, which breaks the line. -/
def heading : Bare where
  before := []
  name := "PPI::Document".toList
  behind := [' ', '\x0c', ' ']
  beforeBlank := nofun
  nameSolid := by decide
  behindBlank := List.all_eq_true.1 (by decide)

def emptyLine : Bare where
  before := []
  name := []
  behind := []
  beforeBlank := nofun
  nameSolid := nofun
  behindBlank := nofun

/-- A token with blanks inside its text. A unit separator is a blank that breaks no line. -/
def declaration : Payload where
  indent := ['\t']
  name := "PPI::Token::Word".toList
  gap := [' ', '\x1f']
  text := ['m', 'y', ' ', ' ', '$', 'x']
  trailing := [' ']
  indentPads := by decide
  nameSome := List.cons_ne_nil _ _
  nameSolid := by decide
  gapSome := List.cons_ne_nil _ _
  gapPads := by decide
  textSome := List.cons_ne_nil _ _
  textStarts c first := Option.some.inj first ▸ rfl
  textEnds c last := Option.some.inj last ▸ rfl
  textUnbroken c member := Bool.eq_false_iff.2 (List.any_eq_false.1 (by decide) c member)
  trailingPads := by decide

theorem tokens_written_padded :
    written [.bare heading, .bare emptyLine, .payload declaration] =
        "PPI::Document \x0c \n\n\tPPI::Token::Word \x1fmy  $x " ∧
      tokens (written [.bare heading, .bare emptyLine, .payload declaration]) =
        [⟨.keyword, .ofString "my  $x"⟩] := by
  have read : [Element.bare heading, .bare emptyLine, .payload declaration].filterMap
      Element.token? = [⟨.keyword, .ofString "my  $x"⟩] := by decide
  exact ⟨by decide, (tokens_written _).trans read⟩

end CodeMetrics.Dump
