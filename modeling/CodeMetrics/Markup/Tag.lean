import CodeMetrics.Markup.Emoji
import CodeMetrics.Markup.Handler
import CodeMetrics.Markup.Style
import CodeMetrics.Text.Wrap

/-!
# Tags

Texts for a terminal can hold tags in square brackets: a tag opens a style, and a slash closes the
style it names or, alone, the last one opened. A backslash in front of a tag takes its meaning
away; of several backslashes every two stand for one. Without colours the tags only vanish, but
each closing tag must have something to close, handlers are read when they are closed, and styles
when the text is drawn.
-/

namespace CodeMetrics.Markup

open Text

/-- A closing tag with nothing to close, or with a handler that cannot be read. The position counts
characters of the markup. -/
inductive TagError where
  | unmatched (tag : String) (position : Nat)
  | nothingOpen (position : Nat)
  | handler (error : HandlerError)
  deriving DecidableEq, Repr

def TagError.message : TagError → String
  | .unmatched tag position =>
      s!"closing tag '{tag}' at position {position} doesn't match any open tag"
  | .nothingOpen position => s!"closing tag '[/]' at position {position} has nothing to close"
  | .handler error => error.message

/-- What is wrong with markup: a tag, or a colour whose parts are no numbers. -/
inductive Error where
  | tag (error : TagError)
  | color (error : Number.IntegerError)
  deriving DecidableEq, Repr

/-- What stands in front of the next closing bracket, and what follows it. An opening bracket ends
the search. -/
def bodyAt? : List Char → Option (List Char × List Char)
  | [] => none
  | ']' :: rest => some ([], rest)
  | '[' :: _ => none
  | c :: rest => (bodyAt? rest).map fun (body, after) => (c :: body, after)

theorem bodyAt?_length {cs body after : List Char} (found : bodyAt? cs = some (body, after)) :
    after.length < cs.length := by
  fun_induction bodyAt? cs generalizing body with
  | case1 => simp at found
  | case2 rest => simp_all
  | case3 => simp at found
  | case4 c rest _ _ ih =>
      simp only [Option.map_eq_some_iff, Prod.mk.injEq, Prod.exists] at found
      obtain ⟨inner, last, step, _, rfl⟩ := found
      exact Nat.lt_succ_of_lt (ih step)

/-- A tag starts with a small letter of ASCII, a slash, a hash or an at sign. -/
def startsTag (c : Char) : Bool := ('a' ≤ c && c ≤ 'z') || c == '#' || c == '/' || c == '@'

/-- The tag behind an opening bracket, and what follows it. -/
def tagAt? : List Char → Option (List Char × List Char)
  | [] => none
  | c :: rest =>
      if startsTag c then (bodyAt? rest).map fun (body, after) => (c :: body, after) else none

theorem tagAt?_length {cs tag after : List Char} (found : tagAt? cs = some (tag, after)) :
    after.length < cs.length := by
  cases cs with
  | nil => simp [tagAt?] at found
  | cons c rest =>
      simp only [tagAt?] at found
      split at found
      · simp only [Option.map_eq_some_iff, Prod.mk.injEq, Prod.exists] at found
        obtain ⟨inner, last, step, _, rfl⟩ := found
        have := bodyAt?_length step
        simp only [List.length_cons]
        omega
      · simp at found

def backslashes (n : Nat) : List Char := List.replicate n '\\'

/-! ## Escaping -/

/-- The markup of a text; `slashes` backslashes stand right before it. -/
def escapeFrom (slashes : Nat) : List Char → List Char
  | [] => backslashes slashes
  | '\\' :: rest => escapeFrom (slashes + 1) rest
  | '[' :: rest =>
      match _found : tagAt? rest with
      | some (tag, after) =>
          backslashes (2 * slashes + 1) ++ '[' :: tag ++ ']' :: escapeFrom 0 after
      | none => backslashes slashes ++ '[' :: escapeFrom 0 rest
  | c :: rest => backslashes slashes ++ c :: escapeFrom 0 rest
  termination_by cs => cs.length
  decreasing_by
    · simp
    · exact Nat.lt_succ_of_lt (tagAt?_length _found)
    · simp
    · simp

/-- The backslashes at the end of a text. -/
def slashesBehind (cs : List Char) : Nat := (cs.reverse.takeWhile (· == '\\')).length

/-- Markup for the text itself. A single backslash at the end is doubled, lest it escape what
follows. -/
def escape (s : String) : String :=
  let escaped := escapeFrom 0 s.toList
  String.ofList (if slashesBehind escaped = 1 then escaped ++ ['\\'] else escaped)

/-! ## Reading -/

structure Tag where
  name : List Char
  /-- What follows an equals sign. -/
  parameters : Option (List Char)

def Tag.ofBody (body : List Char) : Tag where
  name := body.takeWhile (· != '=')
  parameters :=
    if body.contains '=' then some ((body.dropWhile (· != '=')).drop 1) else none

/-- The tag as it was written. -/
def Tag.text (tag : Tag) : String :=
  match tag.parameters with
  | none => String.ofList ('[' :: tag.name ++ [']'])
  | some parameters => String.ofList ('[' :: tag.name ++ '=' :: parameters ++ [']'])

inductive Piece where
  | text (cs : List Char)
  /-- A tag and the position where it starts. -/
  | tag (position : Nat) (tag : Tag)

/-- A text that is there. -/
def Piece.ofText (cs : List Char) : List Piece := if cs.isEmpty then [] else [.text cs]

/-- The pieces of markup from a position on; `begun` is the text in front of it, backwards, with
`slashes` backslashes behind. -/
def piecesFrom (position : Nat) (begun : List Char) (slashes : Nat) : List Char → List Piece
  | [] => Piece.ofText (begun.reverse ++ backslashes slashes)
  | '\\' :: rest => piecesFrom (position + 1) begun (slashes + 1) rest
  | '[' :: rest =>
      match _found : tagAt? rest with
      | some (body, after) =>
          let next := position + body.length + 2
          let piece : Piece :=
            if slashes % 2 = 1 then .text ('[' :: body ++ [']']) else .tag position (.ofBody body)
          Piece.ofText begun.reverse ++ Piece.ofText (backslashes (slashes / 2)) ++
            piece :: piecesFrom next [] 0 after
      | none => piecesFrom (position + 1) ('[' :: (backslashes slashes ++ begun)) 0 rest
  | c :: rest => piecesFrom (position + 1) (c :: (backslashes slashes ++ begun)) 0 rest
  termination_by cs => cs.length
  decreasing_by
    · simp
    · exact Nat.lt_succ_of_lt (tagAt?_length _found)
    · simp
    · simp

/-- A backslash in front of a bracket that opens no tag is left out. -/
def dropEscapes : List Char → List Char
  | [] => []
  | '\\' :: '[' :: rest => '[' :: dropEscapes rest
  | c :: rest => c :: dropEscapes rest

/-- A tag that is open: its style in normal form, what follows its equals sign, and the place in the
text shown where it was opened. -/
structure Opening where
  style : String
  parameters : Option (List Char)
  start : Nat

/-- A part of a text with its style, which is a text that may be none. -/
structure Span where
  start : Nat
  stop : Nat
  style : List Char

/-- The part of the text from an opening on. What follows the equals sign belongs to the style. -/
def Opening.span (opening : Opening) (stop : Nat) : Span where
  start := opening.start
  stop := stop
  style := opening.style.toList ++ (opening.parameters.map fun cs => ' ' :: cs).getD []

/-- The text that markup shows, with its styles. -/
structure Shown where
  text : List Char
  spans : List Span

/-- A tag is closed. The style of an event is no style, and its handler is read. -/
def Opening.close (opening : Opening) (stop : Nat) : Except TagError (List Span) :=
  if opening.style.toList.head? = some '@' then
    match opening.parameters with
    | none | some [] => .ok []
    | some handler => ((checkHandler handler).mapError .handler).map fun _ => []
  else .ok [opening.span stop]

/-- A tag that closes the style it names, or the last one opened. The tag that is closed, and those
that stay open. -/
def closed (tag : Tag) (position : Nat) (name : List Char) (opened : List Opening) :
    Except Error (Opening × List Opening) := do
  match trim name, opened with
  | [], [] => throw (.tag (.nothingOpen position))
  | [], opening :: others => return (opening, others)
  | name, opened =>
      let style ← (normalStyle name).mapError .color
      match opened.find? fun opening => opening.style == style with
      | some opening => return (opening, opened.eraseP fun opening => opening.style == style)
      | none => throw (.tag (.unmatched tag.text position))

/-- What some pieces show behind a place, inside the tags that are open, the last one first. What
a terminal would act on is left out. -/
def shownFrom (place : Nat) (opened : List Opening) : List Piece → Except Error Shown
  | [] => .ok ⟨[], opened.map fun opening => opening.span place⟩
  | .text cs :: rest => do
      let text := (replaceCodes (dropEscapes cs)).filter fun c => !isControl c
      let others ← shownFrom (place + text.length) opened rest
      return ⟨text ++ others.text, others.spans⟩
  | .tag position tag :: rest => do
      match tag.name with
      | '/' :: name =>
          let (opening, stillOpen) ← closed tag position name opened
          let spans ← (opening.close place).mapError .tag
          let others ← shownFrom place stillOpen rest
          return ⟨others.text, spans ++ others.spans⟩
      | name =>
          let style ← (normalStyle name).mapError .color
          shownFrom place (⟨style, tag.parameters, place⟩ :: opened) rest

/-- What markup shows. -/
def shown (markup : String) : Except Error Shown :=
  shownFrom 0 [] (piecesFrom 0 [] 0 markup.toList)

/-! ## Drawing -/

/-- Which characters of a text are drawn. A text that is not set to the left loses the blanks at the
end of its lines. -/
def drawn (how : Justify) (text : List Char) : List Bool :=
  [false].intercalate <| (splitAt '\n' text).map fun line =>
    let size := if how = .left then line.length else (trimRight line).length
    List.replicate size true ++ List.replicate (line.length - size) false

/-- The style of the part is read. Of a text in one piece this goes for empty parts as well. -/
def Span.isRead (span : Span) (text : List Char) (places : List Bool) : Bool :=
  ((places.take span.stop).drop span.start).any id ||
    (span.start == span.stop && !text.contains '\n' && !text.contains '\t' &&
      (places.all id || places.getD span.start false))

/-- The styles of a text can be read as far as it is drawn. -/
def Shown.check (shown : Shown) (how : Justify) : Except Number.IntegerError Unit :=
  let places := drawn how shown.text
  (shown.spans.filter fun span => span.isRead shown.text places).forM fun span =>
    discard (Style.ofText span.style)

end CodeMetrics.Markup
