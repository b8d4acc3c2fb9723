import CodeMetrics.Markup.Color
import CodeMetrics.Text.Case

/-!
# Styles

A style is written as words: attributes, which can be switched off, a colour, a colour behind the
text, and a link. Different words can mean the same style, so that styles are compared by their
normal form: attributes in a fixed order, then the colours, then the link.
-/

namespace CodeMetrics.Markup

open Text

/-- The attributes in the order of the normal form, each with its short name if it has one. -/
def attributeNames : List (String × Option String) :=
  [("bold", some "b"), ("dim", some "d"), ("italic", some "i"), ("underline", some "u"),
   ("blink", none), ("blink2", none), ("reverse", some "r"), ("conceal", some "c"),
   ("strike", some "s"), ("underline2", some "uu"), ("frame", none), ("encircle", none),
   ("overline", some "o")]

/-- The attribute a word stands for. -/
def attribute? (word : String) : Option String :=
  (attributeNames.find? fun names => names.1 == word || names.2 == some word).map Prod.fst

structure Style where
  /-- Attributes that are switched on or off; the last word on one of them holds. -/
  attributes : List (String × Bool)
  color : Option String
  behind : Option String
  link : Option String

def Style.plain : Style := ⟨[], none, none, none⟩

/-- The style with an attribute switched. -/
def Style.switch (style : Style) (name : String) (on : Bool) : Style :=
  { style with attributes := (name, on) :: style.attributes }

def isColorName (word : String) : Except Number.IntegerError Bool := isColor word.toList

/-- The style that words add to; nothing when a word says nothing. A colour whose parts are no
numbers is an error, unless a word before it says nothing. -/
def Style.read (style : Style) : List String → Except Number.IntegerError (Option Style)
  | [] => .ok (some style)
  | [word] => do
      let small := lower word
      if ["on", "not", "link"].contains small then return none
      match attribute? small with
      | some name => return some (style.switch name true)
      | none => return if ← isColorName small then some { style with color := some small } else none
  | word :: next :: rest => do
      let small := lower word
      if small = "on" then
        if ← isColorName (lower next) then
          read { style with behind := some (lower next) } rest
        else return none
      else if small = "not" then
        match attribute? next with
        | some name => read (style.switch name false) rest
        | none => return none
      else if small = "link" then read { style with link := some next } rest
      else
        match attribute? small with
        | some name => read (style.switch name true) (next :: rest)
        | none =>
            if ← isColorName small then read { style with color := some small } (next :: rest)
            else return none

/-- The words of the normal form. -/
def Style.words (style : Style) : List String :=
  (attributeNames.filterMap fun names =>
    (style.attributes.lookup names.1).map fun on => if on then names.1 else "not " ++ names.1) ++
    style.color.toList ++ (style.behind.map fun color => "on " ++ color).toList ++
    (style.link.map fun target => "link " ++ target).toList

/-- The style a text stands for, if it stands for one. -/
def Style.ofText (text : List Char) : Except Number.IntegerError (Option Style) :=
  Style.plain.read ((blankSeparated text).map String.ofList)

/-- The normal form of a style. A text that is no style stands for itself, whatever its case. -/
def normalStyle (text : List Char) : Except Number.IntegerError String := do
  if text.all isBlank then return "none"
  match ← Style.ofText text with
  | some style => return String.intercalate " " style.words
  | none => return lower (String.ofList (trim text))

end CodeMetrics.Markup
