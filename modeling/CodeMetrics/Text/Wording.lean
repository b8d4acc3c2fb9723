import CodeMetrics.Text.Encoding
import CodeMetrics.Text.Quoted
import CodeMetrics.Text.Snippet

/-!
# Wordings

A text that is given from outside is not always made of characters. Where the bytes of a variable
are no UTF-8, a half of a surrogate pair stands for each of them, and callers can give any halves.
Whole texts go out as UTF-8 and come back as they were; of torn ones, only the halves that stand for
bytes go out, and what comes back is what these bytes are.
-/

namespace CodeMetrics

/-- A text in which a half of a surrogate pair stands for itself. -/
structure Torn where
  points : List Nat
  torn : points.any Snippet.isHalf = true
  deriving DecidableEq, Repr

inductive Wording where
  | whole (text : String)
  | torn (text : Torn)
  deriving DecidableEq, Repr

namespace Torn

/-- The text as far as it can be shown. -/
def shown (text : Torn) : String := Snippet.shown ⟨text.points⟩

/-- The text with a mark for every half, so that it is read as no number. -/
def masked (text : Torn) : List Char :=
  text.points.map fun point => if Snippet.isHalf point then '?' else Char.ofNat point

/-- How a code point stands inside the given quotes. -/
def escapePoint (quote : Char) (point : Nat) : List Char :=
  if Snippet.isHalf point then '\\' :: 'u' :: Text.hexDigits 4 point
  else Text.escape quote (Char.ofNat point)

/-- The text between quotes. -/
def written (text : Torn) : String :=
  let quote := if text.points.contains 0x27 && !text.points.contains 0x22 then '\x22' else '\x27'
  String.ofList (quote :: text.points.flatMap (escapePoint quote) ++ [quote])

/-- The halves from the first one on that stand together, as what keeps the text from being written
as UTF-8. -/
def refusal (text : Torn) : Text.EncodeError :=
  let before := text.points.takeWhile fun point => !Snippet.isHalf point
  ⟨before.length, (text.points.drop before.length).takeWhile Snippet.isHalf⟩

end Torn

namespace Wording

/-- The text of some code points. -/
def ofPoints (points : List Nat) : Wording :=
  if torn : points.any Snippet.isHalf = true then .torn ⟨points, torn⟩
  else .whole (String.ofList (points.map Char.ofNat))

def shown : Wording → String
  | .whole text => text
  | .torn text => text.shown

def written : Wording → String
  | .whole text => Text.quoted text
  | .torn text => text.written

/-- The text as it comes back when it went out as bytes. -/
def exported : Wording → Except Text.EncodeError Wording
  | .whole text => .ok (.whole text)
  | .torn text => (Text.encodeEscaped 0 text.points).map fun bytes =>
      .ofPoints (Text.decodeEscaped bytes)

/-- The characters as they are read by a setting that is no text. -/
def masked : Wording → List Char
  | .whole text => text.toList
  | .torn text => text.masked

def hasNul : Wording → Bool
  | .whole text => text.toList.contains '\x00'
  | .torn text => text.points.contains 0

end Wording

end CodeMetrics
