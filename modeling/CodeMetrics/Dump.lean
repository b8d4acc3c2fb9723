import CodeMetrics.Text.Blank
import CodeMetrics.Text.Line
import CodeMetrics.Token

/-!
# Dump listings

A dump lists one element of a parsed Perl document on each line: its class and, for tokens, the
text. Classes form a tree, and a class without a category of its own has that of the closest
class above it.
-/

namespace CodeMetrics.Dump

/-- The classes of tokens that have a category, below the class of all tokens. -/
def categories : List (String × Category) :=
  [("Number", .number), ("Symbol", .symbol), ("Magic", .symbol), ("ArrayIndex", .symbol),
   ("HereDoc", .heredoc), ("Data", .data), ("Quote", .quote), ("QuoteLike", .quote),
   ("QuoteLike::Regexp", .regex), ("Regexp", .regex), ("Comment", .comment),
   ("Pod", .documentation), ("End", .endMarker), ("Separator", .endMarker),
   ("Whitespace", .whitespace), ("Word", .keyword), ("Operator", .operator),
   ("Cast", .operator), ("Structure", .structural)]

/-- What the class names of all tokens start with. -/
def tokenClass : List Char := "PPI::Token::".toList

/-- The class is the given one, or below it. -/
def isBelow (name : List Char) (entry : String) : Bool :=
  name == entry.toList || (entry.toList ++ "::".toList).isPrefixOf name

/-- The category of the longest entry the class is below; of entries as long, the first. -/
def longest (name : List Char) (entries : List (String × Category)) : Option (String × Category) :=
  entries.foldl (fun best entry =>
    if isBelow name entry.1 && best.all fun b => b.1.length < entry.1.length then some entry
    else best) none

def categoryIn (entries : List (String × Category)) (name : String) : Category :=
  if tokenClass.isPrefixOf name.toList then
    match longest (name.toList.drop tokenClass.length) entries with
    | some entry => entry.2
    | none => .other
  else .other

/-- The category of a class. -/
def categoryOf (name : String) : Category := categoryIn categories name

section

variable {α : Type} [Text.Coded α]

/-- The characters of a class name. What is no character stands in no class. -/
def className (cs : List α) : String := String.ofList (cs.map fun c => Char.ofNat (Text.code c))

/-- The token of a line; lines without a text are structure. -/
def tokenOfLine? (line : List α) : Option Token :=
  (Text.firstWord? line).map fun (name, text) => ⟨categoryOf (className name), .ofUnits text⟩

/-- The tokens of a listing, which may hold what is no character. -/
def tokensIn (listing : List α) : List Token := (Text.lines listing).filterMap tokenOfLine?

end

def tokens (listing : String) : List Token := tokensIn listing.toList

end CodeMetrics.Dump
