import CodeMetrics.Lexeme.Kind
import CodeMetrics.Token

/-!
# From lexemes to tokens

The stream of lexemes becomes a stream of tokens in one pass. Adjacent symbols are one token, for
some lexers name a sigil and the name behind it apart. What follows an end marker is no code, and
is one token however it was cut. A pass gives out tokens as it goes, and at the end what it still
holds back.
-/

namespace CodeMetrics

/-- The two markers that end the code of a file. -/
inductive Marker where
  | stop
  | data
  deriving DecidableEq, Repr

/-- The category of the text behind a marker. -/
def Marker.category : Marker → Category
  | .stop => .endMarker
  | .data => .data

def Marker.ofText? (text : Snippet) : Option Marker :=
  if text.trimmed = .ofString "__END__" then some .stop
  else if text.trimmed = .ofString "__DATA__" then some .data
  else none

namespace Lexeme

/-- The marker a lexeme is. Lexers name markers as directives or as builtins. -/
def marker? (lexeme : Lexeme) : Option Marker :=
  if lexeme.kind.isUnder .preprocessor || lexeme.kind.isUnder .builtin then
    Marker.ofText? lexeme.text
  else none

/-- A block of documentation starts with an equals sign, blanks aside. -/
def opensDocumentation (text : Snippet) : Bool :=
  text.trimLeft.points.head? == some '='.toNat

/-- The category of a lexeme that is no marker: narrower kinds come before wider ones. -/
def plainCategory (lexeme : Lexeme) : Category :=
  let kind := lexeme.kind
  if kind.isUnder .docstring then .documentation
  else if kind.isUnder .multilineComment && opensDocumentation lexeme.text then .documentation
  else if kind.isUnder .comment then .comment
  else if kind.isUnder .heredoc then .heredoc
  else if kind.isUnder .regex then .regex
  else if kind.isUnder .number then .number
  else if kind.isUnder .literal then .quote
  else if kind.isUnder .builtin then .keyword
  else if kind.isUnder .name then .symbol
  else if kind.isUnder .keyword then .keyword
  else if kind.isUnder .operator then .operator
  else if kind.isUnder .punctuation then .punctuation
  else if kind.isUnder .whitespace || (kind.isUnder .text && lexeme.text.allBlank) then
    .whitespace
  else .other

def category (lexeme : Lexeme) : Category :=
  match lexeme.marker? with
  | some marker => marker.category
  | none => lexeme.plainCategory

end Lexeme

/-- How far the pass over the lexemes has come. -/
inductive Pass where
  /-- Inside the code, behind the symbol fragments that are not given out yet. -/
  | code (symbol : Option Snippet)
  /-- Behind a marker, with the category of what follows it and the pieces of that so far. -/
  | trailing (category : Category) (pieces : Array Snippet)
  deriving DecidableEq, Repr

/-- The token of the symbol fragments gathered so far, if there are any. -/
def flushSymbol : Option Snippet → List Token
  | none => []
  | some text => [⟨.symbol, text⟩]

namespace Pass

def start : Pass := .code none

/-- One lexeme more: the tokens that it lets out, and where the pass stands behind it. -/
def step : Pass → Lexeme → List Token × Pass
  | .trailing category pieces, lexeme => ([], .trailing category (pieces.push lexeme.text))
  | .code symbol, lexeme =>
      let kind := lexeme.category
      if kind = .symbol then ([], .code (some (symbol.getD .empty ++ lexeme.text)))
      else match lexeme.marker? with
        -- The marker itself is never data.
        | some _ => (flushSymbol symbol ++ [⟨.endMarker, lexeme.text⟩], .trailing kind #[])
        | none => (flushSymbol symbol ++ [⟨kind, lexeme.text⟩], .code none)

/-- The tokens held back when the lexemes end. Nothing behind a marker is no token. -/
def finish : Pass → List Token
  | .code symbol => flushSymbol symbol
  | .trailing category pieces =>
      if pieces.isEmpty then [] else [⟨category, .join pieces.toList⟩]

/-- The tokens from here on. -/
def tokens (pass : Pass) : List Lexeme → List Token
  | [] => pass.finish
  | lexeme :: rest =>
      let (out, next) := pass.step lexeme
      out ++ next.tokens rest

end Pass

def tokensOf (lexemes : List Lexeme) : List Token := Pass.start.tokens lexemes

end CodeMetrics
