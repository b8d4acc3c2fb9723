import CodeMetrics.Lexeme.Kind
import CodeMetrics.Text.Case
import CodeMetrics.Trace

/-!
# Lexers

A lexer cuts a source into lexemes. The lexer of a source is the one the caller names, else the one
its file name tells, else a guess from its text. Perl claims its file names first, since other
languages share them.
-/

namespace CodeMetrics

structure Lexer where
  name : String
  /-- The lexemes of a source, or what is said where it cannot be cut. -/
  lexemes : Snippet → Except String (List Lexeme)

/-- The ways of finding a lexer. It is foreseen that there is none. -/
structure Lexers where
  ofAlias : Wording → Except Stop Lexer
  /-- The text of the source helps where several lexers share a file name. -/
  ofFileName : String → Snippet → Except Stop Lexer
  guess : Snippet → Except Stop Lexer

/-- A name that says nothing counts as no name. -/
def given? (name : Option String) : Option String := name.filter fun text => !text.isEmpty

namespace Lexers

def perlEndings : List String := [".pl", ".pm", ".t", ".psgi"]

/-- A file name that Perl claims, in any case. -/
def isPerlFileName (fileName : String) : Bool :=
  perlEndings.any fun ending => (Text.lower fileName).endsWith ending

/-- The lexer of a source. -/
def find (lexers : Lexers) (code : Snippet) (fileName : Option String) (asked : Option Wording) :
    Except Stop Lexer :=
  match asked, given? fileName with
  | some name, _ => lexers.ofAlias name
  | none, some name =>
      if isPerlFileName name then lexers.ofAlias (.whole "perl") else lexers.ofFileName name code
  | none, none => lexers.guess code

/-- The name that is asked for. What is empty or zero asks for none, and all else has to be a
text. -/
def asked? (asked : Value) : Except Fault (Option Wording) :=
  if !asked.holds then .ok none
  else
    match asked with
    | .text name => .ok (some (.whole name))
    | .torn name => .ok (some (.torn name))
    | other => .error (.lacks other.kindName "lower")

/-- `find`, with what was asked for in the report. -/
def choose (lexers : Lexers) (code : Snippet) (fileName : Option String) (asked : Value) :
    Except Problem Lexer := do
  let name ← asked? asked
  (lexers.find code fileName name).mapError
    (Stop.problem fun reason => .parseFailure (.ofOption fileName) (.text reason) asked)

end Lexers

end CodeMetrics
