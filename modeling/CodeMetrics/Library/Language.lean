import CodeMetrics.Library.Lexer
import CodeMetrics.Library.TypedLine

/-!
# Some languages

Lexers with which the program can be run. There is one for each language, and all of them read a
source as typed lines.
-/

namespace CodeMetrics

inductive Language where
  | perl
  | python
  | plain
  | json
  | ruby
  | go
  | java
  | c
  | toml
  | bash
  deriving DecidableEq, Repr

namespace Language

def all : List Language := [.perl, .python, .plain, .json, .ruby, .go, .java, .c, .toml, .bash]

def name : Language → String
  | .perl => "Perl"
  | .python => "Python"
  | .plain => "Text only"
  | .json => "JSON"
  | .ruby => "Ruby"
  | .go => "Go"
  | .java => "Java"
  | .c => "C"
  | .toml => "TOML"
  | .bash => "Bash"

/-- The names a caller can ask by, in any case. -/
def aliases : Language → List String
  | .perl => ["perl", "pl"]
  | .python => ["python", "py", "python3"]
  | .plain => ["text"]
  | .json => ["json"]
  | .ruby => ["ruby", "rb"]
  | .go => ["go"]
  | .java => ["java"]
  | .c => ["c"]
  | .toml => ["toml"]
  | .bash => ["bash", "sh"]

/-- How its file names end. -/
def extension? : Language → Option String
  | .perl => none
  | .python => some ".py"
  | .plain => some ".txt"
  | .json => some ".json"
  | .ruby => some ".rb"
  | .go => some ".go"
  | .java => some ".java"
  | .c => some ".c"
  | .toml => some ".toml"
  | .bash => some ".sh"

def ofAlias? (name : String) : Option Language :=
  all.find? fun language => language.aliases.contains (Text.lower name)

/-- The part of a file name behind the last slash. -/
def baseName (fileName : String) : String := (Text.pieces '/' fileName).getLastD ""

def ofFileName? (fileName : String) : Option Language :=
  all.find? fun language =>
    language.extension?.any fun ending => (baseName fileName).endsWith ending

/-- A text that says it is of no language. -/
def unguessable : String := "%%NOGUESS%%"

/-- The text holds the other one somewhere. -/
def holds (inner : List Char) : List Char → Bool
  | [] => inner.isEmpty
  | first :: rest => inner.isPrefixOf (first :: rest) || holds inner rest

def lexer (language : Language) : Lexer where
  name := language.name
  lexemes code := TypedLine.lexemes code.shown

/-- The lexer of a language, if one was found. -/
def require (missing : String) : Option Language → Except Stop Lexer
  | some language => .ok language.lexer
  | none => .error (.foreseen missing)

end Language

def Lexers.standIn : Lexers where
  ofAlias name :=
    Language.require s!"no lexer for alias {name.written} found" (Language.ofAlias? name.shown)
  ofFileName name _ :=
    Language.require s!"no lexer for filename {Text.quoted name} found" (Language.ofFileName? name)
  guess code :=
    Language.require "no lexer matching the text found"
      (if Language.holds Language.unguessable.toList code.shown.toList then none else some .plain)

end CodeMetrics
