import CodeMetrics.Trace

/-!
# Git

The three questions that are put to git, and the ways in which it can answer.
-/

namespace CodeMetrics

inductive Query where
  /-- Where the repository has its root. -/
  | root
  /-- The commits that touch a path, a limited number of them. -/
  | log (limit path : String)
  /-- The content of a path at a commit. -/
  | content (sha path : String)
  deriving DecidableEq, Repr

/-- The command of git that answers a question. -/
def Query.command : Query → String
  | .root => "rev-parse"
  | .log .. => "log"
  | .content .. => "show"

def Query.arguments : Query → List String
  | .root => ["rev-parse", "--show-toplevel"]
  | .log limit path => ["log", "--format=%H|%at|%s", "-n" ++ limit, "--", path]
  | .content sha path => ["show", sha ++ ":" ++ path]

inductive Reply where
  | notInstalled
  /-- It could not be started for another reason. -/
  | failed (fault : Fault)
  | timedOut
  | done (code : Int) (output complaint : List UInt8)
  deriving DecidableEq, Repr

/-- What git answers; it answers the same question the same way. -/
abbrev Git := Query → Reply

/-- What git wrote. -/
structure Output where
  code : Int
  output : List UInt8
  complaint : List UInt8
  deriving DecidableEq, Repr

/-- Git asked in a repository. -/
def Git.ask (git : Git) (repository : String) (query : Query) : Trace Output := do
  Trace.emit (.ran ("git" :: "-C" :: repository :: query.arguments))
  match git query with
  | .notInstalled => Trace.fail (.sourceUnavailable (.text repository) .gitMissing)
  | .failed fault => Trace.stop (.escaped fault)
  | .timedOut => Trace.fail (.sourceUnavailable (.text repository) (.gitTimedOut query.command))
  | .done code output complaint => return ⟨code, output, complaint⟩

end CodeMetrics
