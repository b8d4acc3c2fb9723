import CodeMetrics.Run

/-!
# Revisions

A revision is one commit of a file's history. A point of the history is a revision with the
analysis of the file as it was then, or with the failure that stopped the analysis.
-/

namespace CodeMetrics

structure Revision where
  sha : String
  /-- Seconds of Unix time. -/
  timestamp : Int
  /-- What the commit says of itself, when that is known. -/
  subject : Option String
  deriving DecidableEq, Repr

/-- The first ten digits name a commit well enough. -/
def Revision.shortSha (revision : Revision) : String :=
  String.ofList (revision.sha.toList.take 10)

structure Point where
  revision : Revision
  outcome : Except Failure Run

end CodeMetrics
