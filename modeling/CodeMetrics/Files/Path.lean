import CodeMetrics.Text.Line

/-!
# Paths

A path is a list of components below a root, or below nothing when it is relative. Empty components
and single points say nothing and are left out when a path is read; a double point stays, for what
it means depends on the files.
-/

namespace CodeMetrics

structure Path where
  /-- Empty for a relative path; one slash, or exactly two. -/
  root : String
  parts : List String
  deriving DecidableEq, Repr

namespace Path

def rootOf (text : List Char) : String :=
  match text.takeWhile (· == '/') with
  | [] => ""
  | [_, _] => "//"
  | _ => "/"

/-- The components a text holds between its slashes. -/
def components (text : String) : List String :=
  (Text.pieces '/' text).filter fun part => part != "" && part != "."

def ofString (text : String) : Path := ⟨rootOf text.toList, components text⟩

def isAbsolute (path : Path) : Bool := path.root != ""

/-- The path that says nothing is written as a point. -/
def text (path : Path) : String :=
  if path.root == "" && path.parts.isEmpty then "."
  else path.root ++ String.intercalate "/" path.parts

/-- A NUL stands in one of the components. -/
def hasNul (path : Path) : Bool := path.parts.any fun part => part.toList.contains '\x00'

/-- The last component. -/
def name (path : Path) : String := path.parts.getLastD ""

/-- The second path, as seen from the first. -/
def join (path other : Path) : Path :=
  if other.isAbsolute then other else ⟨path.root, path.parts ++ other.parts⟩

/-- Components that are followed one after the other, where each double point takes back the
component before it; `walked` holds the way so far, backwards. -/
def follow (walked : List String) : List String → List String
  | [] => walked.reverse
  | ".." :: rest => follow walked.tail rest
  | part :: rest => follow (part :: walked) rest

/-- The components of the path from the root, seen from a folder, without double points. -/
def resolve (folder : List String) (path : Path) : List String :=
  if path.isAbsolute then follow [] path.parts else follow [] (folder ++ path.parts)

/-- The path to a place given by its components from the root. -/
def absolute (parts : List String) : Path := ⟨"/", parts⟩

/-- The path without its last component. -/
def parent (path : Path) : Path := ⟨path.root, path.parts.dropLast⟩

end Path

end CodeMetrics
