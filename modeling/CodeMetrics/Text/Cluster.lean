import CodeMetrics.Text.Cell

/-!
# Clusters

The pieces of a line that a terminal draws as one: a character with the marks, the joined
characters and the selectors behind it. A line is cut between clusters only, so that no mark loses
its letter.
-/

namespace CodeMetrics.Text

structure Cluster where
  chars : List Char
  cells : Nat
  deriving DecidableEq, Repr

/-- The clusters of the characters read so far. -/
structure Clustering where
  /-- The complete clusters, the last one first. -/
  done : List Cluster
  /-- The cluster under way, its characters backwards. -/
  begun : Cluster
  /-- The last character that took cells, unless a selector has made it wide. -/
  last : Option Char
  /-- The next character is joined to the cluster under way. -/
  joined : Bool

/-- A line starts with the cluster of its first character, whichever that is. -/
def Clustering.start (c : Char) : Clustering :=
  ⟨[], ⟨[c], cellsOf c⟩, if cellsOf c = 0 then none else some c, false⟩

/-- The cluster under way with one more character, which takes `more` cells. -/
def Clustering.extend (clustering : Clustering) (c : Char) (more : Nat) : Clustering :=
  { clustering with
    begun := ⟨c :: clustering.begun.chars, clustering.begun.cells + more⟩
    joined := false }

/-- The cluster under way, as it stands in the line. -/
def Clustering.current (clustering : Clustering) : Cluster :=
  { clustering.begun with chars := clustering.begun.chars.reverse }

/-- The clusters with one more character. -/
def Clustering.step (clustering : Clustering) (c : Char) : Clustering :=
  if clustering.joined then clustering.extend c 0
  else if c = joiner then { clustering.extend c 0 with joined := true }
  else if c = selector then
    if clustering.last.any isWidened then { clustering.extend c 1 with last := none }
    else clustering.extend c 0
  else if cellsOf c = 0 then clustering.extend c 0
  else ⟨clustering.current :: clustering.done, ⟨[c], cellsOf c⟩, some c, false⟩

/-- The clusters of a line, which together are the line. -/
def clusters : List Char → List Cluster
  | [] => []
  | c :: rest =>
      let clustering := rest.foldl Clustering.step (.start c)
      (clustering.current :: clustering.done).reverse

/-- The clusters that fit into `width` cells; one that is cut leaves a blank. -/
def fitting : Nat → List Cluster → List Char
  | 0, _ => []
  | _, [] => []
  | width + 1, cluster :: rest =>
      if cluster.cells ≤ width + 1 then
        cluster.chars ++ fitting (width + 1 - cluster.cells) rest
      else [' ']

/-- The first `width` cells of a line that is wider. -/
def cutTo (width : Nat) (cs : List Char) : List Char := fitting width (clusters cs)

/-- Pieces of at most `width` cells; `begun` holds the clusters of the piece under way, the last
one first, and `taken` is their size. -/
def chopFrom (width : Nat) (begun : List Cluster) (taken : Nat) :
    List Cluster → List (List Cluster)
  | [] => if taken = 0 then [] else [begun.reverse]
  | cluster :: rest =>
      if width < taken + cluster.cells then
        begun.reverse :: chopFrom width [cluster] cluster.cells rest
      else chopFrom width (cluster :: begun) (taken + cluster.cells) rest

/-- A word in pieces of at most `width` cells. -/
def chop (width : Nat) (word : List Char) : List (List Char) :=
  (chopFrom width [] 0 (clusters word)).map fun piece => piece.flatMap Cluster.chars

end CodeMetrics.Text
