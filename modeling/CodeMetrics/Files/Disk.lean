import CodeMetrics.Fault
import CodeMetrics.Files.Path

/-!
# Disks

The files a computation can see: folders and files by their components from the root, and links to
them. Paths are followed folder by folder, so that a double point behind a missing folder leads
nowhere. The system can refuse anything that is done with a place.
-/

namespace CodeMetrics

inductive Node where
  | folder
  | file (bytes : List UInt8)
  /-- Neither of these: it takes all that is written to it, and nothing can be read from it. What a
  screen takes appears where a command prints. -/
  | device (screen : Bool)
  /-- A link, with the place where it leads in the end. In a circle that is a link again. -/
  | link (target : List String)
  deriving DecidableEq, Repr

/-- What can be done with a place. -/
inductive Access where
  /-- Going through a folder. -/
  | enter
  /-- Learning what is there. -/
  | look
  | read
  /-- Changing a file, or what is in a folder. -/
  | write
  deriving DecidableEq, Repr

structure Disk where
  nodes : List (List String × Node)
  refuses : Access → List String → Option SystemError
  /-- Links in a circle, the number 40 of the system's errors, show in the nodes. -/
  noLoop : ∀ access place error, refuses access place = some error → error.number ≠ 40

namespace Disk

/-- A disk where nothing is refused. -/
def ofNodes (nodes : List (List String × Node)) : Disk where
  nodes := nodes
  refuses _ _ := none
  noLoop := nofun

/-- The root is always there. -/
def node? (disk : Disk) (place : List String) : Option Node :=
  if place.isEmpty then some .folder else disk.nodes.lookup place

/-- Where one comes from a place, which may be a link. -/
def target (disk : Disk) (place : List String) : List String :=
  match disk.node? place with
  | some (.link target) => target
  | _ => place

/-- Why a path leads nowhere. -/
inductive Lost where
  | missing
  /-- A file stands where a folder is needed. -/
  | underFile
  /-- A component, or the whole path, has too many bytes. -/
  | nameTooLong
  /-- Links lead in a circle. -/
  | loop
  /-- The system does not let one look at a place, or go through it. -/
  | refused (error : SystemError) (place : List String)
  deriving DecidableEq, Repr

/-- The most bytes a component can have. -/
def longestName : Nat := 255

/-- What is found at a place. -/
def reach (disk : Disk) (place : List String) : Except Lost (List String × Node) :=
  match disk.node? place with
  | none => .error .missing
  | some (.link _) => .error .loop
  | some node =>
      match disk.refuses .look place with
      | some error => .error (.refused error place)
      | none => .ok (place, node)

/-- The place of a name in a folder. -/
def enter (disk : Disk) (folder : List String) (name : String) : List String :=
  if name = ".." then folder.dropLast else disk.target (folder ++ [name])

/-- Where some components lead from a place, with what is found there. -/
def walk (disk : Disk) (place : List String) : List String → Except Lost (List String × Node)
  | [] => disk.reach place
  | part :: rest =>
      match disk.node? place with
      | none => .error .missing
      | some (.file _) | some (.device _) => .error .underFile
      | some (.link _) => .error .loop
      | some .folder =>
          match disk.refuses .enter place with
          | some error => .error (.refused error place)
          | none =>
              if longestName < part.utf8ByteSize then .error .nameTooLong
              else disk.walk (disk.enter place part) rest

/-- The bytes a whole path has to stay below. -/
def pathBound : Nat := 4096

/-- What a path leads to, seen from a folder. No name has a NUL in it. -/
def find (disk : Disk) (folder : List String) (path : Path) :
    Except Lost (List String × Node) :=
  if path.hasNul then .error .missing
  else if pathBound ≤ path.text.utf8ByteSize then .error .nameTooLong
  else if path.isAbsolute then disk.walk [] path.parts
  else disk.walk folder path.parts

/-- The place where a path ends, whether one may look there or not. -/
def goal? (disk : Disk) (folder : List String) (path : Path) : Option (List String) :=
  match disk.find folder path with
  | .ok (place, _) | .error (.refused _ place) => some place
  | .error _ => none

/-! ## Real paths

The place of a path can be asked for whether something is there or not. Links are followed as far as
they can be seen; behind what is missing the components are followed as they are written. -/

/-- The target of the link of a name in a folder, as far as it can be seen. -/
def linkIn? (disk : Disk) (folder : List String) (name : String) : Option (List String) :=
  match disk.node? folder, disk.refuses .enter folder, disk.node? (folder ++ [name]) with
  | some .folder, none, some (.link target) => some target
  | _, _, _ => none

def isLink (disk : Disk) (place : List String) : Bool :=
  match disk.node? place with
  | some (.link _) => true
  | _ => false

/-- The place of some components, seen from a place. Behind links in a circle no other is
followed. -/
def settle (disk : Disk) (place : List String) : List String → List String
  | [] => place
  | part :: rest =>
      if part = ".." then disk.settle place.dropLast rest
      else
        match disk.linkIn? place part with
        | none => disk.settle (place ++ [part]) rest
        | some target =>
            if disk.isLink target then Path.follow target.reverse rest
            else disk.settle target rest

/-! ## Changes -/

/-- The disk with a node at a place; what was there before is gone. -/
def put (disk : Disk) (place : List String) (node : Node) : Disk :=
  { disk with nodes := (place, node) :: disk.nodes.filter fun entry => entry.1 != place }

/-- The disk with a folder at a place, unless something is there. -/
def ensureFolder (disk : Disk) (place : List String) : Disk :=
  if (disk.node? place).isSome then disk else disk.put place .folder

/-- The disk with a folder at every place on the way to the given one, and there. -/
def makeFolders (disk : Disk) (place : List String) : Disk :=
  (List.range place.length).foldl (fun d i => d.ensureFolder (place.take (i + 1))) disk

/-- The disk with the bytes of a file written to a place. -/
def fill (disk : Disk) (place : List String) (bytes : List UInt8) : Disk :=
  match disk.node? place with
  | some (.device _) => disk
  | _ => disk.put place (.file bytes)

/-- The disk without a place and all that is below it. -/
def remove (disk : Disk) (place : List String) : Disk :=
  { disk with nodes := disk.nodes.filter fun entry => !place.isPrefixOf entry.1 }

/-- The bytes of the file at a place; none when no file is there. -/
def bytesAt (disk : Disk) (place : List String) : List UInt8 :=
  match disk.node? place with
  | some (.file bytes) => bytes
  | _ => []

end Disk

end CodeMetrics
