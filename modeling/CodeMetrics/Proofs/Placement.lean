import CodeMetrics.Proofs.Interruption
import CodeMetrics.Proofs.Line
import CodeMetrics.Proofs.Paths

/-!
# Where a file stands in its repository

A path leads to a place: the names of the folders one goes through from the root of the file system.
Git names a file from the root of its repository on, so a file has a path for git when its place
begins with that of the repository, name by name. What is left is the path, and from the root of the
repository it leads back to the place of the file.

The first reading of this rule asked for no more than the places. It is false for a path with a NUL
in it (`relativePath_not_inverted`): no file has such a path, and it counts as one that leads
outside.

Results:
1. `Path.isPlace_placeOf`: a place is made of names, whatever path leads there.
2. `Host.resolve_ofString`: a host finds the place of a path one piece after the other.
3. `Path.pieces_text`, `Host.resolve_below`: a path below a folder, and where it leads from there.
4. `Timeline.relativePath_inverts`: when a file has a path in its repository, and what it is.
-/

namespace CodeMetrics

namespace Path

/-! ## Places -/

/-- What a file or a folder can be called. -/
structure IsName (part : String) : Prop extends IsPart part where
  noStep : part ≠ ".."
  noNul : '\x00' ∉ part.toList

/-- Names that lead from the root to a place, each in the folder of those before it. -/
def IsPlace (place : List String) : Prop := ∀ part ∈ place, IsName part

/-- What a piece of a path leads to from a place. Above the root there is nothing else. -/
def enter (place : List String) (piece : String) : List String :=
  if piece = ".." then place.dropLast
  else if piece = "" ∨ piece = "." then place
  else place ++ [piece]

/-- The place a path leads to from a folder, or from the root when it starts with a slash. -/
def placeOf (folder : List String) (text : String) : List String :=
  (Text.pieces '/' text).foldl enter (if text.toList.head? = some '/' then [] else folder)

variable {folder place rest parts : List String} {text : String}

/-- Where an absolute path leads does not depend on the folder it is seen from. -/
theorem placeOf_absolute (absolute : text.toList.head? = some '/') :
    placeOf folder text = placeOf [] text := by
  unfold placeOf
  rw [if_pos absolute, if_pos absolute]

theorem IsPlace.append (named : IsPlace place) (namedRest : IsPlace rest) :
    IsPlace (place ++ rest) := by
  intro part member
  exact (List.mem_append.1 member).elim (named part) (namedRest part)

theorem IsPlace.of_append (named : IsPlace (place ++ rest)) : IsPlace rest :=
  fun part member => named part (List.mem_append_right place member)

theorem isPlace_enter {piece : String} (named : IsPlace place) (noSlash : '/' ∉ piece.toList)
    (noNul : '\x00' ∉ piece.toList) : IsPlace (enter place piece) := by
  unfold enter
  split
  · exact fun part member => named part (List.mem_of_mem_dropLast member)
  · next noStep =>
    split
    · exact named
    · next solid =>
      obtain ⟨nonempty, noPoint⟩ := not_or.1 solid
      refine named.append fun part member => ?_
      rw [List.mem_singleton.1 member]
      exact ⟨⟨nonempty, noPoint, noSlash⟩, noStep, noNul⟩

theorem isPlace_foldl {pieces : List String} (named : IsPlace place)
    (noSlash : ∀ piece ∈ pieces, '/' ∉ piece.toList)
    (noNul : ∀ piece ∈ pieces, '\x00' ∉ piece.toList) : IsPlace (pieces.foldl enter place) := by
  induction pieces generalizing place with
  | nil => exact named
  | cons piece pieces ih =>
      have entered := isPlace_enter named (noSlash piece List.mem_cons_self)
        (noNul piece List.mem_cons_self)
      exact ih entered (fun other member => noSlash other (List.mem_cons_of_mem piece member))
        fun other member => noNul other (List.mem_cons_of_mem piece member)

/-- A place is made of names, whatever path leads there. -/
theorem isPlace_placeOf (named : IsPlace folder) (noNul : '\x00' ∉ text.toList) :
    IsPlace (placeOf folder text) := by
  have start : IsPlace (if text.toList.head? = some '/' then [] else folder) := by
    split
    · exact fun part member => absurd member List.not_mem_nil
    · exact named
  refine isPlace_foldl start (fun piece member => ?_) fun piece member => ?_
  · obtain ⟨cs, split, rfl⟩ := List.mem_map.1 member
    simpa using Text.notMem_of_mem_splitAt split
  · obtain ⟨cs, split, rfl⟩ := List.mem_map.1 member
    intro nul
    exact noNul ((Text.exists_mem_splitAt (by decide)).1 ⟨cs, split, by simpa using nul⟩)

/-! ## Following a path -/

/-- Names are entered one behind the other. -/
theorem foldl_enter_names (named : IsPlace rest) : rest.foldl enter place = place ++ rest := by
  induction rest generalizing place with
  | nil => exact (List.append_nil place).symm
  | cons part rest ih =>
      have name := named part List.mem_cons_self
      have entered : enter place part = place ++ [part] := by
        unfold enter
        rw [if_neg name.noStep, if_neg (not_or.2 ⟨name.nonempty, name.noPoint⟩)]
      have behind : IsPlace rest :=
        fun other member => named other (List.mem_cons_of_mem part member)
      rw [List.foldl_cons, entered, ih behind, List.append_assoc, List.singleton_append]

/-- Pieces that say nothing can be left out. -/
theorem foldl_enter_components (place : List String) (text : String) :
    (components text).foldl enter place = (Text.pieces '/' text).foldl enter place := by
  unfold components
  rw [List.foldl_filter]
  congr 1
  funext place piece
  split
  · rfl
  · next idle =>
    have nothing : piece = "" ∨ piece = "." := by
      simpa [Classical.or_iff_not_imp_left] using idle
    have noStep : piece ≠ ".." := by rcases nothing with rfl | rfl <;> decide
    unfold enter
    rw [if_neg noStep, if_pos nothing]

/-- Following components is entering them one after the other. -/
theorem follow_eq_foldl {walked : List String} (each : ∀ part ∈ parts, IsPart part) :
    follow walked parts = parts.foldl enter walked.reverse := by
  fun_induction follow walked parts with
  | case1 walked => rfl
  | case2 walked rest ih =>
      -- The way so far is held backwards, so what a step takes from its front was entered last.
      have entered : enter walked.reverse ".." = walked.tail.reverse := by
        unfold enter
        rw [if_pos rfl, List.dropLast_reverse]
      rw [List.foldl_cons, entered]
      exact ih fun part member => each part (List.mem_cons_of_mem ".." member)
  | case3 walked part rest noStep ih =>
      have solid := each part List.mem_cons_self
      have entered : enter walked.reverse part = (part :: walked).reverse := by
        unfold enter
        rw [if_neg noStep, if_neg (not_or.2 ⟨solid.nonempty, solid.noPoint⟩), List.reverse_cons]
      rw [List.foldl_cons, entered]
      exact ih fun other member => each other (List.mem_cons_of_mem part member)

theorem isAbsolute_ofString : (ofString text).isAbsolute = true ↔ text.toList.head? = some '/' := by
  show (rootOf text.toList != "") = true ↔ _
  cases text.toList with
  | nil => decide
  | cons c rest =>
      by_cases slash : c = '/'
      · subst slash
        have behind : rootOf ('/' :: rest) ≠ "" := by
          unfold rootOf
          rw [List.takeWhile_cons_of_pos (by decide)]
          split
          · next nothing => cases nothing
          · decide
          · decide
        simp [behind]
      · have relative : rootOf (c :: rest) = "" := by simp [rootOf, slash]
        simp [relative, slash]

/-- Following the components of a path is entering one piece after the other. -/
theorem follow_components (walked : List String) (text : String) :
    follow walked (components text) = (Text.pieces '/' text).foldl enter walked.reverse := by
  rw [follow_eq_foldl fun _ => isPart_of_mem_components, foldl_enter_components]

/-! ## Paths below a folder -/

/-- What is written between the slashes of a path below a folder. -/
theorem pieces_text (named : IsPlace rest) (below : rest ≠ []) :
    Text.pieces '/' (Path.text ⟨"", rest⟩) = rest := by
  have written : Path.text ⟨"", rest⟩ = String.intercalate "/" rest := by
    unfold Path.text
    simp [below]
  rw [written]
  exact pieces_intercalate (fun part member => (named part member).toIsPart) below

/-- The pieces of a path below a folder are names, unless it is the path of the folder itself. -/
theorem mem_pieces_text {piece : String} (named : IsPlace rest)
    (member : piece ∈ Text.pieces '/' (Path.text ⟨"", rest⟩)) :
    piece ≠ "" ∧ piece ≠ ".." ∧ (piece = "." → rest = []) := by
  by_cases below : rest = []
  · subst below
    cases List.mem_singleton.1 (show piece ∈ ["."] from member)
    exact ⟨by decide, by decide, fun _ => rfl⟩
  · rw [pieces_text named below] at member
    have name := named piece member
    exact ⟨name.nonempty, name.noStep, fun point => absurd point name.noPoint⟩

/-- The path of a folder from itself is a point, and no other path below it is. -/
theorem text_eq_point_iff (named : IsPlace rest) : Path.text ⟨"", rest⟩ = "." ↔ rest = [] := by
  constructor
  · intro point
    have member : "." ∈ Text.pieces '/' (Path.text ⟨"", rest⟩) := by
      rw [point]
      decide
    exact (mem_pieces_text named member).2.2 rfl
  · rintro rfl
    rfl

end Path

/-! ## Disks without links -/

namespace Disk

variable {disk : Disk}

/-- There are no links on the disk. -/
def Unlinked (disk : Disk) : Prop := ∀ place target, disk.node? place ≠ some (.link target)

/-- Without links a path is followed as it is written. -/
theorem settle_of_unlinked (unlinked : disk.Unlinked) (place parts : List String) :
    disk.settle place parts = Path.follow place.reverse parts := by
  induction parts generalizing place with
  | nil =>
      rw [settle, Path.follow, List.reverse_reverse]
  | cons part rest ih =>
      have noLink : disk.linkIn? place part = none := by
        rw [linkIn?]
        split
        · next target _ _ found => exact absurd found (unlinked _ target)
        · rfl
      rw [settle]
      by_cases step : part = ".."
      · subst step
        rw [if_pos rfl, ih, Path.follow, List.tail_reverse]
      · rw [if_neg step, noLink]
        dsimp only
        rw [ih, List.reverse_append]
        exact (Path.follow.eq_3 _ _ _ step).symm

theorem isLoop_of_reach (unlinked : disk.Unlinked) {place : List String} {lost : Lost}
    (missed : disk.reach place = .error lost) : lost.isLoop = false := by
  rw [reach] at missed
  split at missed
  · cases missed
    rfl
  · next target found => exact absurd found (unlinked place target)
  · split at missed
    · next error refused =>
      cases missed
      exact beq_eq_false_iff_ne.2 (disk.noLoop _ _ _ refused)
    · cases missed

theorem isLoop_of_walk (unlinked : disk.Unlinked) {start parts : List String} {lost : Lost}
    (missed : disk.walk start parts = .error lost) : lost.isLoop = false := by
  induction parts generalizing start with
  | nil => exact isLoop_of_reach unlinked missed
  | cons part rest ih =>
      rw [walk] at missed
      split at missed
      · cases missed
        rfl
      · cases missed
        rfl
      · cases missed
        rfl
      · next target found => exact absurd found (unlinked start target)
      · split at missed
        · next error refused =>
          cases missed
          exact beq_eq_false_iff_ne.2 (disk.noLoop _ _ _ refused)
        · split at missed
          · cases missed
            rfl
          · exact ih missed

/-- Without links no path leads in a circle. -/
theorem isLoop_of_find (unlinked : disk.Unlinked) {folder : List String} {path : Path} {lost : Lost}
    (missed : disk.find folder path = .error lost) : lost.isLoop = false := by
  rw [find] at missed
  split at missed
  · cases missed
    rfl
  · split at missed
    · cases missed
      rfl
    · split at missed
      · exact isLoop_of_walk unlinked missed
      · exact isLoop_of_walk unlinked missed

end Disk

namespace Host

open CodeMetrics.Path

variable {host : Host} {rest : List String} {root text : String} (unlinked : host.disk.Unlinked)
include unlinked

theorem resolve_of_unlinked {path : Path} (named : ¬ path.hasNul = true) :
    host.resolve path =
      .ok (follow (if path.isAbsolute then [] else host.current.reverse) path.parts) := by
  have settled : host.settled path =
      follow (if path.isAbsolute then [] else host.current.reverse) path.parts := by
    rw [Host.settled, Disk.settle_of_unlinked unlinked]
    split <;> rfl
  rw [resolve, if_neg named, ← settled]
  dsimp only
  split
  · rfl
  · next lost missed => rw [if_neg (Bool.eq_false_iff.1 (Disk.isLoop_of_find unlinked missed))]

/-- A host finds the place of a path one piece after the other, each folder from the one before. -/
theorem resolve_ofString (noNul : '\x00' ∉ text.toList) :
    host.resolve (.ofString text) = .ok (placeOf host.current text) := by
  have followed := resolve_of_unlinked unlinked (mt hasNul_ofString.1 noNul)
  simp only [isAbsolute_ofString] at followed
  rw [followed, placeOf]
  show Except.ok (follow _ (components text)) = _
  rw [follow_components]
  split
  · rfl
  · rw [List.reverse_reverse]

/-- Below a folder, the names of a path are those behind the names of the folder. -/
theorem resolve_below (absolute : root.toList.head? = some '/') (noNul : '\x00' ∉ root.toList)
    (named : IsPlace rest) :
    host.resolve ((Path.ofString root).join (.ofString (Path.text ⟨"", rest⟩))) =
      .ok (placeOf [] root ++ rest) := by
  have read : Path.ofString (Path.text ⟨"", rest⟩) = ⟨"", rest⟩ :=
    ofString_text_of_isPart (.inl rfl) fun part member => (named part member).toIsPart
  have noNulBelow : ¬ ((Path.ofString root).join ⟨"", rest⟩).hasNul = true := by
    show ¬ (components root ++ rest).any _ = true
    rw [List.any_append, Bool.or_eq_true, not_or]
    refine ⟨mt hasNul_ofString.1 noNul, ?_⟩
    simpa using fun part member => (named part member).noNul
  have each : ∀ part ∈ components root ++ rest, IsPart part := by
    intro part member
    exact (List.mem_append.1 member).elim isPart_of_mem_components
      fun behind => (named part behind).toIsPart
  have rooted : ((Path.ofString root).join ⟨"", rest⟩).isAbsolute = true :=
    isAbsolute_ofString.2 absolute
  rw [read, resolve_of_unlinked unlinked noNulBelow, if_pos rooted]
  show Except.ok (follow [] (components root ++ rest)) = _
  rw [follow_eq_foldl each, List.foldl_append, foldl_enter_names named, foldl_enter_components]
  unfold placeOf
  rw [if_pos absolute]
  rfl

end Host

/-! ## Repositories -/

/-- Git prints this absolute path as the root of the repository, and blanks behind it at most. -/
structure Git.NamesRoot (git : Git) (root : String) : Prop where
  answer : ∃ output complaint blanks, git .root = .done 0 output complaint ∧
    Text.Encoding.decode .utf8 output = .ok (root.toList ++ blanks) ∧
    ∀ c ∈ blanks, Text.isBlank c = true
  trimmed : Text.trimmed root = root
  absolute : root.toList.head? = some '/'

theorem Git.NamesRoot.trim_answer {git : Git} {root : String} (told : git.NamesRoot root)
    {blanks : List Char} (each : ∀ c ∈ blanks, Text.isBlank c = true) :
    String.ofList (Text.trim (root.toList ++ blanks)) = root := by
  rw [Text.trim_append_blanks each]
  exact told.trimmed

namespace Timeline

open CodeMetrics.Path

variable {host : Host} {git : Git} {repository file root : String}

theorem rootOf_of_namesRoot (unlinked : host.disk.Unlinked) (told : git.NamesRoot root)
    (noNul : '\x00' ∉ root.toList) :
    (rootOf host git repository).outcome = .ok (placeOf [] root) := by
  obtain ⟨output, complaint, blanks, answered, decoded, each⟩ := told.answer
  have found : placeOf host.current root = placeOf [] root := placeOf_absolute told.absolute
  refine Trace.bind_eq_ok.2 ⟨⟨0, output, complaint⟩, Git.ask_eq_ok.2 answered, ?_⟩
  rw [if_neg (not_not.2 rfl), decoded]
  dsimp only
  rw [told.trim_answer each]
  exact Trace.liftFault_eq_ok.2 (found ▸ Host.resolve_ofString unlinked noNul)

/-- A root with a NUL in it interrupts. -/
theorem relativePath_of_nul (told : git.NamesRoot root) (nul : '\x00' ∈ root.toList) :
    (relativePath host git repository file).outcome = .error (.escaped .nullByte) := by
  obtain ⟨output, complaint, blanks, answered, decoded, each⟩ := told.answer
  refine Trace.fault?_eq_some.1 (fault?_relativePath.2
    (.root (.place answered decoded (.hasNul ?_))))
  rw [told.trim_answer each]
  exact hasNul_ofString.2 nul

theorem relativePath_outcome (unlinked : host.disk.Unlinked) (told : git.NamesRoot root)
    (noNul : '\x00' ∉ root.toList) :
    (relativePath host git repository file).outcome =
      if '\x00' ∉ file.toList ∧ placeOf [] root <+: placeOf host.current file then
        .ok (Path.text ⟨"", (placeOf host.current file).drop (placeOf [] root).length⟩)
      else .error (.reported (.sourceUnavailable (.text file)
        (.outsideRepository (Path.absolute (placeOf [] root)).text))) := by
  unfold relativePath
  rw [Trace.bind_of_ok (rootOf_of_namesRoot unlinked told noNul)]
  dsimp only
  by_cases nul : '\x00' ∈ file.toList
  · have lost : host.resolve (.ofString file) = .error .nullByte :=
      resolve_eq_error.2 (.hasNul (hasNul_ofString.2 nul))
    rw [lost, if_neg fun both => both.1 nul]
    rfl
  · rw [Host.resolve_ofString unlinked nul]
    dsimp only
    unfold below?
    by_cases inside : placeOf [] root <+: placeOf host.current file
    · rw [if_pos (List.isPrefixOf_iff_prefix.2 inside), if_pos ⟨nul, inside⟩]
      rfl
    · rw [if_neg (mt List.isPrefixOf_iff_prefix.1 inside), if_neg fun both => inside both.2]
      rfl

/-- On a disk without links, for a host that works at a place, a file has a path in its repository
when its own place begins with that of the repository, name by name, and the path it is given by has
no NUL in it. The path in the repository has names between its slashes and is a point for the
repository itself only, and from the root of the repository it leads to the file. Every other file
is refused as one outside the repository. -/
theorem relativePath_inverts (unlinked : host.disk.Unlinked) (named : IsPlace host.current)
    (told : git.NamesRoot root) (noNul : '\x00' ∉ root.toList) :
    let top := placeOf [] root
    let place := placeOf host.current file
    let outcome := (relativePath host git repository file).outcome
    host.resolve (.ofString root) = .ok top ∧
      ((∃ path, outcome = .ok path) ↔ '\x00' ∉ file.toList ∧ top <+: place) ∧
      (∀ path, outcome = .ok path →
        (∀ piece ∈ Text.pieces '/' path,
          piece ≠ "" ∧ piece ≠ ".." ∧ (piece = "." → place = top)) ∧
        (path = "." ↔ place = top) ∧
        host.resolve (.ofString file) = .ok place ∧
        host.resolve ((Path.ofString root).join (.ofString path)) = .ok place) ∧
      ((∀ path, outcome ≠ .ok path) → outcome = .error (.reported
        (.sourceUnavailable (.text file) (.outsideRepository (Path.absolute top).text)))) := by
  intro top place outcome
  have ended : outcome = _ := relativePath_outcome unlinked told noNul
  have rooted : placeOf host.current root = top := placeOf_absolute told.absolute
  refine ⟨rooted ▸ Host.resolve_ofString unlinked noNul, ?_⟩
  by_cases inside : '\x00' ∉ file.toList ∧ top <+: place
  · obtain ⟨noNulFile, rest, split⟩ := inside
    -- The path is what is left of the place behind the repository, so it is made of names too.
    have behind : place.drop top.length = rest := by rw [← split, List.drop_left]
    rw [if_pos ⟨noNulFile, rest, split⟩, behind] at ended
    have namedRest : IsPlace rest :=
      (split ▸ isPlace_placeOf named noNulFile : IsPlace (top ++ rest)).of_append
    have atTop : rest = [] ↔ place = top := by rw [← split, List.append_right_eq_self]
    refine ⟨⟨fun _ => ⟨noNulFile, rest, split⟩, fun _ => ⟨_, ended⟩⟩, fun path returned => ?_,
      fun nowhere => absurd ended (nowhere _)⟩
    cases ended.symm.trans returned
    refine ⟨fun piece member => ?_, (text_eq_point_iff namedRest).trans atTop,
      Host.resolve_ofString unlinked noNulFile,
      split ▸ Host.resolve_below unlinked told.absolute noNul namedRest⟩
    obtain ⟨nonempty, noStep, point⟩ := mem_pieces_text namedRest member
    exact ⟨nonempty, noStep, fun isPoint => atTop.1 (point isPoint)⟩
  · rw [if_neg inside] at ended
    have refused : ∀ path, outcome ≠ .ok path := by
      intro path returned
      cases ended.symm.trans returned
    exact ⟨⟨fun returns => returns.elim fun path returned => absurd returned (refused path),
      fun both => absurd both inside⟩, fun path returned => absurd returned (refused path),
      fun _ => ended⟩

/-- Git prints the root of a repository, and nothing else. -/
def printing (root : String) : Git
  | .root => .done 0 ((root ++ "\n").toUTF8.data.toList) []
  | .log .. | .content .. => .done 0 [] []

theorem isPlace_emptyMachine : IsPlace emptyMachine.current := by
  intro part member
  rw [List.mem_singleton.1 member]
  exact ⟨⟨by decide, by decide, by decide⟩, by decide, by decide⟩

theorem unlinked_emptyMachine : emptyMachine.disk.Unlinked := by
  intro place target found
  rw [Disk.node?] at found
  split at found <;> cases found

theorem isBlank_lineFeed : ∀ c ∈ ['\n'], Text.isBlank c = true := by
  intro c member
  rw [List.mem_singleton.1 member]
  rfl

theorem printing_repository : (printing "/repository/../work").NamesRoot "/repository/../work" where
  answer := ⟨_, _, ['\n'], rfl, by decide +kernel, isBlank_lineFeed⟩
  trimmed := by decide +kernel
  absolute := by decide

/-- A file that is named from another folder, with steps back and slashes that say nothing. -/
theorem relativePath_inverts_below :
    (relativePath emptyMachine (printing "/repository/../work") "/repository"
        "../work//lib/./old/../main.pl/").outcome = .ok "lib/main.pl" ∧
      emptyMachine.resolve (.ofString "../work//lib/./old/../main.pl/") =
        .ok ["work", "lib", "main.pl"] ∧
      emptyMachine.resolve ((Path.ofString "/repository/../work").join (.ofString "lib/main.pl")) =
        .ok ["work", "lib", "main.pl"] := by
  have inverts := @relativePath_inverts emptyMachine _ "/repository"
    "../work//lib/./old/../main.pl/" _ unlinked_emptyMachine isPlace_emptyMachine
    printing_repository (by decide)
  have returned : (relativePath emptyMachine (printing "/repository/../work") "/repository"
      "../work//lib/./old/../main.pl/").outcome = .ok "lib/main.pl" := by
    rw [relativePath_outcome unlinked_emptyMachine printing_repository (by decide),
      if_pos (by decide)]
    rfl
  have place : placeOf emptyMachine.current "../work//lib/./old/../main.pl/" =
      ["work", "lib", "main.pl"] := by decide
  obtain ⟨-, -, found, joined⟩ := inverts.2.2.1 _ returned
  rw [place] at found joined
  exact ⟨returned, found, joined⟩

/-- With a NUL the places do not tell. A path with one in it counts as one outside the repository,
wherever its place is, and a root with one in it interrupts. -/
theorem relativePath_not_inverted :
    ((printing "/repository").NamesRoot "/repository" ∧
      placeOf [] "/repository" <+: placeOf emptyMachine.current "/repository/a\x00b" ∧
      (relativePath emptyMachine (printing "/repository") "/repository"
        "/repository/a\x00b").outcome = .error (.reported (.sourceUnavailable
          (.text "/repository/a\x00b") (.outsideRepository "/repository")))) ∧
    (printing "/a\x00b").NamesRoot "/a\x00b" ∧
      placeOf [] "/a\x00b" <+: placeOf emptyMachine.current "/a\x00b/main.pl" ∧
      (relativePath emptyMachine (printing "/a\x00b") "/repository" "/a\x00b/main.pl").outcome =
        .error (.escaped .nullByte) := by
  have toldPlain : (printing "/repository").NamesRoot "/repository" :=
    ⟨⟨_, _, ['\n'], rfl, by decide +kernel, isBlank_lineFeed⟩, by decide +kernel, by decide⟩
  have toldNul : (printing "/a\x00b").NamesRoot "/a\x00b" :=
    ⟨⟨_, _, ['\n'], rfl, by decide +kernel, isBlank_lineFeed⟩, by decide +kernel, by decide⟩
  refine ⟨⟨toldPlain, by decide, ?_⟩, toldNul, by decide, relativePath_of_nul toldNul (by decide)⟩
  rw [relativePath_outcome unlinked_emptyMachine toldPlain (by decide), if_neg (by decide)]
  rfl

end Timeline

end CodeMetrics
