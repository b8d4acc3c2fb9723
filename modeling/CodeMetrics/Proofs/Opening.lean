import CodeMetrics.Proofs.Computation
import CodeMetrics.Proofs.Host

/-!
# What setting up logging leaves alone

A log file that is there is left as it is when logging is set up, and one that is not there is made.
A new file can only stand where nothing stood, so that every other path leads where it led before.
Some paths that led nowhere stop at the file now, but they still lead nowhere.

Results:
1. `Path.mem_follow`: the place of a path has no double points.
2. `Disk.opened_of_openFile`: a log file is there, or it is made where nothing was.
3. `Disk.walk_put`: a walk ends as before, or at the new file, or goes under it.
4. `Disk.settle_put`: a new file is no link, so that real paths are as before.
5. `Host.lookup?_of_setUpLogging`: what a path leads to when logging is set up.
6. `Host.resolve_of_setUpLogging`: the place of any path when logging is set up.
-/

namespace CodeMetrics

/-! ## Places -/

/-- What is left of the components of a path when it is followed. -/
theorem Path.mem_follow {walked parts : List String} {part : String}
    (member : part ∈ follow walked parts) : part ∈ walked ∨ part ∈ parts ∧ part ≠ ".." := by
  fun_induction follow walked parts with
  | case1 walked => exact .inl (List.mem_reverse.1 member)
  | case2 walked rest ih =>
      rcases ih member with earlier | ⟨later, simple⟩
      · exact .inl (List.mem_of_mem_tail earlier)
      · exact .inr ⟨List.mem_cons_of_mem _ later, simple⟩
  | case3 walked part' rest simple' ih =>
      rcases ih member with earlier | ⟨later, simple⟩
      · rcases List.mem_cons.1 earlier with rfl | earlier
        · exact .inr ⟨List.mem_cons_self, simple'⟩
        · exact .inl earlier
      · exact .inr ⟨List.mem_cons_of_mem _ later, simple⟩

theorem Path.notMem_resolve (folder : List String) (path : Path) : ".." ∉ path.resolve folder := by
  intro member
  rw [resolve] at member
  split at member
  · exact (mem_follow member).elim List.not_mem_nil fun simple => simple.2 rfl
  · exact (mem_follow member).elim List.not_mem_nil fun simple => simple.2 rfl

/-- No NUL comes into a place that was not in the folder or in the path. -/
theorem Path.hasNul_resolve {folder : List String} {path : Path}
    (folderNamed : (absolute folder).hasNul = false) (named : path.hasNul = false) :
    (absolute (path.resolve folder)).hasNul = false := by
  rw [hasNul, List.any_eq_false] at folderNamed named ⊢
  intro part member
  rw [absolute, resolve] at member
  dsimp only at member
  split at member
  · rcases mem_follow member with nothing | ⟨listed, -⟩
    · cases nothing
    · exact named part listed
  · rcases mem_follow member with nothing | ⟨listed, -⟩
    · cases nothing
    · exact (List.mem_append.1 listed).elim (folderNamed part) (named part)

/-! ## Walks -/

namespace Disk

variable {disk after : Disk} {start parts rest place : List String} {node : Node}

theorem reach_eq_ok {other : List String} (reached : disk.reach other = .ok (place, node)) :
    other = place ∧ disk.node? place = some node ∧ ∀ target, node ≠ .link target := by
  rw [reach] at reached
  split at reached
  · cases reached
  · cases reached
  · next noLink there =>
    split at reached
    · cases reached
    · cases reached
      exact ⟨rfl, there, noLink⟩

theorem node?_of_reach_missing (missing : disk.reach place = .error .missing) :
    disk.node? place = none := by
  rw [reach] at missing
  split at missing
  · next nothing => exact nothing
  · cases missing
  · split at missing <;> cases missing

/-- A walk that finds something goes through folders that can be entered, and can go on from
there. -/
theorem walk_append (walked : disk.walk start parts = .ok (place, node)) (rest : List String) :
    disk.walk start (parts ++ rest) = disk.walk place rest := by
  induction parts generalizing start with
  | nil =>
      obtain ⟨rfl, -⟩ := reach_eq_ok walked
      rfl
  | cons part parts ih =>
      rw [walk] at walked
      rw [List.cons_append, walk]
      split at walked
      · cases walked
      · cases walked
      · cases walked
      · cases walked
      · split at walked
        · cases walked
        · split at walked
          · cases walked
          · next short =>
            simp only [if_neg short]
            exact ih walked

/-- What a walk finds is there, and is no link. -/
theorem walk_eq_ok (walked : disk.walk start parts = .ok (place, node)) :
    disk.node? place = some node ∧ ∀ target, node ≠ .link target := by
  have reached : disk.reach place = .ok (place, node) := by
    have again := walk_append walked []
    rw [List.append_nil, walked] at again
    exact again.symm
  exact (reach_eq_ok reached).2

/-- What is found by a path from the root is found by a walk. -/
theorem walk_of_find {outcome : Except Lost (List String × Node)}
    (named : (Path.absolute place).hasNul = false)
    (found : disk.find [] (.absolute place) = outcome) (short : outcome ≠ .error .nameTooLong) :
    disk.walk [] place = outcome := by
  rw [find, if_neg (by simp [named])] at found
  split at found
  · exact absurd found.symm short
  · exact found

/-- Nothing is where a name leads that is missing in a folder that is there. -/
theorem node?_of_missing {folder : List String} {last : String} (simple : last ≠ "..")
    (missing : disk.walk [] (parts ++ [last]) = .error .missing)
    (there : disk.walk [] parts = .ok (folder, .folder)) :
    disk.node? (disk.target (folder ++ [last])) = none := by
  rw [walk_append there, walk, (walk_eq_ok there).1] at missing
  dsimp only at missing
  split at missing
  · cases missing
  · split at missing
    · cases missing
    · rw [walk, enter, if_neg simple] at missing
      exact node?_of_reach_missing missing

/-! ## Log files -/

/-- What becomes of a disk when the file at a place is opened. -/
inductive Opened (disk : Disk) (place : List String) : Disk → Prop
  /-- It is there. -/
  | there : disk.Writable place → Opened disk place disk
  /-- It is made where nothing was. -/
  | made : disk.node? place = none → Opened disk place (disk.put place (.file []))

/-- Nothing is at a place that is not the root. -/
theorem ne_nil_of_node? (nothing : disk.node? place = none) : place ≠ [] := by
  rintro rfl
  cases nothing

theorem opened_of_makeFile {goal : List String} (simple : ".." ∉ place)
    (named : (Path.absolute place).hasNul = false)
    (missing : disk.find [] (.absolute place) = .error .missing)
    (made : Logging.makeFile disk place = .ok (goal, after)) : Opened disk goal after := by
  have missed : disk.walk [] place = .error .missing := walk_of_find named missing nofun
  obtain ⟨parts, last, rfl⟩ : ∃ parts last, place = parts ++ [last] := by
    refine ⟨_, _, (List.dropLast_concat_getLast fun root => ?_).symm⟩
    subst root
    exact nomatch node?_of_reach_missing missed
  have partsNamed : (Path.absolute parts).hasNul = false := by
    simp only [Path.hasNul, Path.absolute, List.any_append, Bool.or_eq_false_iff] at named ⊢
    exact named.1
  have last_ne : last ≠ ".." := by
    rintro rfl
    exact simple (List.mem_append_right _ List.mem_cons_self)
  rw [Logging.makeFile, List.dropLast_concat] at made
  split at made
  · next folder there =>
    have nothing := node?_of_missing last_ne missed (walk_of_find partsNamed there nofun)
    rw [List.getLastD_concat] at made
    dsimp only at made
    split at made
    · cases made
    · split at made
      · cases made
      · cases made
        exact .made nothing
  · cases made
  · cases made

theorem opened_of_openFile {goal : List String} (simple : ".." ∉ place)
    (named : (Path.absolute place).hasNul = false)
    (opened : Logging.openFile disk place = .ok (goal, after)) : Opened disk goal after := by
  rw [Logging.openFile] at opened
  split at opened
  · cases opened
  · next found node noFolder read =>
    obtain ⟨there, noLink⟩ := walk_eq_ok (walk_of_find named read nofun)
    split at opened
    · cases opened
    · cases opened
      refine .there ?_
      cases node with
      | folder => exact absurd rfl noFolder
      | file bytes => exact .inr ⟨bytes, there⟩
      | device screen => exact .inl ⟨screen, there⟩
      | link target => exact absurd rfl (noLink target)
  · next missing => exact opened_of_makeFile simple named missing opened
  · cases opened

theorem Opened.writable (opened : Opened disk place after) : after.Writable place := by
  cases opened with
  | there writable => exact writable
  | made nothing => exact .inr ⟨[], node?_put_self _ (ne_nil_of_node? nothing)⟩

/-! ## New files -/

section

variable (nothing : disk.node? place = none) (bytes : List UInt8)
include nothing

theorem enter_put (folder : List String) (name : String) :
    (disk.put place (.file bytes)).enter folder name = disk.enter folder name := by
  rw [enter, enter]
  split
  · rfl
  · by_cases here : folder ++ [name] = place
    · rw [target, target, here, node?_put_self _ (ne_nil_of_node? nothing), nothing]
    · rw [target, target, node?_put_other _ here]

/-- How a path ends that led nowhere and leads to a new file now, or under it. -/
inductive EndsAt (disk : Disk) (place : List String) :
    Except Lost (List String × Node) → Prop
  | file (bytes : List UInt8) : EndsAt disk place (.ok (place, .file bytes))
  | refused {error : SystemError} : disk.refuses .look place = some error →
      EndsAt disk place (.error (.refused error place))
  | under : EndsAt disk place (.error .underFile)

theorem reach_put : EndsAt disk place ((disk.put place (.file bytes)).reach place) := by
  rw [reach, node?_put_self _ (ne_nil_of_node? nothing), refuses_put]
  cases looked : disk.refuses .look place with
  | some error => exact .refused looked
  | none => exact .file bytes

/-- A new file changes walks that end at it or go under it, and these led nowhere before. -/
theorem walk_put (start parts : List String) :
    (disk.put place (.file bytes)).walk start parts = disk.walk start parts ∨
      disk.walk start parts = .error .missing ∧
        EndsAt disk place ((disk.put place (.file bytes)).walk start parts) := by
  induction parts generalizing start with
  | nil =>
      by_cases here : start = place
      · subst here
        refine .inr ⟨?_, reach_put nothing bytes⟩
        rw [walk, reach, nothing]
      · refine .inl ?_
        rw [walk, walk, reach, reach, node?_put_other _ here, refuses_put]
  | cons part rest ih =>
      by_cases here : start = place
      · subst here
        refine .inr ⟨by rw [walk, nothing], ?_⟩
        rw [walk, node?_put_self _ (ne_nil_of_node? nothing)]
        exact .under
      · rw [walk, walk, node?_put_other _ here, refuses_put, enter_put nothing]
        split
        · exact .inl rfl
        · exact .inl rfl
        · exact .inl rfl
        · exact .inl rfl
        · split
          · exact .inl rfl
          · split
            · exact .inl rfl
            · exact ih _

theorem find_put (folder : List String) (path : Path) :
    (disk.put place (.file bytes)).find folder path = disk.find folder path ∨
      disk.find folder path = .error .missing ∧
        EndsAt disk place ((disk.put place (.file bytes)).find folder path) := by
  rw [find, find]
  split
  · exact .inl rfl
  · split
    · exact .inl rfl
    · split
      · exact walk_put nothing bytes _ _
      · exact walk_put nothing bytes _ _

theorem linkIn?_put (folder : List String) (name : String) :
    (disk.put place (.file bytes)).linkIn? folder name = disk.linkIn? folder name := by
  have here : (disk.put place (.file bytes)).node? place = some (.file bytes) :=
    node?_put_self _ (ne_nil_of_node? nothing)
  rw [linkIn?, linkIn?, refuses_put]
  by_cases atFolder : folder = place
  · rw [atFolder, here, nothing]
  · rw [node?_put_other _ atFolder]
    by_cases atName : folder ++ [name] = place
    · rw [atName, here, nothing]
      cases disk.node? folder with
      | none => rfl
      | some node => cases node <;> cases disk.refuses .enter folder <;> rfl
    · rw [node?_put_other _ atName]

theorem isLink_put (other : List String) :
    (disk.put place (.file bytes)).isLink other = disk.isLink other := by
  rw [isLink, isLink]
  by_cases here : other = place
  · rw [here, node?_put_self _ (ne_nil_of_node? nothing), nothing]
  · rw [node?_put_other _ here]

/-- A new file is no link, and a path that nothing was at stays as it is written. -/
theorem settle_put (start parts : List String) :
    (disk.put place (.file bytes)).settle start parts = disk.settle start parts := by
  induction parts generalizing start with
  | nil => rfl
  | cons part rest ih =>
      rw [settle, settle, linkIn?_put nothing]
      split
      · exact ih _
      · split
        · exact ih _
        · rw [isLink_put nothing, ih]

end

end Disk

namespace Host

variable {host ready : Host} {path : Path}

/-- The path does not lead to the log file. -/
def LogIsNot (host : Host) (path : Path) : Prop :=
  ∀ place, host.logging.file = some (.at place) → host.disk.goal? host.current path ≠ some place

instance (host : Host) (path : Path) : Decidable (host.LogIsNot path) :=
  match logged : host.logging.file with
  | some (.at place) =>
      decidable_of_iff (host.disk.goal? host.current path ≠ some place) <| by
        constructor
        · intro apart other equal
          cases logged.symm.trans equal
          exact apart
        · exact fun apart => apart place logged
  | some .removed | none => isTrue fun _ equal => nomatch logged.symm.trans equal

/-- A path that does not lead to the log file leads where it led before the file was opened. -/
theorem lookup?_of_opened {disk : Disk} {place : List String} (opened : host.disk.Opened place disk)
    (apart : disk.goal? host.current path ≠ some place) :
    (host.withDisk disk).lookup? path = host.lookup? path := by
  cases opened with
  | there => rfl
  | made nothing =>
      rcases Disk.find_put nothing [] host.current path with same | ⟨missing, ends⟩
      · have found : (host.withDisk (host.disk.put place (.file []))).disk.find
            (host.withDisk (host.disk.put place (.file []))).current path =
            host.disk.find host.current path := same
        rw [lookup?, lookup?, found]
        rfl
      · rw [Disk.goal?] at apart
        generalize outcome : (host.disk.put place (.file [])).find host.current path = found
          at ends apart
        have after : (host.withDisk (host.disk.put place (.file []))).disk.find
            (host.withDisk (host.disk.put place (.file []))).current path = found := outcome
        rw [lookup?, lookup?, after, missing]
        cases ends with
        | file | refused => exact absurd rfl apart
        | under => rfl

/-- Every path has the place that it had before the file was opened. -/
theorem resolve_of_opened {disk : Disk} {place : List String} (opened : host.disk.Opened place disk)
    (path : Path) : (host.withDisk disk).resolve path = host.resolve path := by
  cases opened with
  | there => rfl
  | made nothing =>
      have settled : (host.withDisk (host.disk.put place (.file []))).settled path =
          host.settled path := Disk.settle_put nothing [] _ _
      rw [resolve, resolve, settled]
      split
      · rfl
      · dsimp only
        rcases Disk.find_put nothing [] [] (.absolute (host.settled path)) with
          same | ⟨missing, ends⟩
        · have found : (host.withDisk (host.disk.put place (.file []))).disk.find []
              (.absolute (host.settled path)) = host.disk.find [] (.absolute (host.settled path)) :=
            same
          rw [found]
        · generalize outcome : (host.disk.put place (.file [])).find []
            (.absolute (host.settled path)) = found at ends
          have after : (host.withDisk (host.disk.put place (.file []))).disk.find []
              (.absolute (host.settled path)) = found := outcome
          rw [after, missing]
          cases ends with
          | file | under => rfl
          | refused looked =>
              have noLoop := host.disk.noLoop _ _ _ looked
              simp [Disk.Lost.isLoop, noLoop]

/-! ## Setting up -/

/-- The folder a host works in has a name. -/
def IsPlaced (host : Host) : Prop := (Path.absolute host.current).hasNul = false

theorem placeOf?_eq_ok {current place : List String} {file : Value}
    (asked : Logging.placeOf? current file = .ok (some place)) :
    ∃ path : Path, path.hasNul = false ∧ place = path.resolve current := by
  rw [Logging.placeOf?] at asked
  split at asked
  · cases asked
  · obtain ⟨name, -, asked⟩ := bind_eq_ok.1 asked
    dsimp only at asked
    split at asked
    · cases asked
    · next named =>
      cases asked
      exact ⟨_, Bool.eq_false_iff.2 named, rfl⟩

/-- Logging that was set up goes to no file, or to one that was opened. -/
theorem setUpLogging_eq_ok {verbosity file : Value} (placed : host.IsPlaced)
    (setUp : host.setUpLogging verbosity file = .ok ready) :
    ∃ threshold, ready = { host with logging := ⟨threshold, none⟩ } ∨
      ∃ place disk, host.disk.Opened place disk ∧
        ready = { host with logging := ⟨threshold, some (.at place)⟩, disk := disk } := by
  obtain ⟨⟨logging, disk⟩, ended, returned⟩ := bind_eq_ok.1 setUp
  obtain ⟨threshold, -, ended⟩ := bind_eq_ok.1 ended
  obtain ⟨place?, asked, ended⟩ := bind_eq_ok.1 ended
  refine ⟨threshold, ?_⟩
  cases place? with
  | none =>
      cases ended
      cases returned
      exact .inl rfl
  | some place =>
      obtain ⟨⟨goal, after⟩, opened, ended⟩ := bind_eq_ok.1 ended
      cases ended
      cases returned
      obtain ⟨path, named, rfl⟩ := placeOf?_eq_ok asked
      exact .inr ⟨_, _, Disk.opened_of_openFile (path.notMem_resolve host.current)
        (Path.hasNul_resolve placed named) opened, rfl⟩

section

variable {verbosity file : Value} (placed : host.IsPlaced)
  (setUp : host.setUpLogging verbosity file = .ok ready)
include placed setUp

/-- When logging is set up, a path that does not lead to the log file leads where it led before,
and the log does not go there. -/
theorem lookup?_of_setUpLogging (apart : ready.LogIsNot path) :
    ready.lookup? path = host.lookup? path ∧ ready.LogsElsewhere path := by
  obtain ⟨threshold, rfl | ⟨place, disk, opened, rfl⟩⟩ := setUpLogging_eq_ok placed setUp
  · exact ⟨rfl, nofun⟩
  · have elsewhere : disk.goal? host.current path ≠ some place := apart place rfl
    refine ⟨lookup?_of_opened opened elsewhere, fun other logged => ?_⟩
    cases logged
    refine ⟨opened.writable, fun node found => elsewhere ?_⟩
    have reached : disk.find host.current path = .ok (place, node) := found
    rw [Disk.goal?, reached]

theorem resolve_of_setUpLogging (path : Path) : ready.resolve path = host.resolve path := by
  obtain ⟨threshold, rfl | ⟨place, disk, opened, rfl⟩⟩ := setUpLogging_eq_ok placed setUp
  · rfl
  · exact resolve_of_opened opened path

/-- Setting up logging changes neither the libraries nor the console. -/
theorem surroundings_of_setUpLogging :
    ready.library = host.library ∧ ready.console = host.console := by
  obtain ⟨threshold, rfl | ⟨place, disk, opened, rfl⟩⟩ := setUpLogging_eq_ok placed setUp
  · exact ⟨rfl, rfl⟩
  · exact ⟨rfl, rfl⟩

end

end Host

end CodeMetrics
