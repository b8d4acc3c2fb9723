import CodeMetrics.Files.Host
import CodeMetrics.Proofs.Entries

/-!
# What logging leaves alone

Logging writes to one file at most. A path that does not lead to this file leads where it led
before, however much is logged.

Results:
1. `Disk.node?_fill_other`: writing a file changes no other place.
2. `Disk.walk_fill`: a walk ends as before, unless it ends at the file that is written.
3. `Host.Later.lookup?_eq`: what a path leads to after any number of records.
-/

namespace CodeMetrics

/-! ## Writing to a file that is there -/

namespace Disk

variable {disk : Disk} {place other : List String}

theorem node?_put_other (node : Node) (different : other ≠ place) :
    (disk.put place node).node? other = disk.node? other := by
  have unequal : (other == place) = false := by simpa using different
  have kept : (other != place) = true := by simpa using different
  rw [node?, put, node?, List.lookup_cons, unequal, lookup_filter_key (· != place), if_pos kept]

@[simp]
theorem refuses_put (disk : Disk) (place : List String) (node : Node) :
    (disk.put place node).refuses = disk.refuses := rfl

theorem fill_eq_or (disk : Disk) (place : List String) (bytes : List UInt8) :
    disk.fill place bytes = disk ∨ disk.fill place bytes = disk.put place (.file bytes) := by
  rw [fill]
  split
  · exact .inl rfl
  · exact .inr rfl

@[simp]
theorem refuses_fill (disk : Disk) (place : List String) (bytes : List UInt8) :
    (disk.fill place bytes).refuses = disk.refuses := by
  rcases fill_eq_or disk place bytes with same | written
  · rw [same]
  · rw [written, refuses_put]

theorem node?_fill_other (bytes : List UInt8) (different : other ≠ place) :
    (disk.fill place bytes).node? other = disk.node? other := by
  rcases fill_eq_or disk place bytes with same | written
  · rw [same]
  · rw [written, node?_put_other _ different]

/-- Something is there that can be written to. -/
def Writable (disk : Disk) (place : List String) : Prop :=
  (∃ screen, disk.node? place = some (.device screen)) ∨
    ∃ bytes, disk.node? place = some (.file bytes)

theorem Writable.ne_nil (there : disk.Writable place) : place ≠ [] := by
  rintro rfl
  rcases there with ⟨screen, device⟩ | ⟨bytes, file⟩
  · cases device
  · cases file

theorem node?_put_self (node : Node) (below : place ≠ []) :
    (disk.put place node).node? place = some node := by
  simp [node?, put, List.isEmpty_iff, below]

theorem Writable.fill (there : disk.Writable place) (bytes : List UInt8) :
    (disk.fill place bytes).Writable place := by
  rcases fill_eq_or disk place bytes with same | written
  · rwa [same]
  · rw [written]
    exact .inr ⟨bytes, node?_put_self _ there.ne_nil⟩

/-- No walk goes through a place that can be written to. -/
theorem Writable.walk_cons (there : disk.Writable place) (part : String) (rest : List String) :
    disk.walk place (part :: rest) = .error .underFile := by
  rcases there with ⟨screen, device⟩ | ⟨bytes, file⟩
  · rw [walk, device]
  · rw [walk, file]

/-- What can be written to is no link. -/
theorem Writable.target (there : disk.Writable place) : disk.target place = place := by
  rcases there with ⟨screen, device⟩ | ⟨bytes, file⟩
  · rw [Disk.target, device]
  · rw [Disk.target, file]

theorem enter_fill (there : disk.Writable place) (bytes : List UInt8) (folder : List String)
    (name : String) : (disk.fill place bytes).enter folder name = disk.enter folder name := by
  rw [enter, enter]
  split
  · rfl
  · by_cases here : folder ++ [name] = place
    · rw [here, there.target, (there.fill bytes).target]
    · rw [target, target, node?_fill_other bytes here]

/-- What is there is found, if one may look. -/
theorem Writable.reach (there : disk.Writable place) :
    (∀ error, disk.refuses .look place = some error →
      disk.reach place = .error (.refused error place)) ∧
    (disk.refuses .look place = none → ∃ node, disk.reach place = .ok (place, node)) := by
  rcases there with ⟨screen, device⟩ | ⟨bytes, file⟩
  · exact ⟨fun error refused => by simp only [Disk.reach, device, refused],
      fun allowed => ⟨.device screen, by simp only [Disk.reach, device, allowed]⟩⟩
  · exact ⟨fun error refused => by simp only [Disk.reach, file, refused],
      fun allowed => ⟨.file bytes, by simp only [Disk.reach, file, allowed]⟩⟩

theorem reach_fill (there : disk.Writable place) (bytes : List UInt8) (other : List String) :
    (disk.fill place bytes).reach other = disk.reach other ∨
      ∃ node, disk.reach other = .ok (place, node) := by
  by_cases here : other = place
  · subst here
    cases looked : disk.refuses .look other with
    | none => exact .inr (there.reach.2 looked)
    | some error =>
        have lookedAgain : (disk.fill other bytes).refuses .look other = some error := by
          rw [refuses_fill, looked]
        left
        rw [there.reach.1 error looked, (there.fill bytes).reach.1 error lookedAgain]
  · refine .inl ?_
    rw [reach, reach, node?_fill_other bytes here, refuses_fill]

theorem walk_fill (there : disk.Writable place) (bytes : List UInt8) (start parts : List String) :
    (disk.fill place bytes).walk start parts = disk.walk start parts ∨
      ∃ node, disk.walk start parts = .ok (place, node) := by
  -- By induction on the components, for every start: a walk goes on from the next folder.
  induction parts generalizing start with
  | nil => exact reach_fill there bytes start
  | cons part rest ih =>
      by_cases here : start = place
      · subst here
        exact .inl (by rw [there.walk_cons, (there.fill bytes).walk_cons])
      · rw [walk, walk, node?_fill_other bytes here, refuses_fill, enter_fill there]
        split
        · exact .inl rfl
        · exact .inl rfl
        · exact .inl rfl
        · exact .inl rfl
        · split
          · exact .inl rfl
          · split
            · exact .inl rfl
            · exact ih _

theorem find_fill (there : disk.Writable place) (bytes : List UInt8) {folder : List String}
    {path : Path} (elsewhere : ∀ node, disk.find folder path ≠ .ok (place, node)) :
    (disk.fill place bytes).find folder path = disk.find folder path := by
  have walked (start : List String)
      (elsewhere : ∀ node, disk.walk start path.parts ≠ .ok (place, node)) :
      (disk.fill place bytes).walk start path.parts = disk.walk start path.parts := by
    rcases walk_fill there bytes start path.parts with same | ⟨node, reached⟩
    · exact same
    · exact absurd reached (elsewhere node)
  rw [find] at elsewhere ⊢
  rw [find]
  split
  · rfl
  · next named =>
    rw [if_neg named] at elsewhere
    split
    · rfl
    · next short =>
      rw [if_neg short] at elsewhere
      split
      · next absolute =>
        rw [if_pos absolute] at elsewhere
        exact walked _ elsewhere
      · next relative =>
        rw [if_neg relative] at elsewhere
        exact walked _ elsewhere

end Disk

/-! ## Logging -/

namespace Host

variable {host other : Host} {path : Path}

/-- The log does not go to what the path leads to: it goes to no file, or to another one. -/
def LogsElsewhere (host : Host) (path : Path) : Prop :=
  ∀ place, host.logging.file = some (.at place) →
    host.disk.Writable place ∧ ∀ node, host.disk.find host.current path ≠ .ok (place, node)

/-- What a path leads to can be computed, and compared with the place of the log. -/
theorem LogsElsewhere.of_place {place : List String} {bytes : List UInt8}
    (logged : host.logging.file = some (.at place))
    (there : host.disk.node? place = some (.file bytes))
    (apart : (host.disk.find host.current path).toOption.map Prod.fst ≠ some place) :
    host.LogsElsewhere path := by
  intro other loggedOther
  cases logged.symm.trans loggedOther
  refine ⟨.inr ⟨bytes, there⟩, fun node found => apart ?_⟩
  rw [found]
  rfl

/-- What logging does to the disk. -/
theorem record_disk (host : Host) (records : List LogRecord) :
    (host.record records).disk = host.disk ∨
      ∃ place bytes, host.logging.file = some (.at place) ∧
        (host.record records).disk = host.disk.fill place bytes := by
  rw [record, withDisk, Logging.append]
  split
  · next place logged =>
    dsimp only
    split
    · exact .inl rfl
    · exact .inr ⟨place, _, logged, rfl⟩
  · exact .inl rfl

theorem LogsElsewhere.record (elsewhere : host.LogsElsewhere path) (records : List LogRecord) :
    (host.record records).disk.find host.current path = host.disk.find host.current path ∧
      (host.record records).LogsElsewhere path := by
  rcases record_disk host records with unchanged | ⟨place, bytes, logged, filled⟩
  · refine ⟨by rw [unchanged], fun place logged => ?_⟩
    rw [unchanged]
    exact elsewhere place logged
  · obtain ⟨there, apart⟩ := elsewhere place logged
    have found := Disk.find_fill there bytes apart
    refine ⟨by rw [filled, found], fun other loggedOther => ?_⟩
    cases Option.some.inj (logged.symm.trans loggedOther)
    rw [filled]
    exact ⟨there.fill bytes, fun node => found ▸ apart node⟩

/-- A host after things were logged, any number of times. -/
inductive Later (host : Host) : Host → Prop
  | now : Later host host
  | record {other : Host} (records : List LogRecord) :
      Later host other → Later host (other.record records)

/-- Logging changes no library. -/
theorem Later.library_eq (later : host.Later other) : other.library = host.library := by
  induction later with
  | now => rfl
  | record records _ ih => exact ih

theorem Later.find_eq (later : host.Later other) (elsewhere : host.LogsElsewhere path) :
    other.disk.find other.current path = host.disk.find host.current path ∧
      other.LogsElsewhere path := by
  induction later with
  | now => exact ⟨rfl, elsewhere⟩
  | record records _ ih =>
      obtain ⟨same, elsewhereStill⟩ := ih
      obtain ⟨sameAgain, still⟩ := elsewhereStill.record records
      exact ⟨sameAgain.trans same, still⟩

/-- Logging changes no permission. -/
theorem record_refuses (host : Host) (records : List LogRecord) :
    (host.record records).disk.refuses = host.disk.refuses := by
  rcases record_disk host records with unchanged | ⟨place, bytes, -, filled⟩
  · rw [unchanged]
  · rw [filled, Disk.refuses_fill]

theorem Later.refuses_eq (later : host.Later other) : other.disk.refuses = host.disk.refuses := by
  induction later with
  | now => rfl
  | record records _ ih => rw [record_refuses, ih]

theorem Later.lookup?_eq (later : host.Later other) (elsewhere : host.LogsElsewhere path) :
    other.lookup? path = host.lookup? path := by
  rw [lookup?, lookup?, (later.find_eq elsewhere).1, later.refuses_eq]

end Host

end CodeMetrics
