import CodeMetrics.Proofs.Drawing
import CodeMetrics.Proofs.Escaping
import CodeMetrics.Proofs.Timeline

/-!
# What interrupts a timeline

Git can be missing, too slow, or unwilling, and it can print any bytes. Most of this is reported, or
kept at a point. What is not is what git prints when all is well: the root of the repository has to
be UTF-8, and a path that has a place, and a time in the log can have more digits than can be read.
Then a fault goes out to the caller, and the command that was to show the timeline ends without a
message and without a status. A system that does not start git does the same, and so do links in a
circle, a number of commits that is too long to write, a decoder or a search for a lexer that stops
in a way nobody is prepared for, and counts that are too much for the formulas.

Results:
1. `fault?_analyzeRevision`: what interrupts the analysis of a revision.
2. `resolve_eq_error`: which paths have no place.
3. `fault?_relativePath`, `fault?_revisions`: what interrupts the way to the revisions.
4. `onlyUnavailable_points`: the failures of a timeline.
5. `points_fault_iff`: what interrupts a timeline.
6. `points_end_iff`: when a timeline ends or fails, and what the command makes of that.
7. `points_interrupted`: a repository whose root is not UTF-8.
-/

namespace CodeMetrics

/-! ## Questions -/

theorem Git.fault?_ask {git : Git} {repository : String} {query : Query} {fault : Fault} :
    (git.ask repository query).fault? = some fault ↔ git query = .failed fault := by
  rw [ask, Trace.fault?_bind]
  cases git query <;> simp [Trace.fault?, Trace.emit, Trace.fail, Trace.stop, Trace.outcome_pure]

/-! ## Logs -/

theorem Log.revision?_eq_error {line : List Char} {fault : Fault}
    (stopped : revision? line = .error fault) : ∃ count, fault = .tooManyDigits count := by
  rw [revision?] at stopped
  split at stopped
  · cases stopped
  · split at stopped
    · cases stopped
      exact ⟨_, rfl⟩
    · cases stopped

theorem Log.revisionsOf_eq_error {lines : List (List Char)} {fault : Fault}
    (stopped : revisionsOf lines = .error fault) : ∃ count, fault = .tooManyDigits count := by
  induction lines with
  | nil => cases stopped
  | cons line rest ih =>
      rw [revisionsOf] at stopped
      split at stopped
      · next lost =>
        cases stopped
        exact revision?_eq_error lost
      · split at stopped
        · next lost =>
          cases stopped
          exact ih lost
        · cases stopped

namespace Timeline

variable {host : Host} {library : Library} {git : Git} {settings : Settings}
  {repository path file : String} {folder : Path} {limit : Value} {fault : Fault}
  {decoder : Decoder}

/-! ## Revisions -/

theorem fault?_content (decoded : settings.DecodesBy library.codecs decoder)
    {revision : Revision} :
    (content library git settings repository path revision).fault? = some fault ↔
      git (.content revision.sha path) = .failed fault ∨
      ∃ output complaint, git (.content revision.sha path) = .done 0 output complaint ∧
        output ≠ [] ∧ decoder output = .error (.unforeseen fault) := by
  rw [content, Trace.fault?_bind, Git.fault?_ask]
  refine or_congr_right ⟨?_, ?_⟩
  · rintro ⟨⟨status, output, complaint⟩, answered, stopped⟩
    dsimp only at stopped
    split at stopped
    · cases stopped
    · next succeeded =>
      rw [Git.ask_eq_ok, not_not.1 succeeded] at answered
      replace stopped := Trace.fault?_lift.1 stopped
      rw [decodeContent_of_decodesBy decoded] at stopped
      split_ifs at stopped with empty
      exact ⟨output, complaint, answered, empty, mapError_problem_eq_escaped.1 stopped⟩
  · rintro ⟨output, complaint, answered, nonempty, torn⟩
    refine ⟨⟨0, output, complaint⟩, Git.ask_eq_ok.2 answered, ?_⟩
    rw [if_neg (not_not.2 rfl)]
    refine Trace.fault?_lift.2 ?_
    rw [decodeContent_of_decodesBy decoded, if_neg nonempty]
    exact mapError_problem_eq_escaped.2 torn

theorem fault?_contentTokens {code : Snippet} :
    (contentTokens library settings path code).fault? = some fault ↔
      settings.dump.holds = false ∧
        ChoiceStops library.lexers code (some (Path.ofString path).name) settings.lexer fault := by
  rw [contentTokens]
  split
  · next listing =>
    constructor
    · intro stopped
      cases stopped
    · rintro ⟨source, -⟩
      cases listing.symm.trans source
  · next source =>
    rw [fault?_tokenize]
    exact (and_iff_right (Bool.eq_false_iff.2 source)).symm

/-- What interrupts the analysis of a revision, when its content is decoded by this decoder. -/
inductive RevisionStops (library : Library) (git : Git) (settings : Settings) (decoder : Decoder)
    (path : String) (revision : Revision) : Fault → Prop
  /-- The system does not start git. -/
  | git {fault : Fault} : git (.content revision.sha path) = .failed fault →
      RevisionStops library git settings decoder path revision fault
  /-- The content stops the decoder in a way nobody is prepared for. -/
  | decoder {output complaint : List UInt8} {fault : Fault} :
      git (.content revision.sha path) = .done 0 output complaint → output ≠ [] →
      decoder output = .error (.unforeseen fault) →
      RevisionStops library git settings decoder path revision fault
  /-- The choice of a lexer for the content is stopped. -/
  | choice {output complaint : List UInt8} {code : Snippet} {fault : Fault} :
      git (.content revision.sha path) = .done 0 output complaint →
      decodeContent library.codecs (path ++ "@" ++ revision.shortSha) settings.encoding output =
        .ok code →
      settings.dump.holds = false →
      ChoiceStops library.lexers code (some (Path.ofString path).name) settings.lexer fault →
      RevisionStops library git settings decoder path revision fault
  /-- The counts of the tokens are too much for the formulas. -/
  | formulas {output complaint : List UInt8} {code : Snippet} {tokens : List Token}
      {fault : Fault} :
      git (.content revision.sha path) = .done 0 output complaint →
      decodeContent library.codecs (path ++ "@" ++ revision.shortSha) settings.encoding output =
        .ok code →
      (contentTokens library settings path code).outcome = .ok tokens →
      (Counts.ofTokens settings.policy tokens).derive = .error (.escaped fault) →
      RevisionStops library git settings decoder path revision fault

theorem fault?_analyzeRevision (decoded : settings.DecodesBy library.codecs decoder)
    {revision : Revision} :
    (analyzeRevision library git settings repository path revision).fault? = some fault ↔
      RevisionStops library git settings decoder path revision fault := by
  constructor
  · intro stopped
    rcases Trace.fault?_bind.1 stopped with lost | ⟨code, read, stopped⟩
    · rcases (fault?_content decoded).1 lost with unstarted | ⟨_, _, answered, nonempty, torn⟩
      · exact .git unstarted
      · exact .decoder answered nonempty torn
    obtain ⟨output, complaint, answered, code⟩ := content_eq_ok.1 read
    rcases Trace.fault?_bind.1 stopped with lost | ⟨tokens, taken, stopped⟩
    · obtain ⟨source, lost⟩ := fault?_contentTokens.1 lost
      exact .choice answered code source lost
    · exact .formulas answered code taken
        (analyzeTokens_eq_error.1 (Trace.fault?_eq_some.1 stopped))
  · intro stops
    cases stops with
    | git unstarted =>
        exact Trace.fault?_bind.2 (.inl ((fault?_content decoded).2 (.inl unstarted)))
    | decoder answered nonempty torn =>
        exact Trace.fault?_bind.2 (.inl ((fault?_content decoded).2
          (.inr ⟨_, _, answered, nonempty, torn⟩)))
    | choice answered code source lost =>
        exact Trace.fault?_bind.2 (.inr ⟨_, content_eq_ok.2 ⟨_, _, answered, code⟩,
          Trace.fault?_bind.2 (.inl (fault?_contentTokens.2 ⟨source, lost⟩))⟩)
    | formulas answered code taken derived =>
        exact Trace.fault?_bind.2 (.inr ⟨_, content_eq_ok.2 ⟨_, _, answered, code⟩,
          Trace.fault?_bind.2 (.inr ⟨_, taken,
            Trace.fault?_eq_some.2 (analyzeTokens_eq_error.2 derived)⟩)⟩)

/-- A point has no failure of its own, and keeps that of its analysis. -/
theorem pointOf_eq_error {revision : Revision} {problem : Problem} :
    (pointOf library git settings repository path revision).outcome = .error problem ↔
      ∃ fault, problem = .escaped fault ∧
        (analyzeRevision library git settings repository path revision).fault? = some fault := by
  rw [pointOf_eq_kept, Trace.kept_eq_error]

theorem pointOf_ends_iff {revision : Revision} :
    (∃ point, (pointOf library git settings repository path revision).outcome = .ok point) ↔
      (analyzeRevision library git settings repository path revision).fault? = none := by
  constructor
  · rintro ⟨point, ended⟩
    exact Trace.fault?_eq_none.2 ⟨_, (pointOf_eq_ok ended).2.1⟩
  · intro noFault
    obtain ⟨outcome, analyzed⟩ := Trace.fault?_eq_none.1 noFault
    rw [pointOf_eq_kept]
    exact ⟨_, Trace.kept_eq_ok.2 ⟨outcome, analyzed, rfl⟩⟩

/-! ## The way to the revisions -/

/-- A path has no place. -/
inductive PlaceStops (host : Host) (path : Path) : Fault → Prop
  /-- There is a NUL in it. -/
  | hasNul : path.hasNul = true → PlaceStops host path .nullByte
  /-- It leads to links in a circle. -/
  | loop {lost : Disk.Lost} : path.hasNul = false →
      host.disk.find [] (.absolute (host.settled path)) = .error lost → lost.isLoop = true →
      PlaceStops host path (.linkLoop (Path.absolute (host.settled path)).text)

theorem resolve_eq_error {path : Path} :
    host.resolve path = .error fault ↔ PlaceStops host path fault := by
  rw [Host.resolve]
  constructor
  · intro stopped
    split at stopped
    · next nul =>
      cases stopped
      exact .hasNul nul
    · next noNul =>
      dsimp only at stopped
      split at stopped
      · cases stopped
      · next lost missed =>
        split at stopped
        · next loop =>
          cases stopped
          exact .loop (Bool.eq_false_iff.2 noNul) missed loop
        · cases stopped
  · intro stops
    cases stops with
    | hasNul nul => rw [if_pos nul]
    | loop noNul missed loop =>
        rw [if_neg (Bool.eq_false_iff.1 noNul)]
        dsimp only
        rw [missed]
        exact if_pos loop

/-- What git prints for the root of the repository has a place. -/
def RootAt (host : Host) (git : Git) (root : List String) : Prop :=
  ∃ output complaint cs, git .root = .done 0 output complaint ∧
    Text.Encoding.decode .utf8 output = .ok cs ∧
    host.resolve (.ofString (String.ofList (Text.trim cs))) = .ok root

/-- What interrupts the search for the root of the repository. -/
inductive RootStops (host : Host) (git : Git) : Fault → Prop
  /-- The system does not start git. -/
  | git {fault : Fault} : git .root = .failed fault → RootStops host git fault
  /-- What git prints cannot be decoded. -/
  | undecodable {output complaint : List UInt8} {error : Text.DecodeError} :
      git .root = .done 0 output complaint → Text.Encoding.decode .utf8 output = .error error →
      RootStops host git (.undecodable Text.Encoding.utf8.name error)
  /-- What git prints has no place. -/
  | place {output complaint : List UInt8} {cs : List Char} {fault : Fault} :
      git .root = .done 0 output complaint → Text.Encoding.decode .utf8 output = .ok cs →
      PlaceStops host (.ofString (String.ofList (Text.trim cs))) fault → RootStops host git fault

theorem fault?_rootOf :
    (rootOf host git repository).fault? = some fault ↔ RootStops host git fault := by
  rw [rootOf, Trace.fault?_bind, Git.fault?_ask]
  constructor
  · rintro (unstarted | ⟨⟨status, output, complaint⟩, answered, stopped⟩)
    · exact .git unstarted
    dsimp only at stopped
    split at stopped
    · cases stopped
    · next succeeded =>
      rw [Git.ask_eq_ok, not_not.1 succeeded] at answered
      split at stopped
      · next cs decoded =>
        exact .place answered decoded (resolve_eq_error.1 (Trace.fault?_liftFault.1 stopped))
      · next error undecoded =>
        cases stopped
        exact .undecodable answered undecoded
  · rintro (unstarted | ⟨answered, undecoded⟩ | ⟨answered, decoded, lost⟩)
    · exact .inl unstarted
    · refine .inr ⟨⟨0, _, _⟩, Git.ask_eq_ok.2 answered, ?_⟩
      rw [if_neg (not_not.2 rfl), undecoded]
      rfl
    · refine .inr ⟨⟨0, _, _⟩, Git.ask_eq_ok.2 answered, ?_⟩
      rw [if_neg (not_not.2 rfl), decoded]
      exact Trace.fault?_liftFault.2 (resolve_eq_error.2 lost)

theorem rootOf_eq_ok {root : List String} :
    (rootOf host git repository).outcome = .ok root ↔ RootAt host git root := by
  rw [rootOf, Trace.bind_eq_ok]
  constructor
  · rintro ⟨⟨status, output, complaint⟩, answered, ended⟩
    dsimp only at ended
    split at ended
    · cases ended
    · next succeeded =>
      rw [Git.ask_eq_ok, not_not.1 succeeded] at answered
      split at ended
      · next cs decoded =>
        exact ⟨output, complaint, cs, answered, decoded, Trace.liftFault_eq_ok.1 ended⟩
      · cases ended
  · rintro ⟨output, complaint, cs, answered, decoded, resolved⟩
    refine ⟨⟨0, output, complaint⟩, Git.ask_eq_ok.2 answered, ?_⟩
    rw [if_neg (not_not.2 rfl), decoded]
    exact Trace.liftFault_eq_ok.2 resolved

/-- What interrupts the search for a file in the repository. A NUL in its path does not. -/
inductive PathStops (host : Host) (git : Git) (file : String) : Fault → Prop
  | root {fault : Fault} : RootStops host git fault → PathStops host git file fault
  | file {root : List String} {fault : Fault} : RootAt host git root →
      PlaceStops host (.ofString file) fault → fault ≠ .nullByte → PathStops host git file fault

theorem fault?_relativePath :
    (relativePath host git repository file).fault? = some fault ↔
      PathStops host git file fault := by
  rw [relativePath, Trace.fault?_bind, fault?_rootOf]
  constructor
  · rintro (lost | ⟨root, found, stopped⟩)
    · exact .root lost
    split at stopped
    · split at stopped <;> cases stopped
    · cases stopped
    · next other noNul unplaced =>
      cases stopped
      exact .file (rootOf_eq_ok.1 found) (resolve_eq_error.1 unplaced) noNul
  · rintro (lost | ⟨found, lost, noNul⟩)
    · exact .inl lost
    · refine .inr ⟨_, rootOf_eq_ok.2 found, ?_⟩
      rw [resolve_eq_error.2 lost]
      split
      · next unplaced => cases unplaced
      · next unplaced =>
        cases unplaced
        exact absurd rfl noNul
      · next unplaced =>
        cases unplaced
        rfl

theorem fault?_revisions (placed : (relativePath host git repository file).outcome = .ok path) :
    (revisions host git repository file limit).fault? = some fault ↔
      limit.tooLong = true ∧ fault = .tooLongToWrite ∨
      limit.tooLong = false ∧ git (.log limit.shown path) = .failed fault ∨
      limit.tooLong = false ∧ ∃ output complaint,
        git (.log limit.shown path) = .done 0 output complaint ∧
        Log.read (printed output) = .error fault := by
  rw [revisions, Trace.bind_of_ok placed]
  show (ite _ _ _ : Trace (List Revision)).fault? = _ ↔ _
  split
  · next long =>
    rw [Trace.bind_of_error rfl, Trace.fault?_eq_some]
    simp [long, eq_comm]
  · next notLong =>
    have short : limit.tooLong = false := Bool.eq_false_iff.2 notLong
    rw [Trace.fault?_bind, Git.fault?_ask]
    constructor
    · rintro (unstarted | ⟨⟨status, output, complaint⟩, answered, stopped⟩)
      · exact .inr (.inl ⟨short, unstarted⟩)
      dsimp only at stopped
      split at stopped
      · cases stopped
      · next succeeded =>
        rw [Git.ask_eq_ok, not_not.1 succeeded] at answered
        exact .inr (.inr ⟨short, output, complaint, answered, Trace.fault?_liftFault.1 stopped⟩)
    · rintro (⟨long, -⟩ | ⟨-, unstarted⟩ | ⟨-, output, complaint, answered, misread⟩)
      · exact absurd long notLong
      · exact .inl unstarted
      · refine .inr ⟨⟨0, output, complaint⟩, Git.ask_eq_ok.2 answered, ?_⟩
        rw [if_neg (not_not.2 rfl)]
        exact Trace.fault?_liftFault.2 misread

/-! ## Failures -/

/-- The failures of a computation say that a source is unavailable. -/
def OnlyUnavailable {α : Type} (trace : Trace α) : Prop :=
  ∀ failure, trace.outcome = .error (.reported failure) →
    ∃ label obstacle, failure = .sourceUnavailable label obstacle

theorem OnlyUnavailable.bind {α β : Type} {first : Trace α} {next : α → Trace β}
    (unavailable : OnlyUnavailable first) (unavailableNext : ∀ a, OnlyUnavailable (next a)) :
    OnlyUnavailable (first >>= next) := by
  intro failure failed
  rw [Trace.outcome_bind] at failed
  rcases bind_eq_error.1 failed with here | ⟨a, -, behind⟩
  · exact unavailable failure here
  · exact unavailableNext a failure behind

theorem onlyUnavailable_fail {α : Type} (label : Value) (obstacle : Obstacle) :
    OnlyUnavailable (Trace.fail (.sourceUnavailable label obstacle) : Trace α) := by
  rintro failure failed
  cases failed
  exact ⟨label, obstacle, rfl⟩

theorem onlyUnavailable_liftFault {α : Type} (first : Except Fault α) :
    OnlyUnavailable (liftM first : Trace α) := by
  intro failure failed
  cases first <;> cases failed

theorem onlyUnavailable_ask (query : Query) : OnlyUnavailable (git.ask repository query) := by
  refine .bind nofun fun _ => ?_
  cases git query with
  | notInstalled | timedOut => exact onlyUnavailable_fail _ _
  | failed | done => exact nofun

theorem onlyUnavailable_relativePath : OnlyUnavailable (relativePath host git repository file) := by
  refine .bind (.bind (onlyUnavailable_ask _) fun reply => ?_) fun root => ?_
  · split
    · exact onlyUnavailable_fail _ _
    · split
      · exact onlyUnavailable_liftFault _
      · exact nofun
  · split
    · split
      · exact nofun
      · exact onlyUnavailable_fail _ _
    · exact onlyUnavailable_fail _ _
    · exact nofun

theorem onlyUnavailable_revisions : OnlyUnavailable (revisions host git repository file limit) := by
  refine .bind onlyUnavailable_relativePath fun path => ?_
  have asked : OnlyUnavailable (do
      let reply ← git.ask repository (.log limit.shown path)
      if reply.code ≠ 0 then
        Trace.fail (.sourceUnavailable (.text file)
          (.gitFailed (String.ofList (Text.trim (printed reply.complaint)))))
      else liftM (Log.read (printed reply.output)) : Trace (List Revision)) := by
    refine .bind (onlyUnavailable_ask _) fun reply => ?_
    split
    · exact onlyUnavailable_fail _ _
    · exact onlyUnavailable_liftFault _
  show OnlyUnavailable (ite _ _ _ : Trace (List Revision))
  split
  · exact .bind nofun fun _ => asked
  · exact asked

theorem onlyUnavailable_mapM (revisions : List Revision) :
    OnlyUnavailable (revisions.mapM (pointOf library git settings repository path)) := by
  intro failure failed
  rw [Trace.outcome_mapM] at failed
  obtain ⟨_, revision, _, _, _, stopped⟩ := exists_of_mapM_eq_error failed
  obtain ⟨fault, equal, -⟩ := pointOf_eq_error.1 stopped
  cases equal

theorem onlyUnavailable_points : OnlyUnavailable (points host git settings folder file limit) := by
  refine .bind (onlyUnavailable_liftFault _) fun place => .bind onlyUnavailable_relativePath
    fun path => .bind onlyUnavailable_revisions fun revisions => ?_
  dsimp only
  split
  · exact .bind nofun fun _ => onlyUnavailable_mapM _
  · exact onlyUnavailable_mapM _

/-! ## Timelines -/

/-- The path of a file from the root of its repository is known. -/
def FoundAt (host : Host) (git : Git) (folder : Path) (file path : String) : Prop :=
  ∃ place, host.resolve folder = .ok place ∧
    (relativePath host git (Path.absolute place).text file).outcome = .ok path

/-- What interrupts a timeline, when contents are decoded by this decoder. -/
inductive Interrupts (host : Host) (git : Git) (settings : Settings) (decoder : Decoder)
    (folder : Path) (file : String) (limit : Value) : Fault → Prop
  /-- The folder has no place. -/
  | folder {fault : Fault} : PlaceStops host folder fault →
      Interrupts host git settings decoder folder file limit fault
  /-- The search for the file in the repository is interrupted. -/
  | path {place : List String} {fault : Fault} : host.resolve folder = .ok place →
      PathStops host git file fault → Interrupts host git settings decoder folder file limit fault
  /-- The number of commits that git is asked for is too long to write. -/
  | limit {path : String} : FoundAt host git folder file path → limit.tooLong = true →
      Interrupts host git settings decoder folder file limit .tooLongToWrite
  /-- The system does not start git for the log. -/
  | git {path : String} {fault : Fault} :
      FoundAt host git folder file path → limit.tooLong = false →
      git (.log limit.shown path) = .failed fault →
      Interrupts host git settings decoder folder file limit fault
  /-- The time of a commit in the log has too many digits. -/
  | log {path : String} {output complaint : List UInt8} {count : Nat} :
      FoundAt host git folder file path → limit.tooLong = false →
      git (.log limit.shown path) = .done 0 output complaint →
      Log.read (printed output) = .error (.tooManyDigits count) →
      Interrupts host git settings decoder folder file limit (.tooManyDigits count)
  /-- The analysis of a revision is interrupted, and those of the newer ones are not. -/
  | revision {path : String} {output complaint : List UInt8} {newer older : List Revision}
      {revision : Revision} {fault : Fault} :
      FoundAt host git folder file path → limit.tooLong = false →
      git (.log limit.shown path) = .done 0 output complaint →
      Log.read (printed output) = .ok (newer ++ revision :: older) →
      (∀ other ∈ newer, ∀ fault,
        ¬ RevisionStops host.library git settings decoder path other fault) →
      RevisionStops host.library git settings decoder path revision fault →
      Interrupts host git settings decoder folder file limit fault

/-- Revisions that are found are all there is to a timeline. -/
theorem points_fault_iff_of_revisions {place : List String} {revisions : List Revision}
    (resolved : host.resolve folder = .ok place)
    (placed : (relativePath host git (Path.absolute place).text file).outcome = .ok path)
    (read : (Timeline.revisions host git (Path.absolute place).text file limit).outcome =
      .ok revisions) :
    (points host git settings folder file limit).fault? = some fault ↔
      ∃ newer revision older, revisions = newer ++ revision :: older ∧
        (∀ other ∈ newer, (analyzeRevision host.library git settings (Path.absolute place).text
          path other).fault? = none) ∧
        (analyzeRevision host.library git settings (Path.absolute place).text path
          revision).fault? = some fault := by
  rw [Trace.fault?_eq_some, points_of_revisions resolved placed read, Trace.outcome_mapM]
  constructor
  · intro stopped
    obtain ⟨newer, revision, older, equal, ended, stops⟩ := exists_of_mapM_eq_error stopped
    obtain ⟨_, same, faulted⟩ := pointOf_eq_error.1 stops
    cases same
    exact ⟨newer, revision, older, equal,
      fun other member => pointOf_ends_iff.1 (ended other member), faulted⟩
  · rintro ⟨newer, revision, older, rfl, noFault, faulted⟩
    exact mapM_eq_error (fun other member => pointOf_ends_iff.2 (noFault other member))
      (pointOf_eq_error.2 ⟨fault, rfl, faulted⟩)

/-- What interrupts the reading of the log interrupts the timeline. -/
theorem points_fault_of_revisions {place : List String}
    (resolved : host.resolve folder = .ok place)
    (placed : (relativePath host git (Path.absolute place).text file).outcome = .ok path)
    (stopped : (Timeline.revisions host git (Path.absolute place).text file limit).fault? =
      some fault) : (points host git settings folder file limit).fault? = some fault := by
  refine Trace.fault?_bind.2 (.inr ⟨place, Trace.liftFault_eq_ok.2 resolved, ?_⟩)
  exact Trace.fault?_bind.2 (.inr ⟨path, placed, Trace.fault?_bind.2 (.inl stopped)⟩)

theorem points_fault_iff (decoded : settings.DecodesBy host.library.codecs decoder) :
    (points host git settings folder file limit).fault? = some fault ↔
      Interrupts host git settings decoder folder file limit fault := by
  constructor
  · intro stopped
    rcases Trace.fault?_bind.1 stopped with lost | ⟨place, resolved, behind⟩
    · exact .folder (resolve_eq_error.1 (Trace.fault?_liftFault.1 lost))
    rw [Trace.liftFault_eq_ok] at resolved
    rcases Trace.fault?_bind.1 behind with lost | ⟨path, placed, behind⟩
    · exact .path resolved (fault?_relativePath.1 lost)
    have found : FoundAt host git folder file path := ⟨place, resolved, placed⟩
    rcases Trace.fault?_bind.1 behind with lost | ⟨revisions, read, -⟩
    · rcases (fault?_revisions placed).1 lost with
        ⟨long, rfl⟩ | ⟨short, unstarted⟩ | ⟨short, _, _, answered, misread⟩
      · exact .limit found long
      · exact .git found short unstarted
      · obtain ⟨count, rfl⟩ := Log.revisionsOf_eq_error misread
        exact .log found short answered misread
    · have short : limit.tooLong = false := by
        by_contra long
        have lost : (Timeline.revisions host git (Path.absolute place).text file limit).fault? =
            some .tooLongToWrite :=
          (fault?_revisions placed).2 (.inl ⟨Bool.not_eq_false _ ▸ long, rfl⟩)
        rw [Trace.fault?_eq_some, read] at lost
        cases lost
      obtain ⟨_, output, complaint, placedAgain, answered, parsed⟩ := revisions_eq_ok read
      cases placed.symm.trans placedAgain
      -- The log is read, so that only a revision is left; it is the first that is interrupted.
      obtain ⟨newer, revision, older, rfl, noFault, faulted⟩ :=
        (points_fault_iff_of_revisions resolved placed read).1 stopped
      refine .revision found short answered parsed (fun other member fault stops => ?_)
        ((fault?_analyzeRevision decoded).1 faulted)
      cases ((fault?_analyzeRevision decoded).2 stops).symm.trans (noFault other member)
  · intro interrupted
    cases interrupted with
    | folder stops =>
        exact Trace.fault?_bind.2 (.inl (Trace.fault?_liftFault.2 (resolve_eq_error.2 stops)))
    | path resolved stops =>
        exact Trace.fault?_bind.2 (.inr ⟨_, Trace.liftFault_eq_ok.2 resolved,
          Trace.fault?_bind.2 (.inl (fault?_relativePath.2 stops))⟩)
    | limit found long =>
        obtain ⟨place, resolved, placed⟩ := found
        exact points_fault_of_revisions resolved placed
          ((fault?_revisions placed).2 (.inl ⟨long, rfl⟩))
    | git found short unstarted =>
        obtain ⟨place, resolved, placed⟩ := found
        exact points_fault_of_revisions resolved placed
          ((fault?_revisions placed).2 (.inr (.inl ⟨short, unstarted⟩)))
    | log found short answered misread =>
        obtain ⟨place, resolved, placed⟩ := found
        exact points_fault_of_revisions resolved placed
          ((fault?_revisions placed).2 (.inr (.inr ⟨short, _, _, answered, misread⟩)))
    | revision found short answered parsed noStop stops =>
        obtain ⟨place, resolved, placed⟩ := found
        have read := revisions_of_log placed short answered parsed
        refine (points_fault_iff_of_revisions resolved placed read).2
          ⟨_, _, _, rfl, fun other member => ?_, (fault?_analyzeRevision decoded).2 stops⟩
        rw [Option.eq_none_iff_forall_ne_some]
        exact fun fault faulted =>
          noStop other member fault ((fault?_analyzeRevision decoded).1 faulted)

end Timeline

/-! ## The command -/

namespace Command

variable {before host : Host} {git : Git} {options : Options} {settings : Settings} {file : Path}
  {decoder : Decoder}

/-- What interrupts the timeline that the command shows. -/
inductive Interrupts (host : Host) (git : Git) (settings : Settings) (decoder : Decoder)
    (file : Path) : Fault → Prop
  /-- The file has no place, so that there is no folder around it. -/
  | file {fault : Fault} : Timeline.PlaceStops host file fault →
      Interrupts host git settings decoder file fault
  | timeline {place : List String} {fault : Fault} : host.resolve file = .ok place →
      Timeline.Interrupts host git settings decoder (Path.absolute place).parent file.text
        settings.maxCommits fault →
      Interrupts host git settings decoder file fault

theorem timeline_fault_iff (decoded : settings.DecodesBy host.library.codecs decoder)
    {fault : Fault} :
    (timeline host git settings file).outcome = .error (.escaped fault) ↔
      Interrupts host git settings decoder file fault := by
  rw [← Trace.fault?_eq_some, timeline, Trace.fault?_bind, Trace.fault?_liftFault,
    Timeline.resolve_eq_error]
  simp only [Trace.liftFault_eq_ok, Timeline.points_fault_iff decoded]
  constructor
  · rintro (lost | ⟨place, resolved, interrupted⟩)
    · exact .file lost
    · exact .timeline resolved interrupted
  · rintro (lost | ⟨resolved, interrupted⟩)
    · exact .inl lost
    · exact .inr ⟨_, resolved, interrupted⟩

/-- The settings are loaded and logging is set up. -/
def Ready (before : Host) (options : Options) (settings : Settings) (host : Host) : Prop :=
  Settings.load before options.config options.layer = .ok settings ∧
    before.setUpLogging (.text settings.verbosity.name) settings.logFile = .ok host

theorem withSettings_of_ready (ready : Ready before options settings host)
    (work : Host → Settings → Outcome) : withSettings before options work = work host settings := by
  obtain ⟨loaded, logged⟩ := ready
  rw [withSettings, loaded]
  dsimp only
  rw [logged]

/-- A failure of the timeline ends the command with a message and with status 1. -/
theorem history_of_failure (ready : Ready before options settings host) {failure : Failure}
    (failed : (timeline host git settings file).outcome = .error (.reported failure)) :
    ∃ text, complaint ("[red]Error:[/red] " ++ Markup.escape failure.text) = .ok text ∧
      history before git options file =
        ⟨.exit 1, "", text, (timeline host git settings file).events, host⟩ := by
  obtain ⟨text, written, ended⟩ :=
    failed_eq host 1 (timeline host git settings file).events failure
  refine ⟨text, written, ?_⟩
  rw [history, withSettings_of_ready ready]
  dsimp only
  rw [failed]
  exact ended

theorem history_of_fault (ready : Ready before options settings host) {fault : Fault}
    (stopped : (timeline host git settings file).outcome = .error (.escaped fault)) :
    (history before git options file).ending = .fault fault := by
  rw [history, withSettings_of_ready ready]
  dsimp only
  rw [stopped]

end Command

namespace Timeline

/-- Whatever git does, a timeline ends with its points, or fails because a source is unavailable,
unless it is interrupted in one of the ways of `Interrupts`: then a fault goes out. The command
turns every failure into its message and into status 1; a fault goes through it as well. -/
theorem points_end_iff {host : Host} {git : Git} {settings : Settings} {decoder : Decoder}
    (decoded : settings.DecodesBy host.library.codecs decoder) :
    (∀ folder file limit,
      (((∃ timeline, (points host git settings folder file limit).outcome = .ok timeline) ∨
        ∃ label obstacle, (points host git settings folder file limit).outcome =
          .error (.reported (.sourceUnavailable label obstacle))) ↔
        ∀ fault, ¬ Interrupts host git settings decoder folder file limit fault) ∧
      ∀ fault, (points host git settings folder file limit).outcome = .error (.escaped fault) ↔
        Interrupts host git settings decoder folder file limit fault) ∧
    ∀ before options file, Command.Ready before options settings host →
      (∀ failure,
        (Command.timeline host git settings file).outcome = .error (.reported failure) →
        ∃ text, Command.complaint ("[red]Error:[/red] " ++ Markup.escape failure.text) = .ok text ∧
          Command.history before git options file =
            ⟨.exit 1, "", text, (Command.timeline host git settings file).events, host⟩) ∧
      ∀ fault, Command.Interrupts host git settings decoder file fault →
        (Command.history before git options file).ending = .fault fault := by
  have interrupted (folder file limit fault) :
      (points host git settings folder file limit).outcome = .error (.escaped fault) ↔
        Interrupts host git settings decoder folder file limit fault :=
    Trace.fault?_eq_some.symm.trans (points_fault_iff decoded)
  refine ⟨fun folder file limit => ⟨⟨?_, fun uninterrupted => ?_⟩, interrupted folder file limit⟩,
    fun before options file ready => ⟨fun failure => Command.history_of_failure ready,
      fun fault stops => Command.history_of_fault ready
        ((Command.timeline_fault_iff decoded).2 stops)⟩⟩
  · rintro (⟨points, ended⟩ | ⟨label, obstacle, failed⟩) fault stops
    · cases ended.symm.trans ((interrupted _ _ _ fault).2 stops)
    · cases failed.symm.trans ((interrupted _ _ _ fault).2 stops)
  · cases ended : (points host git settings folder file limit).outcome with
    | ok points => exact .inl ⟨points, rfl⟩
    | error problem =>
        cases problem with
        | reported failure =>
            obtain ⟨label, obstacle, rfl⟩ := onlyUnavailable_points failure ended
            exact .inr ⟨label, obstacle, rfl⟩
        | escaped fault => exact absurd ((interrupted _ _ _ fault).1 ended) (uninterrupted fault)

theorem standard_decodesBy :
    Settings.standard.DecodesBy emptyMachine.library.codecs (Text.Encoding.decoder .utf8) :=
  ⟨"utf-8", by decide +kernel, Codecs.named_standIn (by decide +kernel)⟩

/-- A command without options. -/
def bareOptions : Command.Options where
  metric := none
  report := false
  precision := none
  layout := none
  lexer := none
  dump := false
  workers := none
  maxCommits := none
  config := none
  verbose := false
  quiet := false
  logFile := none

theorem bareOptions_ready : Command.Ready emptyMachine bareOptions .standard emptyMachine :=
  ⟨rfl, rfl⟩

/-- Without git nothing interrupts a timeline, and the command ends with status 1. -/
theorem points_end_iff_notInstalled :
    let missing : Git := fun _ => .notInstalled
    (∀ fault, ¬ Interrupts emptyMachine missing .standard (Text.Encoding.decoder .utf8)
      (.ofString "") "main.pl" (.int 100) fault) ∧
    ∃ text, Command.history emptyMachine missing bareOptions (.ofString "main.pl") =
      ⟨.exit 1, "", text, [.ran ["git", "-C", "/repository", "rev-parse", "--show-toplevel"]],
        emptyMachine⟩ := by
  intro missing
  obtain ⟨ends, commands⟩ := @points_end_iff emptyMachine missing _ _ standard_decodesBy
  have failed : (Command.timeline emptyMachine missing .standard (.ofString "main.pl")).outcome =
      .error (.reported (.sourceUnavailable (.text "/repository") .gitMissing)) := rfl
  obtain ⟨text, -, ended⟩ := (commands _ _ _ bareOptions_ready).1 _ failed
  exact ⟨(ends _ _ _).1.1 (.inr ⟨_, _, rfl⟩), text, ended⟩

/-- Git prints a root that is not UTF-8. -/
def latinRoot : Git
  | .root => .done 0 [0x2F, 0xFF] []
  | .log .. | .content .. => .done 0 [] []

/-- A root that is not UTF-8 interrupts the timelines of its repository, and the command as well. -/
theorem points_interrupted :
    Settings.standard.DecodesBy emptyMachine.library.codecs (Text.Encoding.decoder .utf8) ∧
      (points emptyMachine latinRoot .standard (.ofString "") "main.pl" (.int 100)).fault?.map
        Fault.text = some "'utf-8' codec can't decode byte 0xff in position 1: invalid start byte" ∧
      ∃ fault, (Command.history emptyMachine latinRoot bareOptions (.ofString "main.pl")).ending =
        .fault fault := by
  have interrupted : (Command.timeline emptyMachine latinRoot .standard
      (.ofString "main.pl")).fault?.isSome = true := by
    decide +kernel
  obtain ⟨fault, stopped⟩ := Option.isSome_iff_exists.1 interrupted
  exact ⟨standard_decodesBy, by decide +kernel, fault,
    Command.history_of_fault bareOptions_ready (Trace.fault?_eq_some.1 stopped)⟩

end Timeline

end CodeMetrics
