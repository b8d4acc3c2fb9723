import CodeMetrics.History.Timeline
import CodeMetrics.Proofs.Analysis

/-!
# Timelines, point by point

A timeline that ends is made of points that know nothing of each other: each holds the analysis of
its own revision, and what git says of another commit does not show in it. The log tells of every
point that was skipped, and of no other.

Results:
1. `ask_congr`: git is known by its answer to the question that is put to it.
2. `quiet_analyzeRevision`: the analysis of a revision gives no warning of its own.
3. `pointOf_eq_ok`, `warnings_mapM_pointOf`: the point of a revision, and what is logged about it.
4. `points_eq_ok`: what a timeline that ends has read.
5. `points_isolated`: the points of a timeline, its warnings, and what a commit can change.
-/

namespace CodeMetrics

/-! ## Questions -/

theorem Git.ask_congr {git other : Git} {query : Query} (same : other query = git query)
    (repository : String) : other.ask repository query = git.ask repository query := by
  rw [ask, ask, same]

theorem Git.quiet_ask (git : Git) (repository : String) (query : Query) :
    (git.ask repository query).Quiet := by
  refine Trace.quiet_bind rfl fun _ => ?_
  cases git query <;> rfl

theorem Git.ask_eq_ok {git : Git} {repository : String} {query : Query} {output : Output} :
    (git.ask repository query).outcome = .ok output ↔
      git query = .done output.code output.output output.complaint := by
  rw [ask, Trace.bind_eq_ok]
  cases git query with
  | notInstalled | failed | timedOut => simp [Trace.fail, Trace.stop]
  | done =>
      cases output
      simp [Trace.emit, Trace.outcome_pure]

/-- The encoding names a codec, which has this decoder for bytes in memory. -/
def Settings.DecodesBy (settings : Settings) (codecs : Codecs) (decoder : Decoder) : Prop :=
  ∃ name, Timeline.contentEncoding settings.encoding = .ok name ∧ codecs.named name = .ok decoder

namespace Timeline

variable {host : Host} {library : Library} {git other : Git} {settings : Settings}
  {repository path file : String}

/-! ## One revision -/

/-- With a codec that there is, nothing but its decoder decides what becomes of some bytes. -/
theorem decodeContent_of_decodesBy {codecs : Codecs} {decoder : Decoder}
    (decoded : settings.DecodesBy codecs decoder) (label : String)
    (bytes : List UInt8) :
    decodeContent codecs label settings.encoding bytes =
      if bytes = [] then .ok .empty
      else (decoder bytes).mapError (undecodable label settings.encoding) := by
  obtain ⟨name, named, known⟩ := decoded
  rw [decodeContent, named]
  cases bytes with
  | nil => rfl
  | cons byte rest =>
      rw [if_neg (List.cons_ne_nil byte rest)]
      show (liftM (codecs.named name) >>= fun decoder =>
        (decoder (byte :: rest)).mapError (undecodable label settings.encoding) :
          Except Problem Snippet) = _
      rw [known]
      rfl

/-- The bytes of a content, and what they are decoded to. -/
theorem content_eq_ok {revision : Revision} {code : Snippet} :
    (content library git settings repository path revision).outcome = .ok code ↔
      ∃ output complaint, git (.content revision.sha path) = .done 0 output complaint ∧
        decodeContent library.codecs (path ++ "@" ++ revision.shortSha) settings.encoding output =
          .ok code := by
  rw [content, Trace.bind_eq_ok]
  constructor
  · rintro ⟨⟨status, output, complaint⟩, answered, decoded⟩
    dsimp only at decoded
    split at decoded
    · cases decoded
    · next succeeded =>
      rw [Git.ask_eq_ok, not_not.1 succeeded] at answered
      exact ⟨output, complaint, answered, decoded⟩
  · rintro ⟨output, complaint, answered, decoded⟩
    exact ⟨⟨0, output, complaint⟩, Git.ask_eq_ok.2 answered, decoded⟩

theorem quiet_analyzeRevision (revision : Revision) :
    (analyzeRevision library git settings repository path revision).Quiet := by
  refine Trace.quiet_bind (Trace.quiet_bind (git.quiet_ask _ _) fun reply => ?_) fun code =>
    Trace.quiet_bind ?_ fun tokens => quiet_analyzeTokens _ _ _
  · split
    · rfl
    · exact Trace.quiet_ofOutcome _
  · rw [contentTokens]
    split
    · rfl
    · exact quiet_tokenize _ _ _ _

/-- The analysis of a revision puts a single question to git. -/
theorem analyzeRevision_congr {revision : Revision}
    (same : other (.content revision.sha path) = git (.content revision.sha path)) :
    analyzeRevision library other settings repository path revision =
      analyzeRevision library git settings repository path revision := by
  rw [analyzeRevision, analyzeRevision, content, content, Git.ask_congr same]

theorem pointOf_congr {revision : Revision}
    (same : other (.content revision.sha path) = git (.content revision.sha path)) :
    pointOf library other settings repository path revision =
      pointOf library git settings repository path revision := by
  rw [pointOf, pointOf, analyzeRevision_congr same]

/-- What is logged about a point that was skipped. -/
def skipped? (path : String) (point : Point) : Option LogRecord :=
  match point.outcome with
  | .ok _ => none
  | .error failure =>
      some ⟨historyLogger, .warning,
        s!"Skipping {path}@{point.revision.shortSha}: {failure.text}"⟩

/-- A point keeps the outcome of an analysis. -/
theorem pointOf_eq_kept (revision : Revision) :
    pointOf library git settings repository path revision =
      (analyzeRevision library git settings repository path revision).kept
        (fun outcome => ⟨revision, outcome⟩) historyLogger
        (fun failure => s!"Skipping {path}@{revision.shortSha}: {failure.text}") := by
  refine congrArg (_ >>= ·) (funext fun outcome => ?_)
  cases outcome <;> rfl

/-- The point of a revision holds what its analysis ended with, and the log tells whether it was
skipped. -/
theorem pointOf_eq_ok {revision : Revision} {point : Point}
    (ended : (pointOf library git settings repository path revision).outcome = .ok point) :
    point.revision = revision ∧
      (analyzeRevision library git settings repository path revision).outcome =
        point.outcome.mapError .reported ∧
      (pointOf library git settings repository path revision).warnings =
        (skipped? path point).toList := by
  rw [pointOf_eq_kept] at ended ⊢
  obtain ⟨outcome, analyzed, rfl⟩ := Trace.kept_eq_ok.1 ended
  refine ⟨rfl, analyzed, (Trace.warnings_kept (quiet_analyzeRevision revision) analyzed).trans ?_⟩
  cases outcome <;> rfl

/-! ## The log -/

theorem quiet_relativePath : (relativePath host git repository file).Quiet := by
  refine Trace.quiet_bind (Trace.quiet_bind (git.quiet_ask _ _) fun reply => ?_) fun root => ?_
  · split
    · rfl
    · split
      · exact Trace.quiet_liftFault _
      · rfl
  · split
    · split <;> rfl
    · rfl
    · rfl

theorem quiet_revisions {limit : Value} :
    (revisions host git repository file limit).Quiet := by
  refine Trace.quiet_bind quiet_relativePath fun path => ?_
  have asked : (do
      let reply ← git.ask repository (.log limit.shown path)
      if reply.code ≠ 0 then
        Trace.fail (.sourceUnavailable (.text file)
          (.gitFailed (String.ofList (Text.trim (printed reply.complaint)))))
      else liftM (Log.read (printed reply.output)) : Trace (List Revision)).Quiet := by
    refine Trace.quiet_bind (git.quiet_ask _ _) fun reply => ?_
    split
    · rfl
    · exact Trace.quiet_liftFault _
  show (ite _ _ _ : Trace (List Revision)).Quiet
  split
  · exact Trace.quiet_bind rfl fun _ => asked
  · exact asked

/-- Git behaves as before, but for what it says of the content of one commit. -/
def SameBut (sha : String) (git other : Git) : Prop :=
  ∀ query, (∀ path, query ≠ .content sha path) → other query = git query

theorem relativePath_congr {sha : String} (same : SameBut sha git other) :
    relativePath host other repository file = relativePath host git repository file := by
  have root : other .root = git .root := same _ fun _ => nofun
  rw [relativePath, relativePath, rootOf, rootOf, Git.ask_congr root]

theorem revisions_congr {sha : String} {limit : Value} (same : SameBut sha git other) :
    revisions host other repository file limit = revisions host git repository file limit := by
  have log (path : String) : other (.log limit.shown path) = git (.log limit.shown path) :=
    same _ fun _ => nofun
  simp only [revisions, relativePath_congr same, Git.ask_congr (log _)]

/-- The log that revisions are read from. -/
theorem revisions_eq_ok {limit : Value} {revisions : List Revision}
    (ended : (Timeline.revisions host git repository file limit).outcome = .ok revisions) :
    ∃ path output complaint, (relativePath host git repository file).outcome = .ok path ∧
      git (.log limit.shown path) = .done 0 output complaint ∧
      Log.read (printed output) = .ok revisions := by
  rw [Timeline.revisions] at ended
  obtain ⟨path, placed, ended⟩ := Trace.bind_eq_ok.1 ended
  dsimp only at ended
  split at ended
  · obtain ⟨_, stopped, _⟩ := Trace.bind_eq_ok.1 ended
    cases stopped
  obtain ⟨reply, answered, ended⟩ := Trace.bind_eq_ok.1 ended
  split at ended
  · cases ended
  · next succeeded =>
      rw [Git.ask_eq_ok, not_not.1 succeeded] at answered
      exact ⟨path, _, _, placed, answered, Trace.liftFault_eq_ok.1 ended⟩

theorem revisions_of_log {limit : Value} {output complaint : List UInt8}
    {revisions : List Revision}
    (placed : (relativePath host git repository file).outcome = .ok path)
    (short : limit.tooLong = false)
    (answered : git (.log limit.shown path) = .done 0 output complaint)
    (parsed : Log.read (printed output) = .ok revisions) :
    (Timeline.revisions host git repository file limit).outcome = .ok revisions := by
  refine Trace.bind_eq_ok.2 ⟨path, placed, ?_⟩
  rw [if_neg (Bool.eq_false_iff.1 short)]
  refine Trace.bind_eq_ok.2 ⟨⟨0, output, complaint⟩, Git.ask_eq_ok.2 answered, ?_⟩
  rw [if_neg (not_not.2 rfl)]
  exact Trace.liftFault_eq_ok.2 parsed

/-! ## The whole timeline -/

/-- The points of some revisions hold them in their order. -/
theorem mapM_pointOf_eq_ok {revisions : List Revision} {points : List Point} :
    (revisions.mapM (pointOf library git settings repository path)).outcome = .ok points ↔
      revisions = points.map Point.revision ∧
        ∀ point ∈ points,
          (pointOf library git settings repository path point.revision).outcome = .ok point := by
  rw [Trace.outcome_mapM, mapM_eq_ok]
  constructor
  · intro ended
    have same : revisions = points.map Point.revision := by
      rw [← List.forall₂_eq_eq_eq, List.forall₂_map_right_iff]
      exact ended.imp fun revision point reached => (pointOf_eq_ok reached).1.symm
    subst same
    exact ⟨rfl, List.forall₂_same.1 (List.forall₂_map_left_iff.1 ended)⟩
  · rintro ⟨rfl, reached⟩
    exact List.forall₂_map_left_iff.2 (List.forall₂_same.2 reached)

theorem warnings_mapM_pointOf {revisions : List Revision} {points : List Point}
    (ended : (revisions.mapM (pointOf library git settings repository path)).outcome = .ok points) :
    (revisions.mapM (pointOf library git settings repository path)).warnings =
      points.filterMap (skipped? path) := by
  rw [Trace.warnings, Trace.events_mapM ended, Trace.warningsOf_flatMap]
  obtain ⟨rfl, reached⟩ := mapM_pointOf_eq_ok.1 ended
  rw [List.flatMap_map, List.filterMap_eq_flatMap_toList]
  exact List.flatMap_congr fun point member => (pointOf_eq_ok (reached point member)).2.2

/-- A timeline whose revisions are found is stopped by nothing but their analyses. -/
theorem points_of_revisions {folder : Path} {limit : Value} {place : List String}
    {revisions : List Revision} (resolved : host.resolve folder = .ok place)
    (placed : (relativePath host git (Path.absolute place).text file).outcome = .ok path)
    (read : (Timeline.revisions host git (Path.absolute place).text file limit).outcome =
      .ok revisions) :
    (points host git settings folder file limit).outcome =
      (revisions.mapM
        (pointOf host.library git settings (Path.absolute place).text path)).outcome := by
  rw [points, Trace.outcome_bind, resolved]
  show (relativePath host git (Path.absolute place).text file >>= _ :
    Trace (List Point)).outcome = _
  rw [Trace.outcome_bind, placed, bind_ok, Trace.outcome_bind, read, bind_ok]
  dsimp only
  split
  · exact Trace.outcome_log_bind _ _ _ _
  · rfl

/-- What is logged about a file without a history. -/
def untouched (path : String) : LogRecord :=
  ⟨historyLogger, .warning, s!"No commits touch {path}"⟩

/-- A timeline that ends has found the file in the repository, has read its revisions, and has a
point for each of them. -/
theorem points_eq_ok {folder : Path} {limit : Value} {points : List Point}
    (ended : (Timeline.points host git settings folder file limit).outcome = .ok points) :
    ∃ place path revisions, host.resolve folder = .ok place ∧
      (relativePath host git (Path.absolute place).text file).outcome = .ok path ∧
      (Timeline.revisions host git (Path.absolute place).text file limit).outcome =
        .ok revisions ∧
      (revisions.mapM (pointOf host.library git settings (Path.absolute place).text path)).outcome =
        .ok points ∧
      (Timeline.points host git settings folder file limit).warnings =
        (if points = [] then [untouched path] else []) ++ points.filterMap (skipped? path) := by
  have reached := ended
  rw [Timeline.points] at reached
  obtain ⟨place, resolved, reached⟩ := Trace.bind_eq_ok.1 reached
  obtain ⟨path, placed, reached⟩ := Trace.bind_eq_ok.1 reached
  obtain ⟨revisions, read, reached⟩ := Trace.bind_eq_ok.1 reached
  dsimp only at reached
  have analyzed : (revisions.mapM
      (pointOf host.library git settings (Path.absolute place).text path)).outcome =
        .ok points := by
    split at reached
    · exact reached
    · exact reached
  refine ⟨place, path, revisions, Trace.liftFault_eq_ok.1 resolved, placed, read, analyzed, ?_⟩
  rw [Timeline.points, Trace.warnings_bind resolved, Trace.warnings_bind placed,
    Trace.warnings_bind read, Trace.quiet_liftFault, quiet_relativePath, quiet_revisions]
  obtain ⟨rfl, -⟩ := mapM_pointOf_eq_ok.1 analyzed
  cases points with
  | nil => rfl
  | cons point rest => exact warnings_mapM_pointOf analyzed

/-- Two points of a revision are one point, unless the commits in question are different. -/
def Agree (sha : String) (point twin : Point) : Prop :=
  point.revision = twin.revision ∧ (point.revision.sha ≠ sha → point = twin)

theorem forall₂_agree {sha : String} {points others : List Point} (same : SameBut sha git other)
    (ended : ∀ point ∈ points,
      (pointOf library git settings repository path point.revision).outcome = .ok point)
    (endedOther : ((points.map Point.revision).mapM
      (pointOf library other settings repository path)).outcome = .ok others) :
    List.Forall₂ (Agree sha) points others := by
  rw [Trace.outcome_mapM, mapM_eq_ok, List.forall₂_map_left_iff] at endedOther
  refine ((List.forall₂_and_left _ _).2 ⟨ended, endedOther⟩).imp fun point twin both => ?_
  obtain ⟨reached, reachedOther⟩ := both
  refine ⟨(pointOf_eq_ok reachedOther).1.symm, fun different => ?_⟩
  have content : other (.content point.revision.sha path) =
      git (.content point.revision.sha path) := by
    refine same _ fun place equal => ?_
    cases equal
    exact different rfl
  rw [pointOf_congr content] at reachedOther
  exact Except.ok.inj (reached.symm.trans reachedOther)

/-- A timeline that ends has one point for each revision of the log, in the order of the log. A
point holds what the analysis of its revision ended with. Besides the file having no history, the
only warnings are those about the skipped points, one for each. When git says something else of the
content of one commit, and the timeline still ends, the points of all other commits stay. -/
theorem points_isolated {folder : Path} {limit : Value} {points : List Point}
    (ended : (Timeline.points host git settings folder file limit).outcome = .ok points) :
    (∃ place path output complaint, host.resolve folder = .ok place ∧
      (relativePath host git (Path.absolute place).text file).outcome = .ok path ∧
      git (.log limit.shown path) = .done 0 output complaint ∧
      Log.read (printed output) = .ok (points.map Point.revision) ∧
      (∀ point ∈ points,
        (analyzeRevision host.library git settings (Path.absolute place).text path
          point.revision).outcome = point.outcome.mapError .reported) ∧
      (Timeline.points host git settings folder file limit).warnings =
        (if points = [] then [untouched path] else []) ++ points.filterMap (skipped? path)) ∧
    ∀ sha other others, SameBut sha git other →
      (Timeline.points host other settings folder file limit).outcome = .ok others →
      List.Forall₂ (Agree sha) points others := by
  obtain ⟨place, path, revisions, resolved, placed, read, analyzed, warned⟩ := points_eq_ok ended
  obtain ⟨rfl, reached⟩ := mapM_pointOf_eq_ok.1 analyzed
  obtain ⟨_, output, complaint, placedAgain, answered, parsed⟩ := revisions_eq_ok read
  cases placed.symm.trans placedAgain
  refine ⟨⟨place, path, output, complaint, resolved, placed, answered, parsed,
    fun point member => (pointOf_eq_ok (reached point member)).2.1, warned⟩, ?_⟩
  intro sha other others same endedOther
  obtain ⟨_, _, _, resolvedOther, placedOther, readOther, analyzedOther, -⟩ :=
    points_eq_ok endedOther
  -- Both timelines see the same folder, the same path and the same log.
  cases resolved.symm.trans resolvedOther
  rw [relativePath_congr same] at placedOther
  cases placed.symm.trans placedOther
  rw [revisions_congr same] at readOther
  cases read.symm.trans readOther
  exact forall₂_agree same reached analyzedOther

/-- A machine without files that works in a repository of its own. -/
def emptyMachine : Host where
  disk := .ofNodes []
  current := ["repository"]
  environment := []
  logging := .initial
  time := ""
  account := some "/"
  library := .standIn
  console := .recorder

def firstCommit : Revision := ⟨"aaaaaaaaaaaaaaaaaaaaaaaaaaaaaaaaaaaaaaaa", 20, some "later"⟩

def secondCommit : Revision := ⟨"bbbbbbbbbbbbbbbbbbbbbbbbbbbbbbbbbbbbbbbb", 10, some "earlier"⟩

/-- The line of a log that a revision with a subject is read from. -/
def logLine (revision : Revision) : String :=
  s!"{revision.sha}|{revision.timestamp}|" ++ revision.subject.getD "" ++ "\n"

/-- Two commits: git says whatever it is told of the first, and the second emptied the file. -/
def twoCommits (reply : Reply) : Git
  | .root => .done 0 "/repository\n".toUTF8.toList []
  | .log .. => .done 0 (logLine firstCommit ++ logLine secondCommit).toUTF8.toList []
  | .content sha _ => if sha = firstCommit.sha then reply else .done 0 [] []

theorem sameBut_twoCommits (reply other : Reply) :
    SameBut firstCommit.sha (twoCommits reply) (twoCommits other) := by
  intro query others
  cases query with
  | root | log => rfl
  | content sha path =>
      have different : sha ≠ firstCommit.sha := fun equal => others path (equal ▸ rfl)
      rw [twoCommits, twoCommits, if_neg different, if_neg different]

theorem ended_of_revisions {outcome : Except Problem (List Point)} {revisions : List Revision}
    (shown : outcome.toOption.map (·.map Point.revision) = some revisions) :
    ∃ points, outcome = .ok points ∧ points.map Point.revision = revisions := by
  cases outcome with
  | error problem => cases shown
  | ok points => exact ⟨points, rfl, Option.some.inj shown⟩

/-- When git is too slow to give the content of one commit out of two, there are two points still,
and the one of the other commit stays as it is. -/
theorem points_isolated_twoCommits :
    ∃ points others,
      (Timeline.points emptyMachine (twoCommits .timedOut) .standard (.ofString "") "main.pl"
        (.int 100)).outcome = .ok points ∧
      points.map Point.revision = [firstCommit, secondCommit] ∧
      (Timeline.points emptyMachine (twoCommits (.done 0 [] [])) .standard (.ofString "") "main.pl"
        (.int 100)).outcome = .ok others ∧
      List.Forall₂ (Agree firstCommit.sha) points others := by
  obtain ⟨points, ended, listed⟩ : ∃ points, (Timeline.points emptyMachine (twoCommits .timedOut)
      .standard (.ofString "") "main.pl" (.int 100)).outcome = .ok points ∧
      points.map Point.revision = [firstCommit, secondCommit] :=
    ended_of_revisions (by decide +kernel)
  obtain ⟨others, endedOther, -⟩ : ∃ others, (Timeline.points emptyMachine
      (twoCommits (.done 0 [] [])) .standard (.ofString "") "main.pl" (.int 100)).outcome =
        .ok others ∧
      others.map Point.revision = [firstCommit, secondCommit] :=
    ended_of_revisions (by decide +kernel)
  exact ⟨points, others, ended, listed, endedOther,
    (points_isolated ended).2 _ _ _ (sameBut_twoCommits _ _) endedOther⟩

end Timeline

end CodeMetrics
