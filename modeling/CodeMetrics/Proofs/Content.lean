import CodeMetrics.Proofs.Escaping
import CodeMetrics.Proofs.Line
import CodeMetrics.Proofs.Timeline

/-!
# Commits and files

A commit is analysed as a file with the same text and the same last name is. The two are read apart
from each other, and differ in one thing: in a file carriage returns are unified, in a commit they
are not. A listing of tokens reads the same either way, for its lines are the same; a source does
when it has no carriage returns.

The same bytes need not be the same text, for a codec reads a file and bytes in memory with decoders
of their own. Where the decoder of files stops, the analysis of the file ends with that, though the
commit may have its metrics.

Results:
1. `Text.Encoding.fileDecoder_of_decoder`: encodings that read a file as they read bytes in memory.
2. `tokensIn_unifyBreaks`: the tokens of a listing.
3. `Twin.tokens_outcome`: the tokens of a commit and of a file.
4. `Twin.record_eq`: the metrics of a commit and of a file.
5. `Twin.failure_kind`, `Twin.fault_origin`: what keeps them from having metrics.
6. `points_as_files`: a timeline and the files that hold what its commits hold.
7. `points_unlike_files`: a text in UTF-16 without a byte order mark.
-/

namespace CodeMetrics

/-! ## Decoding -/

namespace Text.Encoding

theorem decode_nil (e : Text.Encoding) : e.decode [] = .ok [] := by
  cases e with
  | utf16Marked => simp [decode, decodeFrom, marked?]
  | _ => simp [decode, decodeFrom, byteOrderMark]

/-- What is read of a part of the byte order mark is nothing. -/
theorem eq_empty_of_waits {bytes : List UInt8} {text : Snippet} (short : bytes.length < 3)
    (begun : bytes.isPrefixOf byteOrderMark = true)
    (decoded : decoder .utf8Marked bytes = .ok text) : text = .empty := by
  -- Nothing can be read as a whole; one byte of the mark, or two, cannot.
  match bytes, short with
  | [], _ =>
      have nothing : decoder .utf8Marked [] = .ok .empty := by
        rw [decoder, decode_nil]
        rfl
      exact Except.ok.inj (decoded.symm.trans nothing)
  | [b], _ =>
      obtain rfl : b = 0xEF := by simpa [byteOrderMark] using begun
      have stops : (decoder .utf8Marked [0xEF]).toOption = none := by decide +kernel
      rw [decoded] at stops
      cases stops
  | [b, c], _ =>
      obtain ⟨rfl, rfl⟩ : b = 0xEF ∧ c = 0xBB := by simpa [byteOrderMark] using begun
      have stops : (decoder .utf8Marked [0xEF, 0xBB]).toOption = none := by decide +kernel
      rw [decoded] at stops
      cases stops

/-- A file that can be decoded as a whole does not wait for the rest of a mark. Only UTF-16 in
either order needs one, if there is anything to read. -/
theorem fileDecoder_of_decoder {e : Text.Encoding} {bytes : List UInt8} {text : Snippet}
    (decoded : e.decoder bytes = .ok text)
    (marked : e = .utf16Marked → bytes = [] ∨ (marked? bytes).isSome = true) :
    e.fileDecoder bytes = .ok text := by
  cases e with
  | utf8Marked =>
      rw [fileDecoder]
      split
      · next waits => rw [eq_empty_of_waits waits.1 waits.2 decoded]
      · exact decoded
  | utf16Marked =>
      have allowed : (bytes.isEmpty || (marked? bytes).isSome) = true := by
        simpa [List.isEmpty_iff] using marked rfl
      show (decoder .utf16Marked bytes >>= fun text =>
        if bytes.isEmpty || (marked? bytes).isSome then .ok text
        else .error (.unforeseen .noMark) : Except Stop Snippet) = _
      rw [decoded, allowed]
      rfl
  | utf8 | utf16Little | utf16Big | ascii | latin1 => exact decoded

end Text.Encoding

/-! ## Reading -/

namespace Timeline

/-- A commit and a file of the same last name hold the same bytes, and these are not too many. -/
structure Paired (library : Library) (machine : Host) (git : Git) (settings : Settings)
    (path : String) (revision : Revision) (file : String) (bytes : List UInt8) : Prop where
  library_eq : machine.library = library
  name_eq : (Path.ofString path).name = (Path.ofString file).name
  committed : ∃ complaint, git (.content revision.sha path) = .done 0 bytes complaint
  stored : machine.lookup? (.ofString file) = .ok (some ⟨.file bytes, none⟩)
  fits : isLarger bytes.length settings.maxFileSize = .ok false

/-- The bytes of a commit and of a file are the same text, in memory and in a file; and there are no
carriage returns in it, unless it is a listing of tokens. -/
structure Twin (library : Library) (machine : Host) (git : Git) (settings : Settings)
    (path : String) (revision : Revision) (file : String) (bytes : List UInt8)
    (text : Snippet) : Prop
    extends Paired library machine git settings path revision file bytes where
  decoded : ∀ label, decodeContent library.codecs label settings.encoding bytes = .ok text
  decodedInFile : ∃ name decoder, encodingName? settings.encoding = .ok name ∧
    library.codecs.ofFile name = .ok decoder ∧ decoder bytes = .ok text
  plain : settings.dump.holds = true ∨ ∀ point ∈ text.points, Text.isReturn point = false

variable {host machine : Host} {library : Library} {git : Git} {settings : Settings}
  {repository path file : String} {revision : Revision} {bytes : List UInt8} {text : Snippet}

/-- A file that cannot be read ends its analysis. -/
theorem Paired.analyzeFile_of_unread
    (paired : Paired library machine git settings path revision file bytes) {problem : Problem}
    (unread : readBytes library.codecs (Path.ofString file).text settings.encoding none bytes =
      .error problem) :
    (analyzeFile machine settings (some file)).outcome = .error problem := by
  have stopped : (liftM (readSource machine (.ofString file) settings.encoding
      settings.maxFileSize) : Trace Snippet).outcome = .error problem := by
    show readSource machine (.ofString file) settings.encoding settings.maxFileSize = _
    rw [readSource_of_smaller paired.stored paired.fits, paired.library_eq, unread]
  have untaken : (fileTokens machine settings file).outcome = .error problem := by
    rw [fileTokens]
    split
    · rw [readDumpFile, Trace.bind_of_error stopped]
    · rw [tokenizeFile, Trace.bind_of_error stopped]
  rw [analyzeFile, Trace.bind_of_error untaken]

namespace Twin

variable (twin : Twin library machine git settings path revision file bytes text)
include twin

theorem source_read :
    (liftM (readSource machine (.ofString file) settings.encoding settings.maxFileSize) :
      Trace Snippet).outcome = .ok text.unifyBreaks := by
  obtain ⟨name, decoder, named, known, decoded⟩ := twin.decodedInFile
  show readSource machine (.ofString file) settings.encoding settings.maxFileSize = _
  rw [readSource_of_smaller twin.stored twin.fits, twin.library_eq, readBytes_of_named named, known]
  show (decoder bytes).mapError _ >>= _ = _
  rw [decoded]
  rfl

theorem content_eq :
    (content library git settings repository path revision).outcome = .ok text := by
  obtain ⟨complaint, answered⟩ := twin.committed
  exact content_eq_ok.2 ⟨bytes, complaint, answered, twin.decoded _⟩

/-! ## Tokens -/

omit twin in
theorem tokensIn_unifyBreaks (text : Snippet) :
    Dump.tokensIn text.unifyBreaks.points = Dump.tokensIn text.points := by
  rw [Dump.tokensIn, Dump.tokensIn, Snippet.unifyBreaks, Text.lines_unifyBreaks]

/-- The tokens are those of the file, or no tokens for the same reason. -/
theorem tokens_outcome :
    (contentTokens library settings path text).outcome =
      (fileTokens machine settings file).outcome := by
  rw [contentTokens, fileTokens]
  split
  · have read : (readDumpFile machine file settings.encoding settings.maxFileSize).outcome =
        .ok (Dump.tokensIn text.unifyBreaks.points) :=
      Trace.bind_eq_ok.2 ⟨_, twin.source_read, rfl⟩
    rw [read, tokensIn_unifyBreaks]
    rfl
  · next source =>
    -- A source is taken as it stands in the commit, so that it may have no carriage returns.
    have plain : text.unifyBreaks = text :=
      congrArg Snippet.mk (Text.unifyBreaks_eq_self (twin.plain.resolve_left source))
    rw [tokenizeFile, Trace.bind_of_ok twin.source_read, plain, twin.name_eq, twin.library_eq]

end Twin

/-! ## Metrics -/

/-- The metrics do not depend on what the input is called. -/
theorem analyzeTokens_record (policy : Policy) (source other : Option String)
    (tokens : List Token) :
    (analyzeTokens policy source tokens).outcome.map Run.record =
      (analyzeTokens policy other tokens).outcome.map Run.record := by
  have run (source : Option String) : (analyzeTokens policy source tokens).outcome =
      (Tally.ofTokens policy tokens).run source := analyze_outcome policy source tokens
  rw [run, run, Tally.run, Tally.run]
  cases (Counts.ofTally (Tally.ofTokens policy tokens)).derive <;> rfl

theorem Twin.record_eq (twin : Twin library machine git settings path revision file bytes text) :
    (analyzeRevision library git settings repository path revision).outcome.map Run.record =
      (analyzeFile machine settings (some file)).outcome.map Run.record := by
  rw [analyzeRevision, Trace.outcome_bind, twin.content_eq, bind_ok, Trace.outcome_bind,
    twin.tokens_outcome, analyzeFile, Trace.outcome_bind]
  cases (fileTokens machine settings file).outcome with
  | error problem => rfl
  | ok tokens => exact analyzeTokens_record settings.policy _ _ tokens

/-- All metrics, or the failure of the analysis. A fault is none of these. -/
def metricsOf (analysis : Trace Run) :
    Except Problem (Except Failure (List (Metric × Quantity))) :=
  analysis.attempt.outcome.map (Except.map Run.record)

/-- What a point says of its commit. -/
def metricsAt (point : Point) : Except Failure (List (Metric × Quantity)) :=
  point.outcome.map Run.record

theorem metricsOf_congr {analysis other : Trace Run}
    (same : analysis.outcome.map Run.record = other.outcome.map Run.record) :
    metricsOf analysis = metricsOf other := by
  have known (analysis : Trace Run) : metricsOf analysis =
      (Trace.ofOutcome (analysis.outcome.map Run.record)).attempt.outcome := by
    rw [metricsOf, Trace.attempt]
    rcases analysis.outcome with (failure | fault) | run <;> rfl
  rw [known, known, same]

theorem metricsOf_eq_failure {analysis : Trace Run} {failure : Failure} :
    metricsOf analysis = .ok (.error failure) ↔ analysis.outcome = .error (.reported failure) := by
  rw [metricsOf, Trace.attempt]
  rcases analysis.outcome with (other | fault) | run <;> simp [Except.map]

theorem metricsOf_eq_problem {analysis : Trace Run} {problem : Problem} :
    metricsOf analysis = .error problem ↔
      ∃ fault, problem = .escaped fault ∧ analysis.fault? = some fault := by
  rw [← Trace.attempt_eq_error, metricsOf]
  cases analysis.attempt.outcome <;> simp [Except.map]

/-- The point of a commit says what the analysis of its content comes to. -/
theorem pointOf_metrics (revision : Revision) :
    (pointOf library git settings repository path revision).outcome.map metricsAt =
      metricsOf (analyzeRevision library git settings repository path revision) := by
  rw [pointOf_eq_kept, Trace.kept, Trace.outcome_bind, metricsOf]
  cases (analyzeRevision library git settings repository path revision).attempt.outcome <;> rfl

theorem mapM_pointOf_metrics (revisions : List Revision) :
    (revisions.mapM (pointOf library git settings repository path)).outcome.map
      (List.map metricsAt) = revisions.mapM fun revision =>
        metricsOf (analyzeRevision library git settings repository path revision) := by
  rw [Trace.outcome_mapM]
  induction revisions with
  | nil => rfl
  | cons revision revisions ih =>
      rw [List.mapM_cons, List.mapM_cons, ← ih, ← pointOf_metrics]
      cases (pointOf library git settings repository path revision).outcome with
      | error problem => rfl
      | ok point =>
          cases revisions.mapM fun revision =>
              (pointOf library git settings repository path revision).outcome with
          | error problem => rfl
          | ok points => rfl

/-! ## Failures -/

theorem tokenize_eq_reported {lexers : Lexers} {code : Snippet} {fileName : Option String}
    {asked : Value} {failure : Failure}
    (failed : (tokenize lexers code fileName asked).outcome = .error (.reported failure)) :
    ∃ name reason lexer, failure = .parseFailure name reason lexer := by
  rw [tokenize, Trace.outcome_bind] at failed
  rcases bind_eq_error.1 failed with unknown | ⟨lexer, -, failed⟩
  · change lexers.choose code fileName asked = _ at unknown
    rw [Lexers.choose] at unknown
    rcases bind_eq_error.1 unknown with lost | ⟨name, -, unknown⟩
    · obtain ⟨fault, -, equal⟩ := liftFault_eq_error.1 lost
      cases equal
    · cases found : lexers.find code fileName name with
      | ok lexer =>
          rw [found] at unknown
          cases unknown
      | error stop =>
          rw [found] at unknown
          cases stop with
          | foreseen reason =>
              cases unknown
              exact ⟨_, _, _, rfl⟩
          | unforeseen fault => cases unknown
  · rw [Trace.outcome_log_bind] at failed
    split at failed
    · cases failed
    · cases failed
      exact ⟨_, _, _, rfl⟩

namespace Twin

variable (twin : Twin library machine git settings path revision file bytes text)
include twin

/-- The tokens of a file that can be read, or what its source cannot be taken apart for. -/
theorem fileTokens_cases :
    (settings.dump.holds = true ∧
      ∃ tokens, (fileTokens machine settings file).outcome = .ok tokens) ∨
    (settings.dump.holds = false ∧ (fileTokens machine settings file).outcome =
      (tokenize library.lexers text (some (Path.ofString file).name) settings.lexer).outcome) := by
  rw [← twin.tokens_outcome, contentTokens, twin.name_eq]
  split
  · next listing => exact .inl ⟨listing, _, rfl⟩
  · next source => exact .inr ⟨Bool.eq_false_iff.2 source, rfl⟩

/-- The analysis of a file that can be read fails when it cannot be taken apart into tokens, and
when its counts have no metrics. -/
theorem failure_kind {failure : Failure}
    (failed : (analyzeFile machine settings (some file)).outcome = .error (.reported failure)) :
    (∃ name reason lexer, failure = .parseFailure name reason lexer) ∨
      ∃ why counts, failure = .degenerate why counts := by
  rw [analyzeFile, Trace.outcome_bind] at failed
  rcases bind_eq_error.1 failed with untaken | ⟨tokens, -, underived⟩
  · rcases twin.fileTokens_cases with ⟨-, tokens, read⟩ | ⟨-, read⟩
    · cases read.symm.trans untaken
    · exact .inl (tokenize_eq_reported (read.symm.trans untaken))
  · obtain ⟨why, counts, equal, -⟩ :=
      Counts.derive_eq_reported (analyzeTokens_eq_error.1 underived)
    exact .inr ⟨why, counts, equal⟩

theorem fault?_fileTokens {fault : Fault} :
    (fileTokens machine settings file).fault? = some fault ↔ settings.dump.holds = false ∧
      ChoiceStops library.lexers text (some (Path.ofString file).name) settings.lexer fault := by
  rw [Trace.fault?_eq_some]
  rcases twin.fileTokens_cases with ⟨listing, tokens, read⟩ | ⟨source, read⟩
  · rw [read]
    constructor
    · intro stopped
      cases stopped
    · rintro ⟨source, -⟩
      cases listing.symm.trans source
  · rw [read, ← Trace.fault?_eq_some, fault?_tokenize]
    exact (and_iff_right source).symm

/-- All else that stops the analysis are a choice of a lexer that is stopped, and formulas which the
counts of the file are too much for. -/
theorem fault_origin {fault : Fault} :
    (analyzeFile machine settings (some file)).fault? = some fault ↔
      (settings.dump.holds = false ∧
        ChoiceStops library.lexers text (some (Path.ofString file).name) settings.lexer fault) ∨
      ∃ tokens, (fileTokens machine settings file).outcome = .ok tokens ∧
        (Counts.ofTokens settings.policy tokens).derive = .error (.escaped fault) := by
  rw [analyzeFile, Trace.fault?_bind, twin.fault?_fileTokens]
  simp only [Trace.fault?_eq_some, analyzeTokens_eq_error]

end Twin

/-! ## Timelines -/

/-- The metrics of a file, or the failure of its analysis. -/
def fileMetrics (machine : Host) (settings : Settings) (file : String) :
    Except Problem (Except Failure (List (Metric × Quantity))) :=
  metricsOf (analyzeFile machine settings (some file))

/-- Every commit has a file that holds what it holds. -/
def Twins (library : Library) (machine : Host) (git : Git) (settings : Settings) (path : String) :
    List Revision → List String → Prop :=
  List.Forall₂ fun revision file =>
    ∃ bytes text, Twin library machine git settings path revision file bytes text

theorem Twins.mapM_metrics {revisions : List Revision} {files : List String}
    (twins : Twins library machine git settings path revisions files) :
    (revisions.mapM (pointOf library git settings repository path)).outcome.map
      (List.map metricsAt) = files.mapM (fileMetrics machine settings) := by
  rw [mapM_pointOf_metrics]
  induction twins with
  | nil => rfl
  | cons first _ ih =>
      obtain ⟨bytes, text, twin⟩ := first
      rw [List.mapM_cons, List.mapM_cons, ih, metricsOf_congr twin.record_eq]
      rfl

/-- A commit is analysed as a file is that has the same last name and holds the same bytes, if these
are not too many and are the same text in memory and in a file: both have the same sixteen metrics,
or both analyses end with the same failure, or with the same fault. In the timeline of a file the
points of such commits say what the analyses of the files say, whatever the other points are. If
there are files for all commits, the timeline is stopped when the analyses of the files are. A
failure is always one of two: the source cannot be taken apart, or its counts have no metrics. A
fault is one of the formulas at counts too large for them, or one of the choice of a lexer. Bytes
that cannot be read as a file end the analysis of the file, whatever they are in memory. -/
theorem points_as_files {folder : Path} {limit : Value} :
    (∀ points, (Timeline.points host git settings folder file limit).outcome = .ok points →
      ∃ place path, host.resolve folder = .ok place ∧
        (relativePath host git (Path.absolute place).text file).outcome = .ok path ∧
        ∀ point ∈ points, ∀ copy bytes text,
          Twin host.library machine git settings path point.revision copy bytes text →
          fileMetrics machine settings copy = .ok (metricsAt point)) ∧
    (∀ place path revisions copies, host.resolve folder = .ok place →
      (relativePath host git (Path.absolute place).text file).outcome = .ok path →
      (Timeline.revisions host git (Path.absolute place).text file limit).outcome = .ok revisions →
      Twins host.library machine git settings path revisions copies →
      (Timeline.points host git settings folder file limit).outcome.map (List.map metricsAt) =
        copies.mapM (fileMetrics machine settings)) ∧
    (∀ path revision copy bytes text,
      Twin host.library machine git settings path revision copy bytes text →
      (∀ failure, fileMetrics machine settings copy = .ok (.error failure) →
        (∃ name reason lexer, failure = .parseFailure name reason lexer) ∨
          ∃ why counts, failure = .degenerate why counts) ∧
      ∀ problem, fileMetrics machine settings copy = .error problem →
        ∃ fault, problem = .escaped fault ∧
          ((settings.dump.holds = false ∧ ChoiceStops host.library.lexers text
            (some (Path.ofString copy).name) settings.lexer fault) ∨
          ∃ tokens, (fileTokens machine settings copy).outcome = .ok tokens ∧
            (Counts.ofTokens settings.policy tokens).derive = .error (.escaped fault))) ∧
    ∀ path revision copy bytes problem,
      Paired host.library machine git settings path revision copy bytes →
      readBytes host.library.codecs (Path.ofString copy).text settings.encoding none bytes =
        .error problem →
      (analyzeFile machine settings (some copy)).outcome = .error problem := by
  refine ⟨fun points ended => ?_, ?_, ?_, fun _ _ _ _ _ paired => paired.analyzeFile_of_unread⟩
  · obtain ⟨place, path, revisions, resolved, placed, -, analyzed, -⟩ := points_eq_ok ended
    obtain ⟨-, reached⟩ := mapM_pointOf_eq_ok.1 analyzed
    refine ⟨place, path, resolved, placed, fun point member copy bytes text twin => ?_⟩
    have same : (pointOf host.library git settings (Path.absolute place).text path
        point.revision).outcome.map metricsAt = fileMetrics machine settings copy :=
      (pointOf_metrics point.revision).trans (metricsOf_congr twin.record_eq)
    rw [← same, reached point member]
    rfl
  · intro place path revisions copies resolved placed read twins
    rw [points_of_revisions resolved placed read, twins.mapM_metrics]
  · intro path revision copy bytes text twin
    refine ⟨fun failure failed => twin.failure_kind (metricsOf_eq_failure.1 failed),
      fun problem stopped => ?_⟩
    obtain ⟨fault, equal, faulted⟩ := metricsOf_eq_problem.1 stopped
    exact ⟨fault, equal, twin.fault_origin.1 faulted⟩

/-- A machine with some bytes in a file, and no repository. -/
def copyMachine (bytes : List UInt8) : Host :=
  { emptyMachine with
    disk := .ofNodes [(["copy"], .folder), (["copy", "main.pl"], .file bytes)]
    current := [] }

/-- Git knows one commit, in which every file has some bytes. -/
def copyCommit (bytes : List UInt8) : Git
  | .root => .done 0 "/repository\n".toUTF8.toList []
  | .log .. => .done 0 (logLine firstCommit).toUTF8.toList []
  | .content .. => .done 0 bytes []

/-- The bytes are in a commit and in a file. -/
theorem paired_copy {bytes : List UInt8}
    (fits : isLarger bytes.length settings.maxFileSize = .ok false) :
    Paired emptyMachine.library (copyMachine bytes) (copyCommit bytes) settings "lib/main.pl"
      firstCommit "copy/main.pl" bytes where
  library_eq := rfl
  name_eq := by decide +kernel
  committed := ⟨[], rfl⟩
  stored := by
    have found : (copyMachine bytes).disk.find (copyMachine bytes).current
        (.ofString "copy/main.pl") = .ok (["copy", "main.pl"], .file bytes) := by
      rw [Disk.find, if_neg (by decide), if_neg (by decide), if_neg (by decide)]
      rfl
    rw [Host.lookup?, found]
    rfl
  fits := fits

/-- A listing of two tokens, with two kinds of line ends. -/
def listing : List Char := "PPI::Token::Operator \t=\r\nPPI::Token::Symbol \t$x\r".toList

/-- The point of a commit that holds a listing says what the file of the same listing says. -/
theorem points_as_files_listing :
    let settings := { Settings.standard with dump := .bool true }
    let bytes := (String.ofList listing).toUTF8.toList
    '\r' ∈ listing ∧ (Dump.tokens (String.ofList listing)).length = 2 ∧
    (Timeline.points emptyMachine (copyCommit bytes) settings (.ofString "") "lib/main.pl"
      (.int 100)).outcome.map (List.map metricsAt) =
        ["copy/main.pl"].mapM (fileMetrics (copyMachine bytes) settings) := by
  intro settings bytes
  have named : encodingName? settings.encoding = .ok "utf-8" := by decide +kernel
  have known : Text.Encoding.ofName? "utf-8" = some .utf8 := by decide +kernel
  have decodes : settings.DecodesBy emptyMachine.library.codecs Text.Encoding.utf8.decoder :=
    ⟨"utf-8", rfl, Codecs.named_standIn known⟩
  have decoded : Text.Encoding.utf8.decoder bytes = .ok (.ofChars listing) :=
    toOption_eq_some.1 (by decide +kernel)
  have twin : Twin emptyMachine.library (copyMachine bytes) (copyCommit bytes) settings
      "lib/main.pl" firstCommit "copy/main.pl" bytes (.ofChars listing) := {
    toPaired := paired_copy (by decide +kernel)
    decoded := fun label => by
      rw [decodeContent_of_decodesBy decodes, if_neg (by decide +kernel), decoded]
      rfl
    decodedInFile := ⟨"utf-8", _, named, Codecs.forFile_standIn known,
      Text.Encoding.fileDecoder_of_decoder decoded nofun⟩
    plain := .inl rfl }
  refine ⟨by decide +kernel, by decide +kernel, ?_⟩
  exact points_as_files.2.1 ["repository"] "lib/main.pl" [firstCommit] _ rfl
    (toOption_eq_some.1 (by decide +kernel)) (toOption_eq_some.1 (by decide +kernel))
    (.cons ⟨_, _, twin⟩ .nil)

/-- A text in UTF-16, without a byte order mark. -/
def unmarked : List UInt8 := "Operator +\n".toUTF8.toList.flatMap fun byte => [byte, 0]

/-- The bytes of a commit and of a file are read as a text without carriage returns in memory. In
the timeline the commit has one operator and no operands; but the file has no mark, and what comes
of this goes out as a fault. -/
theorem points_unlike_files :
    let settings := { Settings.standard with encoding := .text "utf-16" }
    Paired emptyMachine.library (copyMachine unmarked) (copyCommit unmarked) settings "lib/main.pl"
      firstCommit "copy/main.pl" unmarked ∧
    (∀ label, decodeContent emptyMachine.library.codecs label settings.encoding unmarked =
      .ok (.ofString "Operator +\n")) ∧
    (Timeline.points emptyMachine (copyCommit unmarked) settings (.ofString "") "lib/main.pl"
      (.int 100)).outcome.map (List.map metricsAt) = .ok [.error (.degenerate .noOperands
        [("n1", .int 1), ("n2", .int 0), ("N1", .int 1), ("N2", .int 0)])] ∧
    (analyzeFile (copyMachine unmarked) settings (some "copy/main.pl")).outcome =
      .error (.escaped .noMark) := by
  intro settings
  have known : Text.Encoding.ofName? "utf-16" = some .utf16Marked := by decide +kernel
  have decodes : settings.DecodesBy emptyMachine.library.codecs
      Text.Encoding.utf16Marked.decoder := ⟨"utf-16", rfl, Codecs.named_standIn known⟩
  have inMemory : Text.Encoding.utf16Marked.decoder unmarked = .ok (.ofString "Operator +\n") :=
    toOption_eq_some.1 (by decide +kernel)
  -- Without a mark bytes in memory are read in the order of the machine, and a file is not read.
  have inFile : Text.Encoding.utf16Marked.fileDecoder unmarked = .error (.unforeseen .noMark) := by
    have unmarked : (unmarked.isEmpty || (Text.marked? unmarked).isSome) = false := by
      decide +kernel
    rw [Text.Encoding.fileDecoder, inMemory, bind_ok, unmarked]
    rfl
  have decoded (label : String) : decodeContent emptyMachine.library.codecs label settings.encoding
      unmarked = .ok (.ofString "Operator +\n") := by
    rw [decodeContent_of_decodesBy decodes, if_neg (by decide +kernel), inMemory]
    rfl
  have paired : Paired emptyMachine.library (copyMachine unmarked) (copyCommit unmarked) settings
      "lib/main.pl" firstCommit "copy/main.pl" unmarked := paired_copy (by decide +kernel)
  have analyzed : metricsOf (analyzeRevision emptyMachine.library (copyCommit unmarked) settings
      (Path.absolute ["repository"]).text "lib/main.pl" firstCommit) = .ok (.error (.degenerate
        .noOperands [("n1", .int 1), ("n2", .int 0), ("N1", .int 1), ("N2", .int 0)])) := by
    have read : (content emptyMachine.library (copyCommit unmarked) settings
        (Path.absolute ["repository"]).text "lib/main.pl" firstCommit).outcome =
          .ok (.ofString "Operator +\n") := content_eq_ok.2 ⟨_, _, rfl, decoded _⟩
    have taken : (contentTokens emptyMachine.library settings "lib/main.pl"
        (.ofString "Operator +\n")).outcome = .ok [⟨.operator, .ofString "+"⟩] :=
      toOption_eq_some.1 (by decide +kernel)
    rw [metricsOf_eq_failure, analyzeRevision, Trace.bind_of_ok read, Trace.bind_of_ok taken]
    rfl
  refine ⟨paired, decoded, ?_, paired.analyzeFile_of_unread ?_⟩
  · have placed : (relativePath emptyMachine (copyCommit unmarked)
        (Path.absolute ["repository"]).text "lib/main.pl").outcome = .ok "lib/main.pl" :=
      toOption_eq_some.1 (by decide +kernel)
    have listed : (Timeline.revisions emptyMachine (copyCommit unmarked)
        (Path.absolute ["repository"]).text "lib/main.pl" (.int 100)).outcome =
          .ok [firstCommit] := toOption_eq_some.1 (by decide +kernel)
    rw [points_of_revisions rfl placed listed, mapM_pointOf_metrics, List.mapM_cons, analyzed]
    rfl
  · have named : encodingName? settings.encoding = .ok "utf-16" := by decide +kernel
    have found : emptyMachine.library.codecs.ofFile "utf-16" =
        .ok Text.Encoding.utf16Marked.fileDecoder := Codecs.forFile_standIn known
    rw [readBytes_of_named named, found]
    show (Text.Encoding.utf16Marked.fileDecoder unmarked).mapError _ >>= _ = _
    rw [inFile]
    rfl

end Timeline

end CodeMetrics
