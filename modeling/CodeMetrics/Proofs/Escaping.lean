import CodeMetrics.Proofs.Batch
import CodeMetrics.Proofs.Deriving
import CodeMetrics.Proofs.Product

/-!
# What gets out of a batch

A failure is recorded in its entry, but not all that can go wrong with a file is a failure. A file
stops the whole batch when it cannot be told what is there, when it is larger than a limit that
cannot be written into the report, when the encoding does not exist, and when the codecs or the
lexers stop in a way nobody is prepared for. Workers that cannot be announced, or never begin, stop
a batch before any file does. Settings are accepted all the same.

The formulas stop no file of fewer than a million tokens by their own arithmetic. They take powers,
which are computed outside; what is relied on of these is `PowersHold`.

Results:
1. `readBytes_eq_escaped`, `readSource_eq_escaped`: what stops the reading of a file.
2. `choose_eq_escaped`, `fault?_fileTokens`: what stops the search for a lexer, and the tokens.
3. `Counts.derive_ofTokens_eq_escaped`, `PowersHold.noStop`: what stops the formulas on few tokens.
4. `fault?_analyzeFile`: what stops the analysis of a file.
5. `analyzeFiles_returns_iff`: when a batch has its entries.
6. `analyzeFiles_not_returned`: an encoding that is accepted and stops a batch.
-/

namespace CodeMetrics

variable {host : Host} {settings : Settings}

/-! ## Reading -/

/-- Accepted settings limit the size of files by a number. -/
theorem isNumber_maxFileSize {layer : Settings.Layer}
    (accepted : Settings.ofLayer layer = .ok settings) :
    Settings.isNumber settings.maxFileSize = true := by
  rw [Settings.ofLayer] at accepted
  split at accepted
  · cases accepted
  obtain ⟨_, _, accepted⟩ := bind_eq_ok.1 accepted
  obtain ⟨_, _, accepted⟩ := bind_eq_ok.1 accepted
  obtain ⟨_, _, accepted⟩ := bind_eq_ok.1 accepted
  obtain ⟨limit, checked, accepted⟩ := bind_eq_ok.1 accepted
  obtain ⟨_, _, accepted⟩ := bind_eq_ok.1 accepted
  obtain ⟨_, _, accepted⟩ := bind_eq_ok.1 accepted
  obtain ⟨_, _, accepted⟩ := bind_eq_ok.1 accepted
  obtain ⟨_, _, accepted⟩ := bind_eq_ok.1 accepted
  cases accepted
  rw [Settings.checkMaxFileSize] at checked
  split_ifs at checked with noNumber
  cases checked
  simpa using noNumber

theorem isLarger_of_isNumber {limit : Value} (number : Settings.isNumber limit = true)
    (size : Nat) : ∃ larger, isLarger size limit = .ok larger := by
  cases limit <;> first | exact ⟨_, rfl⟩ | cases number

/-- What stops the decoding of a file, other than a report that it cannot be read. -/
inductive DecodingStops (codecs : Codecs) (encoding : Value) (refusal : Option SystemError)
    (bytes : List UInt8) : Fault → Prop
  /-- What names the encoding cannot be a name. -/
  | name {fault : Fault} : encodingName? encoding = .error fault →
      DecodingStops codecs encoding refusal bytes fault
  /-- The encoding does not exist. -/
  | codec {name : Option String} {fault : Fault} : encodingName? encoding = .ok name →
      refusal = none → codecs.ofFile name = .error fault →
      DecodingStops codecs encoding refusal bytes fault
  /-- The bytes stop the decoder in a way nobody is prepared for. -/
  | decoder {name : Option String} {decoder : Decoder} {fault : Fault} :
      encodingName? encoding = .ok name → refusal = none → codecs.ofFile name = .ok decoder →
      decoder bytes = .error (.unforeseen fault) →
      DecodingStops codecs encoding refusal bytes fault

section

variable {codecs : Codecs} {label : String} {encoding limit : Value}
  {refusal : Option SystemError} {bytes : List UInt8} {path : Path} {fault : Fault}

/-- A file that can be opened is decoded. -/
theorem readBytes_of_named {name : Option String} (named : encodingName? encoding = .ok name) :
    readBytes codecs label encoding none bytes =
      liftM (codecs.ofFile name) >>= fun decoder =>
        (decoder bytes).mapError (undecodable label encoding) >>= fun text =>
          .ok text.unifyBreaks := by
  rw [readBytes, named]
  rfl

/-- A file that can be opened stops the reading with its decoder, or for lack of one. -/
theorem readBytes_eq_escaped_of_named {name : Option String}
    (named : encodingName? encoding = .ok name) :
    readBytes codecs label encoding none bytes = .error (.escaped fault) ↔
      codecs.ofFile name = .error fault ∨
        ∃ decoder, codecs.ofFile name = .ok decoder ∧
          decoder bytes = .error (.unforeseen fault) := by
  rw [readBytes_of_named named]
  constructor
  · intro stopped
    rcases bind_eq_error.1 stopped with unknown | ⟨decoder, known, stopped⟩
    · obtain ⟨other, missing, equal⟩ := liftFault_eq_error.1 unknown
      cases equal
      exact .inl missing
    · rcases bind_eq_error.1 stopped with torn | ⟨text, -, returned⟩
      · exact .inr ⟨decoder, liftFault_eq_ok.1 known, mapError_problem_eq_escaped.1 torn⟩
      · cases returned
  · rintro (missing | ⟨decoder, known, torn⟩)
    · exact bind_eq_error.2 (.inl (liftFault_eq_error.2 ⟨fault, missing, rfl⟩))
    · refine bind_eq_error.2 (.inr ⟨decoder, liftFault_eq_ok.2 known, ?_⟩)
      exact bind_eq_error.2 (.inl (mapError_problem_eq_escaped.2 torn))

theorem readBytes_eq_escaped :
    readBytes codecs label encoding refusal bytes = .error (.escaped fault) ↔
      DecodingStops codecs encoding refusal bytes fault := by
  constructor
  · intro stopped
    cases named : encodingName? encoding with
    | error other =>
        rw [readBytes, named] at stopped
        cases stopped
        exact .name named
    | ok name =>
        cases refusal with
        | some error =>
            rw [readBytes, named] at stopped
            cases stopped
        | none =>
            rcases (readBytes_eq_escaped_of_named named).1 stopped with
              missing | ⟨decoder, known, torn⟩
            · exact .codec named rfl missing
            · exact .decoder named rfl known torn
  · intro stops
    cases stops with
    | name misnamed =>
        rw [readBytes, misnamed]
        rfl
    | codec named opened missing =>
        subst opened
        exact (readBytes_eq_escaped_of_named named).2 (.inl missing)
    | decoder named opened known torn =>
        subst opened
        exact (readBytes_eq_escaped_of_named named).2 (.inr ⟨_, known, torn⟩)

/-- What stops the reading of a file, other than a report that it cannot be read. -/
inductive ReadingStops (host : Host) (path : Path) (encoding limit : Value) : Fault → Prop
  /-- It cannot be told what is there: a name is too long, or a folder must not be entered. -/
  | lookup {fault : Fault} : host.lookup? path = .error fault →
      ReadingStops host path encoding limit fault
  /-- The report that the file is too large would hold a limit that cannot be written. -/
  | limit {bytes : List UInt8} {refusal : Option SystemError} :
      host.lookup? path = .ok (some ⟨.file bytes, refusal⟩) →
      isLarger bytes.length limit = .ok true → limit.tooLong = true →
      ReadingStops host path encoding limit .tooLongToWrite
  | decoding {bytes : List UInt8} {refusal : Option SystemError} {fault : Fault} :
      host.lookup? path = .ok (some ⟨.file bytes, refusal⟩) →
      isLarger bytes.length limit = .ok false →
      DecodingStops host.library.codecs encoding refusal bytes fault →
      ReadingStops host path encoding limit fault

/-- What is no file is reported. -/
theorem readSource_of_noFile {found : Option Found} (looked : host.lookup? path = .ok found)
    (noFile : ∀ bytes refusal, found ≠ some ⟨.file bytes, refusal⟩) (encoding limit : Value) :
    ∃ failure, readSource host path encoding limit = .error (.reported failure) := by
  rw [readSource, looked]
  cases found with
  | none => exact ⟨_, rfl⟩
  | some found =>
      obtain ⟨node, refusal⟩ := found
      cases node with
      | file bytes => exact absurd rfl (noFile bytes refusal)
      | folder | device | link => exact ⟨_, rfl⟩

theorem readSource_of_larger (found : host.lookup? path = .ok (some ⟨.file bytes, refusal⟩))
    (larger : isLarger bytes.length limit = .ok true) :
    readSource host path encoding limit =
      if limit.tooLong then .error (.escaped .tooLongToWrite)
      else .error (.reported (.sourceUnavailable (.text path.text)
        (.tooLarge bytes.length limit.shown))) := by
  rw [readSource, found]
  show (liftM (isLarger bytes.length limit) >>= _ : Except Problem Snippet) = _
  rw [larger]
  cases limit.tooLong <;> rfl

/-- A file that is not too large is decoded. -/
theorem readSource_of_smaller (found : host.lookup? path = .ok (some ⟨.file bytes, refusal⟩))
    (smaller : isLarger bytes.length limit = .ok false) :
    readSource host path encoding limit =
      readBytes host.library.codecs path.text encoding refusal bytes := by
  rw [readSource, found]
  show (liftM (isLarger bytes.length limit) >>= _ : Except Problem Snippet) = _
  rw [smaller]
  rfl

theorem readSource_eq_escaped (number : Settings.isNumber limit = true) :
    readSource host path encoding limit = .error (.escaped fault) ↔
      ReadingStops host path encoding limit fault := by
  constructor
  · intro stopped
    cases looked : host.lookup? path with
    | error lost =>
        rw [readSource, looked] at stopped
        cases stopped
        exact .lookup looked
    | ok found =>
        -- What is no file is always reported, so that only a file can stop the reading.
        by_cases file : ∃ bytes refusal, found = some ⟨.file bytes, refusal⟩
        · obtain ⟨bytes, refusal, rfl⟩ := file
          obtain ⟨larger, compared⟩ := isLarger_of_isNumber number bytes.length
          cases larger with
          | true =>
              rw [readSource_of_larger looked compared] at stopped
              split_ifs at stopped with long
              · cases stopped
                exact .limit looked compared long
              · cases stopped
          | false =>
              rw [readSource_of_smaller looked compared] at stopped
              exact .decoding looked compared (readBytes_eq_escaped.1 stopped)
        · push Not at file
          obtain ⟨failure, reported⟩ := readSource_of_noFile looked file encoding limit
          cases reported.symm.trans stopped
  · intro stops
    cases stops with
    | lookup lost =>
        rw [readSource, lost]
        rfl
    | limit found larger long => rw [readSource_of_larger found larger, if_pos long]
    | decoding found smaller stops =>
        rw [readSource_of_smaller found smaller]
        exact readBytes_eq_escaped.2 stops

end

/-! ## Analysing -/

/-- The lexer is asked for by its name, if it is asked for at all. -/
def Settings.NamesLexer (settings : Settings) : Prop :=
  settings.lexer = .null ∨ ∃ name, settings.lexer = .ofWording name

/-- What stops the choice of a lexer, other than a report that there is none. -/
inductive ChoiceStops (lexers : Lexers) (code : Snippet) (fileName : Option String)
    (asked : Value) : Fault → Prop
  /-- What is asked for is no name. -/
  | name {fault : Fault} : Lexers.asked? asked = .error fault →
      ChoiceStops lexers code fileName asked fault
  /-- The lexers are searched, and the search is stopped in a way nobody is prepared for. -/
  | search {name : Option Wording} {fault : Fault} : Lexers.asked? asked = .ok name →
      lexers.find code fileName name = .error (.unforeseen fault) →
      ChoiceStops lexers code fileName asked fault

section

variable {lexers : Lexers} {code : Snippet} {fileName : Option String} {asked : Value}
  {fault : Fault}

theorem choose_eq_escaped :
    lexers.choose code fileName asked = .error (.escaped fault) ↔
      ChoiceStops lexers code fileName asked fault := by
  rw [Lexers.choose, bind_eq_error]
  constructor
  · rintro (misnamed | ⟨name, named, stopped⟩)
    · obtain ⟨other, misnamed, equal⟩ := liftFault_eq_error.1 misnamed
      cases equal
      exact .name misnamed
    · exact .search (liftFault_eq_ok.1 named) (mapError_problem_eq_escaped.1 stopped)
  · intro stops
    cases stops with
    | name misnamed => exact .inl (liftFault_eq_error.2 ⟨fault, misnamed, rfl⟩)
    | search named stopped =>
        exact .inr ⟨_, liftFault_eq_ok.2 named, mapError_problem_eq_escaped.2 stopped⟩

/-- Nothing but the choice of the lexer stops the cutting of a source. -/
theorem fault?_tokenize :
    (tokenize lexers code fileName asked).fault? = some fault ↔
      ChoiceStops lexers code fileName asked fault := by
  rw [tokenize, Trace.fault?_bind_of_none, Trace.fault?_lift, choose_eq_escaped]
  intro lexer
  refine Trace.fault?_bind_of_none fun _ => ?_
  cases lexer.lexemes code <;> rfl

end

/-- The search for a lexer is stopped, for a file that is read as a source. -/
structure SearchStops (host : Host) (settings : Settings) (name : String) (fault : Fault) :
    Prop where
  source : settings.dump.holds = false
  stops : ∃ code, readSource host (.ofString name) settings.encoding settings.maxFileSize =
      .ok code ∧
    ∃ asked, Lexers.asked? settings.lexer = .ok asked ∧
      host.library.lexers.find code (some (Path.ofString name).name) asked =
        .error (.unforeseen fault)

/-- A lexer that is named is asked for by its name. -/
theorem asked?_of_named (named : settings.NamesLexer) :
    ∃ asked, Lexers.asked? settings.lexer = .ok asked := by
  rcases named with unasked | ⟨name, asked⟩
  · exact ⟨none, by rw [unasked]; rfl⟩
  · rw [asked]
    cases name with
    | whole text =>
        by_cases empty : text.isEmpty = true
        · exact ⟨none, if_pos (by simp [Value.ofWording, Value.holds, empty])⟩
        · exact ⟨some (.whole text), if_neg (by simp [Value.ofWording, Value.holds, empty])⟩
    | torn text => exact ⟨some (.torn text), rfl⟩

theorem fault?_fileTokens {name : String} {fault : Fault}
    (number : Settings.isNumber settings.maxFileSize = true) (named : settings.NamesLexer) :
    (fileTokens host settings name).fault? = some fault ↔
      ReadingStops host (.ofString name) settings.encoding settings.maxFileSize fault ∨
        SearchStops host settings name fault := by
  rw [← readSource_eq_escaped number, fileTokens]
  split
  · next dump =>
    rw [readDumpFile, Trace.fault?_bind_of_none fun _ => rfl, Trace.fault?_lift]
    refine (or_iff_left fun stops => ?_).symm
    exact Bool.false_ne_true (stops.source.symm.trans dump)
  · next source =>
    rw [tokenizeFile, Trace.fault?_bind, Trace.fault?_lift]
    refine or_congr_right ⟨?_, ?_⟩
    · rintro ⟨code, read, stopped⟩
      cases fault?_tokenize.1 stopped with
      | name misnamed =>
          obtain ⟨asked, known⟩ := asked?_of_named named
          cases known.symm.trans misnamed
      | search asked stopped =>
          exact ⟨Bool.eq_false_iff.2 source, code, read, _, asked, stopped⟩
    · rintro ⟨-, code, read, asked, known, stopped⟩
      exact ⟨code, read, fault?_tokenize.2 (.search known stopped)⟩

/-- The counts of a stream. -/
def Counts.ofTokens (policy : Policy) (tokens : List Token) : Counts :=
  .ofTally (Tally.ofTokens policy tokens)

/-- No count of a stream is larger than its length. -/
theorem Counts.natAbs_get_ofTokens_le (policy : Policy) (tokens : List Token) (c : Count) :
    ((ofTokens policy tokens).get c).natAbs ≤ tokens.length := by
  have distinct (role : Role) : (textsOf policy role tokens).toFinset.card ≤ tokens.length :=
    (List.toFinset_card_le _).trans (length_textsOf_le policy role tokens)
  obtain ⟨operators, operands, distinctOperators, distinctOperands⟩ := get_ofTokens policy tokens
  cases c with
  | operators => exact operators.le.trans (length_textsOf_le policy _ tokens)
  | operands => exact operands.le.trans (length_textsOf_le policy _ tokens)
  | distinctOperators => exact distinctOperators.le.trans (distinct _)
  | distinctOperands => exact distinctOperands.le.trans (distinct _)

/-- The powers that the late formulas take, and where one of them stops these. -/
inductive PowerStops (difficulty volume : Float) : Fault → Prop
  /-- The square of the difficulty is infinite. -/
  | square {fault : Fault} : realPower difficulty 2.0 = .error fault →
      PowerStops difficulty volume fault
  /-- The square of the difficulty is zero, and something is divided by it. -/
  | vanished {square : Float} : realPower difficulty 2.0 = .ok square → (square == 0.0) = true →
      PowerStops difficulty volume .divisionByZero
  /-- The root of the squared effort is infinite. -/
  | effort {square : Float} {fault : Fault} : realPower difficulty 2.0 = .ok square →
      (square == 0.0) = false → realPower (difficulty * volume) (2.0 / 3.0) = .error fault →
      PowerStops difficulty volume fault

/-- Of a difficulty that is not zero itself only the powers can stop the late formulas. -/
theorem lateFault?_eq_some {difficulty volume : Float} (nonzero : (difficulty == 0.0) = false)
    {fault : Fault} :
    lateFault? difficulty volume = some fault ↔ PowerStops difficulty volume fault := by
  rw [lateFault?, nonzero]
  constructor
  · intro stopped
    -- The powers are taken in this order: the second only if the first can be divided by.
    cases squared : realPower difficulty 2.0 with
    | error other =>
        rw [squared] at stopped
        cases stopped
        exact .square squared
    | ok square =>
        rw [squared] at stopped
        cases zero : square == 0.0 with
        | true =>
            simp only [zero] at stopped
            cases stopped
            exact .vanished squared zero
        | false =>
            simp only [zero] at stopped
            cases powered : realPower (difficulty * volume) (2.0 / 3.0) with
            | error other =>
                rw [powered] at stopped
                cases stopped
                exact .effort squared zero powered
            | ok power =>
                rw [powered] at stopped
                cases stopped
  · intro stops
    cases stops with
    | square endless => simp [endless]
    | vanished found zero => simp [found, zero]
    | effort found nonzero endless => simp [found, nonzero, endless]

/-- What is relied on of powers, which are computed outside: the square of a double near one is
neither infinite nor zero, and no finite double has an infinite power to two thirds. -/
structure PowersHold : Prop where
  square_finite : ∀ x, Number.Moderate x → (x.pow 2.0).isInf = false
  square_nonzero : ∀ x, Number.Moderate x → (x.pow 2.0 == 0.0) = false
  root_finite : ∀ x : Float, x.isFinite = true → (x.pow (2.0 / 3.0)).isInf = false

/-- Such powers stop nothing. -/
theorem PowersHold.noStop (powers : PowersHold) {difficulty volume : Float}
    (moderate : Number.Moderate difficulty) (fault : Fault) :
    ¬ PowerStops difficulty volume fault := by
  have square : realPower difficulty 2.0 = .ok (difficulty.pow 2.0) := by
    rw [realPower, powers.square_finite difficulty moderate]
    rfl
  have root (x : Float) : realPower x (2.0 / 3.0) = .ok (x.pow (2.0 / 3.0)) := by
    rw [realPower]
    cases finite : x.isFinite with
    | true =>
        rw [powers.root_finite x finite]
        rfl
    | false =>
        rw [Bool.and_false]
        rfl
  intro stops
  cases stops with
  | square endless => cases square.symm.trans endless
  | vanished found zero =>
      cases square.symm.trans found
      exact absurd zero (Bool.eq_false_iff.1 (powers.square_nonzero difficulty moderate))
  | effort _ _ endless => cases (root _).symm.trans endless

namespace Counts

variable {policy : Policy} {tokens : List Token}

theorem small_of_few (policy : Policy) (few : tokens.length < 1000000) (c : Count) :
    ((ofTokens policy tokens).get c).natAbs < 1000000 :=
  (natAbs_get_ofTokens_le policy tokens c).trans_lt few

/-- The difficulty of fewer than a million tokens is near one. -/
theorem moderate_difficulty (few : tokens.length < 1000000)
    (accepted : (ofTokens policy tokens).degeneracy? = none) :
    Number.Moderate (ofTokens policy tokens).difficulty := by
  have positive := forall_count.1 (degeneracy?_eq_none.1 accepted)
  have small := forall_count.1 (small_of_few policy few)
  simp only [get] at positive small
  exact Number.moderate_nearest_mul_nearest (by omega) (by omega)

/-- The counts of fewer than a million tokens are within all limits, but for the powers. -/
theorem derive_ofTokens_eq_escaped (few : tokens.length < 1000000) {fault : Fault} :
    (ofTokens policy tokens).derive = .error (.escaped fault) ↔
      (ofTokens policy tokens).degeneracy? = none ∧
        PowerStops (ofTokens policy tokens).difficulty (ofTokens policy tokens).volume fault := by
  have small := small_of_few policy few
  have fit : (ofTokens policy tokens).Fit := by
    have large : 2000000 < Number.firstBeyond := by decide +kernel
    have sums := forall_count.1 small
    simp only [get] at sums
    rw [Fit]
    omega
  have written : ¬ ∃ c, 10 ^ Number.digitLimit ≤ ((ofTokens policy tokens).get c).natAbs := by
    rintro ⟨c, long⟩
    have digits : 6 ≤ Number.digitLimit := by decide
    have power := (Nat.pow_le_pow_right (by decide : 0 < 10) digits).trans long
    exact absurd (small c) (Nat.not_lt.2 power)
  simp only [derive_eq_escaped, fault?, if_pos fit, written, false_and, and_false, false_or]
  refine and_congr_right fun accepted => lateFault?_eq_some ?_
  obtain ⟨low, high⟩ := moderate_difficulty few accepted
  exact Number.nonzero_of_field (by omega) (by omega)

end Counts

/-- Nothing but deriving stops the analysis of a stream. -/
theorem analyzeTokens_eq_error {policy : Policy} {tokens : List Token} {source : Option String}
    {problem : Problem} :
    (analyzeTokens policy source tokens).outcome = .error problem ↔
      (Counts.ofTokens policy tokens).derive = .error problem := by
  have outcome_eq : (analyzeTokens policy source tokens).outcome =
      (Tally.ofTokens policy tokens).run source := analyze_outcome policy source tokens
  rw [outcome_eq, Tally.run, bind_eq_error]
  exact or_iff_left fun ⟨measures, _, returned⟩ => nomatch returned

/-- Only powers can stop the analysis of fewer than a million tokens. -/
theorem fault?_analyzeTokens {policy : Policy} {tokens : List Token}
    (few : tokens.length < 1000000) (source : Option String) {fault : Fault} :
    (analyzeTokens policy source tokens).fault? = some fault ↔
      (Counts.ofTokens policy tokens).degeneracy? = none ∧
        PowerStops (Counts.ofTokens policy tokens).difficulty
          (Counts.ofTokens policy tokens).volume fault := by
  rw [Trace.fault?_eq_some, analyzeTokens_eq_error, Counts.derive_ofTokens_eq_escaped few]

/-! ## Batches -/

/-- What stops the analysis of a file, other than a failure. -/
inductive Host.StopsAt (host : Host) (settings : Settings) (name : String) : Fault → Prop
  /-- The file cannot be read, and this cannot be reported. -/
  | reading {fault : Fault} :
      ReadingStops host (.ofString name) settings.encoding settings.maxFileSize fault →
      StopsAt host settings name fault
  /-- The search for its lexer is stopped. -/
  | search {fault : Fault} : SearchStops host settings name fault → StopsAt host settings name fault
  /-- A power in the formulas is infinite, or zero where something is divided by it. -/
  | powers {tokens : List Token} {fault : Fault} :
      (fileTokens host settings name).outcome = .ok tokens →
      (Counts.ofTokens settings.policy tokens).degeneracy? = none →
      PowerStops (Counts.ofTokens settings.policy tokens).difficulty
        (Counts.ofTokens settings.policy tokens).volume fault →
      StopsAt host settings name fault

theorem fault?_analyzeFile {name : String} {fault : Fault}
    (number : Settings.isNumber settings.maxFileSize = true) (named : settings.NamesLexer)
    (few : ∀ tokens, (fileTokens host settings name).outcome = .ok tokens →
      tokens.length < 1000000) :
    (analyzeFile host settings (some name)).fault? = some fault ↔
      host.StopsAt settings name fault := by
  rw [analyzeFile, Trace.fault?_bind, fault?_fileTokens number named]
  constructor
  · rintro ((stopped | stopped) | ⟨tokens, read, stopped⟩)
    · exact .reading stopped
    · exact .search stopped
    · obtain ⟨accepted, late⟩ := (fault?_analyzeTokens (few tokens read) _).1 stopped
      exact .powers read accepted late
  · rintro (stopped | stopped | ⟨read, accepted, late⟩)
    · exact .inl (.inl stopped)
    · exact .inl (.inr stopped)
    · exact .inr ⟨_, read, (fault?_analyzeTokens (few _ read) _).2 ⟨accepted, late⟩⟩

/-- Where the powers hold, a file is stopped before its counts are known or not at all. -/
theorem Host.stopsAt_iff (powers : PowersHold) {name : String} {fault : Fault}
    (few : ∀ tokens, (fileTokens host settings name).outcome = .ok tokens →
      tokens.length < 1000000) :
    host.StopsAt settings name fault ↔
      ReadingStops host (.ofString name) settings.encoding settings.maxFileSize fault ∨
        SearchStops host settings name fault := by
  constructor
  · rintro (stopped | stopped | ⟨read, accepted, late⟩)
    · exact .inl stopped
    · exact .inr stopped
    · exact absurd late (powers.noStop (Counts.moderate_difficulty (few _ read) accepted) fault)
  · rintro (stopped | stopped)
    · exact .reading stopped
    · exact .search stopped

/-- A batch with accepted settings has an entry for each of its files when the workers can be
announced and begin, and nothing else than failures stops the analysis of a file. Otherwise it has
none. What stops a file stops its reading or the search for its lexer: with powers as relied on,
the formulas have a value on the counts of every stream of fewer than a million tokens. -/
theorem analyzeFiles_returns_iff {layer : Settings.Layer} {files : List (Option String)}
    (accepted : Settings.ofLayer layer = .ok settings) (named : settings.NamesLexer)
    (apart : host.LogsApart files)
    (few : ∀ name, some name ∈ files → ∀ tokens,
      (fileTokens host settings name).outcome = .ok tokens → tokens.length < 1000000)
    (schedule : List Nat) :
    let returns := ∃ entries, (analyzeFiles host settings files schedule).outcome = .ok entries ∧
      List.Forall₂ (Entry.Of host settings) files entries
    (returns ↔ settings.Announces files ∧
      ∀ name, some name ∈ files → ∀ fault, ¬ host.StopsAt settings name fault) ∧
    (PowersHold → (returns ↔ settings.Announces files ∧
      ∀ name, some name ∈ files → ∀ fault,
        ¬ ReadingStops host (.ofString name) settings.encoding settings.maxFileSize fault ∧
          ¬ SearchStops host settings name fault)) := by
  intro returns
  have number := isNumber_maxFileSize accepted
  have returns_iff : returns ↔ settings.Announces files ∧
      ∀ name, some name ∈ files → ∀ fault, ¬ host.StopsAt settings name fault := by
    constructor
    · rintro ⟨entries, ended, entered⟩
      have announces : settings.Announces files := by
        by_contra unannounced
        cases (analyzeFiles_of_unannounced unannounced schedule).symm.trans ended
      refine ⟨announces, fun name member fault stops => ?_⟩
      have noFault := (analyzeFiles_endsAsFiles apart announces schedule).entries_iff.1
        ⟨entries, ended, entered⟩ (some name) member
      cases ((fault?_analyzeFile number named (few name member)).2 stops).symm.trans noFault
    · rintro ⟨announces, noStop⟩
      refine (analyzeFiles_endsAsFiles apart announces schedule).entries_iff.2 fun file member => ?_
      cases file with
      | none => rfl
      | some name =>
          refine Option.eq_none_iff_forall_ne_some.2 fun fault stopped => ?_
          exact noStop name member fault
            ((fault?_analyzeFile number named (few name member)).1 stopped)
  refine ⟨returns_iff, fun powers => returns_iff.trans (and_congr_right fun _ => ?_)⟩
  refine forall_congr' fun name => forall_congr' fun member => forall_congr' fun fault => ?_
  rw [Host.stopsAt_iff powers (few name member), not_or]

/-- Of some files without a run every one has its entry. -/
theorem analyzeFiles_returns_iff_skipped :
    let settings := { Settings.standard with workers := .int 2 }
    ∃ entries, (analyzeFiles loggingMachine settings skippedFiles [3, 0]).outcome = .ok entries ∧
      List.Forall₂ (Entry.Of loggingMachine settings) skippedFiles entries := by
  intro settings
  have accepted : Settings.ofLayer [("workers", .int 2)] = .ok settings := rfl
  have apart : loggingMachine.LogsApart skippedFiles := loggingMachine_apart (by decide +kernel)
  have counted : ∀ name ∈ skippedFiles.filterMap id,
      ∀ count ∈ (fileTokens loggingMachine settings name).outcome.toOption.map List.length,
        count < 1000000 := by
    decide +kernel
  have few (name : String) (member : some name ∈ skippedFiles) (tokens : List Token)
      (read : (fileTokens loggingMachine settings name).outcome = .ok tokens) :
      tokens.length < 1000000 := by
    refine counted name (List.mem_filterMap.2 ⟨_, member, rfl⟩) _ ?_
    rw [read]
    rfl
  have noFault : ∀ file ∈ skippedFiles,
      (analyzeFile loggingMachine settings file).fault? = none := by
    decide +kernel
  refine (analyzeFiles_returns_iff accepted (.inl rfl) apart few [3, 0]).1.2
    ⟨.inr ⟨rfl, rfl⟩, fun name member fault stops => ?_⟩
  have stopped := (fault?_analyzeFile (isNumber_maxFileSize accepted) (.inl rfl)
    (few name member)).2 stops
  cases stopped.symm.trans (noFault _ member)

/-- Settings are accepted with any text for an encoding. One that names none stops a batch at the
first file that is there. -/
theorem analyzeFiles_not_returned :
    let misspelt := { Settings.standard with encoding := .text "utf-9" }
    Settings.ofLayer [("encoding", .text "utf-9")] = .ok misspelt ∧
      (analyzeFiles loggingMachine misspelt [some "missing.pl", some "empty.pl"] []).fault?.map
        Fault.text = some "unknown encoding: utf-9" := by
  exact ⟨rfl, by decide +kernel⟩

end CodeMetrics
