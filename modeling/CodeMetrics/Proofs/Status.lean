import CodeMetrics.Proofs.Visible

/-!
# What the status of a command tells

A command ends with status 2 when its settings cannot be loaded, with status 0 when there is
something to show that was analysed, and with status 1 otherwise. What it prints is the report about
the files that are there, in the order in which they were named: files that are not there can be
named anywhere between them without a difference. All this as long as no fault goes out and the
command ends, and as long as no path leads to the log, and the log does not go to a screen.

Results:
1. `withSettings_cases`: settings that are loaded, and settings that are not.
2. `shownAnalysis_eq`: what is shown without a fault.
3. `analysisTells`, `historyTells`: the status and the output of either command.
4. `analyze_visible_padded`: files that are not there.
5. `run_tells`: all of it, for any command line.
6. `run_misleads`: a path that leads to the log, workers that never begin, and a log on a screen.
-/

namespace CodeMetrics.Command

variable {host ready : Host} {git : Git} {options : Options} {settings : Settings}
  {files more : List Path} {file : Path}

/-! ## Settings -/

/-- An error of the settings is reported, and nothing is printed. -/
theorem withSettings_of_reported {failure : Failure}
    (reported : Settings.load host options.config options.layer = .error (.reported failure))
    (work : Host → Settings → Outcome) :
    (withSettings host options work).visible = (.exit 2, "") := by
  obtain ⟨text, -, ended⟩ := failed_eq host 2 [] failure
  rw [withSettings, reported]
  dsimp only
  rw [ended]
  rfl

/-- The settings are loaded and logging is set up, or an error is reported. -/
theorem withSettings_cases {work : Host → Settings → Outcome}
    (noFault : ∀ fault, (withSettings host options work).ending ≠ .fault fault) :
    (∃ failure, Settings.load host options.config options.layer = .error (.reported failure)) ∨
    ∃ settings ready, Ready host options settings ready := by
  rw [withSettings] at noFault
  split at noFault
  · next failure reported => exact .inl ⟨failure, reported⟩
  · exact absurd rfl (noFault _)
  · next settings loaded =>
    split at noFault
    · exact absurd rfl (noFault _)
    · next ready setUp => exact .inr ⟨settings, ready, loaded, setUp⟩

/-- What the status says when there is something to show. -/
theorem statuses_of_ending {ending : Ending} {succeeded : Bool}
    (ended : ending = .exit (if succeeded then 0 else 1)) :
    ending ≠ .exit 2 ∧ (ending = .exit 0 ↔ succeeded = true) ∧
      (ending = .exit 1 ↔ ¬ succeeded = true) := by
  subst ended
  cases succeeded <;> simp

/-! ## Analyses -/

/-- The file is there. -/
def isThere (host : Host) (file : Path) : Bool :=
  match host.exists? file with
  | .ok there => there
  | .error _ => false

theorem present_eq {kept : List Path} (found : present host files = .ok kept) :
    kept = files.filter (isThere host) := by
  induction files generalizing kept with
  | nil =>
      cases found
      rfl
  | cons file rest ih =>
      rw [present] at found
      obtain ⟨there, looked, found⟩ := bind_eq_ok.1 found
      have known : isThere host file = there := by rw [isThere, looked]
      rw [List.filter_cons, known]
      cases there with
      | true =>
          obtain ⟨others, foundRest, returned⟩ := bind_eq_ok.1 found
          cases returned
          exact congrArg (file :: ·) (ih foundRest)
      | false => exact ih found

theorem shownReport_eq {succeeded : Bool} {parts : Except Fault Report.Parts}
    (noFault : ∀ fault, (shownReport succeeded parts).1 ≠ .fault fault) :
    ∃ shown text, parts = .ok shown ∧ shown.shown = (text, none) ∧
      shownReport succeeded parts = (.exit (if succeeded then 0 else 1), text) := by
  rw [shownReport.eq_def] at noFault ⊢
  cases parts with
  | error fault => exact absurd rfl (noFault fault)
  | ok shown =>
      dsimp only at noFault ⊢
      rcases whole : shown.shown with ⟨text, fault?⟩
      cases fault? with
      | some fault =>
          rw [whole] at noFault
          exact absurd rfl (noFault fault)
      | none => exact ⟨shown, text, rfl, whole, rfl⟩

/-- Nothing but faults keeps entries from being there. -/
theorem entriesOn_ne_reported (host : Host) (settings : Settings) (files : List Path)
    (failure : Failure) : entriesOn host settings files ≠ .error (.reported failure) := by
  intro stopped
  obtain ⟨_, _, _, _, _, stops⟩ := exists_of_mapM_eq_error stopped
  rw [analyzeEntry_eq_kept] at stops
  obtain ⟨fault, equal, -⟩ := Trace.kept_eq_error.1 stops
  cases equal

/-- An entry has a run when the analysis of its file ended with one. -/
theorem any_succeeded_iff {names : List (Option String)} {entries : List Entry}
    (entered : List.Forall₂ (Entry.Of host settings) names entries) :
    (entries.any fun entry => succeeded entry.outcome) = true ↔
      ∃ name ∈ names, ∃ run, (analyzeFile host settings name).outcome = .ok run := by
  induction entered with
  | nil => simp
  | @cons name entry _ _ first _ ih =>
      have here : succeeded entry.outcome = true ↔
          ∃ run, (analyzeFile host settings name).outcome = .ok run := by
        rw [first.outcome_eq]
        cases entry.outcome <;> simp [succeeded, Except.mapError]
      rw [List.any_cons, Bool.or_eq_true, here, ih]
      simp

/-- What is shown without a fault: the files that are there have entries, and the listing of these
is printed. -/
theorem shownAnalysis_eq
    (noFault : ∀ fault, (shownAnalysis host options settings files).1 ≠ .fault fault) :
    present host files = .ok (files.filter (isThere host)) ∧
      ∃ entries parts text, entriesOn host settings (files.filter (isThere host)) = .ok entries ∧
      listing host.console options settings entries = .ok parts ∧ parts.shown = (text, none) ∧
      shownAnalysis host options settings files =
        (.exit (if entries.any fun entry => succeeded entry.outcome then 0 else 1), text) := by
  rw [shownAnalysis.eq_def] at noFault ⊢
  cases found : present host files with
  | error fault =>
      rw [found] at noFault
      exact absurd rfl (noFault fault)
  | ok kept =>
      rw [found] at noFault
      rw [← present_eq found]
      dsimp only at noFault ⊢
      cases ended : entriesOn host settings kept with
      | error problem =>
          cases problem with
          | reported failure => exact absurd ended (entriesOn_ne_reported _ _ _ failure)
          | escaped fault =>
              rw [ended] at noFault
              exact absurd rfl (noFault fault)
      | ok entries =>
          rw [ended] at noFault
          obtain ⟨parts, text, listed, shown, equal⟩ := shownReport_eq noFault
          exact ⟨rfl, entries, parts, text, rfl, listed, shown, equal⟩

/-- Workers that cannot be announced are a fault. -/
theorem announces_of_noFault (loaded : Ready host options settings ready)
    (noFault : ∀ fault, (analyze host options files).ending ≠ .fault fault) {kept : List Path}
    (found : present ready files = .ok kept) : settings.Announces (namesOf kept) := by
  by_contra unannounced
  have stopped := congrArg Prod.fst (@visible_of_ready _ _ _ _ files loaded)
  rw [found] at stopped
  dsimp only at stopped
  rw [analyzeFiles_of_unannounced unannounced] at stopped
  exact noFault _ stopped

/-- What is said of the machine with its logging set up can be decided. -/
instance (host : Host) (options : Options) (p : Host → Prop) [DecidablePred p] :
    Decidable (∀ settings ready, Ready host options settings ready → p ready) :=
  match loaded : Settings.load host options.config options.layer with
  | .error _ => isTrue fun _ _ other => nomatch loaded.symm.trans other.1
  | .ok settings =>
      match setUp : host.setUpLogging (.text settings.verbosity.name) settings.logFile with
      | .error _ => isTrue fun _ _ other => by
          cases loaded.symm.trans other.1
          cases setUp.symm.trans other.2
      | .ok ready => decidable_of_iff (p ready) ⟨fun holds _ _ other => by
          cases loaded.symm.trans other.1
          cases setUp.symm.trans other.2
          exact holds, fun holds => holds settings ready ⟨loaded, setUp⟩⟩

/-- Once logging is set up, the log goes to none of the files, and to no screen. -/
def LogStaysApart (host : Host) (options : Options) (files : List Path) : Prop :=
  ∀ settings ready, Ready host options settings ready → LogApart ready files ∧ LogUnseen ready

instance (host : Host) (options : Options) (files : List Path) :
    Decidable (LogStaysApart host options files) :=
  inferInstanceAs (Decidable (∀ settings ready, Ready host options settings ready →
    LogApart ready files ∧ LogUnseen ready))

/-- Without a fault, what an analysis shows is known before logging is set up. -/
theorem visible_of_noFault (placed : host.IsPlaced) (loaded : Ready host options settings ready)
    (apart : LogApart ready files) (read : AreRead files)
    (noFault : ∀ fault, (analyze host options files).ending ≠ .fault fault) :
    (analyze host options files).visible = shownAnalysis host options settings files := by
  have there : present ready files = present host files :=
    present_congr (lookup?_of_ready placed loaded apart)
  exact analyze_visible placed loaded apart read fun kept found =>
    announces_of_noFault loaded noFault (there.trans found)

/-- What an analysis with its settings tells. -/
structure AnalysisShows (host : Host) (options : Options) (settings : Settings)
    (files : List Path) (outcome : Outcome) : Prop where
  /-- A file is there, and its analysis ends with a run. -/
  succeeded : outcome.ending = .exit 0 ↔ ∃ file ∈ files, isThere host file = true ∧
    ∃ run, (analyzeFile host settings (some file.text)).outcome = .ok run
  failed : outcome.ending = .exit 1 ↔ ¬ ∃ file ∈ files, isThere host file = true ∧
    ∃ run, (analyzeFile host settings (some file.text)).outcome = .ok run
  /-- The listing of a batch of the files that are there is printed, whoever does the work. -/
  prints : ∃ ready entries parts, Ready host options settings ready ∧
    (∀ schedule, (analyzeFiles ready settings (namesOf (files.filter (isThere host)))
      schedule).outcome = .ok entries) ∧
    listing host.console options settings entries = .ok parts ∧
    parts.shown = (outcome.output, none)

theorem analysisShows (placed : host.IsPlaced) (read : AreRead files)
    (loaded : Ready host options settings ready) (apart : LogApart ready files)
    (noFault : ∀ fault, (analyze host options files).ending ≠ .fault fault) :
    (analyze host options files).ending ≠ .exit 2 ∧
      AnalysisShows host options settings files (analyze host options files) := by
  have visible := visible_of_noFault placed loaded apart read noFault
  obtain ⟨found, entries, parts, text, ended, listed, shown, equal⟩ :=
    shownAnalysis_eq fun fault stopped =>
      noFault fault ((congrArg Prod.fst visible).trans stopped)
  have output : (analyze host options files).output = text :=
    congrArg Prod.snd (visible.trans equal)
  obtain ⟨noRefusal, success, failure⟩ :=
    statuses_of_ending (congrArg Prod.fst (visible.trans equal))
  have entered := (mapM_eq_ok.1 ended).imp fun name entry one => (analyzeEntry_of_ok one).1
  have analyzed : (entries.any fun entry => succeeded entry.outcome) = true ↔
      ∃ file ∈ files, isThere host file = true ∧
        ∃ run, (analyzeFile host settings (some file.text)).outcome = .ok run := by
    rw [any_succeeded_iff entered]
    simp [namesOf, and_assoc]
  have there : present ready files = present host files :=
    present_congr (lookup?_of_ready placed loaded apart)
  have kept : ∀ file ∈ files.filter (isThere host), file ∈ files :=
    fun file => List.mem_of_mem_filter
  refine ⟨noRefusal, success.trans analyzed, failure.trans (not_congr analyzed), ?_⟩
  refine ⟨ready, entries, parts, loaded, fun schedule => ?_, listed, output ▸ shown⟩
  rw [← ended]
  exact analyzeFiles_of_ready placed loaded (fun file member => apart file (kept file member))
    (fun file member => read file (kept file member))
    (announces_of_noFault loaded noFault (there.trans found)) schedule

/-- What is printed is known from the settings. -/
theorem AnalysisShows.output_eq {outcome other : Outcome}
    (shows : AnalysisShows host options settings files outcome)
    (again : AnalysisShows host options settings files other) : outcome.output = other.output := by
  obtain ⟨ready, entries, parts, loaded, ended, listed, shown⟩ := shows.prints
  obtain ⟨_, _, _, loadedAgain, endedAgain, listedAgain, shownAgain⟩ := again.prints
  cases loaded.2.symm.trans loadedAgain.2
  cases (ended []).symm.trans (endedAgain [])
  cases listed.symm.trans listedAgain
  exact congrArg Prod.fst (shown.symm.trans shownAgain)

/-- What the status and the output of an analysis tell. -/
structure AnalysisTells (host : Host) (options : Options) (files : List Path) (outcome : Outcome) :
    Prop where
  refused : outcome.ending = .exit 2 ↔ ∃ failure,
    Settings.load host options.config options.layer = .error (.reported failure)
  silent : outcome.ending = .exit 2 → outcome.output = ""
  loaded : outcome.ending ≠ .exit 2 → ∃ settings,
    Settings.load host options.config options.layer = .ok settings
  shows : ∀ settings, Settings.load host options.config options.layer = .ok settings →
    AnalysisShows host options settings files outcome

theorem analysisTells (placed : host.IsPlaced) (read : AreRead files)
    (apart : LogStaysApart host options files)
    (noFault : ∀ fault, (analyze host options files).ending ≠ .fault fault) :
    AnalysisTells host options files (analyze host options files) := by
  rcases withSettings_cases noFault with ⟨failure, reported⟩ | ⟨settings, ready, loaded⟩
  · have ended : (analyze host options files).visible = (.exit 2, "") :=
      withSettings_of_reported reported _
    have status : (analyze host options files).ending = .exit 2 := congrArg Prod.fst ended
    refine ⟨iff_of_true status ⟨failure, reported⟩, fun _ => congrArg Prod.snd ended,
      absurd status, fun settings loaded => ?_⟩
    cases reported.symm.trans loaded
  · obtain ⟨noRefusal, shows⟩ :=
      analysisShows placed read loaded (apart settings ready loaded).1 noFault
    refine ⟨iff_of_false noRefusal ?_, fun refused => absurd refused noRefusal,
      fun _ => ⟨settings, loaded.1⟩, fun other again => ?_⟩
    · rintro ⟨failure, reported⟩
      cases loaded.1.symm.trans reported
    · cases loaded.1.symm.trans again
      exact shows

/-! ## Files that are not there -/

/-- Files that are not there come in between some files. -/
inductive Padded (host : Host) : List Path → List Path → Prop
  | nil : Padded host [] []
  | file {files more : List Path} (file : Path) :
      Padded host files more → Padded host (file :: files) (file :: more)
  | absent {file : Path} {files more : List Path} : host.exists? file = .ok false →
      Padded host files more → Padded host files (file :: more)

theorem Padded.present_eq (padded : Padded host files more) :
    present host more = present host files := by
  induction padded with
  | nil => rfl
  | file file _ ih => rw [present, present, ih]
  | absent missing _ ih =>
      rw [present, missing, bind_ok, ← ih]
      rfl

theorem analyze_visible_padded (placed : host.IsPlaced) (padded : Padded host files more)
    (read : AreRead files) (readMore : AreRead more) (apart : LogStaysApart host options files)
    (apartMore : LogStaysApart host options more)
    (noFault : ∀ fault, (analyze host options files).ending ≠ .fault fault) :
    (analyze host options more).visible = (analyze host options files).visible := by
  rcases withSettings_cases noFault with ⟨failure, reported⟩ | ⟨settings, ready, loaded⟩
  · exact (withSettings_of_reported reported _).trans (withSettings_of_reported reported _).symm
  · have there : present ready files = present host files :=
      present_congr (lookup?_of_ready placed loaded (apart settings ready loaded).1)
    rw [visible_of_noFault placed loaded (apart settings ready loaded).1 read noFault,
      analyze_visible placed loaded (apartMore settings ready loaded).1 readMore fun kept found =>
        announces_of_noFault loaded noFault (there.trans (padded.present_eq.symm.trans found)),
      shownAnalysis, shownAnalysis, padded.present_eq]

/-! ## Timelines -/

/-- What a timeline with its settings tells. -/
structure TimelineShows (host : Host) (git : Git) (settings : Settings) (file : Path)
    (ending : Ending) : Prop where
  /-- There is a point with a run. -/
  succeeded : ending = .exit 0 ↔
    ∃ points, (timeline host git settings file).outcome = .ok points ∧
      ∃ point ∈ points, ∃ run, point.outcome = .ok run
  /-- There is no timeline, or no point of it has a run. -/
  failed : ending = .exit 1 ↔
    (∃ failure, (timeline host git settings file).outcome = .error (.reported failure)) ∨
    ∃ points, (timeline host git settings file).outcome = .ok points ∧
      ¬ ∃ point ∈ points, ∃ run, point.outcome = .ok run

/-- What the status of a timeline tells. -/
structure HistoryTells (host : Host) (git : Git) (options : Options) (file : Path)
    (ending : Ending) : Prop where
  refused : ending = .exit 2 ↔ ∃ failure,
    Settings.load host options.config options.layer = .error (.reported failure)
  loaded : ending ≠ .exit 2 → ∃ settings,
    Settings.load host options.config options.layer = .ok settings
  shows : ∀ settings, Settings.load host options.config options.layer = .ok settings →
    TimelineShows host git settings file ending

theorem any_succeeded_points (points : List Point) :
    (points.any fun point => succeeded point.outcome) = true ↔
      ∃ point ∈ points, ∃ run, point.outcome = .ok run := by
  rw [List.any_eq_true]
  refine exists_congr fun point => and_congr_right fun _ => ?_
  cases point.outcome <;> simp [succeeded]

theorem timelineShows (placed : host.IsPlaced) (loaded : Ready host options settings ready)
    (noFault : ∀ fault, (history host git options file).ending ≠ .fault fault) :
    (history host git options file).ending ≠ .exit 2 ∧
      TimelineShows host git settings file (history host git options file).ending := by
  have visible : (history host git options file).ending =
      (shownTimeline host.console settings (timeline host git settings file).outcome).1 :=
    congrArg Prod.fst (history_visible placed loaded)
  rw [visible] at noFault
  cases ended : (timeline host git settings file).outcome with
  | error problem =>
      rw [ended] at visible noFault
      cases problem with
      | escaped fault => exact absurd rfl (noFault fault)
      | reported failure =>
          have status : (history host git options file).ending = .exit 1 := visible
          refine ⟨by simp [status], ⟨?_, ?_⟩⟩
          · simp [status, ended]
          · simp [status, ended]
  | ok points =>
      rw [ended] at visible noFault
      obtain ⟨parts, text, -, -, equal⟩ := shownReport_eq noFault
      obtain ⟨noRefusal, success, failure⟩ :=
        statuses_of_ending (visible.trans (congrArg Prod.fst equal))
      rw [any_succeeded_points] at success failure
      refine ⟨noRefusal, ⟨?_, ?_⟩⟩
      · simpa [ended] using success
      · simpa [ended] using failure

theorem historyTells (placed : host.IsPlaced)
    (noFault : ∀ fault, (history host git options file).ending ≠ .fault fault) :
    HistoryTells host git options file (history host git options file).ending := by
  rcases withSettings_cases noFault with ⟨failure, reported⟩ | ⟨settings, ready, loaded⟩
  · have ended : (history host git options file).visible = (.exit 2, "") :=
      withSettings_of_reported reported _
    have status : (history host git options file).ending = .exit 2 := congrArg Prod.fst ended
    refine ⟨iff_of_true status ⟨failure, reported⟩, absurd status, fun settings loaded => ?_⟩
    cases reported.symm.trans loaded
  · obtain ⟨noRefusal, shows⟩ := timelineShows placed loaded noFault
    refine ⟨iff_of_false noRefusal ?_, fun _ => ⟨settings, loaded.1⟩, fun other again => ?_⟩
    · rintro ⟨failure, reported⟩
      cases loaded.1.symm.trans reported
    · cases loaded.1.symm.trans again
      exact shows

/-! ## Command lines -/

def Ending.isFault : Ending → Bool
  | .fault _ => true
  | _ => false

theorem Ending.isFault_eq_false {ending : Ending} :
    ending.isFault = false ↔ ∀ fault, ending ≠ .fault fault := by
  cases ending <;> simp [isFault]

instance (ending : Ending) : Decidable (∀ fault, ending ≠ .fault fault) :=
  decidable_of_iff (ending.isFault = false) Ending.isFault_eq_false

/-- How a log comes before what is printed has no part in how a command ends. -/
theorem ending_behindLog (outcome : Outcome) : outcome.behindLog.ending = outcome.ending := rfl

theorem run_analyze {arguments : List String}
    (request : Request.read host arguments = some (.analyze options files))
    (apart : LogStaysApart host options files) :
    run host git arguments = analyze host options files := by
  rw [run, request, answer]
  exact behindLog_analyze fun settings ready loaded => (apart settings ready loaded).2

theorem run_history {arguments : List String}
    (request : Request.read host arguments = some (.history options file))
    (apart : LogStaysApart host options []) :
    run host git arguments = history host git options file := by
  rw [run, request, answer]
  exact behindLog_history fun settings ready loaded => (apart settings ready loaded).2

/-- The status of a command line tells what became of it. As long as no fault goes out, an analysis
whose log goes to none of its files and to no screen ends with status 2 when its settings cannot be
loaded, and prints nothing then. Otherwise it prints the listing of the files that are there, and
ends with status 0 when one of them was analysed and with status 1 when none was. Files that are not
there can be named as well without a difference. A timeline ends with status 2 when its settings
cannot be loaded, with status 0 when a point of it has a run, and with status 1 when there is
none. -/
theorem run_tells {arguments : List String} (placed : host.IsPlaced)
    (noFault : ∀ fault, (run host git arguments).ending ≠ .fault fault) :
    (∀ options files, Request.read host arguments = some (.analyze options files) →
      LogStaysApart host options files →
      AnalysisTells host options files (run host git arguments) ∧
      ∀ others more, Request.read host others = some (.analyze options more) →
        LogStaysApart host options more → Padded host files more →
        (run host git others).visible = (run host git arguments).visible) ∧
    ∀ options file, Request.read host arguments = some (.history options file) →
      HistoryTells host git options file (run host git arguments).ending := by
  refine ⟨fun options files request apart => ?_, fun options file request => ?_⟩
  · have read := (read_analyze request).2
    rw [run_analyze request apart] at noFault ⊢
    refine ⟨analysisTells placed read apart noFault,
      fun others more requestMore apartMore padded => ?_⟩
    rw [run_analyze requestMore apartMore]
    exact analyze_visible_padded placed padded read (read_analyze requestMore).2 apart apartMore
      noFault
  · have runs : (run host git arguments).ending = (history host git options file).ending := by
      rw [run, request, answer]
      exact ending_behindLog _
    rw [runs] at noFault ⊢
    exact historyTells placed noFault

/-- Git knows one commit, in which every file is empty. -/
def emptiedCommit : Git
  | .root => .done 0 "/\n".toUTF8.toList []
  | .log .. => .done 0 (Timeline.logLine Timeline.firstCommit).toUTF8.toList []
  | .content .. => .done 0 [] []

/-- An empty file between two that are not there, with a log file, and the timeline of it. -/
theorem run_tells_emptied :
    let shortly := { Timeline.bareOptions with layout := some "json" }
    let logged := { shortly with report := true, quiet := true, logFile := some ⟨"", ["log.txt"]⟩ }
    let alone := ["analyze", "-rq", "-fjson", "--log-file=log.txt", "empty.pl"]
    let between := ["analyze", "-rq", "gone.pl", "-fjson", "--log-file=log.txt", "empty.pl",
      "missing.pl"]
    let timeline := ["history", "-fjson", "empty.pl"]
    AnalysisTells loggingMachine logged [⟨"", ["empty.pl"]⟩]
      (run loggingMachine emptiedCommit alone) ∧
    (run loggingMachine emptiedCommit between).visible =
      (run loggingMachine emptiedCommit alone).visible ∧
    HistoryTells loggingMachine emptiedCommit shortly ⟨"", ["empty.pl"]⟩
      (run loggingMachine emptiedCommit timeline).ending := by
  intro shortly logged alone between timeline
  have placed : loggingMachine.IsPlaced := rfl
  have analyzed := @run_tells loggingMachine emptiedCommit alone placed (by decide +kernel)
  have followed :=
    @run_tells loggingMachine emptiedCommit timeline placed (by decide +kernel)
  have padded : Padded loggingMachine [⟨"", ["empty.pl"]⟩]
      [⟨"", ["gone.pl"]⟩, ⟨"", ["empty.pl"]⟩, ⟨"", ["missing.pl"]⟩] :=
    .absent rfl (.file _ (.absent rfl .nil))
  obtain ⟨tells, same⟩ := analyzed.1 logged _ rfl (by decide +kernel)
  exact ⟨tells, same between _ rfl (by decide +kernel) padded, followed.2 shortly _ rfl⟩

/-- A machine with an empty file, a folder beside it, and a screen. -/
def screenMachine : Host :=
  { loggingMachine with
    disk := .ofNodes [(["empty.pl"], .file []), (["sub"], .folder), (["dev"], .folder),
      (["dev", "stdout"], .device true)]
    logging := .initial }

/-- A machine with an empty file, and settings where the number of the workers is no number. -/
def idleMachine : Host :=
  { screenMachine with
    disk := .ofNodes [(["empty.pl"], .file []),
      (["halstead.toml"], .file "workers = nan\n".toUTF8.toList)] }

/-- A JSON report is asked for. -/
def plainReport : Options := { Timeline.bareOptions with report := true, layout := some "json" }

/-- A path that is not there, and is not how the log file is named, leads to the log file once that
is made, and is analysed. Workers whose number is no number never begin. A log that goes to a screen
is shown in front of the listing. -/
theorem run_misleads :
    let logged := { plainReport with logFile := some ⟨"", ["log.txt"]⟩ }
    let files : List Path := [⟨"", ["empty.pl"]⟩]
    let beside : Path := ⟨"", ["sub", "..", "log.txt"]⟩
    let alone := ["analyze", "-rfjson", "--log-file=log.txt", "empty.pl"]
    let both := ["analyze", "-rfjson", "--log-file=log.txt", "empty.pl", "sub/../log.txt"]
    let crowd := ["analyze", "-rfjson", "empty.pl", "empty.pl", "empty.pl", "empty.pl"]
    let shown := ["analyze", "-rfjson", "--log-file=/dev/stdout", "empty.pl"]
    (Request.read screenMachine alone = some (.analyze logged files) ∧
      Request.read screenMachine both = some (.analyze logged (files ++ [beside])) ∧
      Padded screenMachine files (files ++ [beside]) ∧
      (∀ fault, (run screenMachine emptiedCommit alone).ending ≠ .fault fault) ∧
      (run screenMachine emptiedCommit both).visible ≠
        (run screenMachine emptiedCommit alone).visible) ∧
    (Request.read idleMachine crowd =
        some (.analyze plainReport (List.replicate 4 ⟨"", ["empty.pl"]⟩)) ∧
      (run idleMachine emptiedCommit crowd).ending = .fault .endless ∧
      ¬ AnalysisTells idleMachine plainReport (List.replicate 4 ⟨"", ["empty.pl"]⟩)
        (run idleMachine emptiedCommit crowd)) ∧
    (Request.read screenMachine shown =
        some (.analyze { plainReport with logFile := some ⟨"/", ["dev", "stdout"]⟩ } files) ∧
      (∀ fault, (run screenMachine emptiedCommit shown).ending ≠ .fault fault) ∧
      ¬ AnalysisTells screenMachine
        { plainReport with logFile := some ⟨"/", ["dev", "stdout"]⟩ } files
        (run screenMachine emptiedCommit shown)) := by
  intro logged files beside alone both crowd shown
  refine ⟨⟨rfl, rfl, .file _ (.absent rfl .nil), by decide +kernel, fun equal => ?_⟩,
    ⟨rfl, ?_⟩, ⟨rfl, by decide +kernel, fun tells => ?_⟩⟩
  · have different : (run screenMachine emptiedCommit both).output ≠
        (run screenMachine emptiedCommit alone).output := by
      decide +kernel
    exact different (congrArg Prod.snd equal)
  · have endless : (run idleMachine emptiedCommit crowd).ending = .fault .endless := by
      decide +kernel
    refine ⟨endless, fun tells => ?_⟩
    obtain ⟨settings, loaded⟩ := tells.loaded (by rw [endless]; nofun)
    obtain ⟨success, failure, -⟩ := tells.shows settings loaded
    rw [endless] at success failure
    have unanalysed := (not_congr success).1 nofun
    exact nomatch failure.2 unanalysed
  · -- The listing alone is what would have to be printed, but the log is in front of it.
    let onScreen := { plainReport with logFile := some ⟨"/", ["dev", "stdout"]⟩ }
    have apart : ∀ settings ready, Ready screenMachine onScreen settings ready →
        LogApart ready files := by
      decide +kernel
    have noFault : ∀ fault, (analyze screenMachine onScreen files).ending ≠ .fault fault := by
      decide +kernel
    have different : (run screenMachine emptiedCommit shown).output ≠
        (analyze screenMachine onScreen files).output := by
      decide +kernel
    obtain ⟨settings, loaded⟩ := tells.loaded (by decide +kernel)
    have shows := tells.shows settings loaded
    obtain ⟨ready, -, -, readied, -⟩ := shows.prints
    have placed : screenMachine.IsPlaced := rfl
    have read : AreRead files := by
      intro file member
      cases List.mem_singleton.1 member
      exact ⟨"empty.pl", rfl⟩
    exact different (shows.output_eq
      (analysisShows placed read readied (apart settings ready readied) noFault).2)

end CodeMetrics.Command
