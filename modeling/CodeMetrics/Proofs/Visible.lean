import CodeMetrics.Proofs.Batch
import CodeMetrics.Proofs.Interruption
import CodeMetrics.Proofs.Opening
import CodeMetrics.Proofs.Requests

/-!
# What a command shows

How a command ends and what it prints is known from the machine as it was before the command: from
the files that are there, and from the analysis of each of them. Where the log goes has no part in
it, as long as it goes to none of these files, and neither has who does the work. Only a log that
goes to a screen is shown in front of what is printed. What a command says besides, in messages
about files that are not there, can always be said.

Results:
1. `absent_ends`: the message about a file that is not there.
2. `existing_eq`: the files that are there.
3. `analyze_visible`: what an analysis shows.
4. `history_visible`: what a timeline shows.
5. `Outcome.behindLog_eq`: a log that does not go to a screen does not show.
6. `withSettings_logs`: where the log of a command goes.
-/

namespace CodeMetrics.Command

/-- How a command ended, and what it printed. -/
def Outcome.visible (outcome : Outcome) : Ending × String := (outcome.ending, outcome.output)

variable {before host : Host} {git : Git} {options : Options} {settings : Settings}
  {files : List Path} {file : Path}

/-! ## Files that are there -/

open Markup in
/-- The message about a file that is not there can be shown. -/
theorem absent_ends (settings : Settings) (file : Path) :
    ∃ text, absent settings file = .ok text := by
  rw [absent]
  split
  · exact ⟨"", rfl⟩
  · have name : ReadsAsText (escape file.text).toList
        (" does not exist.".toList ++ [] ++ ('[' :: ('/' :: yellow ++ [']']))) :=
      readsAsText_escape rfl file.text
    have sentence : ReadsAsText
        ("File ".toList ++ ((escape file.text).toList ++ (" does not exist.".toList ++ [])))
        ('[' :: ('/' :: yellow ++ [']'])) :=
      (name.append (List.forall_iff_forall_mem.1 (by decide)) (readsAsText_nil _)).bare_append
        (List.forall_iff_forall_mem.1 (by decide))
    have drawable : Drawable s!"[yellow]File {escape file.text} does not exist.[/yellow]" :=
      drawable_marked opens_yellow sentence (readsAsText_nil []) (by simp [yellow, toString])
    obtain ⟨shown, resolved, styled⟩ := Report.resolve_of_drawable drawable
    rw [complaint, resolved, bind_ok, Report.checkStyles_of_styled styled, bind_ok]
    exact ⟨_, rfl⟩

/-- The files that are there, in their order. -/
def present (host : Host) : List Path → Except Fault (List Path)
  | [] => .ok []
  | file :: rest => do
      if ← host.exists? file then return file :: (← present host rest) else present host rest

theorem existing_eq (host : Host) (settings : Settings) (files : List Path) :
    (existing host settings files).2 = present host files := by
  induction files with
  | nil => rfl
  | cons file rest ih =>
      rw [existing, present, ← ih]
      cases host.exists? file with
      | error fault => rfl
      | ok there =>
          cases there with
          | true => rfl
          | false =>
              obtain ⟨text, said⟩ := absent_ends settings file
              rw [said]
              rfl

/-! ## Analyses -/

/-- What is shown of a report, and how the command ends with it. -/
def shownReport (succeeded : Bool) : Except Fault Report.Parts → Ending × String
  | .error fault => (.fault fault, "")
  | .ok parts =>
      match parts.shown with
      | (text, some fault) => (.fault fault, text)
      | (text, none) => (.exit (if succeeded then 0 else 1), text)

theorem visible_reported (host : Host) (succeeded : Bool) (complaints : String)
    (events : List Event) (parts : Except Fault Report.Parts) :
    (Outcome.reported host succeeded complaints events parts).visible =
      shownReport succeeded parts := by
  cases parts with
  | error fault => rfl
  | ok parts =>
      rw [Outcome.reported, shownReport]
      generalize parts.shown = whole
      rcases whole with ⟨text, _ | fault⟩
      · rfl
      · rfl

/-- What a batch calls some files. -/
def namesOf (files : List Path) : List (Option String) := files.map fun file => some file.text

/-- The entries of some files as they are on the machine, one by one. -/
def entriesOn (host : Host) (settings : Settings) (files : List Path) :
    Except Problem (List Entry) :=
  (namesOf files).mapM fun name => (analyzeEntry host settings name).outcome

/-- What an analysis of some files shows on a console, which are there. -/
def shownEntries (console : Report.Console) (options : Options) (settings : Settings) :
    Except Problem (List Entry) → Ending × String
  | .error (.escaped fault) => (.fault fault, "")
  | .error (.reported _) => (.exit 1, "")
  | .ok entries =>
      shownReport (entries.any fun entry => succeeded entry.outcome)
        (listing console options settings entries)

/-- What an analysis shows on the machine as it is. -/
def shownAnalysis (host : Host) (options : Options) (settings : Settings) (files : List Path) :
    Ending × String :=
  match present host files with
  | .error fault => (.fault fault, "")
  | .ok files => shownEntries host.console options settings (entriesOn host settings files)

/-- What an analysis shows when its settings are loaded and logging is set up. -/
theorem visible_of_ready (ready : Ready before options settings host) :
    (analyze before options files).visible =
      match present host files with
      | .error fault => (.fault fault, "")
      | .ok kept => shownEntries host.console options settings
          (analyzeFiles host settings (namesOf kept) (inOrder (namesOf kept))).outcome := by
  have existed := existing_eq host settings files
  rw [analyze, withSettings_of_ready ready]
  generalize existing host settings files = found at existed ⊢
  obtain ⟨complaints, found⟩ := found
  dsimp only at existed ⊢
  rw [← existed]
  cases found with
  | error fault => rfl
  | ok kept =>
      dsimp only [namesOf]
      cases (analyzeFiles host settings (kept.map fun file => some file.text)
          (inOrder (kept.map fun file => some file.text))).outcome with
      | ok entries => exact visible_reported _ _ _ _ _
      | error problem => cases problem <;> rfl

/-- The log goes to none of the files once logging is set up. -/
def LogApart (host : Host) (files : List Path) : Prop := ∀ file ∈ files, host.LogIsNot file

instance (host : Host) (files : List Path) : Decidable (LogApart host files) :=
  inferInstanceAs (Decidable (∀ file ∈ files, host.LogIsNot file))

theorem present_congr (same : ∀ file ∈ files, host.lookup? file = before.lookup? file) :
    present host files = present before files := by
  induction files with
  | nil => rfl
  | cons file rest ih =>
      rw [present, present, Host.exists?, Host.exists?, same file List.mem_cons_self,
        ih fun other member => same other (List.mem_cons_of_mem file member)]

theorem mem_of_present {kept : List Path} (found : present host files = .ok kept)
    (member : file ∈ kept) : file ∈ files := by
  induction files generalizing kept with
  | nil =>
      cases found
      cases member
  | cons first rest ih =>
      rw [present] at found
      obtain ⟨there, -, found⟩ := bind_eq_ok.1 found
      cases there with
      | true =>
          obtain ⟨others, foundRest, returned⟩ := bind_eq_ok.1 found
          cases returned
          rcases List.mem_cons.1 member with rfl | later
          · exact List.mem_cons_self
          · exact List.mem_cons_of_mem first (ih foundRest later)
      | false => exact List.mem_cons_of_mem first (ih found member)

section

variable (placed : before.IsPlaced) (ready : Ready before options settings host)
include placed ready

theorem logsApart_of_ready (apart : LogApart host files) (read : AreRead files) :
    host.LogsApart (namesOf files) := by
  intro name member
  obtain ⟨file, listed, equal⟩ := List.mem_map.1 member
  cases equal
  rw [read.ofString_text listed]
  exact (Host.lookup?_of_setUpLogging placed ready.2 (apart file listed)).2

theorem lookup?_of_ready (apart : LogApart host files) :
    ∀ file ∈ files, host.lookup? file = before.lookup? file :=
  fun file member => (Host.lookup?_of_setUpLogging placed ready.2 (apart file member)).1

/-- The entries are those of the files as they were before logging was set up. -/
theorem entriesOn_of_ready (apart : LogApart host files) (read : AreRead files) :
    entriesOn host settings files = entriesOn before settings files := by
  have same : ∀ name ∈ namesOf files,
      (analyzeEntry host settings name).outcome = (analyzeEntry before settings name).outcome := by
    intro name member
    obtain ⟨file, listed, rfl⟩ := List.mem_map.1 member
    have analyzed : analyzeFile host settings (some file.text) =
        analyzeFile before settings (some file.text) := by
      have library := (Host.surroundings_of_setUpLogging placed ready.2).1
      refine analyzeFile_congr library fun name equal => ?_
      cases equal
      rw [read.ofString_text listed]
      exact lookup?_of_ready placed ready apart file listed
    rw [analyzeEntry_eq_kept, analyzeEntry_eq_kept, analyzed]
  exact mapM_congr same

theorem analyzeFiles_of_ready (apart : LogApart host files) (read : AreRead files)
    (announces : settings.Announces (namesOf files)) (schedule : List Nat) :
    (analyzeFiles host settings (namesOf files) schedule).outcome =
      entriesOn before settings files := by
  rw [← entriesOn_of_ready placed ready apart read]
  exact (analyzeFiles_endsAsFiles (logsApart_of_ready placed ready apart read) announces
    schedule).1

/-- What an analysis shows is known before logging is set up. -/
theorem analyze_visible (apart : LogApart host files) (read : AreRead files)
    (announces : ∀ kept, present before files = .ok kept → settings.Announces (namesOf kept)) :
    (analyze before options files).visible = shownAnalysis before options settings files := by
  have there : present host files = present before files :=
    present_congr (lookup?_of_ready placed ready apart)
  rw [visible_of_ready ready, shownAnalysis, there,
    (Host.surroundings_of_setUpLogging placed ready.2).2]
  cases found : present before files with
  | error fault => rfl
  | ok kept =>
      have listed : ∀ file ∈ kept, file ∈ files := fun _ => mem_of_present found
      dsimp only
      rw [analyzeFiles_of_ready placed ready (fun file member => apart file (listed file member))
        (fun file member => read file (listed file member)) (announces kept found)]

end

/-! ## Timelines -/

/-- A timeline sees nothing of the machine but the places of paths and the libraries. -/
theorem timeline_congr (places : ∀ path, host.resolve path = before.resolve path)
    (library : host.library = before.library) :
    timeline host git settings file = timeline before git settings file := by
  have placed (repository name : String) :
      Timeline.relativePath host git repository name =
        Timeline.relativePath before git repository name := by
    simp only [Timeline.relativePath, Timeline.rootOf, places]
  simp only [timeline, Timeline.points, Timeline.revisions, placed, places, library]

/-- What is shown of a timeline on a console. -/
def shownTimeline (console : Report.Console) (settings : Settings) :
    Except Problem (List Point) → Ending × String
  | .error (.escaped fault) => (.fault fault, "")
  | .error (.reported _) => (.exit 1, "")
  | .ok points =>
      shownReport (points.any fun point => succeeded point.outcome)
        (Report.historyOn console settings.layout settings.reportPrecision
          (.text settings.metric.name) points)

/-- What a timeline shows is known before logging is set up. -/
theorem history_visible (placed : before.IsPlaced) (ready : Ready before options settings host) :
    (history before git options file).visible =
      shownTimeline before.console settings (timeline before git settings file).outcome := by
  obtain ⟨library, console⟩ := Host.surroundings_of_setUpLogging placed ready.2
  rw [← timeline_congr (Host.resolve_of_setUpLogging placed ready.2) library, ← console]
  cases ended : (timeline host git settings file).outcome with
  | ok points =>
      rw [history, withSettings_of_ready ready]
      dsimp only
      rw [ended]
      exact visible_reported _ _ _ _ _
  | error problem =>
      cases problem with
      | reported failure =>
          obtain ⟨text, -, failed⟩ := history_of_failure ready ended
          rw [failed]
          rfl
      | escaped fault =>
          rw [history, withSettings_of_ready ready]
          dsimp only
          rw [ended]
          rfl

/-! ## Logs on a screen -/

/-- The log does not show where a command prints. -/
def LogUnseen (host : Host) : Prop :=
  ∀ place, host.logging.file = some (.at place) → host.disk.node? place ≠ some (.device true)

instance (host : Host) : Decidable (LogUnseen host) :=
  match logged : host.logging.file with
  | some (.at place) =>
      decidable_of_iff (host.disk.node? place ≠ some (.device true)) <| by
        constructor
        · intro unseen other equal
          cases logged.symm.trans equal
          exact unseen
        · exact fun unseen => unseen place logged
  | some .removed | none => isTrue fun _ equal => nomatch logged.symm.trans equal

theorem screened_of_unseen (unseen : LogUnseen host) (records : List LogRecord) :
    host.screened records = "" := by
  rw [Host.screened, Logging.screened]
  split
  · next place logged => exact if_neg (unseen place logged)
  · rfl

theorem screened_nil (host : Host) : host.screened [] = "" := by
  rw [Host.screened, Logging.screened]
  split
  · split <;> rfl
  · rfl

theorem Outcome.behindLog_eq {outcome : Outcome}
    (unseen : outcome.events = [] ∨ LogUnseen outcome.host) : outcome.behindLog = outcome := by
  have silent : outcome.host.screened (outcome.events.filterMap Event.record?) = "" := by
    rcases unseen with nothing | unseen
    · rw [nothing]
      exact screened_nil _
    · exact screened_of_unseen unseen _
  rw [behindLog, silent, String.empty_append]

/-- A command logs nothing, or it logs on the machine with its logging set up. -/
theorem withSettings_logs {work : Host → Settings → Outcome}
    (stays : ∀ host settings, (work host settings).host = host) :
    (withSettings before options work).events = [] ∨
      ∃ settings host, Ready before options settings host ∧
        (withSettings before options work).host = host := by
  rw [withSettings]
  split
  · next failure _ =>
    obtain ⟨text, -, ended⟩ := failed_eq before 2 [] failure
    exact .inl (by rw [ended])
  · exact .inl rfl
  · next settings loaded =>
    split
    · exact .inl rfl
    · next host setUp => exact .inr ⟨settings, host, ⟨loaded, setUp⟩, stays host settings⟩

theorem host_reported (host : Host) (succeeded : Bool) (complaints : String)
    (events : List Event) (parts : Except Fault Report.Parts) :
    (Outcome.reported host succeeded complaints events parts).host = host := by
  rw [Outcome.reported.eq_def]
  split
  · rfl
  · split <;> rfl

theorem host_failed (host : Host) (status : Nat) (events : List Event) (failure : Failure) :
    (Outcome.failed host status events failure).host = host := by
  rw [Outcome.failed]
  split <;> rfl

/-- What an analysis prints stands behind nothing, unless its log goes to a screen. -/
theorem behindLog_analyze
    (unseen : ∀ settings host, Ready before options settings host → LogUnseen host) :
    (analyze before options files).behindLog = analyze before options files := by
  refine Outcome.behindLog_eq ?_
  refine (withSettings_logs fun host settings => ?_).imp id fun ⟨settings, host, ready, logs⟩ =>
    logs.symm ▸ unseen settings host ready
  split
  · rfl
  · dsimp only
    split
    · rfl
    · rfl
    · exact host_reported _ _ _ _ _

theorem behindLog_history
    (unseen : ∀ settings host, Ready before options settings host → LogUnseen host) :
    (history before git options file).behindLog = history before git options file := by
  refine Outcome.behindLog_eq ?_
  refine (withSettings_logs fun host settings => ?_).imp id fun ⟨settings, host, ready, logs⟩ =>
    logs.symm ▸ unseen settings host ready
  dsimp only
  split
  · rfl
  · exact host_failed _ _ _ _
  · exact host_reported _ _ _ _ _

end CodeMetrics.Command
