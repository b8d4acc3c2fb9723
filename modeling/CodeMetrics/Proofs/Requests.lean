import CodeMetrics.Command.Arguments
import CodeMetrics.Proofs.Digits
import CodeMetrics.Proofs.Paths

/-!
# What is known of a request

A command line that is a request has had its options and its files checked. The paths of the files
were read from texts, and a number of workers is one that can be written.

Results:
1. `read_analyze`, `read_history`: the options and the files of a request.
2. `AreRead.ofString_text`: a path is that of its text.
3. `readDigits?_short`: an integer that is read has not too many digits to be written.
4. `workers_of_ofGiven`: the number of workers that is asked for.
-/

namespace CodeMetrics.Command

variable {host : Host} {arguments : List String} {options : Options} {given : Given}

/-! ## Requests -/

/-- The paths were read from texts. -/
def AreRead (files : List Path) : Prop := ∀ file ∈ files, ∃ text, file = Path.ofString text

/-- A path that was read is the path of its own text. -/
theorem AreRead.ofString_text {files : List Path} (read : AreRead files) {file : Path}
    (member : file ∈ files) : Path.ofString file.text = file := by
  obtain ⟨text, rfl⟩ := read file member
  exact Path.ofString_text text

theorem readPath?_eq_some {text : String} {file : Path}
    (read : readPath? host text = some file) : file = Path.ofString text :=
  (Option.some.inj (Option.filter_eq_some_iff.1 read).1).symm

theorem areRead_of_mapM {texts : List String} {files : List Path}
    (read : texts.mapM (readPath? host) = some files) : AreRead files := by
  induction texts generalizing files with
  | nil =>
      cases read
      exact nofun
  | cons text rest ih =>
      rw [List.mapM_cons] at read
      obtain ⟨file, first, read⟩ := Option.bind_eq_some_iff.1 read
      obtain ⟨others, readRest, returned⟩ := Option.bind_eq_some_iff.1 read
      cases returned
      exact List.forall_mem_cons.2 ⟨⟨text, readPath?_eq_some first⟩, ih readRest⟩

/-- A request that does something is read behind the name of its command. -/
theorem read_of_command {request : Request} (read : Request.read host arguments = some request)
    (noVersion : request ≠ .version) (noHelp : request ≠ .help) :
    ∃ rest, readAnalyze host rest = some request ∨ readHistory host rest = some request := by
  obtain ⟨⟨given, rest⟩, -, read⟩ := Option.bind_eq_some_iff.1 read
  dsimp only at read
  split at read
  · exact absurd (Option.some.inj read).symm noVersion
  · exact absurd (Option.some.inj read).symm noHelp
  · split at read
    · exact ⟨_, .inl read⟩
    · exact ⟨_, .inr read⟩
    · split at read
      · exact absurd (Option.some.inj read).symm noHelp
      · cases read
    · cases read

theorem readAnalyze_eq_some {rest : List String} {request : Request}
    (read : readAnalyze host rest = some request) :
    request = .help ∨ ∃ given options files, Options.ofGiven host given = some options ∧
      AreRead files ∧ request = .analyze options files := by
  obtain ⟨⟨given, texts⟩, -, read⟩ := Option.bind_eq_some_iff.1 read
  dsimp only at read
  split at read
  · exact .inl (Option.some.inj read).symm
  · obtain ⟨options, accepted, read⟩ := Option.bind_eq_some_iff.1 read
    split at read
    · cases read
    · obtain ⟨files, paths, returned⟩ := Option.bind_eq_some_iff.1 read
      cases returned
      exact .inr ⟨given, options, files, accepted, areRead_of_mapM paths, rfl⟩

theorem readHistory_eq_some {rest : List String} {request : Request}
    (read : readHistory host rest = some request) :
    request = .help ∨ ∃ given options file, Options.ofGiven host given = some options ∧
      request = .history options file := by
  obtain ⟨⟨given, texts⟩, -, read⟩ := Option.bind_eq_some_iff.1 read
  dsimp only at read
  split at read
  · exact .inl (Option.some.inj read).symm
  · obtain ⟨options, accepted, read⟩ := Option.bind_eq_some_iff.1 read
    split at read
    · obtain ⟨file, -, returned⟩ := Option.bind_eq_some_iff.1 read
      cases returned
      exact .inr ⟨given, options, file, accepted, rfl⟩
    · cases read

theorem read_analyze {files : List Path}
    (request : Request.read host arguments = some (.analyze options files)) :
    (∃ given, Options.ofGiven host given = some options) ∧ AreRead files := by
  obtain ⟨rest, read | read⟩ := read_of_command request nofun nofun
  · rcases readAnalyze_eq_some read with help | ⟨given, _, _, accepted, areRead, equal⟩
    · cases help
    · cases equal
      exact ⟨⟨given, accepted⟩, areRead⟩
  · rcases readHistory_eq_some read with help | ⟨given, _, _, accepted, equal⟩
    · cases help
    · cases equal

theorem read_history {file : Path}
    (request : Request.read host arguments = some (.history options file)) :
    ∃ given, Options.ofGiven host given = some options := by
  obtain ⟨rest, read | read⟩ := read_of_command request nofun nofun
  · rcases readAnalyze_eq_some read with help | ⟨given, _, _, accepted, areRead, equal⟩
    · cases help
    · cases equal
  · rcases readHistory_eq_some read with help | ⟨given, _, _, accepted, equal⟩
    · cases help
    · cases equal
      exact ⟨given, accepted⟩

/-! ## Workers -/

/-- An integer that is read has not too many digits to be written. -/
theorem readDigits?_short {cs : List Char} {n : Int} (read : readDigits? cs = some n) :
    Number.tooLong n = false := by
  have signed (negative : Bool) (m : Nat) : (if negative then -(m : Int) else m).natAbs = m := by
    cases negative <;> simp
  let digits := if cs.head? == some '-' then cs.drop 1 else cs
  have few : digits.length ≤ Number.digitLimit ∧
      n.natAbs = Text.valueOf (digits.filterMap Text.digit?) := by
    obtain ⟨accepted, value⟩ := Option.ite_none_left_eq_some.1 read
    simp only [Bool.or_eq_true, decide_eq_true_eq, not_or, Nat.not_lt] at accepted
    refine ⟨accepted.1.1.2, ?_⟩
    rw [← Option.some.inj value]
    exact signed _ _
  have short : n.natAbs < 10 ^ Number.digitLimit := by
    rw [few.2]
    exact Nat.lt_of_lt_of_le (Text.valueOf_filterMap_lt digits)
      (Nat.pow_le_pow_right (by decide) few.1)
  have notLonger : ¬ n.natAbs ≥ 10 ^ Number.digitLimit := Nat.not_le.2 short
  simp only [Number.tooLong, Nat.pow_eq, notLonger, decide_false, Bool.and_false]

theorem readInteger?_short {text : String} {n : Int} (read : readInteger? text = some n) :
    Number.tooLong n = false := by
  obtain ⟨counted, -, read⟩ := Option.bind_eq_some_iff.1 read
  obtain ⟨digits, -, read⟩ := Option.bind_eq_some_iff.1 read
  exact readDigits?_short read

/-- There is one worker at least, and not more than can be written. -/
theorem workers_of_ofGiven (accepted : Options.ofGiven host given = some options) {n : Int}
    (asked : options.workers = some n) : 1 ≤ n ∧ Number.tooLong n = false := by
  obtain ⟨precision, -, accepted⟩ := Option.bind_eq_some_iff.1 accepted
  obtain ⟨workers, read, accepted⟩ := Option.bind_eq_some_iff.1 accepted
  obtain ⟨maxCommits, -, accepted⟩ := Option.bind_eq_some_iff.1 accepted
  obtain ⟨config, -, accepted⟩ := Option.bind_eq_some_iff.1 accepted
  obtain ⟨logFile, -, returned⟩ := Option.bind_eq_some_iff.1 accepted
  cases returned
  obtain rfl : workers = some n := asked
  rw [accept] at read
  split at read
  · cases read
  · obtain ⟨m, bounded, equal⟩ := Option.map_eq_some_iff.1 read
    cases equal
    obtain ⟨digits, bounds⟩ := Option.filter_eq_some_iff.1 bounded
    simp only [Option.all_none, Bool.and_true, decide_eq_true_eq] at bounds
    exact ⟨bounds, readInteger?_short digits⟩

end CodeMetrics.Command
