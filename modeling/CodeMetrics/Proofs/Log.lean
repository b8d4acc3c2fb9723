import Mathlib.Data.List.TakeWhile
import CodeMetrics.History.Log
import CodeMetrics.Proofs.Computation
import CodeMetrics.Proofs.Digits
import CodeMetrics.Proofs.Line

/-!
# Logs, written and read

Git writes a line for each revision and ends it with a line feed. Reading takes any line break for
the end of a line, of which there are ten. A subject that holds one of the others is cut off there,
and what follows it can pass for a revision of its own. A log is read back as it was written when no
subject holds a break, and only then; what is more, a time of more digits than can be read stops the
reading.

Results:
1. `revisionsOf_append`: lines are read one by one.
2. `isHeader_of_header?`, `header?_of_isHeader`: what the line of a revision is made of.
3. `revision?_stem`: the revision on a line that may have been cut.
4. `read_written_cons`: what a line of the log is read as, broken or not.
5. `read_written`: when a log is read back as it was written.
6. `read_written_forged`: a subject that holds a revision.
7. `readable_of_read`: what every revision of a log is.
-/

namespace CodeMetrics.Log

/-! ## Lines -/

theorem revisionsOf_cons_eq_ok {line : List Char} {rest : List (List Char)}
    {revisions : List Revision} :
    revisionsOf (line :: rest) = .ok revisions ↔
      ∃ found others, revision? line = .ok found ∧ revisionsOf rest = .ok others ∧
        revisions = found.toList ++ others := by
  rw [revisionsOf]
  cases revision? line with
  | error fault => simp
  | ok found =>
      cases revisionsOf rest with
      | error fault => simp
      | ok others => simp [eq_comm]

/-- Some lines are read, and then those behind them. -/
theorem revisionsOf_append (lines others : List (List Char)) :
    revisionsOf (lines ++ others) = do
      let first ← revisionsOf lines
      let second ← revisionsOf others
      return first ++ second := by
  induction lines with
  | nil =>
      rw [List.nil_append, revisionsOf, bind_ok]
      cases revisionsOf others <;> rfl
  | cons line rest ih =>
      rw [List.cons_append, revisionsOf, revisionsOf, ih]
      cases revision? line with
      | error fault => rfl
      | ok found =>
          cases revisionsOf rest with
          | error fault => rfl
          | ok first =>
              cases revisionsOf others with
              | error fault => rfl
              | ok second => exact congrArg Except.ok (List.append_assoc _ _ _).symm

theorem revisionsOf_append_eq_ok {lines others : List (List Char)} {revisions : List Revision} :
    revisionsOf (lines ++ others) = .ok revisions ↔
      ∃ first second, revisionsOf lines = .ok first ∧ revisionsOf others = .ok second ∧
        revisions = first ++ second := by
  rw [revisionsOf_append]
  constructor
  · intro read
    obtain ⟨first, readFirst, read⟩ := bind_eq_ok.1 read
    obtain ⟨second, readSecond, returned⟩ := bind_eq_ok.1 read
    cases returned
    exact ⟨first, second, readFirst, readSecond, rfl⟩
  · rintro ⟨first, second, readFirst, readSecond, rfl⟩
    exact bind_eq_ok.2 ⟨first, readFirst, bind_eq_ok.2 ⟨second, readSecond, rfl⟩⟩

/-! ## Headers -/

/-- What the line of a revision is made of, without the blanks at its ends. -/
structure IsHeader (line sha digits subject : List Char) : Prop where
  shape : line = sha ++ '|' :: (digits ++ '|' :: subject)
  sha_length : sha.length = 40
  sha_hex : ∀ c ∈ sha, isHexDigit c = true
  digits_some : digits ≠ []
  digits_decimal : ∀ c ∈ digits, Text.isDigit c = true

theorem isHeader_of_header? {line sha digits subject : List Char}
    (found : header? line = some (sha, digits, subject)) : IsHeader line sha digits subject := by
  rw [header?] at found
  split at found
  · next named =>
    obtain ⟨length, hex⟩ := Bool.and_eq_true_iff.1 named
    split at found
    · next rest barred =>
      split at found
      · cases found
      · next behind digits =>
        cases found
        refine ⟨?_, of_decide_eq_true length, List.all_eq_true.1 hex, digits, ?_⟩
        · rw [← behind, List.takeWhile_append_dropWhile, ← barred, List.take_append_drop]
        · exact fun c member => List.mem_takeWhile_imp member
      · cases found
    · cases found
  · cases found

theorem header?_of_isHeader {line sha digits subject : List Char}
    (header : IsHeader line sha digits subject) : header? line = some (sha, digits, subject) := by
  obtain ⟨rfl, length, hex, nonempty, decimal⟩ := header
  have bar : ¬ Text.isDigit '|' = true := by decide
  have taken : (sha ++ '|' :: (digits ++ '|' :: subject)).take 40 = sha := List.take_left' length
  have dropped : (sha ++ '|' :: (digits ++ '|' :: subject)).drop 40 =
      '|' :: (digits ++ '|' :: subject) := List.drop_left' length
  have first : (digits ++ '|' :: subject).takeWhile Text.isDigit = digits := by
    rw [List.takeWhile_append_of_pos decimal, List.takeWhile_cons_of_neg bar, List.append_nil]
  have behind : (digits ++ '|' :: subject).dropWhile Text.isDigit = '|' :: subject := by
    rw [List.dropWhile_append_of_pos decimal, List.dropWhile_cons_of_neg bar]
  have all : sha.all isHexDigit = true := List.all_eq_true.2 hex
  rw [header?, taken, dropped]
  simp only [length, all, decide_true, Bool.and_self, if_true, first, behind]

/-! ## Lines that are written -/

/-- The digits that a line starts with, up to the bar in front of its subject. -/
def stem (revision : Revision) : List Char :=
  revision.sha.toList ++ '|' :: Number.digitsOf revision.timestamp.toNat ++ ['|']

def subjectOf (revision : Revision) : List Char := (revision.subject.getD "").toList

/-- The line of a revision, in the form that git is asked for. -/
def line (revision : Revision) : List Char := stem revision ++ subjectOf revision

/-- A log with a line for each revision. -/
def written (revisions : List Revision) : List Char :=
  revisions.flatMap fun revision => line revision ++ ['\n']

/-- What git prints of a commit: a name of forty digits, a time that is not negative, and a subject
that has no blanks at its end. -/
structure Printable (revision : Revision) : Prop where
  sha_length : revision.sha.toList.length = 40
  sha_hex : ∀ c ∈ revision.sha.toList, isHexDigit c = true
  timestamp_nonneg : 0 ≤ revision.timestamp
  subject_some : revision.subject = some (String.ofList (subjectOf revision))
  subject_trimmed : Text.trimRight (subjectOf revision) = subjectOf revision

-- The digits are gone through with `List.all`: a bounded quantifier may be decided by going
-- through all characters there are.
instance (revision : Revision) : Decidable (Printable revision) :=
  decidable_of_iff
    (revision.sha.toList.length = 40 ∧ revision.sha.toList.all isHexDigit = true ∧
      0 ≤ revision.timestamp ∧ revision.subject = some (String.ofList (subjectOf revision)) ∧
      Text.trimRight (subjectOf revision) = subjectOf revision)
    ⟨fun ⟨length, hex, nonneg, subject, trimmed⟩ =>
        ⟨length, List.all_eq_true.1 hex, nonneg, subject, trimmed⟩,
      fun printable => ⟨printable.sha_length, List.all_eq_true.2 printable.sha_hex,
        printable.timestamp_nonneg, printable.subject_some, printable.subject_trimmed⟩⟩

theorem isHexDigit_iff {c : Char} :
    isHexDigit c = true ↔ 48 ≤ c.toNat ∧ c.toNat ≤ 57 ∨ 97 ≤ c.toNat ∧ c.toNat ≤ 102 := by
  simp only [isHexDigit, Bool.or_eq_true, Bool.and_eq_true, decide_eq_true_eq, Char.le_def,
    UInt32.le_iff_toNat_le]
  rfl

theorem isBlank_of_isHexDigit {c : Char} (hex : isHexDigit c = true) : Text.isBlank c = false := by
  have range := isHexDigit_iff.1 hex
  simp only [Text.isBlank, Text.code_char, Text.within, Text.blankRanges, List.any_cons,
    List.any_nil, Bool.or_eq_false_iff, Bool.and_eq_false_iff, decide_eq_false_iff_not, and_true]
  omega

theorem isHexDigit_of_isDigit {c : Char} (digit : c.isDigit = true) : isHexDigit c = true :=
  isHexDigit_iff.2 (.inl (Char.isDigit_iff_toNat.1 digit))

/-- There is no blank in front of a subject. -/
theorem stem_solid {revision : Revision} (printable : Printable revision) :
    ∀ c ∈ stem revision, Text.isBlank c = false := by
  simp only [stem, List.mem_append, List.mem_cons]
  rintro c ((member | rfl | member) | rfl | member)
  · exact isBlank_of_isHexDigit (printable.sha_hex c member)
  · decide
  · exact isBlank_of_isHexDigit (isHexDigit_of_isDigit (Number.isDigit_of_mem_digitsOf member))
  · decide
  · cases member

theorem header?_stem {revision : Revision} (printable : Printable revision) (subject : List Char) :
    header? (stem revision ++ subject) =
      some (revision.sha.toList, Number.digitsOf revision.timestamp.toNat, subject) := by
  have decimal : ∀ c ∈ Number.digitsOf revision.timestamp.toNat, Text.isDigit c = true := by
    intro c member
    rw [Text.isDigit, Text.digit?_of_isDigit (Number.isDigit_of_mem_digitsOf member)]
    rfl
  have shape : stem revision ++ subject = revision.sha.toList ++
      '|' :: (Number.digitsOf revision.timestamp.toNat ++ '|' :: subject) := by
    simp [stem]
  exact header?_of_isHeader
    ⟨shape, printable.sha_length, printable.sha_hex, Number.digitsOf_ne_nil _, decimal⟩

theorem trim_stem {revision : Revision} (printable : Printable revision) (subject : List Char) :
    Text.trim (stem revision ++ subject) = stem revision ++ Text.trimRight subject := by
  have left : Text.trimLeft (stem revision ++ subject) = stem revision ++ subject := by
    have solid := stem_solid printable
    cases started : stem revision with
    | nil => simp [stem] at started
    | cons c rest =>
        have first : Text.isBlank c = false := solid c (started ▸ List.mem_cons_self)
        exact List.dropWhile_cons_of_neg (Bool.eq_false_iff.1 first)
  have bar : Text.isBlank '|' = false := by decide
  rw [Text.trim, left, stem, List.append_assoc _ ['|'], List.append_assoc _ ['|']]
  exact Text.trimRight_append_cons bar _ subject

/-- What is read from the line of a revision when something else stands for its subject. -/
theorem revision?_stem {revision : Revision} (printable : Printable revision)
    (subject : List Char) :
    revision? (stem revision ++ subject) =
      if Number.digitLimit < (Number.digitsOf revision.timestamp.toNat).length then
        .error (.tooManyDigits (Number.digitsOf revision.timestamp.toNat).length)
      else
        .ok (some { revision with subject := some (String.ofList (Text.trimRight subject)) }) := by
  rw [revision?, trim_stem printable, header?_stem printable]
  dsimp only
  rw [Text.valueOf_digitsOf, Int.toNat_of_nonneg printable.timestamp_nonneg, String.ofList_toList]

/-! ## Logs that are written -/

/-- The subject stands on one line. -/
def Unbroken (revision : Revision) : Prop :=
  ∀ c ∈ subjectOf revision, Text.isLineBreak c = false

/-- The time has no more digits than can be read. -/
def ShortTime (revision : Revision) : Prop :=
  (Number.digitsOf revision.timestamp.toNat).length ≤ Number.digitLimit

instance (revision : Revision) : Decidable (Unbroken revision) :=
  decidable_of_iff ((subjectOf revision).any Text.isLineBreak = false) (by simp [Unbroken])

instance (revision : Revision) : Decidable (ShortTime revision) :=
  inferInstanceAs (Decidable (_ ≤ _))

/-- The revision with its subject up to the first break, and no blanks in front of that. -/
def cutShort (revision : Revision) : Revision :=
  { revision with
    subject := some (String.ofList
      (Text.trimRight ((subjectOf revision).takeWhile fun c => !Text.isLineBreak c))) }

theorem length_trimRight_le (cs : List Char) : (Text.trimRight cs).length ≤ cs.length := by
  calc (Text.trimRight cs).length
      = (cs.reverse.dropWhile Text.isBlank).length := by rw [Text.trimRight, List.length_reverse]
    _ ≤ cs.reverse.length := (List.dropWhile_sublist _).length_le
    _ = cs.length := List.length_reverse

theorem unbroken_iff {revision : Revision} :
    Unbroken revision ↔
      (subjectOf revision).takeWhile (fun c => !Text.isLineBreak c) = subjectOf revision := by
  simp [Unbroken, List.takeWhile_eq_self_iff]

/-- A revision is cut short by a break, and by nothing else. -/
theorem cutShort_eq_self_iff {revision : Revision} (printable : Printable revision) :
    cutShort revision = revision ↔ Unbroken revision := by
  rw [unbroken_iff]
  constructor
  · intro same
    have subject : Text.trimRight
        ((subjectOf revision).takeWhile fun c => !Text.isLineBreak c) = subjectOf revision := by
      have subject := congrArg Revision.subject same
      rw [printable.subject_some] at subject
      exact String.ofList_injective (Option.some.inj subject)
    refine (List.takeWhile_prefix _).eq_of_length_le ?_
    calc (subjectOf revision).length
        = (Text.trimRight
            ((subjectOf revision).takeWhile fun c => !Text.isLineBreak c)).length := by rw [subject]
      _ ≤ ((subjectOf revision).takeWhile fun c => !Text.isLineBreak c).length :=
          length_trimRight_le _
  · intro whole
    rw [cutShort, whole, printable.subject_trimmed, ← printable.subject_some]

/-- The first of the lines that a line of the log is read as; there are no more, unless the subject
holds a break. -/
theorem lines_line {revision : Revision} (printable : Printable revision) :
    ∃ behind, (Unbroken revision → behind = []) ∧
      Text.lines (line revision ++ ['\n']) =
        (stem revision ++ (subjectOf revision).takeWhile fun c => !Text.isLineBreak c) ::
          behind := by
  have stemUnbroken : ∀ c ∈ stem revision, Text.isLineBreak c = false := by
    intro c member
    by_contra breaks
    have blank := Text.isBlank_of_isLineBreak (Bool.not_eq_false _ ▸ breaks)
    cases blank.symm.trans (stem_solid printable c member)
  have first : ((line revision).takeWhile fun c => !Text.isLineBreak c) =
      stem revision ++ (subjectOf revision).takeWhile fun c => !Text.isLineBreak c :=
    List.takeWhile_append_of_pos (by simpa using stemUnbroken)
  obtain ⟨behind, read⟩ := Text.lines_first (line revision) []
  refine ⟨behind, fun unbroken => ?_, first ▸ read⟩
  have whole : Text.lines (line revision ++ ['\n']) = [line revision] := by
    refine Text.lines_of_unbroken fun c member => ?_
    rcases List.mem_append.1 member with before | inside
    · exact stemUnbroken c before
    · exact unbroken c inside
  exact (List.cons.inj (read.symm.trans whole)).2

/-- How the first line of a log is read, and then the others. -/
theorem read_written_cons {revision : Revision} (printable : Printable revision)
    (rest : List Revision) :
    ∃ behind, (Unbroken revision → behind = []) ∧ ∀ found,
      read (written (revision :: rest)) = .ok found ↔
        ShortTime revision ∧ ∃ forged others, revisionsOf behind = .ok forged ∧
          read (written rest) = .ok others ∧ found = cutShort revision :: (forged ++ others) := by
  obtain ⟨behind, alone, lines⟩ := lines_line printable
  refine ⟨behind, alone, fun found => ?_⟩
  have shape : written (revision :: rest) = line revision ++ '\n' :: written rest := by
    simp [written]
  have cut : Text.lines (written (revision :: rest)) =
      Text.lines (line revision ++ ['\n']) ++ Text.lines (written rest) :=
    shape ▸ Text.lines_append_newline (line revision) (written rest)
  rw [read, cut, lines, List.cons_append, revisionsOf_cons_eq_ok, revision?_stem printable]
  simp only [revisionsOf_append_eq_ok]
  by_cases short : ShortTime revision
  · rw [if_neg (Nat.not_lt.2 short)]
    constructor
    · rintro ⟨_, _, equal, ⟨forged, others, readBehind, readRest, rfl⟩, rfl⟩
      cases equal
      exact ⟨short, forged, others, readBehind, readRest, rfl⟩
    · rintro ⟨-, forged, others, readBehind, readRest, rfl⟩
      exact ⟨_, _, rfl, ⟨forged, others, readBehind, readRest, rfl⟩, rfl⟩
  · rw [if_pos (Nat.not_le.1 short)]
    simp [short]

/-- A log that is read tells of every revision, in the order of the log; but each of them has lost
what stands behind the first break of its subject, and others may stand between them. The log is
read back as it was written when every subject is on one line and no time is too long, and only
then. -/
theorem read_written {revisions : List Revision}
    (printable : ∀ revision ∈ revisions, Printable revision) :
    (read (written revisions) = .ok revisions ↔
      ∀ revision ∈ revisions, Unbroken revision ∧ ShortTime revision) ∧
    ∀ found, read (written revisions) = .ok found →
      (revisions.map cutShort).Sublist found := by
  induction revisions with
  | nil => exact ⟨⟨fun _ => nofun, fun _ => rfl⟩, fun found _ => List.nil_sublist found⟩
  | cons revision rest ih =>
      -- What stands behind the first break of a subject is read before the next line is.
      have first : Printable revision := printable revision List.mem_cons_self
      obtain ⟨wholeRest, keptRest⟩ :=
        ih fun other member => printable other (List.mem_cons_of_mem revision member)
      obtain ⟨behind, alone, reads⟩ := read_written_cons first rest
      constructor
      · rw [reads, List.forall_mem_cons, ← wholeRest]
        constructor
        · rintro ⟨short, forged, others, readBehind, readRest, equal⟩
          obtain ⟨same, equal⟩ := List.cons.inj equal
          have unbroken := (cutShort_eq_self_iff first).1 same.symm
          rw [alone unbroken] at readBehind
          cases readBehind
          exact ⟨⟨unbroken, short⟩, equal ▸ readRest⟩
        · rintro ⟨⟨unbroken, short⟩, readRest⟩
          refine ⟨short, [], rest, alone unbroken ▸ rfl, readRest, ?_⟩
          rw [(cutShort_eq_self_iff first).2 unbroken, List.nil_append]
      · intro found read
        obtain ⟨-, forged, others, -, readRest, rfl⟩ := (reads found).1 read
        have kept := keptRest others readRest
        exact (kept.trans (List.sublist_append_right forged others)).cons_cons _

/-- A commit with a whole revision in its subject, behind `before`. -/
def nested (before : String) : Revision :=
  ⟨"aaaaaaaaaaaaaaaaaaaaaaaaaaaaaaaaaaaaaaaa", 1700000000,
    some (before ++ "bbbbbbbbbbbbbbbbbbbbbbbbbbbbbbbbbbbbbbbb|30|never made")⟩

/-- On one line, a revision in a subject stays a part of the subject. -/
theorem read_written_nested :
    let revisions :=
      [nested "Revert | ", ⟨"0123456789abcdef0123456789abcdef01234567", 0, some ""⟩]
    (∀ revision ∈ revisions, Printable revision) ∧
      read (written revisions) = .ok revisions := by
  intro revisions
  have printable : ∀ revision ∈ revisions, Printable revision := by decide +kernel
  exact ⟨printable, (read_written printable).1.2 (by decide +kernel)⟩

/-- Behind a break that is no line feed, a revision in a subject is read as a revision, and the
subject is lost from there on. -/
theorem read_written_forged :
    let forging := nested "Fix\x0B"
    Printable forging ∧ '\n' ∉ subjectOf forging ∧
      read (written [forging]) =
        .ok [{ forging with subject := some "Fix" },
          ⟨"bbbbbbbbbbbbbbbbbbbbbbbbbbbbbbbbbbbbbbbb", 30, some "never made"⟩] := by
  decide +kernel

/-! ## Revisions that are read -/

/-- What every revision of a log is, whoever wrote the log: it has a name of forty digits and a
subject, and the digits of its time can be read. -/
structure Readable (revision : Revision) : Prop where
  sha_length : revision.sha.toList.length = 40
  sha_hex : ∀ c ∈ revision.sha.toList, isHexDigit c = true
  timestamp_nonneg : 0 ≤ revision.timestamp
  timestamp_short : revision.timestamp.natAbs < 10 ^ Number.digitLimit
  subject_some : ∃ subject, revision.subject = some subject

theorem readable_of_revision? {cs : List Char} {revision : Revision}
    (found : revision? cs = .ok (some revision)) : Readable revision := by
  rw [revision?] at found
  split at found
  · cases found
  · next sha digits subject header =>
    have named := isHeader_of_header? header
    split at found
    · cases found
    · next short =>
      cases found
      have bounded : Text.valueOf (digits.filterMap Text.digit?) < 10 ^ Number.digitLimit :=
        (Text.valueOf_filterMap_lt digits).trans_le
          (Nat.pow_le_pow_right (by decide) (Nat.not_lt.1 short))
      exact ⟨by rw [String.toList_ofList, named.sha_length],
        by simpa only [String.toList_ofList] using named.sha_hex,
        Int.natCast_nonneg _, bounded, _, rfl⟩

theorem readable_of_revisionsOf {lines : List (List Char)} {revisions : List Revision}
    (found : revisionsOf lines = .ok revisions) : ∀ revision ∈ revisions, Readable revision := by
  induction lines generalizing revisions with
  | nil =>
      cases found
      exact nofun
  | cons line rest ih =>
      obtain ⟨first, others, readFirst, readOthers, rfl⟩ := revisionsOf_cons_eq_ok.1 found
      intro revision member
      rcases List.mem_append.1 member with inFirst | inOthers
      · rw [Option.mem_toList] at inFirst
        exact readable_of_revision? (inFirst ▸ readFirst)
      · exact ih readOthers revision inOthers

/-- Every revision of a log that is read is readable. -/
theorem readable_of_read {text : List Char} {revisions : List Revision}
    (found : read text = .ok revisions) : ∀ revision ∈ revisions, Readable revision :=
  readable_of_revisionsOf found

end CodeMetrics.Log
