import CodeMetrics.Proofs.Log

/-!
# Logs, line by line

A log may hold anything. Each of its lines is read by itself: it is the line of a revision, or it
says nothing. So a log that is cut at a line feed is read in two parts, wherever the cut is. A
carriage return in front of it or a break behind it only makes for an empty line, which says
nothing either. Only digits that are too many for a number stop the reading.

Results:
1. `revision?_of_header`, `revision?_of_other`: the two kinds of lines.
2. `revisionsOf_eq_ok`, `exists_revisionsOf`: what some lines tell, and when they can be read.
3. `read_append`: a log is read in two parts.
4. `read_linewise`: what any log tells.
-/

namespace CodeMetrics.Log

variable {line sha digits subject : List Char}

/-! ## One line -/

/-- The number that decimal digits write, whatever their script. -/
def numberOf (digits : List Char) : Nat := Nat.ofDigits 10 (digits.filterMap Text.digit?).reverse

/-- The revision that the parts of a header make. -/
def revisionOf (sha digits subject : List Char) : Revision :=
  ⟨String.ofList sha, numberOf digits, some (String.ofList subject)⟩

/-- The line is no revision's, blanks at its ends aside. -/
def SaysNothing (line : List Char) : Prop :=
  ∀ sha digits subject, ¬ IsHeader (Text.trim line) sha digits subject

/-- The digits on the line, if it is a revision's, are few enough to be read. -/
def HasFewDigits (line : List Char) : Prop :=
  ∀ sha digits subject, IsHeader (Text.trim line) sha digits subject →
    digits.length ≤ Number.digitLimit

theorem revision?_of_header (header : IsHeader (Text.trim line) sha digits subject) :
    revision? line =
      if Number.digitLimit < digits.length then .error (.tooManyDigits digits.length)
      else .ok (some (revisionOf sha digits subject)) := by
  rw [revision?, header?_of_isHeader header]
  dsimp only
  rw [Text.valueOf_eq_ofDigits]
  rfl

theorem revision?_of_other (other : SaysNothing line) : revision? line = .ok none := by
  rw [revision?]
  cases found : header? (Text.trim line) with
  | none => rfl
  | some parts =>
      obtain ⟨sha, digits, subject⟩ := parts
      exact absurd (isHeader_of_header? found) (other sha digits subject)

/-- A line has the parts of a header in one way only. -/
theorem hasFewDigits_of_header (header : IsHeader (Text.trim line) sha digits subject) :
    HasFewDigits line ↔ digits.length ≤ Number.digitLimit := by
  refine ⟨fun few => few sha digits subject header, fun short _ others _ second => ?_⟩
  have same := (header?_of_isHeader header).symm.trans (header?_of_isHeader second)
  cases same
  exact short

theorem header_or_other (line : List Char) :
    (∃ sha digits subject, IsHeader (Text.trim line) sha digits subject) ∨ SaysNothing line := by
  by_cases headed : ∃ sha digits subject, IsHeader (Text.trim line) sha digits subject
  · exact .inl headed
  · exact .inr fun sha digits subject header => headed ⟨sha, digits, subject, header⟩

/-! ## Some lines -/

/-- What some lines tell: a revision for each line that is one, in the order of the lines, and
nothing for all others. -/
inductive Tells : List (List Char) → List Revision → Prop
  | nil : Tells [] []
  | revision {line sha digits subject : List Char} {rest : List (List Char)}
      {revisions : List Revision} :
      IsHeader (Text.trim line) sha digits subject → Tells rest revisions →
      Tells (line :: rest) (revisionOf sha digits subject :: revisions)
  | other {line : List Char} {rest : List (List Char)} {revisions : List Revision} :
      SaysNothing line → Tells rest revisions → Tells (line :: rest) revisions

theorem exists_tells (lines : List (List Char)) : ∃ revisions, Tells lines revisions := by
  induction lines with
  | nil => exact ⟨[], .nil⟩
  | cons line rest ih =>
      obtain ⟨revisions, told⟩ := ih
      rcases header_or_other line with ⟨sha, digits, subject, header⟩ | other
      · exact ⟨_, .revision header told⟩
      · exact ⟨_, .other other told⟩

/-- Lines that can be read are read as what they tell. -/
theorem revisionsOf_of_tells {lines : List (List Char)} {revisions : List Revision}
    (told : Tells lines revisions) (few : ∀ line ∈ lines, HasFewDigits line) :
    revisionsOf lines = .ok revisions := by
  induction told with
  | nil => rfl
  | revision header told ih =>
      obtain ⟨here, behind⟩ := List.forall_mem_cons.1 few
      have short := (hasFewDigits_of_header header).1 here
      have read := (revision?_of_header header).trans (if_neg (Nat.not_lt.2 short))
      exact revisionsOf_cons_eq_ok.2 ⟨_, _, read, ih behind, rfl⟩
  | other nothing told ih =>
      obtain ⟨-, behind⟩ := List.forall_mem_cons.1 few
      exact revisionsOf_cons_eq_ok.2 ⟨_, _, revision?_of_other nothing, ih behind, rfl⟩

/-- Digits that are too many are not read. -/
theorem hasFewDigits_of_revisionsOf {lines : List (List Char)} {revisions : List Revision}
    (read : revisionsOf lines = .ok revisions) : ∀ line ∈ lines, HasFewDigits line := by
  induction lines generalizing revisions with
  | nil => exact nofun
  | cons line rest ih =>
      obtain ⟨found, others, readFirst, readOthers, rfl⟩ := revisionsOf_cons_eq_ok.1 read
      refine List.forall_mem_cons.2 ⟨?_, ih readOthers⟩
      rcases header_or_other line with ⟨sha, digits, subject, header⟩ | other
      · rw [revision?_of_header header] at readFirst
        split at readFirst
        · cases readFirst
        · next short => exact (hasFewDigits_of_header header).2 (Nat.not_lt.1 short)
      · exact fun sha digits subject header => absurd header (other sha digits subject)

theorem exists_revisionsOf {lines : List (List Char)} :
    (∃ revisions, revisionsOf lines = .ok revisions) ↔ ∀ line ∈ lines, HasFewDigits line := by
  constructor
  · rintro ⟨revisions, read⟩
    exact hasFewDigits_of_revisionsOf read
  · intro few
    obtain ⟨revisions, told⟩ := exists_tells lines
    exact ⟨revisions, revisionsOf_of_tells told few⟩

theorem revisionsOf_eq_ok {lines : List (List Char)} {revisions : List Revision} :
    revisionsOf lines = .ok revisions ↔
      (∀ line ∈ lines, HasFewDigits line) ∧ Tells lines revisions := by
  constructor
  · intro read
    have few := hasFewDigits_of_revisionsOf read
    obtain ⟨others, told⟩ := exists_tells lines
    have same := read.symm.trans (revisionsOf_of_tells told few)
    cases same
    exact ⟨few, told⟩
  · rintro ⟨few, told⟩
    exact revisionsOf_of_tells told few

/-! ## Two parts of a log -/

theorem saysNothing_nil : SaysNothing [] := by
  rintro sha digits subject ⟨shape, -, -, -, -⟩
  have trimmed : Text.trim ([] : List Char) = [] := rfl
  rw [trimmed] at shape
  exact absurd shape.symm (List.append_ne_nil_of_right_ne_nil sha (List.cons_ne_nil _ _))

/-- A line feed at the end of a log changes nothing. -/
theorem read_append_end (text : List Char) : read (text ++ ['\n']) = read text := by
  have empty : revisionsOf [[]] = .ok [] :=
    revisionsOf_cons_eq_ok.2 ⟨_, _, revision?_of_other saysNothing_nil, rfl, rfl⟩
  show revisionsOf (Text.lines (text ++ [Text.lineFeed])) = revisionsOf (Text.lines text)
  rcases Text.lines_append_end text with same | more
  · rw [same]
  · rw [more, revisionsOf_append, empty]
    cases revisionsOf (Text.lines text) with
    | error fault => rfl
    | ok revisions => exact congrArg Except.ok (List.append_nil revisions)

/-- What a log tells is what its two parts tell. If a part cannot be read, the log cannot be read
for the same reason, which is that of the first part where there are two. -/
theorem read_append (text behind : List Char) :
    read (text ++ '\n' :: behind) = do
      let first ← read text
      let second ← read behind
      return first ++ second := by
  have split : read (text ++ '\n' :: behind) =
      revisionsOf (Text.lines (text ++ ['\n']) ++ Text.lines behind) :=
    congrArg revisionsOf (Text.lines_append_newline text behind)
  rw [split, revisionsOf_append]
  exact congrArg (· >>= _) (read_append_end text)

/-- A log that is cut at a line feed is read in two parts. Any log can be read unless the digits on
some line of a revision are too many, and what it then tells is a revision for each line that has
the form of one, with the name, the time and the whole subject that stand there, and no other. -/
theorem read_linewise :
    (∀ text behind : List Char, read (text ++ '\n' :: behind) = do
      let first ← read text
      let second ← read behind
      return first ++ second) ∧
    ∀ text : List Char,
      ((∃ revisions, read text = .ok revisions) ↔
        ∀ line ∈ Text.lines text, HasFewDigits line) ∧
      ∀ revisions, read text = .ok revisions ↔
        (∀ line ∈ Text.lines text, HasFewDigits line) ∧ Tells (Text.lines text) revisions :=
  ⟨read_append, fun _ => ⟨exists_revisionsOf, fun _ => revisionsOf_eq_ok⟩⟩

end CodeMetrics.Log
