import Mathlib.Data.List.TakeWhile
import CodeMetrics.Text.Blank
import CodeMetrics.Text.Line

/-!
# The lines of a text

A line feed ends a line wherever it stands, so that a text can be cut into lines piece by piece. For
the lines of a text it makes no difference whether its carriage returns were unified before.

Results:
1. `unifyBreaks_append_newline`, `unifyBreaks_append_end`: carriage returns before a line feed.
2. `lines_append_newline`: the lines before a line feed and those behind it.
3. `lines_append_end`: what a line feed at the end of a text adds.
4. `lines_first`, `lines_of_unbroken`: the first line of a text.
5. `lines_unifyBreaks`: the lines of a text whose carriage returns were unified.
6. `isBlank_of_isLineBreak`: every line break is blank.
7. `trimRight_append_cons`: blanks are taken from behind the last character that is none.
8. `trim_append_blanks`: it makes no difference how many blanks stand at the end.
-/

namespace CodeMetrics.Text

variable {α : Type} [Coded α] {begun cs rest : List α} {c : α}

@[simp]
theorem isReturn_lineFeed : isReturn (lineFeed : α) = false := by
  rw [isReturn, code_lineFeed]
  rfl

@[simp]
theorem isLineFeed_lineFeed : isLineFeed (lineFeed : α) = true := by
  rw [isLineFeed, code_lineFeed]
  rfl

@[simp]
theorem isLineBreak_lineFeed : isLineBreak (lineFeed : α) = true := by
  rw [isLineBreak, code_lineFeed]
  rfl

theorem isLineBreak_of_isReturn (carriage : isReturn c = true) : isLineBreak c = true := by
  rw [isLineBreak, beq_iff_eq.1 carriage]
  rfl

theorem isLineBreak_of_isLineFeed (feeds : isLineFeed c = true) : isLineBreak c = true := by
  rw [isLineBreak, beq_iff_eq.1 feeds]
  rfl

theorem isReturn_of_isLineFeed (feeds : isLineFeed c = true) : isReturn c = false := by
  rw [isReturn, beq_iff_eq.1 feeds]
  rfl

/-! ## Carriage returns -/

theorem unifyBreaks_cons_of_plain (plain : isReturn c = false) (rest : List α) :
    unifyBreaks (c :: rest) = c :: unifyBreaks rest := by
  rw [unifyBreaks, plain]
  rfl

/-- A carriage return before a line feed is left out. -/
theorem unifyBreaks_cons_of_paired (carriage : isReturn c = true)
    (paired : rest.head?.any isLineFeed = true) : unifyBreaks (c :: rest) = unifyBreaks rest := by
  rw [unifyBreaks, carriage, if_neg (by decide), if_pos paired]

/-- A carriage return alone becomes a line feed. -/
theorem unifyBreaks_cons_of_single (carriage : isReturn c = true)
    (single : rest.head?.any isLineFeed = false) :
    unifyBreaks (c :: rest) = lineFeed :: unifyBreaks rest := by
  rw [unifyBreaks, carriage, if_neg (by decide), single]
  rfl

theorem isReturn_of_mem_unifyBreaks (member : c ∈ unifyBreaks cs) : isReturn c = false := by
  fun_induction unifyBreaks cs with
  | case1 => cases member
  | case2 d rest plain ih =>
      rcases List.mem_cons.1 member with rfl | later
      · simpa using plain
      · exact ih later
  | case3 d rest carriage paired ih => exact ih member
  | case4 d rest carriage single ih =>
      rcases List.mem_cons.1 member with rfl | later
      · exact isReturn_lineFeed
      · exact ih later

theorem unifyBreaks_eq_self (plain : ∀ c ∈ cs, isReturn c = false) : unifyBreaks cs = cs := by
  induction cs with
  | nil => rfl
  | cons c rest ih =>
      obtain ⟨first, others⟩ := List.forall_mem_cons.1 plain
      rw [unifyBreaks_cons_of_plain first, ih others]

/-- What stands before a line feed does not depend on what stands behind it. -/
theorem unifyBreaks_append_newline (cs : List α) :
    ∃ front, ∀ rest, unifyBreaks (cs ++ lineFeed :: rest) = front ++ lineFeed :: unifyBreaks rest :=
  by
  induction cs with
  | nil => exact ⟨[], unifyBreaks_cons_of_plain isReturn_lineFeed⟩
  | cons c cs ih =>
      obtain ⟨front, unified⟩ := ih
      cases carriage : isReturn c with
      | false =>
          refine ⟨c :: front, fun rest => ?_⟩
          rw [List.cons_append, unifyBreaks_cons_of_plain carriage, unified, List.cons_append]
      | true =>
          -- Whether a line feed is next is told by the text before the seam, if there is any.
          have next (rest : List α) : (cs ++ lineFeed :: rest).head?.any isLineFeed =
              ((cs ++ [lineFeed]).head?.any isLineFeed) := by
            cases cs <;> rfl
          cases paired : (cs ++ [lineFeed]).head?.any isLineFeed with
          | true =>
              refine ⟨front, fun rest => ?_⟩
              rw [List.cons_append,
                unifyBreaks_cons_of_paired carriage ((next rest).trans paired), unified]
          | false =>
              refine ⟨lineFeed :: front, fun rest => ?_⟩
              rw [List.cons_append,
                unifyBreaks_cons_of_single carriage ((next rest).trans paired), unified,
                List.cons_append]

/-- A line feed at the end stays, unless a carriage return in front of it became one already. -/
theorem unifyBreaks_append_end (cs : List α) :
    unifyBreaks (cs ++ [lineFeed]) = unifyBreaks cs ∨
      unifyBreaks (cs ++ [lineFeed]) = unifyBreaks cs ++ [lineFeed] := by
  induction cs with
  | nil => exact .inr (unifyBreaks_cons_of_plain isReturn_lineFeed [])
  | cons c cs ih =>
      rw [List.cons_append]
      cases carriage : isReturn c with
      | false =>
          rw [unifyBreaks_cons_of_plain carriage, unifyBreaks_cons_of_plain carriage]
          exact ih.imp (congrArg (c :: ·)) (congrArg (c :: ·))
      | true =>
          cases cs with
          | nil =>
              have paired : ([] ++ [lineFeed] : List α).head?.any isLineFeed = true :=
                isLineFeed_lineFeed
              have alone : ([] : List α).head?.any isLineFeed = false := rfl
              left
              rw [unifyBreaks_cons_of_paired carriage paired,
                unifyBreaks_cons_of_single carriage alone]
              exact unifyBreaks_cons_of_plain isReturn_lineFeed []
          | cons d others =>
              have next (rest : List α) : (d :: rest).head?.any isLineFeed = isLineFeed d := rfl
              cases paired : isLineFeed d with
              | true =>
                  rw [List.cons_append, unifyBreaks_cons_of_paired carriage ((next _).trans paired),
                    unifyBreaks_cons_of_paired carriage ((next _).trans paired)]
                  exact ih
              | false =>
                  rw [List.cons_append, unifyBreaks_cons_of_single carriage ((next _).trans paired),
                    unifyBreaks_cons_of_single carriage ((next _).trans paired)]
                  exact ih.imp (congrArg (lineFeed :: ·)) (congrArg (lineFeed :: ·))

/-! ## Lines -/

theorem linesFrom_cons_of_break (ends : isLineBreak c = true) (begun rest : List α) :
    linesFrom begun (c :: rest) = begun.reverse :: linesFrom [] rest := by
  rw [linesFrom, if_pos ends]

theorem linesFrom_cons_of_unbroken (goesOn : isLineBreak c = false) (begun rest : List α) :
    linesFrom begun (c :: rest) = linesFrom (c :: begun) rest := by
  rw [linesFrom, if_neg (Bool.eq_false_iff.1 goesOn)]

theorem linesFrom_append_newline (begun cs rest : List α) :
    linesFrom begun (cs ++ lineFeed :: rest) =
      linesFrom begun (cs ++ [lineFeed]) ++ linesFrom [] rest := by
  induction cs generalizing begun with
  | nil =>
      rw [List.nil_append, List.nil_append, linesFrom_cons_of_break isLineBreak_lineFeed,
        linesFrom_cons_of_break isLineBreak_lineFeed]
      rfl
  | cons c cs ih =>
      rw [List.cons_append, List.cons_append]
      cases ends : isLineBreak c with
      | true =>
          rw [linesFrom_cons_of_break ends, linesFrom_cons_of_break ends, ih, List.cons_append]
      | false => rw [linesFrom_cons_of_unbroken ends, linesFrom_cons_of_unbroken ends, ih]

/-- A line feed at the end adds no line, or an empty one: it ends the line in front of it, or stands
behind a break. -/
theorem linesFrom_append_end (begun cs : List α) :
    linesFrom begun (cs ++ [lineFeed]) = linesFrom begun cs ∨
      linesFrom begun (cs ++ [lineFeed]) = linesFrom begun cs ++ [[]] := by
  induction cs generalizing begun with
  | nil =>
      rw [List.nil_append, linesFrom_cons_of_break isLineBreak_lineFeed]
      cases begun with
      | nil => exact .inr rfl
      | cons c before => exact .inl rfl
  | cons c cs ih =>
      rw [List.cons_append]
      cases ends : isLineBreak c with
      | true =>
          rw [linesFrom_cons_of_break ends, linesFrom_cons_of_break ends]
          exact (ih []).imp (congrArg (begun.reverse :: ·)) (congrArg (begun.reverse :: ·))
      | false =>
          rw [linesFrom_cons_of_unbroken ends, linesFrom_cons_of_unbroken ends]
          exact ih (c :: begun)

/-- A line feed ends a line, whatever stands before it, and the next line starts behind it. -/
theorem lines_append_newline (cs rest : List α) :
    lines (cs ++ lineFeed :: rest) = lines (cs ++ [lineFeed]) ++ lines rest := by
  obtain ⟨front, unified⟩ := unifyBreaks_append_newline cs
  rw [lines, lines, lines, unified, unified]
  exact linesFrom_append_newline [] front (unifyBreaks rest)

theorem lines_append_end (cs : List α) :
    lines (cs ++ [lineFeed]) = lines cs ∨ lines (cs ++ [lineFeed]) = lines cs ++ [[]] := by
  rw [lines, lines]
  rcases unifyBreaks_append_end cs with same | more
  · exact .inl (by rw [same])
  · rw [more]
    exact linesFrom_append_end [] (unifyBreaks cs)

/-- A text that starts with a break has an empty first line. -/
theorem linesFrom_unifyBreaks_of_break (ends : isLineBreak c = true) (begun rest : List α) :
    ∃ others, linesFrom begun (unifyBreaks (c :: rest)) = begun.reverse :: others := by
  cases carriage : isReturn c with
  | false =>
      rw [unifyBreaks_cons_of_plain carriage, linesFrom_cons_of_break ends]
      exact ⟨_, rfl⟩
  | true =>
      cases rest with
      | nil =>
          have alone : ([] : List α).head?.any isLineFeed = false := rfl
          rw [unifyBreaks_cons_of_single carriage alone,
            linesFrom_cons_of_break isLineBreak_lineFeed]
          exact ⟨_, rfl⟩
      | cons d rest =>
          have next : (d :: rest).head?.any isLineFeed = isLineFeed d := rfl
          cases paired : isLineFeed d with
          | true =>
              rw [unifyBreaks_cons_of_paired carriage (next.trans paired),
                unifyBreaks_cons_of_plain (isReturn_of_isLineFeed paired),
                linesFrom_cons_of_break (isLineBreak_of_isLineFeed paired)]
              exact ⟨_, rfl⟩
          | false =>
              rw [unifyBreaks_cons_of_single carriage (next.trans paired),
                linesFrom_cons_of_break isLineBreak_lineFeed]
              exact ⟨_, rfl⟩

theorem linesFrom_first (begun cs rest : List α) :
    ∃ others, linesFrom begun (unifyBreaks (cs ++ lineFeed :: rest)) =
      (begun.reverse ++ cs.takeWhile fun c => !isLineBreak c) :: others := by
  induction cs generalizing begun with
  | nil =>
      rw [List.takeWhile_nil, List.append_nil]
      exact linesFrom_unifyBreaks_of_break isLineBreak_lineFeed begun rest
  | cons c cs ih =>
      rw [List.cons_append]
      cases ends : isLineBreak c with
      | true =>
          have here : (c :: cs).takeWhile (fun c => !isLineBreak c) = [] := by simp [ends]
          rw [here, List.append_nil]
          exact linesFrom_unifyBreaks_of_break ends begun _
      | false =>
          have plain : isReturn c = false := by
            by_contra carriage
            cases ends.symm.trans (isLineBreak_of_isReturn (Bool.not_eq_false _ ▸ carriage))
          obtain ⟨others, read⟩ := ih (c :: begun)
          refine ⟨others, ?_⟩
          rw [unifyBreaks_cons_of_plain plain, linesFrom_cons_of_unbroken ends, read]
          simp [ends]

/-- The first line goes up to the first break, if not to the line feed. -/
theorem lines_first (cs rest : List α) :
    ∃ others, lines (cs ++ lineFeed :: rest) = (cs.takeWhile fun c => !isLineBreak c) :: others :=
  linesFrom_first [] cs rest

theorem linesFrom_of_unbroken (unbroken : ∀ c ∈ cs, isLineBreak c = false)
    (begun rest : List α) :
    linesFrom begun (cs ++ rest) = linesFrom (cs.reverse ++ begun) rest := by
  induction cs generalizing begun with
  | nil => rfl
  | cons c cs ih =>
      obtain ⟨goesOn, others⟩ := List.forall_mem_cons.1 unbroken
      rw [List.cons_append, linesFrom_cons_of_unbroken goesOn, ih others, List.reverse_cons,
        List.append_assoc]
      rfl

theorem isReturn_of_unbroken (unbroken : ∀ c ∈ cs, isLineBreak c = false) :
    ∀ c ∈ cs, isReturn c = false := by
  intro c member
  by_contra carriage
  cases (unbroken c member).symm.trans (isLineBreak_of_isReturn (Bool.not_eq_false _ ▸ carriage))

/-- A text without breaks is a line. -/
theorem lines_of_unbroken (unbroken : ∀ c ∈ cs, isLineBreak c = false) :
    lines (cs ++ [lineFeed]) = [cs] := by
  have plain : ∀ c ∈ cs ++ [lineFeed], isReturn c = false := by
    intro c member
    rcases List.mem_append.1 member with inside | last
    · exact isReturn_of_unbroken unbroken c inside
    · rw [List.mem_singleton.1 last]
      exact isReturn_lineFeed
  rw [lines, unifyBreaks_eq_self plain, linesFrom_of_unbroken unbroken,
    linesFrom_cons_of_break isLineBreak_lineFeed, List.append_nil, List.reverse_reverse]
  rfl

/-- It is a line even if nothing ends it, unless it is empty. -/
theorem lines_unended (filled : cs ≠ []) (unbroken : ∀ c ∈ cs, isLineBreak c = false) :
    lines cs = [cs] := by
  have read := linesFrom_of_unbroken unbroken [] []
  rw [List.append_nil, List.append_nil, linesFrom, List.reverse_reverse] at read
  rw [lines, unifyBreaks_eq_self (isReturn_of_unbroken unbroken), read]
  simp [filled]

/-- The lines of a text are the same before and after its carriage returns are unified. -/
theorem lines_unifyBreaks (cs : List α) : lines (unifyBreaks cs) = lines cs := by
  rw [lines, lines, unifyBreaks_eq_self fun c => isReturn_of_mem_unifyBreaks]

/-! ## Blanks -/

theorem isBlank_of_isLineBreak (ends : isLineBreak c = true) : isBlank c = true := by
  have each : ∀ code ∈ [0x0A, 0x0B, 0x0C, 0x0D, 0x1C, 0x1D, 0x1E, 0x85, 0x2028, 0x2029],
      within blankRanges code = true := by
    decide
  exact each (code c) (List.contains_iff_mem.1 ends)

/-- Blanks are taken from behind the last character that is none. -/
theorem trimRight_append_cons (solid : isBlank c = false) (before behind : List α) :
    trimRight (before ++ c :: behind) = before ++ c :: trimRight behind := by
  have reversed : (before ++ c :: behind).reverse = behind.reverse ++ c :: before.reverse := by simp
  rw [trimRight, trimRight, reversed, List.dropWhile_append]
  split
  · next all =>
    rw [List.isEmpty_iff.1 all, List.dropWhile_cons_of_neg (by simp [solid])]
    simp
  · simp

theorem trimRight_append_blanks {blanks : List α} (each : ∀ c ∈ blanks, isBlank c = true)
    (cs : List α) : trimRight (cs ++ blanks) = trimRight cs := by
  have behind : ∀ c ∈ blanks.reverse, isBlank c = true :=
    fun c member => each c (List.mem_reverse.1 member)
  rw [trimRight, trimRight, List.reverse_append, List.dropWhile_append_of_pos behind]

theorem trim_append_blanks {blanks : List α} (each : ∀ c ∈ blanks, isBlank c = true)
    (cs : List α) : trim (cs ++ blanks) = trim cs := by
  rw [trim, trim, trimLeft, trimLeft, List.dropWhile_append]
  split
  · next all => rw [List.isEmpty_iff.1 all, List.dropWhile_eq_nil_iff.2 each]
  · exact trimRight_append_blanks each _

end CodeMetrics.Text
