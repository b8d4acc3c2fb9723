import Mathlib.Data.List.Basic
import Mathlib.Data.List.Induction
import Mathlib.Data.Nat.Digits.Defs
import CodeMetrics.Number.Literal

/-!
# Digits

Numbers are written with the digits of one script, and read with those of any. What is written is
read back, and what is read is no greater than the number of its digits allows.

Results:
1. `Text.valueOf_digitsOf`: the digits of a number are read as the number.
2. `Text.valueOf_append`: digits that follow each other.
3. `Text.valueOf_filterMap_lt`: a bound on what is read.
4. `Number.spanDigits_append`: the digits at the start.
-/

namespace CodeMetrics

namespace Number

theorem digitsOf_ne_nil (n : Nat) : digitsOf n ≠ [] := Nat.toDigits_ne_nil

theorem isDigit_of_mem_digitsOf {n : Nat} {c : Char} (member : c ∈ digitsOf n) :
    c.isDigit = true :=
  Nat.isDigit_of_mem_toDigits (by decide) (by decide) member

end Number

namespace Text

theorem digit?_of_isDigit {c : Char} (digit : c.isDigit = true) :
    digit? c = some (c.toNat - '0'.toNat) := by
  have range := Char.isDigit_iff_toNat.1 digit
  have first : digitZeros.find? (fun start => start ≤ c.toNat && c.toNat ≤ start + 9) =
      some '0'.toNat := by
    refine List.find?_cons_of_pos ?_
    rw [Bool.and_eq_true, decide_eq_true_eq, decide_eq_true_eq]
    exact range
  rw [digit?, first]
  rfl

/-- The digits of a number are read as the number. -/
theorem valueOf_digitsOf (n : Nat) :
    valueOf ((Number.digitsOf n).filterMap digit?) = n := by
  have values : (Number.digitsOf n).filterMap digit? =
      (Number.digitsOf n).map fun c => c.toNat - '0'.toNat := by
    rw [← List.filterMap_eq_map']
    exact List.filterMap_congr fun c member =>
      digit?_of_isDigit (Number.isDigit_of_mem_digitsOf member)
  rw [values, valueOf, List.foldl_map, ← Nat.ofDigitChars_eq_foldl]
  exact Nat.ofDigitChars_ten_toDigits

theorem filterMap_digit?_length {cs : List Char} (digits : ∀ c ∈ cs, c.isDigit = true) :
    (cs.filterMap digit?).length = cs.length := by
  rw [List.length_filterMap_eq_countP, List.countP_eq_length]
  intro c member
  rw [digit?_of_isDigit (digits c member)]
  rfl

theorem digit?_le {c : Char} {digit : Nat} (found : digit? c = some digit) : digit ≤ 9 := by
  obtain ⟨start, first, rfl⟩ := Option.map_eq_some_iff.1 found
  have range := List.find?_some first
  simp only [Bool.and_eq_true, decide_eq_true_eq] at range
  omega

theorem valueOf_append_singleton (digits : List Nat) (last : Nat) :
    valueOf (digits ++ [last]) = 10 * valueOf digits + last := by
  rw [valueOf, List.foldl_append, valueOf]
  rfl

/-- The value of digits is what their places add up to. -/
theorem valueOf_eq_ofDigits (digits : List Nat) :
    valueOf digits = Nat.ofDigits 10 digits.reverse := by
  induction digits using List.reverseRecOn with
  | nil => rfl
  | append_singleton digits last ih =>
      rw [valueOf_append_singleton, ih, List.reverse_append, List.reverse_singleton,
        List.singleton_append, Nat.ofDigits_cons, Nat.add_comm]

theorem valueOf_append (digits others : List Nat) :
    valueOf (digits ++ others) = valueOf digits * 10 ^ others.length + valueOf others := by
  rw [valueOf_eq_ofDigits, valueOf_eq_ofDigits, valueOf_eq_ofDigits, List.reverse_append,
    Nat.ofDigits_append, List.length_reverse, Nat.add_comm, Nat.mul_comm]

theorem valueOf_replicate_zero (n : Nat) : valueOf (List.replicate n 0) = 0 := by
  induction n with
  | zero => rfl
  | succ n ih => rw [List.replicate_succ', valueOf_append_singleton, ih]

theorem valueOf_lt {digits : List Nat} (decimal : ∀ digit ∈ digits, digit ≤ 9) :
    valueOf digits < 10 ^ digits.length := by
  induction digits using List.reverseRecOn with
  | nil => decide
  | append_singleton digits last ih =>
      have small := decimal last (List.mem_append_right digits List.mem_cons_self)
      have shorter := ih fun digit member => decimal digit (List.mem_append_left [last] member)
      rw [valueOf_append_singleton, List.length_append, List.length_singleton, Nat.pow_succ]
      omega

/-- What is read has no more digits than there are characters. -/
theorem valueOf_filterMap_lt (cs : List Char) :
    valueOf (cs.filterMap digit?) < 10 ^ cs.length := by
  calc valueOf (cs.filterMap digit?)
      < 10 ^ (cs.filterMap digit?).length := valueOf_lt fun digit member => by
        obtain ⟨c, -, found⟩ := List.mem_filterMap.1 member
        exact digit?_le found
    _ ≤ 10 ^ cs.length := Nat.pow_le_pow_right (by decide) (List.length_filterMap_le _ _)

end Text

namespace Number

/-! ## Digits in front -/

variable {cs rest : List Char}

/-- Digits are passed over up to what is no digit and no underscore. -/
theorem spanDigits_append (digits : ∀ c ∈ cs, c.isDigit = true)
    (behind : ∀ c ∈ rest.head?, Text.digit? c = none ∧ c ≠ '_') :
    spanDigits (cs ++ rest) = (cs.filterMap Text.digit?, rest) := by
  induction cs with
  | nil =>
      cases rest with
      | nil => rw [List.append_nil, spanDigits]; rfl
      | cons c rest =>
          rw [List.nil_append, spanDigits, (behind c rfl).1]
          rfl
  | cons c cs ih =>
      have digit := Text.digit?_of_isDigit (digits c List.mem_cons_self)
      have others := ih fun d member => digits d (List.mem_cons_of_mem c member)
      rw [List.filterMap_cons_some digit, List.cons_append, spanDigits, digit]
      dsimp only
      split
      · next ended =>
        obtain ⟨rfl, rfl⟩ := List.append_eq_nil_iff.1 ended
        rfl
      · next front =>
        -- What stands next is a digit, or stands behind all of them.
        cases cs with
        | nil => exact absurd rfl (behind '_' (congrArg List.head? front)).2
        | cons d cs =>
            obtain ⟨rfl, -⟩ := List.cons.inj front
            cases digits '_' (List.mem_cons_of_mem c List.mem_cons_self)
      · rw [others]

theorem spanDigits_eq (digits : ∀ c ∈ cs, c.isDigit = true) :
    spanDigits cs = (cs.filterMap Text.digit?, []) := by
  have behind : ∀ c ∈ ([] : List Char).head?, Text.digit? c = none ∧ c ≠ '_' := nofun
  simpa using spanDigits_append digits behind

end Number

end CodeMetrics
