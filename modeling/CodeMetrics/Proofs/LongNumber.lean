import Mathlib.Algebra.Group.Nat.Defs
import CodeMetrics.Proofs.Digits
import CodeMetrics.Text.Encoding
import CodeMetrics.Toml.Document

/-!
# Numbers that are too long

Only so many digits of an integer are read. A document in which one has more is not read at all, and
this is told apart from what no document can have. To the base 16 any number of digits is read, even
if the integer has too many digits to be written.

Results:
1. `Text.Encoding.decodeFrom_ascii`: bytes that are characters each.
2. `Number.readInteger_ones`: a number of too many ones.
3. `ten_pow_le_sixteenOnes`: the size of a number of ones to the base 16.
4. `Toml.read_precision`, `Toml.read_workers`: documents with such numbers.
-/

namespace CodeMetrics

/-- A number of so many ones, as it is written. -/
def ones (n : Nat) : List Char := List.replicate n '1'

theorem ones_succ (n : Nat) : ones (n + 1) = '1' :: ones n := rfl

theorem ones_ne {c : Char} (other : c ≠ '1') (n : Nat) (rest : List Char) :
    ones n = c :: rest → False := by
  intro equal
  have member : c ∈ ones n := equal ▸ List.mem_cons_self
  exact other (List.eq_of_mem_replicate member)

/-! ## Bytes -/

/-- Bytes below 128 are a character each. -/
theorem Text.Encoding.decodeFrom_ascii {bytes : List UInt8} (ascii : ∀ b ∈ bytes, b.toNat < 0x80)
    (position : Nat) :
    decodeFrom .utf8 position bytes = .ok (bytes.map fun b => Char.ofNat b.toNat) := by
  induction bytes generalizing position with
  | nil =>
      rw [decodeFrom]
      rfl
  | cons b rest ih =>
      have single : step .utf8 b rest = .char (Char.ofNat b.toNat) 1 :=
        if_pos (ascii b List.mem_cons_self)
      rw [decodeFrom, single]
      dsimp only
      rw [Nat.sub_self, List.drop_zero, ih fun c member => ascii c (List.mem_cons_of_mem b member)]
      rfl

/-- A number of ones behind such bytes. -/
theorem Text.Encoding.decode_ones {text : String}
    (ascii : text.toUTF8.toList.all (fun b => b.toNat < 0x80) = true)
    (spelled : (text.toUTF8.toList.map fun b => Char.ofNat b.toNat) = text.toList) (n : Nat) :
    decode .utf8 (text.toUTF8.toList ++ List.replicate n 0x31) = .ok (text.toList ++ ones n) := by
  have each : ∀ b ∈ text.toUTF8.toList ++ List.replicate n 0x31, b.toNat < 0x80 := by
    intro b member
    rcases List.mem_append.1 member with before | digit
    · exact of_decide_eq_true (List.all_eq_true.1 ascii b before)
    · rw [List.eq_of_mem_replicate digit]
      decide
  change decodeFrom .utf8 0 _ = _
  rw [decodeFrom_ascii each, List.map_append, spelled, List.map_replicate]
  rfl

/-! ## Integers -/

namespace Number

theorem spanDigits_ones (n : Nat) : spanDigits (ones n) = (List.replicate n 1, []) := by
  have one : Text.digit? '1' = some 1 := by decide
  have digits : ∀ c ∈ ones n, c.isDigit = true := fun c member =>
    List.eq_of_mem_replicate member ▸ rfl
  rw [spanDigits_eq digits, ones, List.filterMap_replicate_of_some one]

theorem readInteger_ones {n : Nat} (long : digitLimit < n) :
    readInteger (ones n) = .error (.tooManyDigits n) := by
  have margin : isMargin '1' = false := by decide
  have trimmed : trimMargin (ones n) = ones n := by
    simp [trimMargin, ones, margin]
  obtain ⟨m, rfl⟩ : ∃ m, n = m + 1 := ⟨n - 1, by omega⟩
  have unsigned : spanSign (ones (m + 1)) = (false, ones (m + 1)) := rfl
  rw [readInteger, trimmed, unsigned]
  dsimp only
  rw [spanDigits_ones]
  dsimp only [List.replicate]
  rw [List.length_cons, List.length_replicate, if_pos long]

end Number

/-- The number of so many ones to the base 16. -/
def sixteenOnes (n : Nat) : Nat :=
  (List.replicate n 1).foldl (fun value digit => 16 * value + digit) 0

theorem sixteenOnes_succ (n : Nat) : sixteenOnes (n + 1) = 16 * sixteenOnes n + 1 := by
  rw [sixteenOnes, List.replicate_succ', List.foldl_append]
  rfl

theorem pow_le_sixteenOnes (n : Nat) : 16 ^ n ≤ sixteenOnes (n + 1) := by
  induction n with
  | zero => decide
  | succ n ih =>
      rw [sixteenOnes_succ, Nat.pow_succ]
      omega

/-- Five digits to the base 16 hold more than six decimal ones. -/
theorem ten_pow_le_sixteenOnes {digits k n : Nat} (fits : digits ≤ 6 * k) (long : 5 * k ≤ n) :
    10 ^ digits ≤ sixteenOnes (n + 1) := calc
  10 ^ digits ≤ 10 ^ (6 * k) := Nat.pow_le_pow_right (by decide) fits
  _ = (10 ^ 6) ^ k := Nat.pow_mul 10 6 k
  _ ≤ (16 ^ 5) ^ k := Nat.pow_le_pow_left (by decide) k
  _ = 16 ^ (5 * k) := (Nat.pow_mul 16 5 k).symm
  _ ≤ 16 ^ n := Nat.pow_le_pow_right (by decide) long
  _ ≤ sixteenOnes (n + 1) := pow_le_sixteenOnes n

/-! ## Documents -/

namespace Toml

theorem digits_ones {isDigit : Char → Bool} (one : isDigit '1' = true) (n : Nat) :
    digits isDigit (ones n) = (ones n, []) := by
  induction n with
  | zero => rfl
  | succ n ih =>
      cases n with
      | zero =>
          show (if isDigit '1' then _ else _) = _
          rw [if_pos one]
          rfl
      | succ n =>
          rw [ones_succ, ones_succ, digits, if_pos one, ← ones_succ, ih]
          simp

theorem decimal?_ones {n : Nat} (long : Number.digitLimit < n) :
    decimal? [] (ones n) = some (.error (.tooManyDigits n)) := by
  obtain ⟨m, rfl⟩ : ∃ m, n = m + 1 := ⟨n - 1, by omega⟩
  have whole : integerPart (ones (m + 1)) = (ones (m + 1), []) :=
    digits_ones (by decide) (m + 1)
  have noFraction : fraction [] = ([], []) := rfl
  have noExponent : exponent [] = ([], []) := rfl
  rw [decimal?, whole, ones_succ]
  dsimp only
  rw [noFraction, noExponent]
  simp only [List.nil_append, List.append_nil, List.isEmpty_nil, Bool.and_self, if_true]
  rw [← ones_succ, Number.readInteger_ones long]

theorem number?_ones {n : Nat} (long : Number.digitLimit < n) :
    number? (ones n) = some (.error (.tooManyDigits n)) := by
  rw [number?, decimal?_ones long]
  · exact fun rest => ones_ne (by decide) n rest
  · exact fun rest => ones_ne (by decide) n rest
  · exact fun rest => ones_ne (by decide) n rest

/-- Behind a year there is no month. -/
theorem moment?_ones (n : Nat) : moment? (ones (n + 5)) = none := by
  have noDate : date? (ones (n + 5)) = none := rfl
  have noClock : clock? (ones (n + 5)) = none := rfl
  rw [moment?, noDate]
  dsimp only
  rw [noClock]
  rfl

theorem value_ones {n : Nat} (long : Number.digitLimit < n) (fuel : Nat) :
    value (fuel + 1) (ones n) = .error (.tooManyDigits n) := by
  obtain ⟨m, rfl⟩ : ∃ m, n = m + 5 := ⟨n - 5, by rw [Number.digitLimit] at long; omega⟩
  have noString : string? (ones (m + 5)) = none := rfl
  rw [value, noString]
  · dsimp only
    rw [moment?_ones, number?_ones long]
  · exact fun rest => ones_ne (by decide) _ _
  · exact fun rest => ones_ne (by decide) _ _
  · exact fun rest => ones_ne (by decide) _ rest
  · exact fun rest => ones_ne (by decide) _ rest

theorem based?_ones (n : Nat) :
    based? ('x' :: ones (n + 1)) = some (.ofNat (sixteenOnes (n + 1)), []) := by
  have values : (ones (n + 1)).filterMap Text.hexValue? = List.replicate (n + 1) 1 :=
    List.filterMap_replicate_of_some (by decide)
  rw [based?.eq_def]
  dsimp only
  rw [if_pos rfl, digits_ones (by decide)]
  show some (Int.ofNat (((ones (n + 1)).filterMap Text.hexValue?).foldl _ 0), _) = _
  rw [values]
  rfl

theorem value_sixteenOnes (fuel n : Nat) :
    value (fuel + 1) ('0' :: 'x' :: ones (n + 1)) =
      .ok (.int (.ofNat (sixteenOnes (n + 1))), []) := by
  have noString : string? ('0' :: 'x' :: ones (n + 1)) = none := rfl
  have noMoment : moment? ('0' :: 'x' :: ones (n + 1)) = none := rfl
  have number : number? ('0' :: 'x' :: ones (n + 1)) =
      some (.ok (.int (.ofNat (sixteenOnes (n + 1))), [])) := by
    simp only [number?, based?_ones]
  rw [value, noString]
  · dsimp only
    rw [noMoment, number]
  all_goals exact fun rest => nofun

theorem dropReturns_eq_self {cs : List Char} (plain : '\r' ∉ cs) : dropReturns cs = cs := by
  fun_induction dropReturns cs with
  | case1 rest ih => exact absurd List.mem_cons_self plain
  | case2 c rest pair ih => rw [ih fun member => plain (List.mem_cons_of_mem c member)]
  | case3 => rfl

/-- What is read of a document with one statement. -/
theorem read_of_statement {c : Char} {cs : List Char} {outcome : Except Error Document}
    (plain : '\r' ∉ c :: cs) (noBlank : isBlank c = false) (noBreak : c ≠ '\n')
    (stated : Document.empty.statement (c :: cs) = outcome.map (·, [])) :
    Toml.read (c :: cs) = outcome.map Document.table := by
  have started : skipBlanks (c :: cs) = c :: cs := List.dropWhile_cons_of_neg (by simp [noBlank])
  rw [Toml.read, dropReturns_eq_self plain, List.length_cons, Document.read.eq_def, started]
  split
  · next empty => cases empty
  · next other _ => cases other
  · next first =>
    cases first
    exact absurd rfl noBreak
  · rw [stated]
    cases outcome <;> rfl

/-- A document in which a number is too long is not read. -/
theorem read_precision {n : Nat} (long : Number.digitLimit < n) :
    Toml.read ("precision = ".toList ++ ones n) = .error (.tooManyDigits n) := by
  have named : key ("precision = ".toList ++ ones n) =
      .ok (["precision"], '=' :: ' ' :: ones n) := rfl
  have blank : skipBlanks (' ' :: ones n) = ones n := by
    cases n <;> rfl
  have stated : Document.empty.statement ("precision = ".toList ++ ones n) =
      .error (.tooManyDigits n) := by
    show Document.empty.keyValue ("precision = ".toList ++ ones n) = _
    rw [Document.keyValue, named]
    show (value _ (skipBlanks (' ' :: ones n)) >>= _) = _
    rw [blank, value_ones long]
    rfl
  have plain : '\r' ∉ "precision = ".toList ++ ones n := by simp [ones]
  exact @read_of_statement _ _ (.error _) plain rfl (by decide) stated

/-- To the base 16 it is read, whatever its length. -/
theorem read_workers (n : Nat) :
    Toml.read ("workers = 0x".toList ++ ones (n + 1)) =
      .ok [("workers", .int (.ofNat (sixteenOnes (n + 1))))] := by
  have named : key ("workers = 0x".toList ++ ones (n + 1)) =
      .ok (["workers"], '=' :: ' ' :: '0' :: 'x' :: ones (n + 1)) := rfl
  have stated : Document.empty.statement ("workers = 0x".toList ++ ones (n + 1)) =
      .ok ({ Document.empty with
        table := [("workers", .int (.ofNat (sixteenOnes (n + 1))))] }, []) := by
    show Document.empty.keyValue ("workers = 0x".toList ++ ones (n + 1)) = _
    rw [Document.keyValue, named]
    show (value _ ('0' :: 'x' :: ones (n + 1)) >>= _) = _
    rw [value_sixteenOnes]
    rfl
  have plain : '\r' ∉ "workers = 0x".toList ++ ones (n + 1) := by simp [ones]
  exact @read_of_statement _ _ (.ok _) plain rfl (by decide) stated

end Toml

end CodeMetrics
