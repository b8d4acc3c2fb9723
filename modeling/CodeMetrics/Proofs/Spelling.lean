import Mathlib.Tactic.SplitIfs
import CodeMetrics.Proofs.Reader
import CodeMetrics.Report.Json

/-!
# Texts in documents

A character is spelled as it is, by a letter behind a backslash, or by the numbers of its UTF-16
units. Each spelling is read as the character, whatever is behind it, so a text is read back up to
the quote that closes it. No character has half a pair as its unit, for these are no code points of
characters.

Results:
1. `unit?_hexDigits`: the number of a unit is read back.
2. `spells_escape`: each character is spelled.
3. `readText_escape`: texts are read back.
-/

namespace CodeMetrics.Report.Json

open Text (hexChar hexDigits hexValue hexValue?)

/-! ## Units -/

theorem hexValue?_hexChar : ∀ value : Fin 16, hexValue? (hexChar value) = some value.val := by
  decide

theorem unit?_hexDigits {n : Nat} (fits : n < 0x10000) : unit? (hexDigits 4 n) = some n := by
  have digit (k : Nat) : hexValue? (hexChar (n / Nat.pow 16 k % 16)) =
      some (n / Nat.pow 16 k % 16) :=
    hexValue?_hexChar ⟨n / Nat.pow 16 k % 16, Nat.mod_lt _ (by decide)⟩
  have digits : hexDigits 4 n = [3, 2, 1, 0].map fun k => hexChar (n / Nat.pow 16 k % 16) := rfl
  have valid : (hexDigits 4 n).all fun c => (hexValue? c).isSome := by
    rw [digits]
    simp only [List.all_map, List.all_eq_true, Function.comp, digit, Option.isSome_some,
      implies_true]
  have value : hexValue (hexDigits 4 n) = n := by
    rw [digits, hexValue, List.filterMap_map]
    have values : (hexValue? ∘ fun k => hexChar (n / Nat.pow 16 k % 16)) =
        fun k => some (n / Nat.pow 16 k % 16) := funext digit
    rw [values]
    simp only [List.filterMap_cons, List.filterMap_nil, List.foldl_cons, List.foldl_nil,
      Nat.pow_eq]
    omega
  rw [unit?, if_pos valid, value]

theorem readParts_unit {n : Nat} (fits : n < 0x10000) (rest : List Char) :
    readParts (unit n ++ rest) =
      (readParts rest).map fun found => (.unit n :: found.1, found.2) := by
  have digits : unit n ++ rest = '\\' :: 'u' :: (hexDigits 4 n ++ rest) := rfl
  have spread : hexDigits 4 n ++ rest = hexChar (n / Nat.pow 16 3 % 16) ::
    hexChar (n / Nat.pow 16 2 % 16) :: hexChar (n / Nat.pow 16 1 % 16) ::
    hexChar (n / Nat.pow 16 0 % 16) :: rest := rfl
  have number := unit?_hexDigits fits
  simp only [hexDigits] at number
  rw [digits, spread, readParts, number]
  cases readParts rest <;> rfl

/-! ## Characters -/

/-- The text is read as the character, whatever is behind it. -/
def Spells (cs : List Char) (c : Char) : Prop :=
  ∃ parts, (∀ rest, readParts (cs ++ rest) =
      (readParts rest).map fun found => (parts ++ found.1, found.2)) ∧
    ∀ more, joinParts (parts ++ more) = (joinParts more).map (c :: ·)

theorem spells_plain {c : Char} (quote : c ≠ '\x22') (backslash : c ≠ '\\')
    (printed : 0x20 ≤ c.toNat) : Spells [c] c := by
  refine ⟨[.char c], fun rest => ?_, fun more => rfl⟩
  have known : ¬ (c = '\\' ∨ c.toNat < 0x20) := not_or.2 ⟨backslash, Nat.not_lt.2 printed⟩
  rw [List.singleton_append, readParts, if_neg known]
  · cases readParts rest <;> rfl
  · exact quote
  · intros
    contradiction
  · intros
    contradiction

theorem spells_unit {c : Char} (fits : c.toNat < 0x10000) : Spells (unit c.toNat) c := by
  refine ⟨[.unit c.toNat], readParts_unit fits, fun more => ?_⟩
  have range := c.valid
  have noHigh : isHigh c.toNat = false := by
    simp only [isHigh, Bool.and_eq_false_iff, decide_eq_false_iff_not]
    unfold Char.toNat
    rcases range with low | high <;> omega
  have noLow : isLow c.toNat = false := by
    simp only [isLow, Bool.and_eq_false_iff, decide_eq_false_iff_not]
    unfold Char.toNat
    rcases range with low | high <;> omega
  rw [List.singleton_append, joinParts.eq_def]
  dsimp only
  rw [noHigh, noLow, Char.ofNat_toNat]
  rfl

theorem spells_pair {c : Char} (beyond : 0x10000 ≤ c.toNat) :
    Spells (unit (0xD800 + (c.toNat - 0x10000) / 1024) ++
      unit (0xDC00 + (c.toNat - 0x10000) % 1024)) c := by
  have range : c.toNat < 0x110000 := by
    rcases c.valid with low | high <;> unfold Char.toNat at * <;> omega
  generalize high : 0xD800 + (c.toNat - 0x10000) / 1024 = m
  generalize low : 0xDC00 + (c.toNat - 0x10000) % 1024 = n
  refine ⟨[.unit m, .unit n], fun rest => ?_, fun more => ?_⟩
  · rw [List.append_assoc, readParts_unit (by omega), readParts_unit (by omega)]
    cases readParts rest <;> rfl
  · have isHigh : isHigh m = true := by
      simp only [isHigh, Bool.and_eq_true, decide_eq_true_eq]
      omega
    have isLow : isLow n = true := by
      simp only [isLow, Bool.and_eq_true, decide_eq_true_eq]
      omega
    have code : 0x10000 + 1024 * (m - 0xD800) + (n - 0xDC00) = c.toNat := by omega
    show joinParts (.unit m :: .unit n :: more) = _
    rw [joinParts, if_pos isHigh, if_pos isLow, paired, code, Char.ofNat_toNat]

/-- A character behind a backslash is read as what it stands for. -/
theorem spells_escaped {c meant : Char} (read : ∀ rest, readParts ('\\' :: c :: rest) =
    (readParts rest).map fun found => (.char meant :: found.1, found.2)) :
    Spells ['\\', c] meant :=
  ⟨[.char meant], read, fun _ => rfl⟩

theorem spells_escape (c : Char) : Spells (escape c) c := by
  have read {c meant : Char} (different : c ≠ 'u') (known : escaped? c = some meant)
      (rest : List Char) : readParts ('\\' :: c :: rest) =
        (readParts rest).map fun found => (.char meant :: found.1, found.2) := by
    rw [readParts, known]
    · cases readParts rest <;> rfl
    · intros
      contradiction
  rw [escape]
  split_ifs with special newline carriage tab back feed ascii fits
  · rcases special with rfl | rfl
    · exact spells_escaped (read (by decide) rfl)
    · exact spells_escaped (read (by decide) rfl)
  · exact newline ▸ spells_escaped (read (by decide) rfl)
  · exact carriage ▸ spells_escaped (read (by decide) rfl)
  · exact tab ▸ spells_escaped (read (by decide) rfl)
  · exact back ▸ spells_escaped (read (by decide) rfl)
  · exact feed ▸ spells_escaped (read (by decide) rfl)
  · exact spells_plain (fun quote => special (.inl quote)) (fun backslash =>
      special (.inr backslash)) ascii.1
  · exact spells_unit fits
  · exact spells_pair (Nat.le_of_not_lt fits)

/-! ## Texts -/

theorem readParts_escape (cs rest : List Char) :
    ∃ parts, readParts (cs.flatMap escape ++ '\x22' :: rest) = some (parts, rest) ∧
      joinParts parts = some cs := by
  induction cs with
  | nil => exact ⟨[], rfl, rfl⟩
  | cons c cs ih =>
      obtain ⟨parts, read, joined⟩ := ih
      obtain ⟨front, readFront, joinedFront⟩ := spells_escape c
      refine ⟨front ++ parts, ?_, ?_⟩
      · rw [List.flatMap_cons, List.append_assoc, readFront, read]
        rfl
      · rw [joinedFront, joined]
        rfl

/-- A text is read back, up to its closing quote. -/
theorem readText_escape (s : String) (rest : List Char) :
    readText (s.toList.flatMap escape ++ '\x22' :: rest) = some (s, rest) := by
  obtain ⟨parts, read, joined⟩ := readParts_escape s.toList rest
  rw [readText, read]
  show (joinParts parts >>= fun meant => some (String.ofList meant, rest)) = _
  rw [joined]
  show some (String.ofList s.toList, rest) = _
  rw [String.ofList_toList]

end CodeMetrics.Report.Json
