import CodeMetrics.Number.Literal
import CodeMetrics.Proofs.Deriving
import CodeMetrics.Proofs.Rounding

/-!
# Numbers that are read back

What an integer is written as is read as the same integer, as long as it has no more digits than are
read. What a double is written as is read as the same double, though only so many of its digits are
written: the decimal that is written is near to it, in each of its forms the text has the value of
the decimal, and what is near to a double is rounded to it. Nothing that a number is written with is
blank or an underscore, so that the margins are left alone and the digits are passed over in one
run.

Results:
1. `trimMargin_eq_self`, `spanSign_of_isDigit`: the parts of a number.
2. `readInteger_integerText`: integers are read back.
3. `readsAs_text`: decimals are read with the value they have.
4. `readReal?_shortText`: doubles are read back.
-/

namespace CodeMetrics.Number

open Text (digit? valueOf)
open Report.Json (IsDigits IsExponent isWordChar isDigits_digitsOf isDigit_of_mem_zeros
  isExponent_exponentText isWhole_zero isLiteral_integerText isLiteral_shortText)

variable {cs rest : List Char}

/-! ## Parts of a number -/

/-- Nothing that a number is written with is blank. -/
theorem isMargin_of_isWordChar {c : Char} (word : isWordChar c = true) : isMargin c = false := by
  have range : 0x21 ≤ c.toNat ∧ c.toNat < 0x80 := by
    simp only [isWordChar, Bool.or_eq_true, decide_eq_true_eq] at word
    rcases word with ((letter | rfl) | rfl) | rfl
    · change (((decide (0x41 ≤ c.val ∧ c.val ≤ 0x5A)) || (0x61 ≤ c.val && c.val ≤ 0x7A)) ||
        (0x30 ≤ c.val && c.val ≤ 0x39)) = true at letter
      simp only [Bool.or_eq_true, Bool.and_eq_true, decide_eq_true_eq,
        UInt32.le_iff_toNat_le] at letter
      rcases letter with (upper | lower) | digit
      · exact ⟨Nat.le_trans (by decide) upper.1, Nat.lt_of_le_of_lt upper.2 (by decide)⟩
      · exact ⟨Nat.le_trans (by decide) lower.1, Nat.lt_of_le_of_lt lower.2 (by decide)⟩
      · exact ⟨Nat.le_trans (by decide) digit.1, Nat.lt_of_le_of_lt digit.2 (by decide)⟩
    · decide
    · decide
    · decide
  have notBlank : Text.isBlank c = false := by
    simp only [Text.isBlank, Text.within, Text.blankRanges, List.any_cons, List.any_nil]
    simp
    omega
  rw [isMargin, notBlank, Bool.false_and]

theorem trimMargin_eq_self (word : ∀ c ∈ cs, isWordChar c = true) : trimMargin cs = cs := by
  have kept {cs : List Char} (word : ∀ c ∈ cs, isWordChar c = true) :
      cs.dropWhile isMargin = cs := by
    cases cs with
    | nil => rfl
    | cons c cs =>
        have solid := isMargin_of_isWordChar (word c List.mem_cons_self)
        exact List.dropWhile_cons_of_neg (Bool.eq_false_iff.1 solid)
  rw [trimMargin, kept word, kept fun c member => word c (List.mem_reverse.1 member),
    List.reverse_reverse]

theorem spanSign_of_isDigit {c : Char} (digit : c.isDigit = true) :
    spanSign (c :: cs) = (false, c :: cs) := by
  rw [spanSign]
  · rintro _ ⟨⟩
    cases digit
  · rintro _ ⟨⟩
    cases digit

theorem filterMap_ne_nil (digits : IsDigits cs) : cs.filterMap digit? ≠ [] := by
  rw [ne_eq, ← List.length_eq_zero_iff, Text.filterMap_digit?_length digits.digit,
    List.length_eq_zero_iff]
  exact digits.nonempty

/-! ## Values of digits -/

theorem filterMap_zeros (n : Nat) : (zeros n).filterMap digit? = List.replicate n 0 := by
  have zero : digit? '0' = some 0 := by decide
  rw [zeros, List.filterMap_replicate_of_some zero]

/-- Zeros in front of a number do not count. -/
theorem valueOf_zeros_append (n : Nat) (cs : List Char) :
    valueOf ((zeros n ++ cs).filterMap digit?) = valueOf (cs.filterMap digit?) := by
  rw [List.filterMap_append, Text.valueOf_append, filterMap_zeros, Text.valueOf_replicate_zero]
  omega

/-- Zeros behind a number multiply it. -/
theorem valueOf_append_zeros (n : Nat) (cs : List Char) :
    valueOf ((cs ++ zeros n).filterMap digit?) = valueOf (cs.filterMap digit?) * 10 ^ n := by
  rw [List.filterMap_append, Text.valueOf_append, filterMap_zeros, Text.valueOf_replicate_zero,
    List.length_replicate, Nat.add_zero]

/-! ## Integers -/

theorem readInteger_digitsOf {n : Nat} (short : n < 10 ^ digitLimit) {text : List Char}
    {negative : Bool} (signed : spanSign (trimMargin text) = (negative, digitsOf n)) :
    readInteger text = .ok (if negative then -(n : Int) else n) := by
  have isDigit : ∀ c ∈ digitsOf n, c.isDigit = true := fun _ => isDigit_of_mem_digitsOf
  have value := Text.valueOf_digitsOf n
  have few : ((digitsOf n).filterMap digit?).length ≤ digitLimit := by
    rw [Text.filterMap_digit?_length isDigit]
    exact Nat.toDigits_length 10 n digitLimit (by decide) short
  have nonempty := filterMap_ne_nil (Report.Json.isDigits_digitsOf n)
  rw [readInteger, signed]
  dsimp only
  rw [spanDigits_eq isDigit]
  generalize (digitsOf n).filterMap digit? = digits at value few nonempty
  obtain ⟨first, more, rfl⟩ := List.exists_cons_of_ne_nil nonempty
  dsimp only
  rw [if_neg (Nat.not_lt.2 few), value]
  rfl

/-- An integer that is written out is read back. -/
theorem readInteger_integerText {n : Int} (short : tooLong n = false) :
    readInteger (integerText n).toList = .ok n := by
  have bound : n.natAbs < 10 ^ digitLimit :=
    Nat.lt_of_not_le fun long => Bool.eq_false_iff.1 short (tooLong_iff.2 long)
  have trimmed := trimMargin_eq_self (isLiteral_integerText n).inside
  rw [integerText, String.toList_ofList] at trimmed ⊢
  by_cases negative : n < 0
  · rw [if_pos negative] at trimmed ⊢
    have signed : spanSign (trimMargin ('-' :: digitsOf n.natAbs)) = (true, digitsOf n.natAbs) := by
      rw [trimmed, spanSign]
    rw [readInteger_digitsOf bound signed, if_pos rfl]
    congr 1
    omega
  · rw [if_neg negative] at trimmed ⊢
    obtain ⟨c, more, front⟩ := List.exists_cons_of_ne_nil (digitsOf_ne_nil n.natAbs)
    have digit : c.isDigit = true := isDigit_of_mem_digitsOf (front ▸ List.mem_cons_self)
    have signed : spanSign (trimMargin (digitsOf n.natAbs)) = (false, digitsOf n.natAbs) := by
      rw [trimmed, front, spanSign_of_isDigit digit]
    rw [readInteger_digitsOf bound signed, if_neg Bool.false_ne_true]
    congr 1
    omega

/-! ## Exponents -/

/-- The mark of an exponent is no digit. -/
theorem behind_of_isExponent {exponent : List Char} (written : IsExponent exponent) :
    ∀ c ∈ exponent.head?, digit? c = none ∧ c ≠ '_' := by
  cases written with
  | none => nofun
  | plus | minus => exact fun c first => Option.some.inj first ▸ ⟨by decide, by decide⟩

theorem readExponent?_of_isDigits {text unsigned : List Char} {negative : Bool}
    (digits : IsDigits unsigned) (signed : spanSign text = (negative, unsigned)) :
    readExponent? ('e' :: text) = some (if negative then
      -(valueOf (unsigned.filterMap digit?) : Int) else valueOf (unsigned.filterMap digit?)) := by
  have nonempty := filterMap_ne_nil digits
  rw [readExponent?, if_pos (.inl rfl), signed]
  dsimp only
  rw [spanDigits_eq digits.digit]
  generalize unsigned.filterMap digit? = found at nonempty
  obtain ⟨first, more, rfl⟩ := List.exists_cons_of_ne_nil nonempty
  rfl

theorem readExponent?_exponentText (e : Int) :
    readExponent? ('e' :: exponentText e) = some e := by
  have digits : IsDigits (zeros (2 - (digitsOf e.natAbs).length) ++ digitsOf e.natAbs) :=
    (Report.Json.isDigits_digitsOf e.natAbs).append_left
      fun _ => Report.Json.isDigit_of_mem_zeros
  have value := valueOf_zeros_append (2 - (digitsOf e.natAbs).length) (digitsOf e.natAbs)
  rw [Text.valueOf_digitsOf] at value
  rw [exponentText]
  by_cases negative : e < 0
  · have signed : spanSign ('-' :: (zeros (2 - (digitsOf e.natAbs).length) ++
        digitsOf e.natAbs)) = (true, _) := rfl
    rw [if_pos negative, List.cons_append, readExponent?_of_isDigits digits signed, value,
      if_pos rfl]
    congr 1
    omega
  · have signed : spanSign ('+' :: (zeros (2 - (digitsOf e.natAbs).length) ++
        digitsOf e.natAbs)) = (false, _) := rfl
    rw [if_neg negative, List.cons_append, readExponent?_of_isDigits digits signed, value,
      if_neg Bool.false_ne_true]
    congr 1
    omega

/-! ## Decimals -/

variable {whole places exponent : List Char} {e : Int}

theorem readMagnitude?_whole (digits : IsDigits whole) (written : IsExponent exponent)
    (read : readExponent? exponent = some e) :
    readMagnitude? (whole ++ exponent) =
      some (ofDecimal (valueOf (whole.filterMap digit?)) e) := by
  have spanned := spanDigits_append digits.digit (behind_of_isExponent written)
  have nonempty : ¬ ((whole.filterMap digit?).isEmpty && ([] : List Nat).isEmpty) = true := by
    simpa using filterMap_ne_nil digits
  have parts : readMagnitude? (whole ++ exponent) = (readExponent? exponent).map fun shift =>
      ofDecimal (valueOf (whole.filterMap digit? ++ [])) (shift - ([] : List Nat).length) := by
    rw [readMagnitude?, spanned]
    cases written <;> exact if_neg nonempty
  rw [parts, read, Option.map_some, List.append_nil, List.length_nil, Nat.cast_zero, sub_zero]

theorem readMagnitude?_places (digits : IsDigits whole) (more : ∀ c ∈ places, c.isDigit = true)
    (written : IsExponent exponent) (read : readExponent? exponent = some e) :
    readMagnitude? (whole ++ '.' :: (places ++ exponent)) =
      some (ofDecimal (valueOf ((whole ++ places).filterMap digit?)) (e - places.length)) := by
  have point : ∀ c ∈ ('.' :: (places ++ exponent)).head?, digit? c = none ∧ c ≠ '_' :=
    fun c first => Option.some.inj first ▸ ⟨by decide, by decide⟩
  have nonempty (others : List Nat) :
      ¬ ((whole.filterMap digit?).isEmpty && others.isEmpty) = true := by
    simp [filterMap_ne_nil digits]
  have parts : readMagnitude? (whole ++ '.' :: (places ++ exponent)) =
      (readExponent? (spanDigits (places ++ exponent)).2).map fun shift =>
        ofDecimal (valueOf (whole.filterMap digit? ++ (spanDigits (places ++ exponent)).1))
          (shift - (spanDigits (places ++ exponent)).1.length) := by
    rw [readMagnitude?, spanDigits_append digits.digit point]
    exact if_neg (nonempty _)
  rw [parts, spanDigits_append more (behind_of_isExponent written), read, Option.map_some,
    ← List.filterMap_append, Text.filterMap_digit?_length more]

/-- A text is read as a decimal of some value. -/
def ReadsAs (text : List Char) (v : ℚ) : Prop :=
  ∃ digits e, readMagnitude? text = some (ofDecimal digits e) ∧ (digits * 10 ^ e : ℚ) = v

/-- Zeros between the digits and the point. -/
theorem readsAs_zeros_point (digits : IsDigits cs) (k : Nat) :
    ReadsAs (cs ++ zeros k ++ ['.', '0']) (valueOf (cs.filterMap digit?) * 10 ^ k) := by
  have more : ∀ c ∈ ['0'], c.isDigit = true := List.forall_mem_singleton.2 rfl
  have padded : cs ++ zeros k ++ ['0'] = cs ++ zeros (k + 1) := by
    rw [List.append_assoc, zeros, ← List.replicate_succ']
    rfl
  refine ⟨_, _, readMagnitude?_places (digits.append fun _ => isDigit_of_mem_zeros) more .none rfl,
    ?_⟩
  rw [padded, valueOf_append_zeros, List.length_singleton, Nat.cast_mul, Nat.cast_pow,
    Nat.cast_ofNat, pow_succ, Nat.cast_one, zero_sub, zpow_neg_one]
  ring

/-- A point among the digits. -/
theorem readsAs_point (digits : IsDigits cs) {k : Nat} (first : 0 < k) (last : k < cs.length) :
    ReadsAs (cs.take k ++ '.' :: cs.drop k)
      (valueOf (cs.filterMap digit?) * 10 ^ ((k : ℤ) - cs.length)) := by
  have front : IsDigits (cs.take k) :=
    ⟨List.ne_nil_of_length_pos (by rw [List.length_take]; omega),
      fun c member => digits.digit c (List.mem_of_mem_take member)⟩
  have more : ∀ c ∈ cs.drop k, c.isDigit = true :=
    fun c member => digits.digit c (List.mem_of_mem_drop member)
  have text : cs.take k ++ '.' :: cs.drop k = cs.take k ++ '.' :: (cs.drop k ++ []) := by
    rw [List.append_nil]
  have shift : 0 - ((cs.drop k).length : ℤ) = k - cs.length := by
    rw [List.length_drop]
    omega
  rw [text]
  refine ⟨_, _, readMagnitude?_places front more .none rfl, ?_⟩
  rw [List.take_append_drop, shift]

/-- Zeros between the point and the digits. -/
theorem readsAs_point_zeros (digits : IsDigits cs) (k : Nat) :
    ReadsAs ('0' :: '.' :: zeros k ++ cs)
      (valueOf (cs.filterMap digit?) * 10 ^ (-(k + cs.length : ℤ))) := by
  have more : IsDigits (zeros k ++ cs) := digits.append_left fun _ => isDigit_of_mem_zeros
  have text : '0' :: '.' :: zeros k ++ cs = ['0'] ++ '.' :: ((zeros k ++ cs) ++ []) := by
    rw [List.append_nil]
    rfl
  have padded : ['0'] ++ (zeros k ++ cs) = zeros (k + 1) ++ cs := rfl
  rw [text]
  refine ⟨_, _, readMagnitude?_places isWhole_zero.toIsDigits more.digit .none rfl, ?_⟩
  rw [padded, valueOf_zeros_append, List.length_append, zeros, List.length_replicate, zero_sub,
    Nat.cast_add]

/-- A point behind the first digit, and an exponent behind the others. -/
theorem readsAs_exponent {c : Char} (digits : IsDigits (c :: cs)) (leading : ℤ) :
    ReadsAs (c :: '.' :: cs ++ 'e' :: exponentText leading)
      (valueOf ((c :: cs).filterMap digit?) * 10 ^ (leading - cs.length)) := by
  have first : IsDigits [c] :=
    ⟨List.cons_ne_nil _ _, List.forall_mem_singleton.2 (digits.digit c List.mem_cons_self)⟩
  have more : ∀ e ∈ cs, e.isDigit = true :=
    fun e member => digits.digit e (List.mem_cons_of_mem c member)
  exact ⟨_, _, readMagnitude?_places first more (isExponent_exponentText leading)
    (readExponent?_exponentText leading), rfl⟩

/-- The text of a decimal is read as a decimal of the same value. -/
theorem readsAs_text (d : Decimal) : ReadsAs d.text d.value := by
  have digits := isDigits_digitsOf d.digits
  have value := Text.valueOf_digitsOf d.digits
  have size := List.length_pos_of_ne_nil digits.nonempty
  rw [Decimal.text, Decimal.value]
  dsimp only
  generalize digitsOf d.digits = cs at digits value size ⊢
  rw [← value]
  split
  · split
    · next nonneg =>
      have read := readsAs_zeros_point digits d.exponent.toNat
      rwa [← zpow_natCast, Int.toNat_of_nonneg nonneg] at read
    · next inside =>
      split
      · next below =>
        generalize point : (d.exponent + (cs.length : ℤ) - 1 + 1).toNat = k
        have shift : (k : ℤ) - cs.length = d.exponent := by omega
        exact shift ▸ readsAs_point digits (k := k) (by omega) (by omega)
      · next zero =>
        generalize padding : (-(d.exponent + (cs.length : ℤ) - 1) - 1).toNat = k
        have shift : -(k + cs.length : ℤ) = d.exponent := by omega
        exact shift ▸ readsAs_point_zeros digits k
  · obtain ⟨c, more, rfl⟩ := List.exists_cons_of_ne_nil digits.nonempty
    cases more with
    | nil =>
        refine ⟨_, _, readMagnitude?_whole digits (isExponent_exponentText _)
          (readExponent?_exponentText _), ?_⟩
        rw [List.length_singleton, Nat.cast_one, add_sub_cancel_right]
    | cons next more =>
        have shift : d.exponent + ((c :: next :: more).length : ℤ) - 1 -
            (next :: more).length = d.exponent := by
          simp only [List.length_cons]
          omega
        have read := readsAs_exponent digits (d.exponent + ((c :: next :: more).length : ℤ) - 1)
        rwa [shift] at read

/-! ## Doubles -/

/-- A digit is no letter. -/
theorem head?_lower {c : Char} (digit : c.isDigit = true) (cs : List Char) :
    (Text.lower (String.ofList (c :: cs))).toList.head? = some c := by
  have range := Char.isDigit_iff_toNat.1 digit
  have ascii : c.toNat < 0x80 := Nat.lt_of_le_of_lt range.2 (by decide)
  have small : c.toLower = c := by
    refine dif_neg fun capital => ?_
    have least : 0x41 ≤ c.toNat := UInt32.le_iff_toNat_le.1 capital.1
    have most : c.toNat ≤ 0x39 := range.2
    omega
  rw [Text.lower, String.toList_ofList, String.toList_ofList, Text.lowerFrom, Text.smallLetter,
    if_pos ascii, small]
  · rfl
  · rintro rfl
    cases digit
  · rintro rfl
    cases digit

theorem readReal?_of_isDigit {text : List Char} {negative : Bool} {c : Char}
    (digit : c.isDigit = true) (signed : spanSign (trimMargin text) = (negative, c :: cs)) :
    readReal? text =
      (readMagnitude? (c :: cs)).map fun x => if negative then -x else x := by
  have front := head?_lower digit cs
  rw [readReal?, signed]
  dsimp only
  split
  · next word =>
    rw [word] at front
    cases front
    cases digit
  · next word =>
    rw [word] at front
    cases front
    cases digit
  · next word =>
    rw [word] at front
    cases front
    cases digit
  · rfl

/-- The magnitude of a finite double is read back. -/
theorem readMagnitude?_magnitudeText {x : Float} (finite : x.isFinite = true) :
    readMagnitude? (Report.Json.magnitudeText (.ofFloat x)) = some (magnitude x) := by
  have described := describes_ofFloat finite
  rw [Report.Json.magnitudeText, magnitude]
  split
  · next zero =>
    have unsigned : x.toBits.toNat % signBit = 0 := by
      have exponent : (Binary.ofFloat x).exponent = -1074 := by
        by_contra normal
        cases zero ▸ described.normal normal
      rw [described.bits_eq, zero, exponent]
      rfl
    rw [unsigned]
    decide +kernel
  · next nonzero =>
    have positive := Nat.pos_of_ne_zero nonzero
    obtain ⟨digits, e, read, value⟩ := readsAs_text (Binary.ofFloat x).shortest
    rw [read, ofDecimal_of_near described positive (value ▸ near_shortest positive)]

theorem magnitudeText_front (b : Binary) :
    ∃ c cs, Report.Json.magnitudeText b = c :: cs ∧ c.isDigit = true := by
  obtain ⟨whole, places, exponent, text, digits, -⟩ := Report.Json.numeral_magnitudeText b
  obtain ⟨c, cs, front⟩ := List.exists_cons_of_ne_nil digits.nonempty
  rw [text, front]
  exact ⟨c, _, rfl, digits.digit c (front ▸ List.mem_cons_self)⟩

/-- A double that is a number is read back from its short text. -/
theorem readReal?_shortText {x : Float} (number : x.isNaN = false) :
    readReal? (shortText x).toList = some x := by
  have signed := signed_magnitude number
  cases finite : x.isFinite with
  | true =>
      have trimmed := trimMargin_eq_self (isLiteral_shortText finite).inside
      have read := readMagnitude?_magnitudeText finite
      obtain ⟨c, cs, front, digit⟩ := magnitudeText_front (.ofFloat x)
      rw [Report.Json.shortText_of_isFinite finite, String.toList_ofList, front] at trimmed ⊢
      rw [front] at read
      have sign : spanSign (trimMargin (if isNegative x then '-' :: c :: cs else c :: cs)) =
          (isNegative x, c :: cs) := by
        rw [trimmed]
        cases isNegative x with
        | true => rfl
        | false => exact spanSign_of_isDigit digit
      rw [readReal?_of_isDigit digit sign, read, Option.map_some, signed]
  | false =>
      have endless : x.isInf = true := by rw [isInf_eq number, finite]; rfl
      have infinite : magnitude x = infinity := by
        rw [magnitude, bits_of_isInf endless, infinity]
      have back (negative : Bool) : readReal? (if negative then "-inf" else "inf").toList =
          some (if negative then -infinity else infinity) := by
        cases negative <;> decide +kernel
      rw [infinite] at signed
      rw [Report.Json.shortText_of_isInf number endless, back, signed]

end CodeMetrics.Number
