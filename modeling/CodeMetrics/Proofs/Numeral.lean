import CodeMetrics.Proofs.Figures
import CodeMetrics.Proofs.Order
import CodeMetrics.Proofs.Reader

/-!
# Numbers in documents

An integer is written as its digits, which start with a zero only if there is no other one. The
short text of a double has places or an exponent or both, in every form it can have, and again no
zero stands in front: the digits of the shortest decimal are not zero, because no positive double is
that close to it.

Results:
1. `isLiteral_integerText`: integers are read back.
2. `shortest_ne_zero`: the shortest decimal of a positive double is not zero.
3. `numeral_text`: the forms of decimals.
4. `isLiteral_shortText`: the text of a finite double is a number.
-/

namespace CodeMetrics

namespace Number

/-! ## Digits -/

/-- No zero stands in front of a number that is not zero. -/
theorem head?_digitsOf_ne {n : Nat} (nonzero : n ≠ 0) : (digitsOf n).head? ≠ some '0' := by
  induction n using Nat.strong_induction_on with
  | _ n ih =>
      rcases Nat.lt_or_ge n 10 with few | many
      · rw [digitsOf, Nat.toDigits_of_lt_base few, List.head?_cons]
        simpa using nonzero
      · have shorter : n / 10 < n := Nat.div_lt_self (by omega) (by decide)
        have front := ih (n / 10) shorter (by omega)
        rwa [digitsOf, Nat.toDigits_of_base_le (by decide) many,
          List.head?_append_of_ne_nil _ Nat.toDigits_ne_nil]

/-! ## The shortest decimal -/

/-- A positive double is further away from zero than halfway to its neighbour. -/
theorem readsBack_zero {b : Binary} (positive : b.mantissa ≠ 0) (e : Int) :
    b.readsBack ⟨0, e⟩ = false := by
  have low : 0 < if b.narrowBelow then 4 * b.mantissa - 1 else 4 * b.mantissa - 2 := by
    split_ifs <;> omega
  have below : compareScaled 0 e (if b.narrowBelow then 4 * b.mantissa - 1 else
      4 * b.mantissa - 2) (b.exponent - 2) = .lt := by
    rw [compareScaled, compare_lt_iff_lt, Nat.zero_mul, Nat.zero_mul]
    exact Nat.mul_pos (Nat.mul_pos low (Nat.pow_pos (by decide))) (Nat.pow_pos (by decide))
  rw [Binary.readsBack]
  dsimp only
  rw [below]
  simp

theorem strip_ne_zero {d : Decimal} (nonzero : d.digits ≠ 0) (fuel : Nat) :
    (d.strip fuel).digits ≠ 0 := by
  induction fuel generalizing d with
  | zero => exact nonzero
  | succ fuel ih =>
      rw [Decimal.strip]
      split_ifs with zeros
      · exact ih (by dsimp only; omega)
      · exact nonzero

theorem exact_ne_zero {b : Binary} (positive : b.mantissa ≠ 0) : b.exact.digits ≠ 0 := by
  rw [Binary.exact]
  split_ifs <;> exact Nat.mul_ne_zero positive (Nat.pow_pos (by decide)).ne'

theorem shortest_eq (b : Binary) :
    b.shortest = (((List.range 17).findSome? fun (i : Nat) =>
      b.onGrid (scaleOf b.quotient.1 b.quotient.2 - (i + 1))).getD b.exact).strip 20 :=
  rfl

theorem shortest_ne_zero {b : Binary} (positive : b.mantissa ≠ 0) : b.shortest.digits ≠ 0 := by
  rw [shortest_eq]
  refine strip_ne_zero ?_ _
  cases hit : (List.range 17).findSome? fun (i : Nat) =>
      b.onGrid (scaleOf b.quotient.1 b.quotient.2 - (i + 1)) with
  | none => exact exact_ne_zero positive
  | some d =>
      obtain ⟨i, -, found⟩ := List.exists_of_findSome?_eq_some hit
      have back : b.readsBack d = true := List.find?_some found
      rintro (zero : d.digits = 0)
      obtain ⟨digits, e⟩ := d
      cases zero
      cases (readsBack_zero positive e).symm.trans back

end Number

namespace Report.Json

open Number (digitsOf integerText shortText zeros Decimal Binary)

/-- Digits, one at least. -/
structure IsDigits (cs : List Char) : Prop where
  nonempty : cs ≠ []
  digit : ∀ c ∈ cs, c.isDigit = true

/-- Digits that can stand in front of a point. -/
structure IsWhole (cs : List Char) : Prop extends IsDigits cs where
  front : ¬ (cs.head? = some '0' ∧ 1 < cs.length)

/-- A point and its digits, or nothing. -/
inductive IsPlaces : List Char → Prop where
  | none : IsPlaces []
  | some {cs : List Char} (found : IsDigits cs) : IsPlaces ('.' :: cs)

/-- An exponent with its sign, or nothing. -/
inductive IsExponent : List Char → Prop where
  | none : IsExponent []
  | plus {cs : List Char} (found : IsDigits cs) : IsExponent ('e' :: '+' :: cs)
  | minus {cs : List Char} (found : IsDigits cs) : IsExponent ('e' :: '-' :: cs)

variable {cs rest whole places exponent : List Char}

theorem isDigits_digitsOf (n : Nat) : IsDigits (digitsOf n) :=
  ⟨Number.digitsOf_ne_nil n, fun _ => Number.isDigit_of_mem_digitsOf⟩

theorem isWhole_zero : IsWhole ['0'] :=
  ⟨⟨nofun, List.forall_mem_singleton.2 rfl⟩, fun more => absurd more.2 (by decide)⟩

theorem isWhole_digitsOf (n : Nat) : IsWhole (digitsOf n) := by
  rcases eq_or_ne n 0 with rfl | nonzero
  · exact isWhole_zero
  · exact ⟨isDigits_digitsOf n, fun zero => Number.head?_digitsOf_ne nonzero zero.1⟩

theorem IsDigits.append (digits : IsDigits cs) (more : ∀ c ∈ rest, c.isDigit = true) :
    IsDigits (cs ++ rest) :=
  ⟨List.append_ne_nil_of_left_ne_nil digits.nonempty rest,
    List.forall_mem_append.2 ⟨digits.digit, more⟩⟩

theorem IsDigits.append_left (digits : IsDigits cs) (more : ∀ c ∈ rest, c.isDigit = true) :
    IsDigits (rest ++ cs) :=
  ⟨List.append_ne_nil_of_right_ne_nil rest digits.nonempty,
    List.forall_mem_append.2 ⟨more, digits.digit⟩⟩

theorem isDigit_of_mem_zeros {n : Nat} {c : Char} (member : c ∈ zeros n) : c.isDigit = true := by
  rw [List.eq_of_mem_replicate member]
  rfl

/-! ## Reading a number -/

/-- What has the property up to a point is split there. -/
theorem split_append {p : Char → Bool} (inside : ∀ c ∈ cs, p c = true)
    (behind : ∀ c ∈ rest.head?, p c = false) :
    (cs ++ rest).takeWhile p = cs ∧ (cs ++ rest).dropWhile p = rest := by
  rw [List.takeWhile_append_of_pos inside, List.dropWhile_append_of_pos inside]
  cases rest with
  | nil => exact ⟨List.append_nil cs, rfl⟩
  | cons c rest =>
      have outside : ¬ p c = true := Bool.eq_false_iff.1 (behind c rfl)
      rw [List.takeWhile_cons_of_neg outside, List.dropWhile_cons_of_neg outside, List.append_nil]
      exact ⟨rfl, rfl⟩

theorem digits?_append (digits : IsDigits cs) (behind : ∀ c ∈ rest.head?, c.isDigit = false) :
    digits? (cs ++ rest) = some (cs, rest) := by
  obtain ⟨found, left⟩ := split_append digits.digit behind
  rw [digits?, found, left, if_neg digits.nonempty]

theorem digits?_eq (digits : IsDigits cs) : digits? cs = some (cs, []) := by
  have behind : ∀ c ∈ ([] : List Char).head?, c.isDigit = false := nofun
  simpa using digits?_append digits behind

theorem wholePart?_append (digits : IsWhole whole) (behind : ∀ c ∈ rest.head?, c.isDigit = false) :
    wholePart? (whole ++ rest) = some (whole, rest) := by
  rw [wholePart?, digits?_append digits.toIsDigits behind]
  exact if_neg digits.front

theorem behindExponent?_eq (written : IsExponent exponent) :
    behindExponent? exponent = some [] := by
  cases written with
  | none => rfl
  | plus found => rw [behindExponent?, digits?_eq found]; rfl
  | minus found => rw [behindExponent?, digits?_eq found]; rfl

theorem IsExponent.noDigit (written : IsExponent exponent) :
    ∀ c ∈ exponent.head?, c.isDigit = false := by
  cases written with
  | none => nofun
  | plus | minus => exact fun c member => Option.some.inj member ▸ rfl

theorem behindPlaces?_append (written : IsPlaces places) (behind : IsExponent exponent) :
    behindPlaces? (places ++ exponent) = some exponent := by
  cases written with
  | none => cases behind <;> rfl
  | some found =>
      rw [List.cons_append, behindPlaces?, digits?_append found behind.noDigit]
      rfl

theorem noDigit_append (written : IsPlaces places) (behind : IsExponent exponent) :
    ∀ c ∈ (places ++ exponent).head?, c.isDigit = false := by
  cases written with
  | none => exact behind.noDigit
  | some => exact fun c member => Option.some.inj member ▸ rfl

theorem unsigned?_whole (digits : IsWhole whole) (negative : Bool) (literal : String) :
    unsigned? negative literal whole = some (.whole (if negative then
      -(Nat.ofDigitChars 10 whole 0 : Int) else Nat.ofDigitChars 10 whole 0)) := by
  have behind : ∀ c ∈ ([] : List Char).head?, c.isDigit = false := nofun
  have read : wholePart? whole = some (whole, []) := by
    simpa using wholePart?_append digits behind
  rw [unsigned?, read]
  rfl

theorem unsigned?_decimal (digits : IsWhole whole) (written : IsPlaces places)
    (behind : IsExponent exponent) (more : places ++ exponent ≠ []) (negative : Bool)
    (literal : String) :
    unsigned? negative literal (whole ++ (places ++ exponent)) = some (.decimal literal) := by
  have read := wholePart?_append digits (noDigit_append written behind)
  rw [unsigned?, read]
  show (if places ++ exponent = [] then _ else _ : Option Tree) = _
  rw [if_neg more]
  show (behindPlaces? (places ++ exponent) >>= _) = _
  rw [behindPlaces?_append written behind]
  show (behindExponent? exponent >>= _) = _
  rw [behindExponent?_eq behind]
  rfl

theorem number?_of_digit {c : Char} (digit : c.isDigit = true) :
    number? (c :: cs) = unsigned? false (String.ofList (c :: cs)) (c :: cs) := by
  rw [number?]
  rintro _ ⟨⟩
  cases digit

/-- A word that is read as a number. -/
structure IsLiteral (cs : List Char) (tree : Tree) : Prop where
  number : number? cs = some tree
  front : ∃ c more, cs = c :: more ∧ (c = '-' ∨ c.isDigit = true)
  inside : ∀ c ∈ cs, isWordChar c = true

theorem isWordChar_of_isDigit {c : Char} (digit : c.isDigit = true) : isWordChar c = true := by
  simp [isWordChar, Char.isAlphanum, digit]

theorem IsPlaces.inside (written : IsPlaces places) : ∀ c ∈ places, isWordChar c = true := by
  cases written with
  | none => exact List.forall_mem_nil _
  | some found =>
      exact List.forall_mem_cons.2
        ⟨rfl, fun c member => isWordChar_of_isDigit (found.digit c member)⟩

theorem IsExponent.inside (written : IsExponent exponent) :
    ∀ c ∈ exponent, isWordChar c = true := by
  cases written with
  | none => exact List.forall_mem_nil _
  | plus found | minus found =>
      exact List.forall_mem_cons.2 ⟨rfl, List.forall_mem_cons.2
        ⟨rfl, fun c member => isWordChar_of_isDigit (found.digit c member)⟩⟩

/-! ## Integers -/

theorem isLiteral_integerText (n : Int) : IsLiteral (integerText n).toList (.whole n) := by
  have digits := isWhole_digitsOf n.natAbs
  have value : Nat.ofDigitChars 10 (digitsOf n.natAbs) 0 = n.natAbs :=
    Nat.ofDigitChars_ten_toDigits
  have inside (c : Char) (member : c ∈ digitsOf n.natAbs) : isWordChar c = true :=
    isWordChar_of_isDigit (digits.digit c member)
  rw [integerText, String.toList_ofList]
  by_cases negative : n < 0
  · rw [if_pos negative]
    refine ⟨?_, ⟨'-', _, rfl, .inl rfl⟩, List.forall_mem_cons.2 ⟨rfl, inside⟩⟩
    rw [number?, unsigned?_whole digits, value, if_pos rfl]
    congr 2
    omega
  · rw [if_neg negative]
    obtain ⟨c, more, front⟩ := List.exists_cons_of_ne_nil digits.nonempty
    have digit : c.isDigit = true := digits.digit c (front ▸ List.mem_cons_self)
    refine ⟨?_, ⟨c, more, front, .inr digit⟩, inside⟩
    rw [front, number?_of_digit digit, ← front, unsigned?_whole digits, value,
      if_neg Bool.false_ne_true]
    congr 2
    omega

/-! ## Decimals -/

theorem isExponent_exponentText (e : Int) : IsExponent ('e' :: Number.exponentText e) := by
  have digits : IsDigits (zeros (2 - (digitsOf e.natAbs).length) ++ digitsOf e.natAbs) :=
    (isDigits_digitsOf e.natAbs).append_left fun _ => isDigit_of_mem_zeros
  rw [Number.exponentText]
  split_ifs
  · exact .minus digits
  · exact .plus digits

/-- A decimal that is not zero is written with places or an exponent, in any of its forms. -/
theorem numeral_text {d : Decimal} (nonzero : d.digits ≠ 0) :
    ∃ whole places exponent, d.text = whole ++ (places ++ exponent) ∧ IsWhole whole ∧
      IsPlaces places ∧ IsExponent exponent ∧ places ++ exponent ≠ [] := by
  have digits := isDigits_digitsOf d.digits
  have front := Number.head?_digitsOf_ne nonzero
  rw [Decimal.text]
  dsimp only
  generalize digitsOf d.digits = cs at digits front ⊢
  have size : 0 < cs.length := List.length_pos_of_ne_nil digits.nonempty
  split
  · next positional =>
    split
    · refine ⟨cs ++ zeros d.exponent.toNat, ['.', '0'], [], by simp, ?_, ?_, .none,
        List.cons_ne_nil _ _⟩
      · refine ⟨digits.append fun _ => isDigit_of_mem_zeros, fun zero => front ?_⟩
        rw [← zero.1, List.head?_append_of_ne_nil _ digits.nonempty]
      · exact .some isWhole_zero.toIsDigits
    · next inside =>
      split
      · next below =>
        -- The point is behind the first digit at least, and in front of the last one.
        generalize point : (d.exponent + (cs.length : Int) - 1 + 1).toNat = k
        have first : 0 < k := by omega
        have last : k < cs.length := by omega
        refine ⟨cs.take k, '.' :: cs.drop k, [], by simp, ?_, .some ?_, .none, List.cons_ne_nil _ _⟩
        · refine ⟨⟨?_, fun c member => digits.digit c (List.mem_of_mem_take member)⟩,
            fun zero => front ?_⟩
          · exact List.ne_nil_of_length_pos (by rw [List.length_take]; omega)
          · rw [← zero.1, List.head?_take, if_neg first.ne']
        · exact ⟨List.ne_nil_of_length_pos (by rw [List.length_drop]; omega),
            fun c member => digits.digit c (List.mem_of_mem_drop member)⟩
      · have padded : IsDigits (zeros (-(d.exponent + cs.length - 1) - 1).toNat ++ cs) :=
          digits.append_left fun _ => isDigit_of_mem_zeros
        exact ⟨['0'], _, [], by simp, isWhole_zero, .some padded, .none, List.cons_ne_nil _ _⟩
  · have exponent := isExponent_exponentText (d.exponent + (cs.length : Int) - 1)
    have single {c : Char} (member : c ∈ cs) : IsWhole [c] :=
      ⟨⟨List.cons_ne_nil _ _, List.forall_mem_singleton.2 (digits.digit c member)⟩,
        fun more => absurd more.2 (by simp)⟩
    obtain ⟨c, more, rfl⟩ := List.exists_cons_of_ne_nil digits.nonempty
    have whole := single List.mem_cons_self
    cases more with
    | nil => exact ⟨[c], [], _, rfl, whole, .none, exponent, List.cons_ne_nil _ _⟩
    | cons d more =>
        have behind : IsDigits (d :: more) :=
          ⟨List.cons_ne_nil _ _, fun e member => digits.digit e (List.mem_cons_of_mem c member)⟩
        exact ⟨[c], '.' :: d :: more, _, rfl, whole, .some behind, exponent, List.cons_ne_nil _ _⟩

/-! ## Doubles -/

theorem isLiteral_decimal (digits : IsWhole whole) (written : IsPlaces places)
    (behind : IsExponent exponent) (more : places ++ exponent ≠ []) (negative : Bool) :
    let cs := whole ++ (places ++ exponent)
    let signed := if negative then '-' :: cs else cs
    IsLiteral signed (.decimal (String.ofList signed)) := by
  intro cs signed
  have inside : ∀ c ∈ cs, isWordChar c = true :=
    List.forall_mem_append.2 ⟨fun c member => isWordChar_of_isDigit (digits.digit c member),
      List.forall_mem_append.2 ⟨written.inside, behind.inside⟩⟩
  cases negative with
  | true =>
      exact ⟨unsigned?_decimal digits written behind more true _, ⟨'-', cs, rfl, .inl rfl⟩,
        List.forall_mem_cons.2 ⟨rfl, inside⟩⟩
  | false =>
      obtain ⟨c, rest, front⟩ := List.exists_cons_of_ne_nil digits.nonempty
      have digit : c.isDigit = true := digits.digit c (front ▸ List.mem_cons_self)
      have start : cs = c :: (rest ++ (places ++ exponent)) := by
        show whole ++ _ = _
        rw [front, List.cons_append]
      refine ⟨?_, ⟨c, _, start, .inr digit⟩, inside⟩
      have read := unsigned?_decimal digits written behind more false (String.ofList cs)
      show number? cs = some (.decimal (String.ofList cs))
      rwa [start, number?_of_digit digit, ← start]

/-- The magnitude of a double. -/
def magnitudeText (b : Binary) : List Char :=
  if b.mantissa = 0 then ['0', '.', '0'] else b.shortest.text

theorem numeral_magnitudeText (b : Binary) :
    ∃ whole places exponent, magnitudeText b = whole ++ (places ++ exponent) ∧
      IsWhole whole ∧ IsPlaces places ∧ IsExponent exponent ∧ places ++ exponent ≠ [] := by
  rw [magnitudeText]
  split_ifs with zero
  · exact ⟨['0'], ['.', '0'], [], rfl, isWhole_zero, .some isWhole_zero.toIsDigits, .none,
      List.cons_ne_nil _ _⟩
  · exact numeral_text (Number.shortest_ne_zero zero)

theorem shortText_of_isFinite {x : Float} (finite : x.isFinite = true) :
    shortText x = String.ofList (if Number.isNegative x then
      '-' :: magnitudeText (.ofFloat x) else magnitudeText (.ofFloat x)) := by
  have number := Number.isNaN_of_isFinite finite
  have bounded : x.isInf = false := by rw [Number.isInf_eq number, finite]; rfl
  rw [shortText, number, bounded]
  rfl

theorem shortText_of_isInf {x : Float} (number : x.isNaN = false) (endless : x.isInf = true) :
    shortText x = if Number.isNegative x then "-inf" else "inf" := by
  rw [shortText, number, endless]
  rfl

/-- The short text of a finite double is a number, and not a whole one. -/
theorem isLiteral_shortText {x : Float} (finite : x.isFinite = true) :
    IsLiteral (shortText x).toList (.decimal (shortText x)) := by
  obtain ⟨whole, places, exponent, parts, digits, written, behind, more⟩ :=
    numeral_magnitudeText (.ofFloat x)
  rw [shortText_of_isFinite finite, String.toList_ofList, parts]
  exact isLiteral_decimal digits written behind more _

end Report.Json

end CodeMetrics
