import Mathlib.Data.List.TakeWhile
import CodeMetrics.Proofs.Computation
import CodeMetrics.Proofs.Digits
import CodeMetrics.Proofs.Nearest
import CodeMetrics.Report.Figure

/-!
# Figures that can be written

The number of places of a figure is a setting, and its text is read as a specification. The digits
of an integer are one. The text of a switch starts with no digit, and that of a double always has a
character that is none, so that neither of them specifies anything.

Results:
1. `ofString_of_stray`: texts that specify nothing.
2. `fixed_of_places`, `fixed_of_notPlaces`: when a double can be written.
3. `figure_iff`: when a metric can be written.
-/

namespace CodeMetrics

/-- A character that has no meaning in markup. -/
def IsBare (c : Char) : Prop := c ≠ '[' ∧ c ≠ '\\'

instance (c : Char) : Decidable (IsBare c) := inferInstanceAs (Decidable (_ ∧ _))

/-- A text in which nothing has a meaning in markup. -/
def BareText (s : String) : Prop := ∀ c ∈ s.toList, IsBare c

instance (s : String) : Decidable (BareText s) :=
  decidable_of_iff (s.toList.all fun c => decide (IsBare c)) (by simp [BareText])

theorem bareText_append {s t : String} : BareText (s ++ t) ↔ BareText s ∧ BareText t := by
  rw [BareText, String.toList_append, List.forall_mem_append]
  rfl

namespace Number

variable {cs : List Char} {text : String}

/-! ## Digits -/

theorem isBare_of_isDigit {c : Char} (digit : c.isDigit = true) : IsBare c := by
  constructor
  · rintro rfl
    cases digit
  · rintro rfl
    cases digit

theorem isBare_of_mem_digitsOf {n : Nat} {c : Char} (member : c ∈ digitsOf n) : IsBare c :=
  isBare_of_isDigit (isDigit_of_mem_digitsOf member)

theorem bareText_toString (n : Nat) : BareText (toString n) := by
  intro c member
  rw [Nat.toString_eq_repr, Nat.toList_repr] at member
  exact isBare_of_mem_digitsOf member

theorem isBare_of_mem_zeros {n : Nat} {c : Char} (member : c ∈ zeros n) : IsBare c := by
  rw [List.eq_of_mem_replicate member]
  exact isBare_of_isDigit rfl

theorem bareText_integerText (n : Int) : BareText (integerText n) := by
  intro c member
  rw [integerText, String.toList_ofList] at member
  split at member
  · rcases List.mem_cons.1 member with rfl | digit
    · exact ⟨by decide, by decide⟩
    · exact isBare_of_mem_digitsOf digit
  · exact isBare_of_mem_digitsOf member

/-! ## Texts that specify nothing -/

/-- The text starts with no alignment, and has a character that is no digit. -/
structure IsStray (cs : List Char) : Prop where
  unaligned : cs.head?.bind Alignment.ofChar? = none
  stray : ∃ c ∈ cs, Text.isDigit c = false

/-- A text without an alignment has digits only, or specifies nothing. -/
theorem ofString_of_stray (kind : String) (stray : IsStray text.toList) :
    ∃ error, Specification.ofString kind text = .error error := by
  have behind : text.toList.dropWhile Text.isDigit ≠ [] := by
    obtain ⟨c, member, noDigit⟩ := stray.stray
    intro empty
    cases noDigit.symm.trans (List.dropWhile_eq_nil_iff.1 empty c member)
  rw [Specification.ofString, readSpecification, stray.unaligned]
  rw [takePlaces, takeNumber]
  split_ifs
  · exact ⟨_, rfl⟩
  · exact ⟨_, rfl⟩
  · refine ⟨_, if_neg ?_⟩
    simpa using behind

theorem ofChar?_of_isDigit {c : Char} (digit : c.isDigit = true) : Alignment.ofChar? c = none := by
  rw [Alignment.ofChar?]
  all_goals
    rintro rfl
    cases digit

/-- Digits in front of a character that is none. -/
theorem isStray_digits {c d : Char} {rest : List Char} (digit : c.isDigit = true)
    (member : d ∈ rest) (noDigit : Text.isDigit d = false) : IsStray (c :: rest) :=
  ⟨ofChar?_of_isDigit digit, d, List.mem_cons_of_mem c member, noDigit⟩

theorem isStray_text (d : Decimal) : IsStray d.text := by
  obtain ⟨c, more, digits⟩ := List.exists_cons_of_ne_nil (digitsOf_ne_nil d.digits)
  have digit : c.isDigit = true := isDigit_of_mem_digitsOf (digits ▸ List.mem_cons_self)
  rw [Decimal.text, digits]
  dsimp only
  split
  · split
    · exact isStray_digits digit (d := '.') (by simp) (by decide)
    · split
      · next inside =>
        obtain ⟨before, size⟩ :
            ∃ n, (d.exponent + ((c :: more).length : Int) - 1 + 1).toNat = n + 1 :=
          Nat.exists_eq_succ_of_ne_zero (by omega)
        rw [size]
        exact isStray_digits digit (d := '.') (by simp) (by decide)
      · exact isStray_digits (c := '0') rfl (d := '.') (by simp) (by decide)
  · cases more with
    | nil => exact isStray_digits digit (d := 'e') (by simp) (by decide)
    | cons second rest => exact isStray_digits digit (d := 'e') (by simp) (by decide)

/-- The text of a double never is a number of places. -/
theorem isStray_shortText (x : Float) : IsStray (shortText x).toList := by
  have word {cs : List Char} (starts : cs.head?.bind Alignment.ofChar? = none)
      (stray : cs.any fun c => !Text.isDigit c) : IsStray cs := by
    obtain ⟨c, member, noDigit⟩ := List.any_eq_true.1 stray
    exact ⟨starts, c, member, by simpa using noDigit⟩
  rw [shortText]
  split_ifs
  · exact word (by decide) (by decide)
  · exact word (by decide) (by decide)
  · exact word (by decide) (by decide)
  · rw [String.toList_ofList]
    exact ⟨rfl, '-', List.mem_cons_self, by decide⟩
  · rw [String.toList_ofList]
    split_ifs
    · exact word (by decide) (by decide)
    · exact isStray_text _

theorem isStray_boolText (b : Bool) : IsStray (boolText b).toList := by
  cases b
  · exact ⟨by decide, 'F', by decide, by decide⟩
  · exact ⟨by decide, 'T', by decide, by decide⟩

/-! ## Numbers of places -/

/-- The most places that settings can ask for. -/
def mostAsked : Nat := 12

theorem readSpecification_places : ∀ n : Fin (mostAsked + 1),
    (readSpecification (integerText n.val).toList).toOption = some (.ofPlaces n, []) := by
  decide

theorem ofString_places {n : Nat} (few : n ≤ mostAsked) (kind : String) :
    Specification.ofString kind (integerText n) = .ok (.ofPlaces n) := by
  have read := toOption_eq_some.1 (readSpecification_places ⟨n, Nat.lt_succ_of_le few⟩)
  rw [Specification.ofString, read]
  rfl

theorem isBare_of_mem_withPoint {places n : Nat} {c : Char} (member : c ∈ withPoint places n) :
    IsBare c := by
  have digits {c : Char} (member : c ∈ zeros (places + 1 - (digitsOf n).length) ++ digitsOf n) :
      IsBare c :=
    (List.mem_append.1 member).elim isBare_of_mem_zeros isBare_of_mem_digitsOf
  rw [withPoint] at member
  split at member
  · exact isBare_of_mem_digitsOf member
  · rcases List.mem_append.1 member with whole | rest
    · exact digits (List.mem_of_mem_take whole)
    · rcases List.mem_cons.1 rest with rfl | place
      · exact ⟨by decide, by decide⟩
      · exact digits (List.mem_of_mem_drop place)

theorem isBare_of_mem_fixedMagnitude {places : Nat} {x : Float} {c : Char}
    (member : c ∈ fixedMagnitude places x) : IsBare c := by
  have word {cs : List Char} (bare : cs.all fun c => c != '[' && c != '\\') (member : c ∈ cs) :
      IsBare c := by simpa [IsBare] using List.all_eq_true.1 bare c member
  rw [fixedMagnitude] at member
  split at member
  · exact word (by decide) member
  · split at member
    · exact word (by decide) member
    · rcases List.mem_append.1 member with places | zeros
      · exact isBare_of_mem_withPoint places
      · exact isBare_of_mem_zeros zeros

/-- A double is written with its places, and nothing in it has a meaning in markup. -/
theorem write_ofPlaces {n : Nat} (few : n ≤ mostAsked) (x : Float) :
    ∃ text, (Specification.ofPlaces n).write x = .ok text ∧ BareText text := by
  have most : ¬ mostPlaces < (Specification.ofPlaces n).places :=
    Nat.not_lt.2 (few.trans (by decide))
  have magnitude : (Specification.ofPlaces n).magnitude x = fixedMagnitude n x := by
    rw [Specification.magnitude]
    simp only [Specification.ofPlaces, Bool.false_and, Bool.false_eq_true, if_false,
      List.append_nil]
    exact List.prefix_iff_eq_append.1 (List.takeWhile_prefix _)
  have sign : ∀ c ∈ (Specification.ofPlaces n).signText x (fixedMagnitude n x), IsBare c := by
    intro c member
    rw [Specification.signText] at member
    split at member
    · rw [List.mem_singleton.1 member]
      exact ⟨by decide, by decide⟩
    · cases member
  rw [Specification.write, if_neg most, magnitude]
  refine ⟨_, rfl, fun c member => ?_⟩
  rw [String.toList_ofList] at member
  exact (List.mem_append.1 member).elim (sign c) isBare_of_mem_fixedMagnitude

/-! ## Whole numbers -/

theorem log2_of_lt {n : Nat} (fits : n < firstBeyond) : n.log2 < 54 + halfPlace := by
  rcases Nat.eq_zero_or_pos n with rfl | positive
  · decide
  · refine (Nat.log2_lt positive.ne').2 (fits.trans_le ?_)
    rw [firstBeyond, pow_add 2 54 halfPlace]
    exact Nat.mul_le_mul_right _ (by decide)

/-- A whole number of a size that doubles have is short enough to be written. -/
theorem tooLong_of_lt {n : Int} (fits : n.natAbs < firstBeyond) : tooLong n = false := by
  have small := log2_of_lt fits
  rw [halfPlace] at small
  rw [tooLong, decide_eq_false (by omega), Bool.false_and]

end Number

namespace Report

open Number

variable {precision : Value}

/-- A number of places that settings can ask for. -/
def Places (precision : Value) : Prop := ∃ n : Nat, n ≤ mostAsked ∧ precision = .int n

instance (precision : Value) : Decidable (Places precision) :=
  match precision with
  | .int (.ofNat n) =>
      decidable_of_iff (n ≤ mostAsked) ⟨fun few => ⟨n, few, rfl⟩, fun ⟨_, few, same⟩ => by
        cases same
        exact few⟩
  | .int (.negSucc _) => isFalse fun ⟨_, _, same⟩ => nomatch same
  | .null | .bool _ | .real _ | .text _ | .torn _ | .moment _ | .list _ | .table _ =>
      isFalse fun ⟨_, _, same⟩ => nomatch same

/-- What settings accept as a number of places: switches and doubles as well. -/
inductive Accepted : Value → Prop where
  | places {n : Nat} (few : n ≤ mostAsked) : Accepted (.int n)
  | bool (b : Bool) : Accepted (.bool b)
  | real (x : Float) : Accepted (.real x)

theorem Places.accepted (places : Places precision) : Accepted precision := by
  obtain ⟨n, few, rfl⟩ := places
  exact .places few

theorem tooLong_of_accepted (accepted : Accepted precision) : precision.tooLong = false := by
  cases accepted with
  | @places n few =>
      have small : n.log2 ≤ mostAsked := (Nat.log2_le_self n).trans few
      show tooLong n = false
      rw [tooLong, decide_eq_false (by rw [Int.natAbs_natCast]; unfold mostAsked at small; omega),
        Bool.false_and]
  | bool | real => rfl

/-- The text of what is accepted is read as a specification. -/
theorem fixed_real (accepted : Accepted precision) (x : Float) :
    fixed precision (.real x) =
      liftSpecification (Specification.ofString "float" precision.shown) >>= fun specification =>
        liftSpecification (specification.write x) := by
  show (if precision.tooLong then _ else _ : Except Fault String) = _
  rw [tooLong_of_accepted accepted]
  rfl

theorem fixed_of_places (places : Places precision) (x : Float) :
    ∃ text, fixed precision (.real x) = .ok text ∧ BareText text := by
  obtain ⟨n, few, rfl⟩ := places
  obtain ⟨text, written, bare⟩ := write_ofPlaces few x
  refine ⟨text, ?_, bare⟩
  have shown : (Value.int n).shown = integerText n := rfl
  rw [fixed_real (.places few), shown, ofString_places few]
  show liftSpecification ((Specification.ofPlaces n).write x) = _
  rw [written]
  rfl

/-- A whole number with places is the double that it stands for, if it has one. -/
theorem fixed_whole (places : Places precision) (n : Int) :
    fixed precision (.int n) = realOfInt n >>= fun x => fixed precision (.real x) := by
  obtain ⟨asked, few, rfl⟩ := places
  have read (kind : String) :
      liftSpecification (Specification.ofString kind (Value.int asked).shown) =
        .ok (Specification.ofPlaces asked) := by
    show liftSpecification (Specification.ofString kind (integerText asked)) = _
    rw [ofString_places few]
    rfl
  simp only [fixed_real (.places few), read, bind_ok]
  show (if (Value.int asked).tooLong then _ else _ : Except Fault String) = _
  rw [tooLong_of_accepted (.places few)]
  show (liftSpecification (Specification.ofString "int" (Value.int asked).shown) >>= _) = _
  rw [read, bind_ok]
  rfl

/-- What is accepted and is no number of places writes no double. -/
theorem fixed_of_not_places (accepted : Accepted precision) (unusable : ¬ Places precision)
    (x : Float) : ∃ fault, fixed precision (.real x) = .error fault := by
  have stray : IsStray precision.shown.toList := by
    cases accepted with
    | places few => exact absurd ⟨_, few, rfl⟩ unusable
    | bool b => exact isStray_boolText b
    | real x => exact isStray_shortText x
  obtain ⟨error, refused⟩ := ofString_of_stray "float" stray
  rw [fixed_real accepted, refused]
  exact ⟨_, rfl⟩

theorem fixed_iff (accepted : Accepted precision) (x : Float) :
    (∃ text, fixed precision (.real x) = .ok text) ↔ Places precision := by
  refine ⟨fun ⟨text, written⟩ => ?_, fun places => (fixed_of_places places x).imp fun _ => And.left⟩
  by_contra none
  obtain ⟨fault, refused⟩ := fixed_of_not_places accepted none x
  cases written.symm.trans refused

theorem tooLong_of_isFinite {q : Quantity} (finite : q.isFinite = .ok true) :
    q.toValue.tooLong = false := by
  cases q with
  | real x => rfl
  | whole n =>
      obtain ⟨x, real, -⟩ := bind_eq_ok.1 finite
      have within : ¬ isBeyond n.natAbs 1 = true := by
        intro beyond
        cases (if_pos beyond : realOfInt n = _).symm.trans real
      rw [isBeyond_iff Nat.one_pos, Nat.mul_one, not_le] at within
      exact tooLong_of_lt within

/-- Whole numbers that are finite as doubles are written in full. -/
theorem wholeText_of_isFinite {n : Int} (finite : (Quantity.whole n).isFinite = .ok true) :
    wholeText n = .ok (integerText n) :=
  if_neg (ne_true_of_eq_false (tooLong_of_isFinite finite))

/-- A metric that is finite is written if it is a whole number, or there is a number of places. -/
theorem figure_iff (accepted : Accepted precision) {q : Quantity} (finite : q.isFinite = .ok true) :
    (∃ text, figure precision q.toValue = .ok text) ↔ (∃ n, q = .whole n) ∨ Places precision := by
  cases q with
  | whole n => exact iff_of_true ⟨_, wholeText_of_isFinite finite⟩ (.inl ⟨n, rfl⟩)
  | real x => exact (fixed_iff accepted x).trans (or_iff_right fun ⟨_, whole⟩ => nomatch whole).symm

/-- Nothing in a figure has a meaning in markup. -/
theorem bareText_of_figure (accepted : Accepted precision) {q : Quantity} {text : String}
    (written : figure precision q.toValue = .ok text) : BareText text := by
  cases q with
  | whole n =>
      have written : wholeText n = .ok text := written
      rw [wholeText] at written
      split at written
      · cases written
      · cases written
        exact bareText_integerText n
  | real x =>
      obtain ⟨other, writtenOther, bare⟩ :=
        fixed_of_places ((fixed_iff accepted x).1 ⟨text, written⟩) x
      cases writtenOther.symm.trans written
      exact bare

end Report

end CodeMetrics
