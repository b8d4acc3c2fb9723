import Mathlib.Data.List.Nodup
import CodeMetrics.Dump

/-!
# Classes go by their longest entry

The name of a class starts with the names of the classes above it, with two colons behind each. An
entry speaks for the class of its name and for all classes below that, and the longest entry that
speaks for a class wins. Entries that speak for one class begin the same name, so no two of them are
as long, and the order in which they are looked at does not matter.

A class below another has the category of that one, since an entry that speaks for the narrower
class speaks for the wider one too, if it does not name a class between them. There is one such
entry: regular expressions have a category of their own among what is quoted.

Results:
1. `keeps_keepLonger`, `keeps_foldl`: one entry, and all of them, keep the longest so far.
2. `longest_eq_some_iff`, `longest_perm`: the longest entry, whatever the order.
3. `isBelow_append`: which entries speak for a class below another.
4. `categoryIn_longest`: the category of a class, and of the classes below it.
-/

namespace CodeMetrics.Dump

variable {entries others : List (String × Category)} {name rest : List Char}
  {entry other : String × Category}

/-! ## Entries above a class -/

theorem isBelow_iff {entry : String} :
    isBelow name entry = true ↔ name = entry.toList ∨ entry.toList ++ [':', ':'] <+: name := by
  rw [isBelow, Bool.or_eq_true, beq_iff_eq, List.isPrefixOf_iff_prefix]
  rfl

theorem prefix_of_isBelow {entry : String} (below : isBelow name entry = true) :
    entry.toList <+: name := by
  rcases isBelow_iff.1 below with rfl | longer
  · exact List.prefix_rfl
  · exact (List.prefix_append _ _).trans longer

/-- Entries above one class that are as long as each other are the same. -/
theorem eq_of_length_eq {entry other : String} (below : isBelow name entry = true)
    (belowOther : isBelow name other = true) (long : entry.length = other.length) :
    entry = other := by
  refine String.toList_injective ?_
  have same : entry.toList.length = other.toList.length := by
    rwa [String.length_toList, String.length_toList]
  exact (List.prefix_of_prefix_length_le (prefix_of_isBelow below) (prefix_of_isBelow belowOther)
    (Nat.le_of_eq same)).eq_of_length same

/-! ## The longest entry -/

/-- The longest of the entries that a class is, or is below. -/
structure IsLongest (entries : List (String × Category)) (name : List Char)
    (entry : String × Category) : Prop where
  listed : entry ∈ entries
  below : isBelow name entry.1 = true
  longest : ∀ other ∈ entries, isBelow name other.1 = true → other.1.length ≤ entry.1.length

/-- The longer one of the best entry so far and the next one, if that is above the class. -/
def keepLonger (name : List Char) (best : Option (String × Category)) (entry : String × Category) :
    Option (String × Category) :=
  if isBelow name entry.1 && best.all fun b => b.1.length < entry.1.length then some entry
  else best

/-- What is kept is the longest of the entries seen so far, or none of them is above the class. -/
def Keeps (name : List Char) (seen : List (String × Category)) :
    Option (String × Category) → Prop
  | none => ∀ entry ∈ seen, isBelow name entry.1 = false
  | some best => IsLongest seen name best

theorem keeps_keepLonger {seen : List (String × Category)} {best : Option (String × Category)}
    (kept : Keeps name seen best) (entry : String × Category) :
    Keeps name (seen ++ [entry]) (keepLonger name best entry) := by
  rw [keepLonger]
  split
  · next longer =>
    obtain ⟨below, longer⟩ := Bool.and_eq_true_iff.1 longer
    refine ⟨List.mem_append_right _ List.mem_cons_self, below, fun other member belowOther => ?_⟩
    rcases List.mem_append.1 member with earlier | last
    · cases best with
      | none => simp [kept other earlier] at belowOther
      | some best =>
          have shorter : best.1.length < entry.1.length := of_decide_eq_true longer
          exact Nat.le_trans (kept.longest other earlier belowOther) (Nat.le_of_lt shorter)
    · exact Nat.le_of_eq (congrArg (·.1.length) (List.mem_singleton.1 last))
  · next notLonger =>
    cases best with
    | none =>
        intro other member
        rcases List.mem_append.1 member with earlier | last
        · exact kept other earlier
        · simpa [List.mem_singleton.1 last] using notLonger
    | some best =>
        refine ⟨List.mem_append_left _ kept.listed, kept.below, fun other member below => ?_⟩
        rcases List.mem_append.1 member with earlier | last
        · exact kept.longest other earlier below
        · rw [List.mem_singleton.1 last] at below ⊢
          simpa [below] using notLonger

theorem keeps_foldl {seen : List (String × Category)} {best : Option (String × Category)}
    (kept : Keeps name seen best) (entries : List (String × Category)) :
    Keeps name (seen ++ entries) (entries.foldl (keepLonger name) best) := by
  induction entries generalizing seen best with
  | nil => rwa [List.append_nil]
  | cons entry rest ih =>
      rw [List.foldl_cons, List.append_cons]
      exact ih (keeps_keepLonger kept entry)

/-- What the search gives back is the longest entry, or there is none above the class. -/
theorem keeps_longest (name : List Char) (entries : List (String × Category)) :
    Keeps name entries (longest name entries) :=
  @keeps_foldl name [] none nofun entries

/-- No class has two entries. -/
def Distinct (entries : List (String × Category)) : Prop := (entries.map Prod.fst).Nodup

theorem IsLongest.unique (distinct : Distinct entries) (first : IsLongest entries name entry)
    (second : IsLongest entries name other) : other = entry := by
  have long : other.1.length = entry.1.length :=
    Nat.le_antisymm (first.longest other second.listed second.below)
      (second.longest entry first.listed first.below)
  exact List.inj_on_of_nodup_map distinct second.listed first.listed
    (eq_of_length_eq second.below first.below long)

theorem longest_eq_some_iff (distinct : Distinct entries) :
    longest name entries = some entry ↔ IsLongest entries name entry := by
  have kept := keeps_longest name entries
  cases found : longest name entries with
  | none =>
      rw [found] at kept
      refine ⟨nofun, fun best => ?_⟩
      have apart := kept entry best.listed
      rw [best.below] at apart
      cases apart
  | some best =>
      rw [found] at kept
      constructor
      · rintro ⟨⟩
        exact kept
      · intro second
        rw [kept.unique distinct second]

theorem longest_eq_none_iff :
    longest name entries = none ↔ ∀ entry ∈ entries, isBelow name entry.1 = false := by
  have kept := keeps_longest name entries
  cases found : longest name entries with
  | none =>
      rw [found] at kept
      exact iff_of_true rfl kept
  | some best =>
      rw [found] at kept
      refine iff_of_false nofun fun never => ?_
      have apart := never best kept.listed
      rw [kept.below] at apart
      cases apart

/-- Two searches find the same when the same entries are above the two classes. -/
theorem longest_congr (distinct : Distinct entries) (distinctOthers : Distinct others)
    {other : List Char} (listed : ∀ entry, entry ∈ entries ↔ entry ∈ others)
    (same : ∀ entry ∈ entries, isBelow name entry.1 = isBelow other entry.1) :
    longest name entries = longest other others := by
  apply Option.ext
  intro entry
  rw [longest_eq_some_iff distinct, longest_eq_some_iff distinctOthers]
  constructor
  · rintro ⟨member, below, longest⟩
    refine ⟨(listed entry).1 member, same entry member ▸ below, fun another found belowOther => ?_⟩
    have member := (listed another).2 found
    exact longest another member ((same another member).trans belowOther)
  · rintro ⟨member, below, longest⟩
    have member := (listed entry).2 member
    refine ⟨member, (same entry member).trans below, fun another found belowOther => ?_⟩
    exact longest another ((listed another).1 found) (same another found ▸ belowOther)

theorem distinct_perm (reordered : entries.Perm others) (distinct : Distinct others) :
    Distinct entries :=
  (reordered.map Prod.fst).nodup_iff.2 distinct

/-- The order of the entries does not matter. -/
theorem longest_perm (reordered : entries.Perm others) (distinct : Distinct others)
    (name : List Char) : longest name entries = longest name others :=
  longest_congr (distinct_perm reordered distinct) distinct (fun _ => reordered.mem_iff)
    fun _ _ => rfl

/-! ## Classes below a class -/

/-- What is above a class below another is above that one, or it is named between the two. -/
theorem isBelow_append {entry : String} (ended : name.getLast? ≠ some ':')
    (entryEnded : entry.toList.getLast? ≠ some ':') :
    isBelow (name ++ ':' :: ':' :: rest) entry = true ↔
      isBelow name entry = true ∨ ∃ inner, entry.toList = name ++ ':' :: ':' :: inner ∧
        (rest = inner ∨ inner ++ [':', ':'] <+: rest) := by
  rw [isBelow_iff, isBelow_iff]
  constructor
  · rintro (whole | ⟨behind, split⟩)
    · exact .inr ⟨rest, whole.symm, .inl rfl⟩
    rw [List.append_assoc] at split
    rcases List.append_eq_append_iff.1 split with ⟨more, here, there⟩ | ⟨more, here, there⟩
    · -- The entry ends inside the name of the wider class, or with it.
      rcases more with - | ⟨c, - | ⟨d, more⟩⟩
      · exact .inl (.inl (here.trans (List.append_nil _)))
      · cases there
        exact absurd (by simp [here]) ended
      · cases there
        exact .inl (.inr ⟨more, by simp [here]⟩)
    · -- The entry ends behind the wider class.
      rcases more with - | ⟨c, - | ⟨d, inner⟩⟩
      · exact .inl (.inl (here.trans (List.append_nil _)).symm)
      · cases there
        exact absurd (by simp [here]) entryEnded
      · cases there
        exact .inr ⟨inner, here, .inr ⟨behind, by simp⟩⟩
  · rintro ((rfl | longer) | ⟨inner, named, rfl | ⟨behind, rfl⟩⟩)
    · exact .inr ⟨rest, by simp⟩
    · exact .inr (longer.trans (List.prefix_append _ _))
    · exact .inl named.symm
    · exact .inr ⟨behind, by simp [named]⟩

/-! ## The entries there are -/

theorem distinct_categories : Distinct categories := by
  unfold Distinct
  decide

theorem entry_ended : ∀ entry ∈ categories, entry.1.toList.getLast? ≠ some ':' := by decide

/-- One entry is named below another class. -/
theorem eq_of_inner (member : entry ∈ categories) {inner : List Char}
    (named : entry.1.toList = name ++ ':' :: ':' :: inner) :
    entry.1 = "QuoteLike::Regexp" ∧ name = "QuoteLike".toList ∧ inner = "Regexp".toList := by
  have colons : ∀ entry ∈ categories, ∀ i < entry.1.toList.length,
      (entry.1.toList.drop i).take 2 = [':', ':'] → entry.1 = "QuoteLike::Regexp" ∧ i = 9 := by
    decide
  have inside : name.length < entry.1.toList.length := by simp [named]
  obtain ⟨quoted, long⟩ := colons entry member name.length inside (by simp [named])
  have before : name = (entry.1.toList).take 9 := by simp [named, ← long]
  have behind : inner = (entry.1.toList).drop 11 := by
    have counted : 11 = name.length + 2 := by rw [long]
    rw [named, counted, List.drop_length_add_append]
    rfl
  rw [quoted] at before behind
  exact ⟨quoted, before.trans (by decide), behind.trans (by decide)⟩

/-- Regular expressions that are quoted have an entry of their own, below another entry. -/
def IsQuotedRegexp (name rest : List Char) : Prop :=
  name = "QuoteLike".toList ∧ (rest = "Regexp".toList ∨ "Regexp::".toList <+: rest)

/-- Without that entry the same entries are above a class and those below it. -/
theorem isBelow_inner (member : entry ∈ categories) (ended : name.getLast? ≠ some ':')
    (plain : ¬ IsQuotedRegexp name rest) :
    isBelow (name ++ ':' :: ':' :: rest) entry.1 = isBelow name entry.1 := by
  refine Bool.eq_iff_iff.2 ((isBelow_append ended (entry_ended entry member)).trans ?_)
  refine or_iff_left ?_
  rintro ⟨inner, named, below⟩
  obtain ⟨-, rfl, rfl⟩ := eq_of_inner member named
  exact plain ⟨rfl, below⟩

/-- That entry is longer than any other. -/
theorem isLongest_quotedRegexp (quoted : IsQuotedRegexp name rest) :
    IsLongest categories (name ++ ':' :: ':' :: rest) ("QuoteLike::Regexp", .regex) := by
  have longest : ∀ other ∈ categories, other.1.length ≤ "QuoteLike::Regexp".length := by decide
  obtain ⟨rfl, below⟩ := quoted
  have above : isBelow ("QuoteLike".toList ++ ':' :: ':' :: rest) "QuoteLike::Regexp" = true :=
    (isBelow_append (by decide) (by decide)).2 (.inr ⟨"Regexp".toList, by decide, below⟩)
  exact ⟨by decide, above, fun other member _ => longest other member⟩

/-! ## Categories -/

theorem categoryIn_of_token {name : String} {suffix : List Char}
    (named : name.toList = tokenClass ++ suffix) (entries : List (String × Category)) :
    categoryIn entries name = (longest suffix entries).elim .other Prod.snd := by
  have token : tokenClass.isPrefixOf (tokenClass ++ suffix) = true :=
    List.isPrefixOf_iff_prefix.2 (List.prefix_append _ _)
  rw [categoryIn, named, if_pos token, List.drop_left]
  cases longest suffix entries <;> rfl

/-- What is no class of tokens has no category. -/
theorem exists_suffix {name : String} (known : categoryIn entries name ≠ .other) :
    ∃ suffix, name.toList = tokenClass ++ suffix := by
  by_contra absent
  refine known (if_neg fun token => absent ?_)
  obtain ⟨suffix, named⟩ := List.isPrefixOf_iff_prefix.1 token
  exact ⟨suffix, named.symm⟩

/-- The name of a class of tokens goes on behind the colons if it does not end with one. -/
theorem suffix_ended {suffix whole : List Char} (named : whole = tokenClass ++ suffix)
    (ended : whole.getLast? ≠ some ':') : suffix.getLast? ≠ some ':' := by
  intro colon
  refine ended ?_
  rw [named, List.getLast?_append, colon]
  rfl

/-- The category of a class of tokens is that of its longest entry, and there is one only. -/
theorem categoryIn_cases (reordered : entries.Perm categories) (name : String) :
    (∃ suffix entry, name.toList = tokenClass ++ suffix ∧ IsLongest categories suffix entry ∧
      (∀ other, IsLongest categories suffix other → other = entry) ∧
      categoryIn entries name = entry.2) ∨
    (∀ suffix, name.toList = tokenClass ++ suffix →
      ∀ entry ∈ categories, isBelow suffix entry.1 = false) ∧
      categoryIn entries name = .other := by
  by_cases token : ∃ suffix, name.toList = tokenClass ++ suffix
  · obtain ⟨suffix, named⟩ := token
    rw [categoryIn_of_token named, longest_perm reordered distinct_categories]
    cases best : longest suffix categories with
    | some entry =>
        have nearest := (longest_eq_some_iff distinct_categories).1 best
        exact .inl ⟨suffix, entry, named, nearest,
          fun other second => nearest.unique distinct_categories second, rfl⟩
    | none =>
        refine .inr ⟨fun other namedOther => ?_, rfl⟩
        rw [List.append_cancel_left (namedOther.symm.trans named)]
        exact longest_eq_none_iff.1 best
  · refine .inr ⟨fun suffix named => absurd ⟨suffix, named⟩ token, ?_⟩
    by_contra known
    exact token (exists_suffix known)

/-- The class of quoted regular expressions, or one below it, named in two parts. -/
def NamesQuotedRegexp (name rest : String) : Prop :=
  name = "PPI::Token::QuoteLike" ∧ (rest = "Regexp" ∨ "Regexp::".toList <+: rest.toList)

instance (name rest : String) : Decidable (NamesQuotedRegexp name rest) :=
  inferInstanceAs (Decidable (_ ∧ _))

theorem namesQuotedRegexp_iff {name rest : String} {suffix : List Char}
    (named : name.toList = tokenClass ++ suffix) :
    NamesQuotedRegexp name rest ↔ IsQuotedRegexp suffix rest.toList := by
  have whole : "PPI::Token::QuoteLike".toList = tokenClass ++ "QuoteLike".toList := by decide
  rw [NamesQuotedRegexp, IsQuotedRegexp, ← String.toList_inj, ← String.toList_inj, named, whole,
    List.append_cancel_left_eq]

/-- A class below another has the category of that one, if it has one. -/
theorem categoryIn_append (reordered : entries.Perm categories) {name rest : String}
    (ended : name.toList.getLast? ≠ some ':') (known : categoryIn entries name ≠ .other) :
    categoryIn entries (name ++ "::" ++ rest) =
      if NamesQuotedRegexp name rest then .regex else categoryIn entries name := by
  obtain ⟨suffix, named⟩ := exists_suffix known
  have namedBelow : (name ++ "::" ++ rest).toList =
      tokenClass ++ (suffix ++ ':' :: ':' :: rest.toList) := by
    simp [named]
  rw [categoryIn_of_token namedBelow, categoryIn_of_token named,
    longest_perm reordered distinct_categories, longest_perm reordered distinct_categories]
  split
  · next regexp =>
    have quoted := isLongest_quotedRegexp ((namesQuotedRegexp_iff named).1 regexp)
    rw [(longest_eq_some_iff distinct_categories).2 quoted]
    rfl
  · next plain =>
    have plain : ¬ IsQuotedRegexp suffix rest.toList :=
      fun quoted => plain ((namesQuotedRegexp_iff named).2 quoted)
    rw [longest_congr distinct_categories distinct_categories (fun _ => Iff.rfl)
      fun entry member => isBelow_inner member (suffix_ended named ended) plain]

/-- Whatever the order of the entries, a class of tokens has the category of the longest entry that
it is or is below, and there is one such entry only; where there is none, and outside the classes of
tokens, there is no category. So a class below one that has a category has the same, quoted regular
expressions apart. -/
theorem categoryIn_longest (reordered : entries.Perm categories) :
    (∀ name : String,
      (∃ suffix entry, name.toList = tokenClass ++ suffix ∧ IsLongest categories suffix entry ∧
        (∀ other, IsLongest categories suffix other → other = entry) ∧
        categoryIn entries name = entry.2) ∨
      (∀ suffix, name.toList = tokenClass ++ suffix →
        ∀ entry ∈ categories, isBelow suffix entry.1 = false) ∧
        categoryIn entries name = .other) ∧
    ∀ name rest : String, name.toList.getLast? ≠ some ':' → categoryIn entries name ≠ .other →
      categoryIn entries (name ++ "::" ++ rest) =
        if NamesQuotedRegexp name rest then .regex else categoryIn entries name :=
  ⟨categoryIn_cases reordered, fun _ _ ended known => categoryIn_append reordered ended known⟩

/-- With the entries backwards, the entry of regular expressions comes before that of all that is
quoted. It speaks for what is below it, and for nothing that only ends like it. -/
theorem categoryIn_longest_backwards :
    let entries := categories.reverse
    let words := "PPI::Token::QuoteLike::Words"
    entries.Perm categories ∧ words.toList.getLast? ≠ some ':' ∧
      categoryIn entries words = .quote ∧
      categoryIn entries (words ++ "::" ++ "Regexp") = .quote ∧
      categoryIn entries ("PPI::Token::QuoteLike" ++ "::" ++ "Regexp::Match") = .regex := by
  intro entries words
  have reordered : entries.Perm categories := List.reverse_perm categories
  have ended : words.toList.getLast? ≠ some ':' := by decide
  have quoted : categoryIn entries words = .quote := by decide
  have below := (categoryIn_longest reordered).2
  have inherited := below words "Regexp" ended (quoted ▸ by decide)
  have regexp := below "PPI::Token::QuoteLike" "Regexp::Match" (by decide) (by decide)
  exact ⟨reordered, ended, quoted, inherited.trans (quoted ▸ by decide), regexp.trans (by decide)⟩

end CodeMetrics.Dump
