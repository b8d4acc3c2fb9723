import Mathlib.Data.List.Nodup
import CodeMetrics.Proofs.Stream

/-!
# Categories go by the narrowest kind

Lexers narrow their kinds as far as they like, and few of all kinds have a category of their own.
The others have that of a kind they are under. Kinds that one kind is under begin the same path, so
one of them is the longest, and its category counts. What finds it is the order in which the kinds
are asked for: none of them comes behind one that it is under.

Results:
1. `Kind.isUnder_or_isUnder`: two kinds above the same one are one above the other.
2. `Kind.longest_of_find?`: where narrow kinds come first, the first above a kind is the longest.
3. `Lexeme.plainCategory_eq`: the checks of a category are a search through the listed kinds.
4. `Lexeme.category_nearest`: the category of any lexeme.
-/

namespace CodeMetrics

/-! ## Kinds above a kind -/

namespace Kind

variable {kind other third : Kind}

theorem isUnder_iff : kind.isUnder other = true ↔ other.path <+: kind.path :=
  List.isPrefixOf_iff_prefix

theorem isUnder_trans (under : kind.isUnder other = true) (above : other.isUnder third = true) :
    kind.isUnder third = true :=
  isUnder_iff.2 ((isUnder_iff.1 above).trans (isUnder_iff.1 under))

/-- Of two kinds above the same one, the shorter is above the longer. -/
theorem isUnder_of_length_le (under : kind.isUnder other = true)
    (underThird : kind.isUnder third = true) (shorter : third.path.length ≤ other.path.length) :
    other.isUnder third = true :=
  isUnder_iff.2 (List.prefix_of_prefix_length_le (isUnder_iff.1 underThird) (isUnder_iff.1 under)
    shorter)

theorem isUnder_or_isUnder (under : kind.isUnder other = true)
    (underThird : kind.isUnder third = true) :
    other.isUnder third = true ∨ third.isUnder other = true := by
  rcases Nat.le_total third.path.length other.path.length with shorter | longer
  · exact .inl (isUnder_of_length_le under underThird shorter)
  · exact .inr (isUnder_of_length_le underThird under longer)

theorem length_le_of_isUnder (under : kind.isUnder other = true) :
    other.path.length ≤ kind.path.length :=
  (isUnder_iff.1 under).length_le

/-- Kinds of one length above the same kind are the same. -/
theorem eq_of_length_eq (under : kind.isUnder other = true)
    (underThird : kind.isUnder third = true)
    (long : other.path.length = third.path.length) : other = third := by
  have above := isUnder_iff.1 (isUnder_of_length_le under underThird (Nat.le_of_eq long.symm))
  exact congrArg Kind.mk (above.eq_of_length long.symm).symm

/-! ## Listed kinds -/

/-- A kind that has a category of its own, which may depend on the text of the lexeme. -/
structure Entry where
  kind : Kind
  category : Snippet → Category

/-- The kinds that have a category of their own. -/
def entries : List Entry :=
  [⟨.docstring, fun _ => .documentation⟩,
   ⟨.multilineComment, fun text =>
      if Lexeme.opensDocumentation text then .documentation else .comment⟩,
   ⟨.comment, fun _ => .comment⟩,
   ⟨.heredoc, fun _ => .heredoc⟩,
   ⟨.regex, fun _ => .regex⟩,
   ⟨.number, fun _ => .number⟩,
   ⟨.literal, fun _ => .quote⟩,
   ⟨.builtin, fun _ => .keyword⟩,
   ⟨.name, fun _ => .symbol⟩,
   ⟨.keyword, fun _ => .keyword⟩,
   ⟨.operator, fun _ => .operator⟩,
   ⟨.punctuation, fun _ => .punctuation⟩,
   ⟨.whitespace, fun _ => .whitespace⟩,
   ⟨.text, fun text => if text.allBlank then .whitespace else .other⟩]

/-- The longest of the listed kinds that a kind is, or is under. -/
structure IsNearest (kind : Kind) (entry : Entry) : Prop where
  listed : entry ∈ entries
  above : kind.isUnder entry.kind = true
  longest : ∀ other ∈ entries, kind.isUnder other.kind = true →
    other.kind.path.length ≤ entry.kind.path.length

/-- No kind is listed twice. -/
theorem entry_injective {entry other : Entry} (listed : entry ∈ entries)
    (listedOther : other ∈ entries) (same : entry.kind = other.kind) : entry = other := by
  have distinct : (entries.map Entry.kind).Nodup := by decide
  exact List.inj_on_of_nodup_map distinct listed listedOther same

theorem IsNearest.unique {entry other : Entry} (nearest : kind.IsNearest entry)
    (nearestOther : kind.IsNearest other) : other = entry := by
  have long : other.kind.path.length = entry.kind.path.length :=
    Nat.le_antisymm (nearest.longest other nearestOther.listed nearestOther.above)
      (nearestOther.longest entry nearest.listed nearest.above)
  exact entry_injective nearestOther.listed nearest.listed
    (eq_of_length_eq nearestOther.above nearest.above long)

/-! ## The search -/

/-- No kind comes behind one that it is under. -/
def NarrowFirst (entries : List Entry) : Prop :=
  entries.Pairwise fun entry later => later.kind.isUnder entry.kind = false

/-- Where narrow kinds come first, the first that is above a kind is the longest. -/
theorem longest_of_find? {entries : List Entry} (ordered : NarrowFirst entries) {kind : Kind}
    {entry : Entry}
    (found : entries.find? (fun entry => kind.isUnder entry.kind) = some entry) :
    ∀ other ∈ entries, kind.isUnder other.kind = true →
      other.kind.path.length ≤ entry.kind.path.length := by
  obtain ⟨above, before, behind, rfl, passed⟩ := List.find?_eq_some_iff_append.1 found
  intro other member under
  rcases List.mem_append.1 member with earlier | later
  · exact absurd under (by simpa using passed other earlier)
  · rcases List.mem_cons.1 later with rfl | later
    · exact Nat.le_refl _
    · -- What comes later is not under the one that was found, so it is above it.
      have apart := (List.pairwise_cons.1 (List.pairwise_append.1 ordered).2.1).1 other later
      rcases isUnder_or_isUnder under above with narrower | wider
      · rw [apart] at narrower
        cases narrower
      · exact length_le_of_isUnder wider

theorem narrowFirst_entries : NarrowFirst entries := by
  unfold NarrowFirst
  decide

/-- The listed kind that is asked for first, of all that are above a kind. -/
def nearest? (kind : Kind) : Option Entry :=
  entries.find? fun entry => kind.isUnder entry.kind

theorem isNearest_of_nearest? {kind : Kind} {entry : Entry}
    (found : nearest? kind = some entry) : kind.IsNearest entry where
  listed := List.mem_of_find?_eq_some found
  above := List.find?_some (p := fun entry : Entry => kind.isUnder entry.kind) found
  longest := longest_of_find? narrowFirst_entries found

theorem isUnder_of_nearest?_eq_none {kind : Kind} (unlisted : nearest? kind = none) :
    ∀ entry ∈ entries, kind.isUnder entry.kind = false := by
  intro entry listed
  exact Bool.eq_false_iff.2 (List.find?_eq_none.1 unlisted entry listed)

end Kind

namespace Lexeme

variable {lexeme : Lexeme}

theorem find?_elim_cons (p : Kind.Entry → Bool) (entry : Kind.Entry) (rest : List Kind.Entry)
    (text : Snippet) :
    ((entry :: rest).find? p).elim .other (fun found => found.category text) =
      if p entry then entry.category text
      else (rest.find? p).elim .other fun found => found.category text := by
  rw [List.find?_cons]
  cases p entry <;> rfl

/-- A check that two kinds share is two checks, one for each of them. -/
theorem ite_both {first second check : Bool} {kept left : Category} :
    (if first || (second && check) then kept else left) =
      if first then kept else if second then if check then kept else left else left := by
  cases first <;> cases second <;> rfl

/-- A narrow kind whose check fails has the category of the wider kind behind it. -/
theorem ite_narrow {narrow wide check : Bool} (wider : narrow = true → wide = true)
    {kept fallback left : Category} :
    (if narrow && check then kept else if wide then fallback else left) =
      if narrow then if check then kept else fallback else if wide then fallback else left := by
  cases narrow with
  | false => rfl
  | true => rw [wider rfl, Bool.true_and, if_pos rfl, if_pos rfl]

/-- The checks of a category are a search through the listed kinds. -/
theorem plainCategory_eq (lexeme : Lexeme) :
    lexeme.plainCategory =
      (Kind.nearest? lexeme.kind).elim .other fun entry => entry.category lexeme.text := by
  have wider : lexeme.kind.isUnder .multilineComment = true →
      lexeme.kind.isUnder .comment = true :=
    fun under => Kind.isUnder_trans under (by decide)
  simp only [Kind.nearest?, Kind.entries, find?_elim_cons, List.find?_nil, Option.elim_none]
  simp only [plainCategory, ite_both, ite_narrow wider]

end Lexeme

/-! ## Markers -/

/-- How a marker is written. -/
def Marker.text : Marker → String
  | .stop => "__END__"
  | .data => "__DATA__"

theorem Marker.ofText?_eq_some {text : Snippet} {marker : Marker} :
    ofText? text = some marker ↔ text.trimmed = .ofString marker.text := by
  have apart : Snippet.ofString "__END__" ≠ .ofString "__DATA__" := by decide
  rw [ofText?]
  split
  · next stop => cases marker <;> simp [Marker.text, stop, apart]
  · next other =>
    split
    · next data => cases marker <;> simp [Marker.text, data, apart.symm]
    · next neither => cases marker <;> simp [Marker.text, other, neither]

namespace Lexeme

variable {lexeme : Lexeme} {marker : Marker}

/-- The lexeme is a marker: a directive or a builtin that reads as one, blanks around it aside. -/
def IsMarker (lexeme : Lexeme) (marker : Marker) : Prop :=
  (lexeme.kind.isUnder .preprocessor = true ∨ lexeme.kind.isUnder .builtin = true) ∧
    lexeme.text.trimmed = .ofString marker.text

theorem marker?_eq_some : lexeme.marker? = some marker ↔ lexeme.IsMarker marker := by
  rw [marker?, IsMarker, ← Marker.ofText?_eq_some, ← Bool.or_eq_true]
  split
  · next named => exact (and_iff_right named).symm
  · next unnamed => exact ⟨nofun, fun both => absurd both.1 unnamed⟩

theorem marker?_eq_none : lexeme.marker? = none ↔ ∀ marker, ¬ lexeme.IsMarker marker := by
  simp only [Option.eq_none_iff_forall_ne_some, ne_eq, marker?_eq_some]

end Lexeme

/-- A marker has the category of what follows it. Every other lexeme has the category of the longest
listed kind that its kind is, or is under, and there is one such kind only; where there is none, it
has no category of its own. In particular nothing but a marker is an end marker or data. -/
theorem Lexeme.category_nearest (lexeme : Lexeme) :
    (∃ marker, lexeme.IsMarker marker ∧ lexeme.category = marker.category) ∨
      (∀ marker, ¬ lexeme.IsMarker marker) ∧
        lexeme.category ≠ .endMarker ∧ lexeme.category ≠ .data ∧
        ((∃ entry, lexeme.kind.IsNearest entry ∧
            (∀ other, lexeme.kind.IsNearest other → other = entry) ∧
            lexeme.category = entry.category lexeme.text) ∨
          (∀ entry ∈ Kind.entries, lexeme.kind.isUnder entry.kind = false) ∧
            lexeme.category = .other) := by
  cases marked : lexeme.marker? with
  | some marker =>
      exact .inl ⟨marker, marker?_eq_some.1 marked, by rw [category, marked]⟩
  | none =>
      have plain : lexeme.category = lexeme.plainCategory := by rw [category, marked]
      refine .inr ⟨marker?_eq_none.1 marked, plain ▸ lexeme.plainCategory_ne_marker .stop,
        plain ▸ lexeme.plainCategory_ne_marker .data, ?_⟩
      rw [plain, plainCategory_eq]
      cases found : Kind.nearest? lexeme.kind with
      | some entry =>
          have nearest := Kind.isNearest_of_nearest? found
          exact .inl ⟨entry, nearest, fun other => nearest.unique, rfl⟩
      | none => exact .inr ⟨Kind.isUnder_of_nearest?_eq_none found, rfl⟩

end CodeMetrics
