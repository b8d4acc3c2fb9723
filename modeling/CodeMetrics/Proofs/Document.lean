import CodeMetrics.Proofs.Numeral
import CodeMetrics.Proofs.Spelling

/-!
# Documents that are read back

A value is written without its kind, and read as a tree. Lists and tables hold values, so all of
them are read by one induction, on the fuel: what is inside a value is shorter than the value, and
what follows an item is shorter than the rest of its list. Behind a value there is a comma, a new
line or nothing, and none of these can be taken for a part of a number.

Results:
1. `readValue_literal`, `readValue_text`: numbers and texts, with anything behind them that ends
   them.
2. `readItems_succ`, `readMembers_succ`, `readValue_succ`: one more unit of fuel.
3. `readsBack`: everything that is written is read back.
4. `read_document`: a document is read as what its value says.
-/

namespace CodeMetrics.Report.Json

open Number (integerText shortText)

/-! ## What values say -/

mutual

/-- What a value says in a document. -/
def treeOf : Value → Tree
  | .null => .null
  | .bool b => .bool b
  | .int n => .whole n
  | .real x => .decimal (shortText x)
  | .text s => .text s
  | .torn t => .text t.shown
  | .moment m => .text m.shown
  | .list items => .list (treesOf items)
  | .table entries => .table (memberTrees entries)

def treesOf : List Value → List Tree
  | [] => []
  | item :: rest => treeOf item :: treesOf rest

def memberTrees : List (String × Value) → List (String × Tree)
  | [] => []
  | (key, member) :: rest => (key, treeOf member) :: memberTrees rest

end

mutual

/-- Documents have a form for the value that can be read: its doubles are finite, its texts are made
of characters, and there is no moment in it. -/
def isPlainValue : Value → Bool
  | .null | .bool _ | .int _ | .text _ => true
  | .real x => x.isFinite
  | .torn _ | .moment _ => false
  | .list items => arePlain items
  | .table entries => areEntriesPlain entries

def arePlain : List Value → Bool
  | [] => true
  | item :: rest => isPlainValue item && arePlain rest

def areEntriesPlain : List (String × Value) → Bool
  | [] => true
  | (_, member) :: rest => isPlainValue member && areEntriesPlain rest

end

/-! ## Spaces -/

variable {cs rest : List Char} {n depth : Nat}

theorem next?_cons {c : Char} (solid : isSpace c = false) : next? (c :: cs) = some (c, cs) := by
  rw [next?, List.dropWhile_cons_of_neg (Bool.eq_false_iff.1 solid)]

theorem isSpace_of_mem_newLine {c : Char} (member : c ∈ newLine depth) : isSpace c = true := by
  rcases List.mem_cons.1 member with rfl | space
  · rfl
  · rw [List.eq_of_mem_replicate space]
    rfl

theorem next?_newLine (depth : Nat) (cs : List Char) : next? (newLine depth ++ cs) = next? cs := by
  rw [next?, List.dropWhile_append_of_pos fun _ => isSpace_of_mem_newLine, next?]

theorem readValue_newLine (n depth : Nat) (cs : List Char) :
    readValue n (newLine depth ++ cs) = readValue n cs := by
  cases n with
  | zero => rfl
  | succ n => rw [readValue, next?_newLine, readValue]

theorem readValue_space (n : Nat) (cs : List Char) : readValue n (' ' :: cs) = readValue n cs := by
  cases n with
  | zero => rfl
  | succ n => rw [readValue, readValue]; rfl

theorem readItems_newLine (n depth : Nat) (cs : List Char) :
    readItems n (newLine depth ++ cs) = readItems n cs := by
  cases n with
  | zero => rfl
  | succ n => rw [readItems, readValue_newLine, readItems]

theorem readMembers_newLine (n depth : Nat) (cs : List Char) :
    readMembers n (newLine depth ++ cs) = readMembers n cs := by
  cases n with
  | zero => rfl
  | succ n => rw [readMembers, next?_newLine, readMembers]

/-! ## Words -/

/-- What is behind a value cannot be taken for a part of it. -/
def Ends (rest : List Char) : Prop := ∀ c ∈ rest.head?, isWordChar c = false

theorem isSpace_of_isWordChar {c : Char} (inside : isWordChar c = true) : isSpace c = false := by
  by_contra space
  simp only [Bool.not_eq_false, isSpace, Bool.or_eq_true, decide_eq_true_eq] at space
  rcases space with ((rfl | rfl) | rfl) | rfl <;> cases inside

theorem readWord_append {tree : Tree} (known : word? cs = some tree)
    (inside : ∀ c ∈ cs, isWordChar c = true) (ends : Ends rest) :
    readWord (cs ++ rest) = some (tree, rest) := by
  obtain ⟨word, left⟩ := split_append inside ends
  rw [readWord, word, left, known]
  rfl

theorem readValue_word {tree : Tree} (known : word? cs = some tree)
    (inside : ∀ c ∈ cs, isWordChar c = true) (nonempty : cs ≠ []) (ends : Ends rest) :
    readValue (n + 1) (cs ++ rest) = some (tree, rest) := by
  obtain ⟨c, more, rfl⟩ := List.exists_cons_of_ne_nil nonempty
  have first : isWordChar c = true := inside c List.mem_cons_self
  have other {d : Char} (outside : isWordChar d = false) : c ≠ d := by
    rintro rfl
    cases first.symm.trans outside
  have word := readWord_append known inside ends
  rw [List.cons_append] at word ⊢
  rw [readValue, next?_cons (isSpace_of_isWordChar first)]
  show (if c = '\x22' then _ else if c = '[' then _ else if c = '\x7b' then _ else
    readWord (c :: (more ++ rest))) = _
  rw [if_neg (other rfl), if_neg (other rfl), if_neg (other rfl), word]

theorem readValue_literal {tree : Tree} (literal : IsLiteral cs tree) (ends : Ends rest) :
    readValue (n + 1) (cs ++ rest) = some (tree, rest) := by
  obtain ⟨c, more, rfl, front⟩ := literal.front
  refine readValue_word ?_ literal.inside nofun ends
  have other {d : Char} (dash : d ≠ '-') (letter : d.isDigit = false) (behind : List Char) :
      c :: more ≠ d :: behind := by
    rintro ⟨⟩
    rcases front with rfl | digit
    · exact dash rfl
    · cases digit.symm.trans letter
  rw [word?, if_neg, if_neg, if_neg, literal.number]
  · exact other (by decide) rfl _
  · exact other (by decide) rfl _
  · exact other (by decide) rfl _

/-! ## Texts -/

theorem next?_text (s : String) (rest : List Char) :
    next? (text s ++ rest) = some ('\x22', s.toList.flatMap escape ++ '\x22' :: rest) := by
  have quoted : text s ++ rest = '\x22' :: (s.toList.flatMap escape ++ '\x22' :: rest) := by
    simp [text]
  rw [quoted, next?_cons (by decide)]

theorem readValue_text (s : String) (rest : List Char) :
    readValue (n + 1) (text s ++ rest) = some (.text s, rest) := by
  rw [readValue, next?_text]
  show (readText (s.toList.flatMap escape ++ '\x22' :: rest) >>= _) = _
  rw [readText_escape]
  rfl

/-! ## Nested values -/

theorem real_eq {x : Float} (finite : x.isFinite = true) : real x = (shortText x).toList := by
  have number := Number.isNaN_of_isFinite finite
  rw [real, number, Number.isInf_eq number, finite]
  rfl

/-- Nothing that is written starts as the end of a list does. -/
theorem next?_value {v : Value} (plain : isPlainValue v = true) (depth : Nat) (rest : List Char) :
    ∃ c left, next? (value depth v ++ rest) = some (c, left) ∧ c ≠ ']' := by
  have literal {cs : List Char} {tree : Tree} (literal : IsLiteral cs tree) :
      ∃ c left, next? (cs ++ rest) = some (c, left) ∧ c ≠ ']' := by
    obtain ⟨c, more, rfl, -⟩ := literal.front
    have first : isWordChar c = true := literal.inside c List.mem_cons_self
    refine ⟨c, _, next?_cons (isSpace_of_isWordChar first), ?_⟩
    rintro rfl
    cases first
  cases v with
  | null => exact ⟨'n', _, rfl, by decide⟩
  | bool b => cases b <;> exact ⟨_, _, rfl, by decide⟩
  | int n => exact literal (isLiteral_integerText n)
  | real x =>
      have finite : x.isFinite = true := plain
      rw [value, real_eq finite]
      exact literal (isLiteral_shortText finite)
  | text s => exact ⟨_, _, next?_text s rest, by decide⟩
  | torn | moment => cases plain
  | list items => cases items <;> exact ⟨'[', _, rfl, by decide⟩
  | table entries => cases entries <;> exact ⟨'\x7b', _, rfl, by decide⟩

/-- With enough fuel, what is written is read back: a value, the items of a list and the members of
a table. -/
structure ReadsBack (fuel : Nat) : Prop where
  ofValue {v : Value} {rest : List Char} (depth : Nat) (plain : isPlainValue v = true)
    (enough : (value depth v).length ≤ fuel) (ends : Ends rest) :
    readValue fuel (value depth v ++ rest) = some (treeOf v, rest)
  ofItems {first : Value} {others : List Value} {close left : List Char} (depth : Nat)
    (plain : arePlain (first :: others) = true)
    (enough : (value depth first ++ items depth others).length < fuel) (ends : Ends close)
    (closes : next? close = some (']', left)) :
    readItems fuel (value depth first ++ (items depth others ++ close)) =
      some (treesOf (first :: others), left)
  ofMembers {key : String} {first : Value} {others : List (String × Value)}
    {close left : List Char} (depth : Nat)
    (plain : areEntriesPlain ((key, first) :: others) = true)
    (enough : (text key ++ ':' :: ' ' :: value depth first ++ members depth others).length < fuel)
    (ends : Ends close) (closes : next? close = some ('\x7d', left)) :
    readMembers fuel
        (text key ++ ':' :: ' ' :: (value depth first ++ (members depth others ++ close))) =
      some (memberTrees ((key, first) :: others), left)

variable {close left : List Char}

theorem ends_newLine (depth : Nat) (rest : List Char) : Ends (newLine depth ++ rest) :=
  fun _ member => Option.some.inj member ▸ rfl

theorem ends_items (ends : Ends close) (depth : Nat) (others : List Value) :
    Ends (items depth others ++ close) := by
  cases others with
  | nil => exact ends
  | cons => exact fun _ member => Option.some.inj member ▸ rfl

theorem ends_members (ends : Ends close) (depth : Nat) (others : List (String × Value)) :
    Ends (members depth others ++ close) := by
  cases others with
  | nil => exact ends
  | cons => exact fun _ member => Option.some.inj member ▸ rfl

theorem readItems_of {item : Tree} {c : Char} {behind : List Char}
    (first : readValue n cs = some (item, rest)) (next : next? rest = some (c, behind)) :
    readItems (n + 1) cs =
      if c = ',' then (readItems n behind).map fun found => (item :: found.1, found.2)
      else if c = ']' then some ([item], behind) else none := by
  simp only [readItems, first, next, Option.bind_eq_bind, Option.bind_some]
  cases readItems n behind <;> rfl

theorem readMembers_of {key : String} {member : Tree} {c : Char} {behind inside : List Char}
    (quote : next? cs = some ('\x22', inside)) (name : readText inside = some (key, ':' :: rest))
    (value : readValue n rest = some (member, left)) (next : next? left = some (c, behind)) :
    readMembers (n + 1) cs =
      if c = ',' then (readMembers n behind).map fun found => ((key, member) :: found.1, found.2)
      else if c = '\x7d' then some ([(key, member)], behind) else none := by
  have colon : next? (':' :: rest) = some (':', rest) := next?_cons (by decide)
  simp only [readMembers, quote, name, colon, value, next, Option.bind_eq_bind, Option.bind_some]
  cases readMembers n behind <;> rfl

theorem readItems_succ (ih : ReadsBack n) {first : Value} {others : List Value}
    (plain : arePlain (first :: others) = true)
    (enough : (value depth first ++ items depth others).length < n + 1) (ends : Ends close)
    (closes : next? close = some (']', left)) :
    readItems (n + 1) (value depth first ++ (items depth others ++ close)) =
      some (treesOf (first :: others), left) := by
  obtain ⟨plainFirst, plainOthers⟩ := Bool.and_eq_true_iff.1 plain
  rw [List.length_append] at enough
  have item := ih.ofValue depth plainFirst (by omega) (ends_items ends depth others)
  cases others with
  | nil => exact readItems_of item closes
  | cons second more =>
      have parts : items depth (second :: more) ++ close =
          ',' :: (newLine depth ++ (value depth second ++ (items depth more ++ close))) := by
        simp [items]
      have shorter : (value depth second ++ items depth more).length < n := by
        simp [items, newLine] at enough ⊢
        omega
      rw [readItems_of item (parts ▸ next?_cons (by decide)), if_pos rfl, readItems_newLine,
        ih.ofItems depth plainOthers shorter ends closes]
      rfl

theorem readMembers_succ (ih : ReadsBack n) {key : String} {first : Value}
    {others : List (String × Value)} (plain : areEntriesPlain ((key, first) :: others) = true)
    (enough : (text key ++ ':' :: ' ' :: value depth first ++ members depth others).length < n + 1)
    (ends : Ends close) (closes : next? close = some ('\x7d', left)) :
    readMembers (n + 1)
        (text key ++ ':' :: ' ' :: (value depth first ++ (members depth others ++ close))) =
      some (memberTrees ((key, first) :: others), left) := by
  obtain ⟨plainFirst, plainOthers⟩ := Bool.and_eq_true_iff.1 plain
  simp only [List.length_append, List.length_cons] at enough
  have member := ih.ofValue depth plainFirst (by omega) (ends_members ends depth others)
  rw [← readValue_space] at member
  cases others with
  | nil => exact readMembers_of (next?_text key _) (readText_escape key _) member closes
  | cons second more =>
      obtain ⟨name, second⟩ := second
      have parts : members depth ((name, second) :: more) ++ close =
          ',' :: (newLine depth ++ (text name ++
            ':' :: ' ' :: (value depth second ++ (members depth more ++ close)))) := by
        simp [members]
      have shorter :
          (text name ++ ':' :: ' ' :: value depth second ++ members depth more).length < n := by
        simp [members, newLine] at enough ⊢
        omega
      rw [readMembers_of (next?_text key _) (readText_escape key _) member
        (parts ▸ next?_cons (by decide)), if_pos rfl, readMembers_newLine,
        ih.ofMembers depth plainOthers shorter ends closes]
      rfl

theorem readValue_list {ts : List Tree} {c : Char} {inside behind : List Char}
    (opened : next? cs = some ('[', inside)) (next : next? inside = some (c, behind))
    (nonempty : c ≠ ']') (read : readItems n inside = some (ts, left)) :
    readValue (n + 1) cs = some (.list ts, left) := by
  simp only [readValue, opened, next, read, if_neg nonempty, Option.bind_eq_bind, Option.bind_some]
  rfl

theorem readValue_table {ts : List (String × Tree)} {c : Char} {inside behind : List Char}
    (opened : next? cs = some ('\x7b', inside)) (next : next? inside = some (c, behind))
    (nonempty : c ≠ '\x7d') (read : readMembers n inside = some (ts, left)) :
    readValue (n + 1) cs = some (.table ts, left) := by
  simp only [readValue, opened, next, read, if_neg nonempty, Option.bind_eq_bind, Option.bind_some]
  rfl

theorem readValue_succ (ih : ReadsBack n) {v : Value} (plain : isPlainValue v = true)
    (enough : (value depth v).length ≤ n + 1) (ends : Ends rest) :
    readValue (n + 1) (value depth v ++ rest) = some (treeOf v, rest) := by
  have closing (close : Char) (outside : isWordChar close = false) (solid : isSpace close = false) :
      Ends (newLine depth ++ close :: rest) ∧
        next? (newLine depth ++ close :: rest) = some (close, rest) :=
    ⟨ends_newLine depth _, (next?_newLine depth _).trans (next?_cons solid)⟩
  cases v with
  | null =>
      rw [value]
      exact readValue_word rfl (List.all_eq_true.1 (by decide)) nofun ends
  | bool b =>
      cases b <;> rw [value] <;>
        exact readValue_word rfl (List.all_eq_true.1 (by decide)) nofun ends
  | int n => exact readValue_literal (isLiteral_integerText n) ends
  | real x =>
      have finite : x.isFinite = true := plain
      rw [value, real_eq finite]
      exact readValue_literal (isLiteral_shortText finite) ends
  | text s => exact readValue_text s rest
  | torn | moment => cases plain
  | list items =>
      cases items with
      | nil => rfl
      | cons first others =>
          obtain ⟨behind, closes⟩ := closing ']' rfl rfl
          have parts : value depth (.list (first :: others)) ++ rest =
              '[' :: (newLine (depth + 1) ++ (value (depth + 1) first ++
                (Json.items (depth + 1) others ++ (newLine depth ++ ']' :: rest)))) := by
            simp [value]
          have shorter : (value (depth + 1) first ++ Json.items (depth + 1) others).length < n := by
            simp [value, newLine] at enough ⊢
            omega
          obtain ⟨c, left, next, other⟩ :=
            next?_value (Bool.and_eq_true_iff.1 plain).1 (depth + 1) _
          rw [parts]
          refine readValue_list (next?_cons (by decide)) ((next?_newLine _ _).trans next) other ?_
          rw [readItems_newLine]
          exact ih.ofItems (depth + 1) plain shorter behind closes
  | table entries =>
      cases entries with
      | nil => rfl
      | cons entry others =>
          obtain ⟨key, first⟩ := entry
          obtain ⟨behind, closes⟩ := closing '\x7d' rfl rfl
          have parts : value depth (.table ((key, first) :: others)) ++ rest =
              '\x7b' :: (newLine (depth + 1) ++ (text key ++ ':' :: ' ' ::
                (value (depth + 1) first ++
                  (members (depth + 1) others ++ (newLine depth ++ '\x7d' :: rest))))) := by
            simp [value]
          have shorter : (text key ++ ':' :: ' ' :: value (depth + 1) first ++
              members (depth + 1) others).length < n := by
            simp [value, newLine] at enough ⊢
            omega
          rw [parts]
          refine readValue_table (next?_cons (by decide))
            ((next?_newLine _ _).trans (next?_text key _)) (by decide) ?_
          rw [readMembers_newLine]
          exact ih.ofMembers (depth + 1) plain shorter behind closes

theorem readsBack_zero : ReadsBack 0 where
  ofValue {v _} depth plain enough _ := by
    obtain ⟨c, left, next, -⟩ := next?_value plain depth []
    rw [List.eq_nil_of_length_eq_zero (Nat.le_zero.1 enough)] at next
    cases next
  ofItems _ _ enough _ _ := absurd enough (Nat.not_lt_zero _)
  ofMembers _ _ enough _ _ := absurd enough (Nat.not_lt_zero _)

theorem readsBack (fuel : Nat) : ReadsBack fuel := by
  induction fuel with
  | zero => exact readsBack_zero
  | succ n ih =>
      exact ⟨fun _ => readValue_succ ih, fun _ => readItems_succ ih, fun _ => readMembers_succ ih⟩

/-- A document is read as what its value says, and a line feed is behind it. -/
theorem read_document {v : Value} {text : String} (plain : isPlainValue v = true)
    (written : document v = .ok text) :
    ∃ body, text = body ++ "\n" ∧ read body = some (treeOf v) := by
  rw [document] at written
  split at written
  · cases written
  cases written
  refine ⟨String.ofList (value 0 v), String.ofList_append, ?_⟩
  have back := (readsBack ((value 0 v).length + 1)).ofValue 0 plain (Nat.le_succ _)
    (nofun : Ends [])
  rw [List.append_nil] at back
  rw [read, String.length_ofList, String.toList_ofList, back]
  rfl

end CodeMetrics.Report.Json
