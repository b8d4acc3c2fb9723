import Mathlib.Data.List.Nodup
import CodeMetrics.Entries
import CodeMetrics.Proofs.Computation
import CodeMetrics.Toml.Document

/-!
# Distinct names

The table of a document has every name once, so that it is the dictionary of its entries. What is
found in two layers that are merged is what the upper one has, or else what the lower one has. The
names of a merger are known from the names of its layers, whatever the values are.

Results:
1. `lookup_merge`, `merge_append`: entries that are put together.
2. `names_merge_congr`: the names of a merger.
3. `lookup_filter_key`, `lookup_filterMap_key`, `lookup_filter_value`: entries that are left out.
4. `Toml.distinct_of_read`, `Toml.entries_ofEntries_of_read`: the table of a document.
-/

namespace CodeMetrics

/-- What is found when some keys are left out. -/
theorem lookup_filter_key {κ α : Type} [BEq κ] [LawfulBEq κ] (keeps : κ → Bool) (key : κ)
    (entries : List (κ × α)) :
    (entries.filter fun entry => keeps entry.1).lookup key =
      if keeps key then entries.lookup key else none := by
  induction entries with
  | nil => simp
  | cons entry rest ih =>
      rw [List.filter_cons, List.lookup_cons]
      by_cases here : key = entry.1
      · subst here
        split
        · rw [List.lookup_cons]
          simp
        · next left =>
          rw [ih, if_neg left]
      · have elsewhere : (key == entry.1) = false := by simpa using here
        split
        · rw [List.lookup_cons, elsewhere, ih]
        · rw [elsewhere, ih]

/-- What is found among entries that some keys have, and no two of them the same name. -/
theorem lookup_filterMap_key {κ α : Type} {name : κ → String}
    (injective : ∀ {key other}, name key = name other → key = other) (value? : κ → Option α)
    (keys : List κ) [DecidableEq κ] (key : κ) :
    (keys.filterMap fun key => (value? key).map (name key, ·)).lookup (name key) =
      if key ∈ keys then value? key else none := by
  induction keys with
  | nil => rfl
  | cons first rest ih =>
      by_cases here : key = first
      · subst here
        rw [if_pos List.mem_cons_self]
        cases found : value? key with
        | none =>
            rw [List.filterMap_cons_none (by rw [found]; rfl), ih, found, ite_self]
        | some value =>
            rw [List.filterMap_cons_some (by rw [found]; rfl), List.lookup_cons, beq_self_eq_true]
      · have elsewhere : (name key == name first) = false := by
          simpa using fun same => here (injective same)
        have member : key ∈ first :: rest ↔ key ∈ rest := by simp [here]
        rw [if_congr member rfl rfl, ← ih]
        cases found : value? first with
        | none => rw [List.filterMap_cons_none (by rw [found]; rfl)]
        | some value =>
            rw [List.filterMap_cons_some (by rw [found]; rfl), List.lookup_cons, elsewhere]

namespace Entries

variable {α : Type} {entries others lower upper : Entries α} {name : String}

theorem lookup_eq_none_iff : entries.lookup name = none ↔ name ∉ entries.names := by
  rw [mem_names_iff]
  cases entries.lookup name <;> simp

/-! ## Putting -/

/-- A new name comes behind the others. -/
theorem put_of_fresh {value : α} (fresh : name ∉ entries.names) :
    put name value entries = entries ++ [(name, value)] := by
  induction entries with
  | nil => rfl
  | cons entry rest ih =>
      obtain ⟨different, freshRest⟩ := not_or.1 (List.mem_cons.not.1 fresh)
      rw [put, if_neg (Ne.symm different), ih freshRest, List.cons_append]

theorem names_put_congr (same : entries.names = others.names) (name : String) (value other : α) :
    (put name value entries).names = (put name other others).names := by
  induction entries generalizing others with
  | nil =>
      cases others with
      | nil => rfl
      | cons second others => cases same
  | cons first entries ih =>
      cases others with
      | nil => cases same
      | cons second others =>
          obtain ⟨key, keys⟩ : first.1 = second.1 ∧ names entries = names others :=
            List.cons.inj same
          rw [put, put, key]
          split
          · exact congrArg (name :: ·) keys
          · exact congrArg (second.1 :: ·) (ih keys)

/-! ## Merging -/

theorem merge_cons (lower : Entries α) (entry : String × α) (rest : Entries α) :
    lower.merge (entry :: rest) = (put entry.1 entry.2 lower).merge rest := rfl

/-- What the upper layer has holds. -/
theorem lookup_merge (distinct : upper.Distinct) (name : String) :
    (lower.merge upper).lookup name = (upper.lookup name).or (lower.lookup name) := by
  induction upper generalizing lower with
  | nil => rfl
  | cons entry rest ih =>
      obtain ⟨fresh, distinctRest⟩ := List.nodup_cons.1 distinct
      rw [merge_cons, ih distinctRest, lookup_put, List.lookup_cons]
      -- No later entry has the name of this one, so that its value stays.
      by_cases here : name = entry.1
      · have absent : rest.lookup name = none := lookup_eq_none_iff.2 (here ▸ fresh)
        simp [here ▸ absent, here]
      · have elsewhere : (name == entry.1) = false := by simpa using here
        rw [elsewhere, if_neg here]

/-- The names of a merger do not depend on the values. -/
theorem names_merge_congr {otherLower otherUpper : Entries α}
    (same : lower.names = otherLower.names) (sameUpper : upper.names = otherUpper.names) :
    (lower.merge upper).names = (otherLower.merge otherUpper).names := by
  induction upper generalizing lower otherLower otherUpper with
  | nil =>
      cases otherUpper with
      | nil => exact same
      | cons entry rest => cases sameUpper
  | cons entry rest ih =>
      cases otherUpper with
      | nil => cases sameUpper
      | cons other others =>
          obtain ⟨key, keys⟩ : entry.1 = other.1 ∧ names rest = names others :=
            List.cons.inj sameUpper
          rw [merge_cons, merge_cons, key]
          exact ih (names_put_congr same _ _ _) keys

theorem mem_names_merge :
    name ∈ (lower.merge upper).names ↔ name ∈ lower.names ∨ name ∈ upper.names := by
  induction upper generalizing lower with
  | nil => simp [merge, names]
  | cons entry rest ih =>
      rw [merge_cons, ih, mem_names_put, names, names, names, List.map_cons, List.mem_cons]
      tauto

/-- Entries that are put one by one stand as they came, if no name comes twice. -/
theorem merge_append (distinct : Distinct (lower ++ upper)) :
    lower.merge upper = lower ++ upper := by
  induction upper generalizing lower with
  | nil => exact (List.append_nil lower).symm
  | cons entry rest ih =>
      have fresh : entry.1 ∉ names lower := by
        intro member
        rw [Distinct, names, List.map_append, List.nodup_append] at distinct
        exact distinct.2.2 _ member _ List.mem_cons_self rfl
      rw [merge_cons, put_of_fresh fresh, ih, List.append_assoc, List.singleton_append]
      rwa [List.append_assoc, List.singleton_append]

/-! ## Leaving out -/

theorem lookup_filter_value (distinct : entries.Distinct) (keeps : α → Bool) :
    (entries.filter fun entry => keeps entry.2).lookup name =
      (entries.lookup name).filter keeps := by
  induction entries with
  | nil => rfl
  | cons entry rest ih =>
      obtain ⟨fresh, distinctRest⟩ := List.nodup_cons.1 distinct
      rw [List.lookup_cons]
      by_cases here : name = entry.1
      · have absent : rest.lookup name = none := lookup_eq_none_iff.2 (here ▸ fresh)
        rw [List.filter_cons]
        split
        · next kept =>
          rw [List.lookup_cons]
          simp [here, kept, Option.filter]
        · next left =>
          rw [ih distinctRest, absent]
          simp [here, left, Option.filter]
      · have elsewhere : (name == entry.1) = false := by simpa using here
        rw [elsewhere, List.filter_cons]
        split
        · rw [List.lookup_cons, elsewhere, ih distinctRest]
        · exact ih distinctRest

theorem distinct_filter (distinct : entries.Distinct) (keeps : String × α → Bool) :
    Distinct (entries.filter keeps) :=
  distinct.sublist (List.filter_sublist.map Prod.fst)

end Entries

/-! ## Documents -/

namespace Toml

variable {table result : Table} {document after : Document} {cs rest : List Char}

/-- A table stays one with distinct names when it is changed somewhere, if its own change does not
spoil them. -/
theorem Table.distinct_change {enterLists : Bool} {change : Table → Option Table}
    (keeps : ∀ table result, change table = some result → table.Distinct → result.Distinct)
    (distinct : table.Distinct) {path : List String}
    (changed : Table.change enterLists change table path = some result) : result.Distinct := by
  cases path with
  | nil => exact keeps table result changed distinct
  | cons name path =>
      rw [Table.change] at changed
      split at changed
      · obtain ⟨inner, -, equal⟩ := Option.bind_eq_some_iff.1 changed
        cases equal
        exact Entries.distinct_put distinct _ _
      · obtain ⟨inner, -, equal⟩ := Option.bind_eq_some_iff.1 changed
        cases equal
        exact Entries.distinct_put distinct _ _
      · split at changed
        · obtain ⟨inner, -, equal⟩ := Option.bind_eq_some_iff.1 changed
          cases equal
          exact Entries.distinct_put distinct _ _
        · cases changed
      · cases changed

theorem Table.distinct_add {name : String} {value : Value}
    (added : Table.add name value table = some result) (distinct : table.Distinct) :
    result.Distinct := by
  rw [Table.add] at added
  split at added
  · cases added
  · cases added
    exact Entries.distinct_put distinct _ _

theorem Table.distinct_append {name : String}
    (appended : Table.append name table = some result) (distinct : table.Distinct) :
    result.Distinct := by
  rw [Table.append] at appended
  split at appended
  · cases appended
    exact Entries.distinct_put distinct _ _
  · cases appended
    exact Entries.distinct_put distinct _ _
  · cases appended

theorem orMalformed_eq_ok {α : Type} {step : Option α} {a : α} :
    orMalformed step = .ok a ↔ step = some a := by
  cases step <;> simp [orMalformed]

theorem Document.distinct_keyValue (distinct : document.table.Distinct)
    (read : document.keyValue cs = .ok (after, rest)) : after.table.Distinct := by
  obtain ⟨⟨path, behind⟩, -, read⟩ := bind_eq_ok.1 read
  dsimp only at read
  split at read
  · obtain ⟨⟨item, last⟩, -, read⟩ := bind_eq_ok.1 read
    dsimp only at read
    split at read
    · cases read
    · obtain ⟨table, changed, equal⟩ := bind_eq_ok.1 read
      cases equal
      exact Table.distinct_change (fun _ _ => Table.distinct_add) distinct
        (orMalformed_eq_ok.1 changed)
  · cases read

theorem Document.distinct_tableHeader (distinct : document.table.Distinct)
    (read : document.tableHeader cs = .ok (after, rest)) : after.table.Distinct := by
  obtain ⟨⟨path, behind⟩, -, read⟩ := bind_eq_ok.1 read
  dsimp only at read
  split at read
  · cases read
  · obtain ⟨table, changed, read⟩ := bind_eq_ok.1 read
    split at read
    · cases read
      refine Table.distinct_change (fun _ _ same => ?_) distinct (orMalformed_eq_ok.1 changed)
      cases same
      exact id
    · cases read

theorem Document.distinct_listHeader (distinct : document.table.Distinct)
    (read : document.listHeader cs = .ok (after, rest)) : after.table.Distinct := by
  obtain ⟨⟨path, behind⟩, -, read⟩ := bind_eq_ok.1 read
  dsimp only at read
  split at read
  · cases read
  · obtain ⟨table, changed, read⟩ := bind_eq_ok.1 read
    split at read
    · cases read
      exact Table.distinct_change (fun _ _ => Table.distinct_append) distinct
        (orMalformed_eq_ok.1 changed)
    · cases read

theorem Document.distinct_statement (distinct : document.table.Distinct)
    (read : document.statement cs = .ok (after, rest)) : after.table.Distinct := by
  have settled : document.settle.table.Distinct := distinct
  rw [statement.eq_def] at read
  split at read
  · exact distinct_listHeader settled read
  · exact distinct_tableHeader settled read
  · cases read
    exact distinct
  · split at read
    · exact distinct_keyValue distinct read
    · cases read
  · cases read
    exact distinct

theorem Document.distinct_read {fuel : Nat} (distinct : document.table.Distinct)
    (read : document.read fuel cs = .ok result) : result.Distinct := by
  fun_induction Document.read fuel document cs with
  | case1 document cs fuel ended =>
      cases read
      exact distinct
  | case2 => cases read
  | case3 document cs fuel rest _ ih => exact ih distinct read
  | case4 document cs fuel _ _ ih =>
      obtain ⟨⟨after, behind⟩, stated, read⟩ := bind_eq_ok.1 read
      obtain ⟨left, -, read⟩ := bind_eq_ok.1 read
      have distinctAfter := distinct_statement distinct stated
      split at read
      · cases read
        exact distinctAfter
      · exact ih _ _ distinctAfter read
      · cases read

/-- No document has a name twice. -/
theorem distinct_of_read (described : Toml.read cs = .ok result) : result.Distinct := by
  have fresh : Document.empty.table.Distinct := List.nodup_nil
  exact Document.distinct_read fresh described

/-- The table of a document is what is read of it. -/
theorem entries_ofEntries_of_read (described : Toml.read cs = .ok result) :
    (Dictionary.ofEntries result).entries = result :=
  Entries.merge_append (distinct_of_read described)

end Toml

end CodeMetrics
