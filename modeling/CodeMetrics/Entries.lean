/-!
# Entries

Values under names, in the order in which the names first came. A value that is put under a name
again takes the place of the old one, so that entries that are put one by one have every name once:
they are a dictionary.

Results:
1. `lookup_put`: what is found under a name after a value was put.
2. `distinct_put`, `distinct_merge`: names that come once.
-/

namespace CodeMetrics

abbrev Entries (α : Type) := List (String × α)

namespace Entries

variable {α : Type} {entries lower : Entries α} {name : String}

def put (name : String) (value : α) : Entries α → Entries α
  | [] => [(name, value)]
  | (other, old) :: rest =>
      if other = name then (name, value) :: rest else (other, old) :: put name value rest

/-- The entries of both; those of the upper ones hold. -/
def merge (lower upper : Entries α) : Entries α :=
  upper.foldl (fun entries entry => put entry.1 entry.2 entries) lower

theorem lookup_put (name other : String) (value : α) (entries : Entries α) :
    (put name value entries).lookup other =
      if other = name then some value else entries.lookup other := by
  induction entries with
  | nil => grind [put]
  | cons entry rest ih => grind [put]

/-! ## Names that come once -/

def names (entries : Entries α) : List String := entries.map Prod.fst

/-- Every name comes once. -/
def Distinct (entries : Entries α) : Prop := entries.names.Nodup

instance (entries : Entries α) : Decidable entries.Distinct :=
  inferInstanceAs (Decidable entries.names.Nodup)

theorem mem_names_iff : name ∈ entries.names ↔ (entries.lookup name).isSome = true := by
  induction entries with
  | nil => simp [names]
  | cons entry rest ih =>
      rw [names, List.map_cons, List.mem_cons, List.lookup_cons]
      by_cases here : name = entry.1
      · simp [here]
      · have elsewhere : (name == entry.1) = false := by simpa using here
        rw [elsewhere, ← ih, names]
        simp [here]

theorem mem_names_put {other : String} {value : α} :
    other ∈ (put name value entries).names ↔ other = name ∨ other ∈ entries.names := by
  rw [mem_names_iff, lookup_put, mem_names_iff]
  by_cases here : other = name
  · simp [here]
  · simp [here]

theorem distinct_nil : Distinct ([] : Entries α) := List.nodup_nil

theorem distinct_put (distinct : entries.Distinct) (name : String) (value : α) :
    (put name value entries).Distinct := by
  induction entries with
  | nil => exact List.nodup_cons.2 ⟨List.not_mem_nil, List.nodup_nil⟩
  | cons entry rest ih =>
      obtain ⟨fresh, distinctRest⟩ := List.nodup_cons.1 distinct
      rw [put]
      split
      · next same => exact List.nodup_cons.2 ⟨same ▸ fresh, distinctRest⟩
      · next different =>
        refine List.nodup_cons.2 ⟨fun member => ?_, ih distinctRest⟩
        rcases mem_names_put.1 member with same | old
        · exact different same
        · exact fresh old

theorem distinct_merge (distinct : lower.Distinct) (upper : Entries α) :
    (lower.merge upper).Distinct := by
  induction upper generalizing lower with
  | nil => exact distinct
  | cons entry rest ih => exact ih (distinct_put distinct entry.1 entry.2)

end Entries

/-- Entries that have every name once. -/
structure Dictionary (α : Type) where
  entries : Entries α
  distinct : entries.Distinct

/-- The dictionary of some entries, put one by one. -/
def Dictionary.ofEntries {α : Type} (entries : Entries α) : Dictionary α :=
  ⟨Entries.merge [] entries, Entries.distinct_merge Entries.distinct_nil entries⟩

end CodeMetrics
