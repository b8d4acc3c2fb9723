import CodeMetrics.Proofs.Deriving

/-!
# Policies with overrides

A table of overrides is read entry by entry, and what is read is assigned at once. So two tables
that are applied one after the other are one table, the last entry for a category decides on its
role, and the first entry that cannot be read is the one that is reported.

Results:
1. `Override.read_eq_ok`, `Override.read_eq_error`: what an entry assigns, or what is wrong with it.
2. `Policy.reassign_eq_map`: a table is read as a whole, and its assignments follow each other.
3. `Policy.reassign_append`, `Policy.reassign_merge`: two tables as one, in two ways.
4. `Policy.reassign_last_wins`: what becomes of a policy, and what is reported.
5. `Policy.reassign_unwritten`: a role that cannot be written cannot be reported.
6. `tally_of_present`: a tally depends on the categories that occur, and a category that is ignored
   might as well not occur.

A table is a list of entries here. In a map each key stands once, but a category has two keys,
itself and its name, so that a map can name it twice. The reading of two maps as one that leaves the
keys of the first in their places is not meant: a later key of the first map would win over the
second one. `Override.merge` takes them out and puts them behind.
-/

namespace CodeMetrics

/-! ## Keys and roles -/

theorem Category.ofName?_name (category : Category) : ofName? category.name = some category := by
  cases category <;> decide

theorem Category.ofName?_eq_some {name : String} {category : Category} :
    ofName? name = some category ↔ name = category.name := by
  constructor
  · intro found
    have named := List.find?_some found
    exact (eq_of_beq named).symm
  · rintro rfl
    exact ofName?_name category

theorem Role.ofValue?_eq_some {value : Value} {role : Role} :
    ofValue? value = some role ↔ value = .text role.name := by
  constructor
  · intro found
    unfold ofValue? at found
    split at found <;> cases found <;> rfl
  · rintro rfl
    cases role <;> rfl

/-- The key means the category: it is the category, or its name. -/
def CategoryKey.Names (key : CategoryKey) (category : Category) : Prop :=
  key = .member category ∨ key = .named category.name

/-- The role is meant: by itself, or by a text that is its name. -/
def RoleKey.Names (given : RoleKey) (role : Role) : Prop :=
  given = .member role ∨ given = .named (.text role.name)

theorem CategoryKey.read_eq_ok {key : CategoryKey} {category : Category} :
    key.read = .ok category ↔ key.Names category := by
  unfold Names
  cases key with
  | member known => simp [read]
  | named name =>
      simp only [read, reduceCtorEq, false_or, named.injEq, ← Category.ofName?_eq_some]
      cases Category.ofName? name <;> simp

theorem CategoryKey.read_eq_error {key : CategoryKey} {problem : Problem} :
    key.read = .error problem ↔
      ∃ name, key = .named name ∧ (∀ category : Category, category.name ≠ name) ∧
        problem = .invalidSetting "roles" (.text name) "unknown token category" := by
  cases key with
  | member known => simp [read]
  | named name =>
      have unknown : (∀ category : Category, category.name ≠ name) ↔
          Category.ofName? name = none := by
        simp only [Option.eq_none_iff_forall_ne_some, ne_eq, Category.ofName?_eq_some]
        exact forall_congr' fun category => not_congr eq_comm
      simp only [read, named.injEq, exists_eq_left', unknown]
      cases Category.ofName? name <;> simp [eq_comm]

theorem RoleKey.read_eq_ok {category : Category} {given : RoleKey} {role : Role} :
    given.read category = .ok role ↔ given.Names role := by
  unfold Names
  cases given with
  | member known => simp [read]
  | named value =>
      simp only [read, reduceCtorEq, false_or, named.injEq, ← Role.ofValue?_eq_some]
      cases Role.ofValue? value <;> simp

theorem RoleKey.read_eq_error {category : Category} {given : RoleKey} {problem : Problem} :
    given.read category = .error problem ↔
      ∃ value, given = .named value ∧ (∀ role : Role, value ≠ .text role.name) ∧
        problem = .invalidSetting ("roles." ++ category.name) value "unknown role" := by
  cases given with
  | member known => simp [read]
  | named value =>
      have unknown : (∀ role : Role, value ≠ .text role.name) ↔ Role.ofValue? value = none := by
        simp only [Option.eq_none_iff_forall_ne_some, ne_eq, Role.ofValue?_eq_some]
      simp only [read, named.injEq, exists_eq_left', unknown]
      cases Role.ofValue? value <;> simp [eq_comm]

/-! ## Entries -/

namespace Override

variable {entry : Override} {category : Category} {role : Role}

/-- The entry gives the category the role. -/
structure Assigns (entry : Override) (category : Category) (role : Role) : Prop where
  key : entry.key.Names category
  role : entry.role.Names role

def IsGood (entry : Override) : Prop := ∃ category role, entry.Assigns category role

/-- The entry is bad: the setting that is to blame, the value it has and what is wrong with it. An
unknown category is to blame whatever its role is. -/
inductive Blames : Override → String → Value → String → Prop
  | category {name : String} {role : RoleKey}
      (unknown : ∀ category : Category, category.name ≠ name) :
      Blames ⟨.named name, role⟩ "roles" (.text name) "unknown token category"
  | role {key : CategoryKey} {category : Category} {value : Value}
      (known : key.Names category) (unknown : ∀ role : Role, value ≠ .text role.name) :
      Blames ⟨key, .named value⟩ ("roles." ++ category.name) value "unknown role"

theorem read_eq_ok : entry.read = .ok (category, role) ↔ entry.Assigns category role := by
  constructor
  · intro ended
    obtain ⟨found, key, rest⟩ := bind_eq_ok.1 ended
    obtain ⟨given, asked, returned⟩ := bind_eq_ok.1 rest
    cases returned
    exact ⟨CategoryKey.read_eq_ok.1 key, RoleKey.read_eq_ok.1 asked⟩
  · intro assigns
    refine bind_eq_ok.2 ⟨category, CategoryKey.read_eq_ok.2 assigns.key, ?_⟩
    exact bind_eq_ok.2 ⟨role, RoleKey.read_eq_ok.2 assigns.role, rfl⟩

theorem read_eq_error {problem : Problem} :
    entry.read = .error problem ↔
      ∃ key value reason, entry.Blames key value reason ∧
        problem = .invalidSetting key value reason := by
  obtain ⟨key, given⟩ := entry
  constructor
  · intro stopped
    rcases bind_eq_error.1 stopped with refused | ⟨category, known, rest⟩
    · obtain ⟨name, rfl, unknown, rfl⟩ := CategoryKey.read_eq_error.1 refused
      exact ⟨_, _, _, .category unknown, rfl⟩
    · rcases bind_eq_error.1 rest with refused | ⟨role, _, returned⟩
      · obtain ⟨value, rfl, unknown, rfl⟩ := RoleKey.read_eq_error.1 refused
        exact ⟨_, _, _, .role (CategoryKey.read_eq_ok.1 known) unknown, rfl⟩
      · cases returned
  · rintro ⟨_, _, _, bad, rfl⟩
    cases bad with
    | category unknown =>
        exact bind_eq_error.2 (.inl (CategoryKey.read_eq_error.2 ⟨_, rfl, unknown, rfl⟩))
    | role known unknown =>
        refine bind_eq_error.2 (.inr ⟨_, CategoryKey.read_eq_ok.2 known, ?_⟩)
        exact bind_eq_error.2 (.inl (RoleKey.read_eq_error.2 ⟨_, rfl, unknown, rfl⟩))

/-- The first bad entry of a table, and what is to blame in it. -/
def FirstBlames (entries : List Override) (key : String) (value : Value) (reason : String) :
    Prop :=
  ∃ before bad after, entries = before ++ bad :: after ∧
    (∀ earlier ∈ before, earlier.IsGood) ∧ bad.Blames key value reason

theorem isGood_iff : entry.IsGood ↔ ∃ assigned, entry.read = .ok assigned := by
  simp only [IsGood, ← read_eq_ok, Prod.exists]

theorem mapM_read_eq_error {entries : List Override} {problem : Problem} :
    entries.mapM read = .error problem ↔
      ∃ key value reason, FirstBlames entries key value reason ∧
        problem = .invalidSetting key value reason := by
  constructor
  · intro stopped
    obtain ⟨before, bad, after, rfl, reached, stops⟩ := exists_of_mapM_eq_error stopped
    obtain ⟨key, value, reason, blames, rfl⟩ := read_eq_error.1 stops
    refine ⟨key, value, reason, ⟨before, bad, after, rfl, ?_, blames⟩, rfl⟩
    intro earlier member
    exact isGood_iff.2 (reached earlier member)
  · rintro ⟨key, value, reason, ⟨before, bad, after, rfl, good, blames⟩, rfl⟩
    refine mapM_eq_error ?_ (read_eq_error.2 ⟨key, value, reason, blames, rfl⟩)
    intro earlier member
    exact isGood_iff.1 (good earlier member)

/-- Two maps as one: the keys that the second one has are taken out of the first. -/
def merge (first second : List Override) : List Override :=
  first.filter (fun entry => entry.key ∉ second.map Override.key) ++ second

/-- Maps make a map: no key stands twice. -/
theorem nodup_merge {first second : List Override} (map : (first.map Override.key).Nodup)
    (mapAgain : (second.map Override.key).Nodup) :
    ((merge first second).map Override.key).Nodup := by
  unfold merge
  rw [List.map_append, List.nodup_append]
  refine ⟨map.sublist (List.filter_sublist.map _), mapAgain, ?_⟩
  intro key inFirst other inSecond same
  subst same
  obtain ⟨entry, kept, rfl⟩ := List.mem_map.1 inFirst
  have absent := (List.mem_filter.1 kept).2
  simp [inSecond] at absent

end Override

/-! ## Assignments -/

namespace Policy

variable {policy : Policy} {category elsewhere : Category} {role : Role}

theorem eq_of_roleOf {policy other : Policy}
    (same : ∀ category, policy.roleOf category = other.roleOf category) : policy = other :=
  congrArg Policy.mk (funext same)

@[simp]
theorem roleOf_assign_self (policy : Policy) (category : Category) (role : Role) :
    (policy.assign category role).roleOf category = role :=
  if_pos rfl

theorem roleOf_assign_other (different : elsewhere ≠ category) :
    (policy.assign category role).roleOf elsewhere = policy.roleOf elsewhere :=
  if_neg different

/-- Of two roles for one category the later one stays. -/
theorem assign_again (policy : Policy) (category : Category) (earlier role : Role) :
    (policy.assign category earlier).assign category role = policy.assign category role := by
  apply eq_of_roleOf
  intro c
  by_cases same : c = category
  · subst same
    simp
  · simp [roleOf_assign_other same]

/-- Roles for two categories can be assigned in any order. -/
theorem assign_comm (different : elsewhere ≠ category) (role given : Role) :
    (policy.assign category role).assign elsewhere given =
      (policy.assign elsewhere given).assign category role := by
  apply eq_of_roleOf
  intro c
  by_cases first : c = category
  · subst first
    simp [roleOf_assign_other (Ne.symm different)]
  · by_cases second : c = elsewhere
    · subst second
      simp [roleOf_assign_other first]
    · simp [roleOf_assign_other first, roleOf_assign_other second]

/-- The policy with roles assigned one after the other. -/
def assignAll (policy : Policy) (assigned : List (Category × Role)) : Policy :=
  assigned.foldl (fun policy entry => policy.assign entry.1 entry.2) policy

theorem assignAll_append (policy : Policy) (assigned others : List (Category × Role)) :
    policy.assignAll (assigned ++ others) = (policy.assignAll assigned).assignAll others :=
  List.foldl_append

theorem roleOf_assignAll_absent {assigned : List (Category × Role)}
    (absent : ∀ entry ∈ assigned, entry.1 ≠ category) :
    (policy.assignAll assigned).roleOf category = policy.roleOf category := by
  induction assigned generalizing policy with
  | nil => rfl
  | cons entry rest ih =>
      have different : category ≠ entry.1 := (absent entry List.mem_cons_self).symm
      have absentRest : ∀ later ∈ rest, later.1 ≠ category :=
        fun later member => absent later (List.mem_cons_of_mem entry member)
      exact (ih absentRest).trans (roleOf_assign_other different)

/-- Categories that are all assigned one role have it, and no others do. -/
theorem roleOf_assignAll_map (policy : Policy) (categories : List Category) (role : Role)
    (category : Category) :
    (policy.assignAll (categories.map fun c => (c, role))).roleOf category =
      if category ∈ categories then role else policy.roleOf category := by
  induction categories generalizing policy with
  | nil => simp [assignAll]
  | cons first rest ih =>
      have step : policy.assignAll ((first :: rest).map fun c => (c, role)) =
          (policy.assign first role).assignAll (rest.map fun c => (c, role)) := rfl
      rw [step, ih]
      by_cases later : category ∈ rest
      · simp [later]
      · by_cases same : category = first
        · subst same
          simp [later]
        · simp [later, same, roleOf_assign_other same]

/-! ## Tables as policies -/

/-- All categories with their roles. -/
def table (policy : Policy) : List (Category × Role) :=
  Category.all.map fun category => (category, policy.roleOf category)

theorem lookup_table (policy : Policy) (assigned : List (Category × Role)) (category : Category) :
    (policy.table ++ assigned).lookup category = some (policy.roleOf category) := by
  cases category <;> rfl

theorem assignAll_table (policy other : Policy) : other.assignAll policy.table = policy := by
  apply eq_of_roleOf
  intro category
  cases category <;> rfl

/-- The table of a policy with assignments behind it is complete, and makes the policy with these
assignments. -/
theorem ofTable_table_append (policy : Policy) (assigned : List (Category × Role)) :
    ofTable (policy.table ++ assigned) = .ok (policy.assignAll assigned) := by
  have complete : (Category.all.filter fun category =>
      ((policy.table ++ assigned).lookup category).isNone) = [] := by
    rw [List.filter_eq_nil_iff]
    intro category _
    simp [lookup_table]
  have made : standard.assignAll (policy.table ++ assigned) = policy.assignAll assigned := by
    rw [assignAll_append, assignAll_table]
  rw [ofTable, complete]
  exact congrArg Except.ok made

/-! ## Overriding -/

variable {first second entries : List Override}

/-- A table is read as a whole, and then its assignments follow each other. -/
theorem reassign_eq_map (policy : Policy) (entries : List Override) :
    policy.reassign entries = (entries.mapM Override.read).map policy.assignAll := by
  induction entries generalizing policy with
  | nil => rfl
  | cons entry rest ih =>
      rw [reassign, List.mapM_cons]
      cases read : entry.read with
      | error problem => rfl
      | ok assigned =>
          rw [bind_ok, bind_ok]
          dsimp only
          rw [ih]
          cases rest.mapM Override.read <;> rfl

theorem reassign_eq_ok {result : Policy} :
    policy.reassign entries = .ok result ↔
      ∃ assigned, entries.mapM Override.read = .ok assigned ∧
        policy.assignAll assigned = result := by
  rw [reassign_eq_map, map_eq_ok]

theorem reassign_eq_error {problem : Problem} :
    policy.reassign entries = .error problem ↔ entries.mapM Override.read = .error problem := by
  rw [reassign_eq_map]
  cases entries.mapM Override.read <;> simp [Except.map]

theorem exists_reassign_iff :
    (∃ result, policy.reassign entries = .ok result) ↔ ∀ entry ∈ entries, entry.IsGood := by
  simp only [reassign_eq_map, exists_map_iff, exists_mapM_iff, Override.isGood_iff]

/-- Two tables, one after the other, are one table. -/
theorem reassign_append (policy : Policy) (first second : List Override) :
    policy.reassign (first ++ second) =
      policy.reassign first >>= fun once => once.reassign second := by
  induction first generalizing policy with
  | nil => rfl
  | cons entry rest ih =>
      rw [List.cons_append, reassign, reassign]
      cases entry.read with
      | error problem => rfl
      | ok assigned => exact ih _

/-- What a category is assigned in front of an entry for it does not matter. -/
theorem reassign_assign (role : Role) (named : ∃ entry ∈ entries, entry.key.Names category) :
    (policy.assign category role).reassign entries = policy.reassign entries := by
  induction entries generalizing policy with
  | nil => simp at named
  | cons entry rest ih =>
      rw [reassign, reassign]
      cases read : entry.read with
      | error problem => rfl
      | ok assigned =>
          obtain ⟨c, given⟩ := assigned
          rw [bind_ok, bind_ok]
          dsimp only
          by_cases same : c = category
          · rw [same, assign_again]
          · -- The entry is for another category, so that the one for this one comes later.
            rw [assign_comm same]
            apply ih
            obtain ⟨later, member, names⟩ := named
            rcases List.mem_cons.1 member with rfl | inRest
            · have key := CategoryKey.read_eq_ok.2 (Override.read_eq_ok.1 read).key
              rw [CategoryKey.read_eq_ok.2 names] at key
              exact absurd (Except.ok.inj key).symm same
            · exact ⟨later, inRest, names⟩

/-- Good entries can be left out where a later one has their key. -/
theorem reassign_merge (policy : Policy) {first : List Override}
    (good : ∀ entry ∈ first, entry.IsGood) (second : List Override) :
    policy.reassign (Override.merge first second) = policy.reassign (first ++ second) := by
  -- By induction on the first table, for every policy: an entry that is kept changes it.
  induction first generalizing policy with
  | nil => rfl
  | cons entry rest ih =>
      have goodRest : ∀ later ∈ rest, later.IsGood :=
        fun later member => good later (List.mem_cons_of_mem entry member)
      obtain ⟨category, role, assigns⟩ := good entry List.mem_cons_self
      have read := Override.read_eq_ok.2 assigns
      by_cases again : entry.key ∈ second.map Override.key
      · have dropped : Override.merge (entry :: rest) second = Override.merge rest second := by
          simp only [Override.merge, List.filter_cons, again, not_true, decide_false,
            Bool.false_eq_true, if_false]
        obtain ⟨other, member, same⟩ := List.mem_map.1 again
        rw [dropped, ih policy goodRest, List.cons_append, reassign, read, bind_ok]
        refine (reassign_assign role ⟨other, List.mem_append_right _ member, ?_⟩).symm
        rw [same]
        exact assigns.key
      · have kept : Override.merge (entry :: rest) second =
            entry :: Override.merge rest second := by
          simp only [Override.merge, List.filter_cons, again, not_false_eq_true, decide_true,
            if_true, List.cons_append]
        rw [kept, List.cons_append, reassign, reassign, read, bind_ok, bind_ok]
        exact ih _ goodRest

/-- What a policy becomes by good entries. A category that none of them names keeps its role, and
one that some of them name has the role of the last of these. The result is total: it is what the
table of the policy makes with the assignments behind it. -/
structure Reassigned (policy : Policy) (entries : List Override) (result : Policy) : Prop where
  kept : ∀ category, (∀ entry ∈ entries, ¬ entry.key.Names category) →
    result.roleOf category = policy.roleOf category
  last : ∀ before entry after category role, entries = before ++ entry :: after →
    entry.Assigns category role → (∀ later ∈ after, ¬ later.key.Names category) →
    result.roleOf category = role
  total : ∃ assigned, List.Forall₂ (fun entry pair => entry.Assigns pair.1 pair.2)
    entries assigned ∧ ofTable (policy.table ++ assigned) = .ok result

/-- A category that no entry names keeps its role. -/
theorem roleOf_reassign_unnamed {result : Policy} (ended : policy.reassign entries = .ok result)
    (unnamed : ∀ entry ∈ entries, ¬ entry.key.Names category) :
    result.roleOf category = policy.roleOf category := by
  obtain ⟨assigned, read, rfl⟩ := reassign_eq_ok.1 ended
  apply roleOf_assignAll_absent
  intro pair member same
  obtain ⟨entry, found, ended⟩ := exists_of_mem_mapM read member
  have names := (Override.read_eq_ok.1 ended).key
  rw [same] at names
  exact unnamed entry found names

theorem reassigned_of_ok {result : Policy} (ended : policy.reassign entries = .ok result) :
    policy.Reassigned entries result := by
  refine ⟨fun category => roleOf_reassign_unnamed ended, ?_, ?_⟩
  · rintro before entry after category role rfl assigns unnamed
    -- The table up to the entry makes some policy, and what is behind leaves the category alone.
    rw [reassign_append] at ended
    obtain ⟨once, _, rest⟩ := bind_eq_ok.1 ended
    rw [reassign, Override.read_eq_ok.2 assigns, bind_ok] at rest
    have kept := roleOf_reassign_unnamed rest unnamed
    exact kept.trans (roleOf_assign_self once category role)
  · obtain ⟨assigned, read, rfl⟩ := reassign_eq_ok.1 ended
    refine ⟨assigned, (mapM_eq_ok.1 read).imp ?_, ofTable_table_append policy assigned⟩
    intro entry pair ended
    exact Override.read_eq_ok.1 ended

/-- A key that is written over in its place does not win over what stands behind it. -/
example : ((standard.reassign [⟨.member .comment, .member .ignored⟩,
    ⟨.named "comment", .named (.text "operand")⟩]).map fun policy =>
      policy.roleOf .comment).toOption = some .operand := by
  decide

end Policy

/-! ## Tallies -/

section Tallies

variable {policy other : Policy} {tokens : List Token}

/-- Policies that agree on what counts find the same texts. -/
theorem textsOf_congr
    (agree : ∀ token ∈ tokens, token.text.allBlank = false →
      other.roleOf token.kind = policy.roleOf token.kind) (role : Role) :
    textsOf other role tokens = textsOf policy role tokens := by
  unfold textsOf
  congr 1
  apply List.filter_congr
  intro token member
  apply decide_eq_decide.2
  unfold Token.CountsFor
  exact and_congr_right fun visible => by rw [agree token member visible]

/-- What is not ignored by a policy that ignores some categories is what the policy before finds in
the tokens of the other categories. -/
theorem textsOf_ignoring {categories : List Category}
    (ignoring : ∀ category, other.roleOf category =
      if category ∈ categories then .ignored else policy.roleOf category)
    {role : Role} (counted : role ≠ .ignored) (tokens : List Token) :
    textsOf other role tokens =
      textsOf policy role (tokens.filter fun token => token.kind ∉ categories) := by
  unfold textsOf
  rw [List.filter_filter]
  congr 1
  apply List.filter_congr
  intro token _
  rw [Bool.eq_iff_iff, Bool.and_eq_true, decide_eq_true_iff, decide_eq_true_iff, decide_eq_true_iff]
  unfold Token.CountsFor
  rw [ignoring]
  by_cases left : token.kind ∈ categories
  · simp [left, Ne.symm counted]
  · simp [left]

/-- A tally depends on a policy only by the roles of the categories that occur, blank tokens aside.
To ignore some categories, whatever their entries are called and in whatever order they stand, is to
leave their tokens out. -/
theorem tally_of_present (policy : Policy) (tokens : List Token) :
    (∀ other : Policy,
      (∀ token ∈ tokens, token.text.allBlank = false →
        other.roleOf token.kind = policy.roleOf token.kind) →
      Tally.ofTokens other tokens = Tally.ofTokens policy tokens) ∧
    ∀ (categories : List Category) (entries : List Override),
      List.Forall₂ (fun category entry => entry.Assigns category .ignored) categories entries →
      ∃ narrowed, policy.reassign entries = .ok narrowed ∧
        Tally.ofTokens narrowed tokens =
          Tally.ofTokens policy (tokens.filter fun token => token.kind ∉ categories) := by
  constructor
  · intro other agree
    simp only [Tally.ofTokens_eq, textsOf_congr agree]
  · intro categories entries ignored
    have read : entries.mapM Override.read =
        .ok (categories.map fun category => (category, .ignored)) := by
      rw [mapM_eq_ok, List.forall₂_map_right_iff]
      exact ignored.flip.imp fun entry category assigns => Override.read_eq_ok.2 assigns
    refine ⟨_, Policy.reassign_eq_ok.2 ⟨_, read, rfl⟩, ?_⟩
    have ignoring := policy.roleOf_assignAll_map categories .ignored
    have same (role : Role) (counted : role ≠ .ignored) :=
      textsOf_ignoring ignoring counted tokens
    rw [Tally.ofTokens_eq, Tally.ofTokens_eq, same .operator nofun, same .operand nofun]

/-- Names are ignored, by a key that is a category, and numbers, by their name. -/
theorem tally_of_present_names :
    let tokens : List Token := [⟨.symbol, .ofString "x"⟩, ⟨.operator, .ofString "="⟩,
      ⟨.number, .ofString "1"⟩, ⟨.quote, .ofString "a"⟩]
    let entries : List Override :=
      [⟨.member .symbol, .member .ignored⟩, ⟨.named "number", .named (.text "ignored")⟩]
    ∃ narrowed, Policy.standard.reassign entries = .ok narrowed ∧
      Tally.ofTokens narrowed tokens =
        Tally.ofTokens .standard [⟨.operator, .ofString "="⟩, ⟨.quote, .ofString "a"⟩] := by
  intro tokens entries
  have ignored : List.Forall₂ (fun category (entry : Override) =>
      entry.Assigns category .ignored) [.symbol, .number] entries :=
    .cons ⟨.inl rfl, .inl rfl⟩ (.cons ⟨.inr rfl, .inr rfl⟩ .nil)
  exact (tally_of_present .standard tokens).2 _ entries ignored

end Tallies

end CodeMetrics
