import CodeMetrics.Proofs.Escaping
import CodeMetrics.Proofs.Loading
import CodeMetrics.Proofs.Order

/-!
# What the limits of the settings limit

The limits are checked by what they must not be: not zero or less, not less than one. A NaN is
neither, and so it is accepted for each of them, and limits nothing. All other limits that are
accepted are positive, and bound the size of the files that are read as long as they are finite in
bytes and short enough to be written into the report.

Results:
1. `checkMaxFileSize_accepts_iff`, `checkCount_accepts_iff`: what the checks accept.
2. `exists_above`: a finite double is below all integers from one on.
3. `limits_iff`: which of the accepted limits bound the size of a file.
4. `load_limits`: the limits of settings that are loaded.
5. `load_limitless`: settings with limits that are none.
-/

namespace CodeMetrics

/-- A double that is no number. -/
def Value.isNaN : Value → Bool
  | .real x => x.isNaN
  | _ => false

namespace Settings

variable {layer : Layer} {settings : Settings} {host : Host} {overrides : Layer}
  {named : Option Path} {value limit : Value}

/-! ## Checks -/

/-- The value is a number, and greater than an integer. -/
def above (n : Int) (value : Value) : Bool := compareTo n value == some (some .gt)

theorem atLeast_int {m n : Int} : atLeast m (.int n) = true ↔ m ≤ n := by
  rw [atLeast, compareTo, Bool.or_eq_true, beq_iff_eq, beq_iff_eq, Option.some.injEq,
    Option.some.injEq, Option.some.injEq, Option.some.injEq, compare_gt_iff_gt, compare_eq_iff_eq]
  omega

/-- Only a NaN is a number and has no place among the integers. -/
theorem compareTo_eq_none {n : Int} : compareTo n value = some none ↔ value.isNaN = true := by
  cases value with
  | real x =>
      rw [compareTo, Option.some.injEq, Option.map_eq_none_iff, Number.compareInt, Value.isNaN]
      split_ifs with nan
      · exact iff_of_true rfl nan
      · exact iff_of_false nofun nan
      · exact iff_of_false nofun nan
  | null | bool | int | text | torn | moment | list | table => exact iff_of_false nofun nofun

theorem isNumber_eq (n : Int) : isNumber value = (compareTo n value).isSome := by
  cases value <;> rfl

theorem checkMaxFileSize_accepts_iff :
    checkMaxFileSize value = .ok value ↔ above 0 value = true ∨ value.isNaN = true := by
  rw [checkMaxFileSize, isNumber_eq 0, atMost, above, ← @compareTo_eq_none _ 0]
  rcases compareTo 0 value with _ | _ | order
  · simp
  · simp
  · cases order <;> simp

theorem checkCount_accepts_iff {name : String} :
    checkCount name value = .ok value ↔ atLeast 1 value = true ∨ value.isNaN = true := by
  rw [checkCount, isNumber_eq 1, below, atLeast, ← @compareTo_eq_none _ 1]
  rcases compareTo 1 value with _ | _ | order
  · simp
  · simp
  · cases order <;> simp

theorem checkWorkers_accepts_iff :
    checkWorkers value = .ok value ↔
      value = .null ∨ atLeast 1 value = true ∨ value.isNaN = true := by
  rw [← @checkCount_accepts_iff _ "workers"]
  cases value with
  | null => exact iff_of_true rfl (.inl rfl)
  | bool | int | real | text | torn | moment | list | table => simp [checkWorkers]

/-- Settings that are accepted have a value that the check of its field accepts. -/
theorem refusal?_of_accepted (accepted : ofLayer layer = .ok settings) {field : Field}
    (checked : field ∈ Field.checked) : field.refusal? (settings.get field) = none := by
  rw [get_ofLayer accepted]
  refine Option.eq_none_iff_forall_ne_some.2 fun problem refused => ?_
  cases first : refusalAmong? layer Field.checked with
  | none => cases refused.symm.trans (List.findSome?_eq_none_iff.1 first field checked)
  | some problem =>
      cases accepted.symm.trans (ofLayer_eq_error.2 (.inr ⟨stranger?_of_accepted accepted, first⟩))

/-! ## Sizes -/

theorem quotient_den_pos (x : Number.Binary) : 0 < x.quotient.2 := by
  rw [Number.Binary.quotient]
  split_ifs
  · exact Nat.two_pow_pos _
  · exact Nat.one_pos

/-- A finite double is below all integers from one on. -/
theorem exists_above {x : Float} (finite : x.isFinite = true) :
    ∃ bound : Nat, ∀ n : Nat, bound < n → Number.compareInt n x = some .gt := by
  have number := Number.isNaN_of_isFinite finite
  have bounded : x.isInf = false := by rw [Number.isInf_eq number, finite]; rfl
  refine ⟨(Number.Binary.ofFloat x).quotient.1, fun n larger => ?_⟩
  rw [Number.compareInt, number, bounded, if_neg Bool.false_ne_true, if_neg Bool.false_ne_true]
  have positive := quotient_den_pos (Number.Binary.ofFloat x)
  generalize (Number.Binary.ofFloat x).quotient = quotient at positive larger
  obtain ⟨num, den⟩ := quotient
  have scaled : (num : Int) < n * den :=
    calc (num : Int) < n := Int.ofNat_lt.2 larger
      _ ≤ n * den := by exact_mod_cast Nat.le_mul_of_pos_right n positive
  refine congrArg some (compare_gt_iff_gt.2 ?_)
  show (if Number.isNegative x then -(num : Int) else num) < n * den
  split_ifs <;> omega

/-- No integer is above a double that is infinite or no number, if it is not negative. -/
theorem compareInt_ne_gt {x : Float} (endless : x.isFinite = false)
    (signed : Number.sign? x.toModel.unpack ≠ some .negative) (n : Int) :
    Number.compareInt n x ≠ some .gt := by
  rw [Number.compareInt]
  split
  · nofun
  · next number =>
    have number := Bool.eq_false_iff.2 number
    obtain ⟨s, sign⟩ : ∃ s, Number.sign? x.toModel.unpack = some s := by
      cases unpacked : x.toModel.unpack with
      | notANumber => exact absurd unpacked (Number.isNaN_eq_false.1 number)
      | infinity s | zero s | finite s => exact ⟨s, rfl⟩
    have notNegative : Number.isNegative x = false := by
      refine Bool.eq_false_iff.2 fun negative => ?_
      cases (Number.isNegative_iff sign).1 negative
      exact signed sign
    rw [if_pos (by rw [Number.isInf_eq number, endless]; rfl), notNegative]
    nofun

theorem isNegative_of_above {x : Float} (positive : above 0 (.real x) = true) :
    Number.isNegative x = false := by
  rw [Bool.eq_false_iff]
  intro negative
  have compared : (Number.compareInt 0 x).map Ordering.swap = some .gt :=
    Option.some.inj (beq_iff_eq.1 positive)
  rw [Number.compareInt, negative] at compared
  simp only [if_true] at compared
  split_ifs at compared
  · cases compared
  · cases compared
  · have below : compare (0 * ((Number.Binary.ofFloat x).quotient.2 : Int))
        (-((Number.Binary.ofFloat x).quotient.1 : Int)) = .lt :=
      Ordering.swap_eq_gt.1 (Option.some.inj compared)
    rw [compare_lt_iff_lt] at below
    omega

/-- A limit in megabytes as one in bytes, where it is a double. -/
def bytesOf (x : Float) : Float := x * 1024.0 * 1024.0

theorem sign?_bytesOf {x : Float} (accepted : above 0 (.real x) = true ∨ x.isNaN = true) :
    Number.sign? (bytesOf x).toModel.unpack ≠ some .negative := by
  have factor : Number.sign? (1024.0 : Float).toModel.unpack = some .positive := rfl
  refine Number.sign?_mul_ne_negative (Number.sign?_mul_ne_negative ?_ factor) factor
  intro negative
  rcases accepted with positive | nan
  · cases (isNegative_of_above positive).symm.trans ((Number.isNegative_iff negative).2 rfl)
  · have number : x.toModel.unpack ≠ .notANumber := by
      intro unpacked
      rw [unpacked] at negative
      cases negative
    cases nan.symm.trans (Number.isNaN_eq_false.2 number)

/-- A limit that is finite in bytes and can be written. -/
def boundsSize : Value → Bool
  | .real x => (x * 1024.0 * 1024.0).isFinite
  | limit => !limit.tooLong

theorem exists_larger (accepted : above 0 limit = true ∨ limit.isNaN = true)
    (bounded : ∀ x, limit = .real x → (bytesOf x).isFinite = true) :
    ∃ bound : Nat, ∀ size : Nat, bound < size → isLarger size limit = .ok true := by
  cases limit with
  | bool b =>
      refine ⟨(megabyte : Int).toNat, fun size larger => congrArg Except.ok (decide_eq_true ?_)⟩
      cases b <;> simp only [Bool.false_eq_true, if_true, if_false] <;> omega
  | int n =>
      refine ⟨(n * megabyte).toNat, fun size larger => congrArg Except.ok (decide_eq_true ?_)⟩
      omega
  | real x =>
      obtain ⟨bound, above⟩ := exists_above (bounded x rfl)
      refine ⟨bound, fun size larger => ?_⟩
      show Except.ok (Number.compareInt size (bytesOf x) == some .gt) = _
      rw [above size larger]
      rfl
  | null | text | torn | moment | list | table => exact accepted.elim nofun nofun

theorem isLarger_of_endless {x : Float} (accepted : above 0 (.real x) = true ∨ x.isNaN = true)
    (endless : (bytesOf x).isFinite = false) (size : Nat) :
    isLarger size (.real x) = .ok false := by
  show Except.ok (Number.compareInt size (bytesOf x) == some .gt) = _
  rw [beq_eq_false_iff_ne.2 (compareInt_ne_gt endless (sign?_bytesOf accepted) size)]

/-! ## Files -/

/-- There is a size beyond which every file is refused, wherever it is and whatever is in it. -/
def Limits (limit : Value) : Prop :=
  ∃ bound, ∀ (host : Host) (path : Path) (encoding : Value) (bytes : List UInt8)
    (refusal : Option SystemError),
    host.lookup? path = .ok (some ⟨.file bytes, refusal⟩) → bound < bytes.length →
    ∃ obstacle, readSource host path encoding limit =
      .error (.reported (.sourceUnavailable (.text path.text) obstacle))

theorem limits_of_larger {bound : Nat}
    (larger : ∀ size : Nat, bound < size → isLarger size limit = .ok true)
    (short : limit.tooLong = false) : Limits limit := by
  refine ⟨bound, fun host path encoding bytes refusal found long =>
    ⟨.tooLarge bytes.length limit.shown, ?_⟩⟩
  rw [readSource_of_larger found (larger _ long), short]
  rfl

/-- A file of so many letters, and where it is. -/
def letters (size : Nat) : List UInt8 := List.replicate size 0x61

def lettersPath : Path := ⟨"/", ["halstead.toml"]⟩

theorem lookup_letters (size : Nat) :
    (projectMachine (letters size) []).lookup? lettersPath =
      .ok (some ⟨.file (letters size), none⟩) :=
  lookup_project _ _

theorem readSource_letters {size : Nat} (smaller : isLarger size limit = .ok false) :
    ∃ text, readSource (projectMachine (letters size) []) lettersPath .null limit = .ok text := by
  have smaller : isLarger (letters size).length limit = .ok false := by
    rwa [letters, List.length_replicate]
  have ascii : ∀ b ∈ letters size, b.toNat < 0x80 := by
    intro b member
    rw [List.eq_of_mem_replicate member]
    decide
  have decoded : Text.Encoding.decode .utf8 (letters size) =
      Text.Encoding.decodeFrom .utf8 0 (letters size) := rfl
  obtain ⟨text, usual⟩ : ∃ text, Codecs.standIn.usual (letters size) = .ok text := by
    show ∃ text, Text.Encoding.decoder .utf8 (letters size) = .ok text
    rw [Text.Encoding.decoder, decoded, Text.Encoding.decodeFrom_ascii ascii]
    exact ⟨_, rfl⟩
  rw [readSource_of_smaller (lookup_letters size) smaller, readBytes_of_named rfl]
  show ∃ text, (Codecs.standIn.usual (letters size)).mapError _ >>= _ = Except.ok text
  rw [usual]
  exact ⟨_, rfl⟩

/-- A limit does not bound the size of files when larger ones are read, or not reported. -/
theorem not_limits (passed : ∀ bound, ∃ size, bound < size ∧
    (isLarger size limit = .ok false ∨ isLarger size limit = .ok true ∧ limit.tooLong = true)) :
    ¬ Limits limit := by
  rintro ⟨bound, refused⟩
  obtain ⟨size, beyond, passed⟩ := passed bound
  have length : (letters size).length = size := List.length_replicate
  obtain ⟨obstacle, reported⟩ := refused _ lettersPath .null _ _ (lookup_letters size)
    (length.symm ▸ beyond)
  rcases passed with smaller | ⟨larger, long⟩
  · obtain ⟨text, read⟩ := readSource_letters smaller
    cases reported.symm.trans read
  · rw [readSource_of_larger (lookup_letters size) (length.symm ▸ larger), if_pos long] at reported
    cases reported

/-- An accepted limit bounds the size of files if it is finite in bytes, and can be written. -/
theorem limits_iff (accepted : above 0 limit = true ∨ limit.isNaN = true) :
    Limits limit ↔ boundsSize limit = true := by
  constructor
  · intro limits
    by_contra unbounded
    cases limit with
    | real x =>
        have smaller := isLarger_of_endless accepted (Bool.eq_false_iff.2 unbounded)
        exact not_limits (fun bound => ⟨bound + 1, Nat.lt_succ_self bound, .inl (smaller _)⟩) limits
    | int n =>
        have long : (Value.int n).tooLong = true := by simpa [boundsSize] using unbounded
        obtain ⟨least, larger⟩ := exists_larger accepted nofun
        refine not_limits (fun bound => ⟨max least bound + 1, ?_, .inr ⟨larger _ ?_, long⟩⟩) limits
        · omega
        · omega
    | bool b => exact unbounded rfl
    | null | text | torn | moment | list | table => exact accepted.elim nofun nofun
  · intro bounds
    have bounded (x : Float) (real : limit = .real x) : (bytesOf x).isFinite = true := by
      subst real
      exact bounds
    obtain ⟨bound, larger⟩ := exists_larger accepted bounded
    refine limits_of_larger larger ?_
    cases limit with
    | int n => simpa [boundsSize] using bounds
    | bool | real => rfl
    | null | text | torn | moment | list | table => exact accepted.elim nofun nofun

/-! ## Loaded limits -/

/-- The limits of settings that are loaded are what they have to be, or NaN. They bound the size of
files that are read if they are finite in bytes, and short enough to be written. -/
theorem load_limits (loaded : load host named overrides = .ok settings) :
    (above 0 settings.maxFileSize = true ∨ settings.maxFileSize.isNaN = true) ∧
    (settings.workers = .null ∨ atLeast 1 settings.workers = true ∨
      settings.workers.isNaN = true) ∧
    (atLeast 1 settings.maxCommits = true ∨ settings.maxCommits.isNaN = true) ∧
    (Limits settings.maxFileSize ↔ boundsSize settings.maxFileSize = true) := by
  obtain ⟨_, _, _, _, -, -, -, -, accepted⟩ := load_eq_ok loaded
  have checked (field : Field) (member : field ∈ Field.checked) :=
    refusal?_of_accepted accepted member
  obtain ⟨size, sizeChecked⟩ := exists_of_stop? (checked .maxFileSize (by decide))
  obtain ⟨workers, workersChecked⟩ := exists_of_stop? (checked .workers (by decide))
  obtain ⟨commits, commitsChecked⟩ := exists_of_stop? (checked .maxCommits (by decide))
  cases checkMaxFileSize_eq_ok sizeChecked
  cases checkWorkers_eq_ok workersChecked
  cases checkCount_eq_ok commitsChecked
  have positive := checkMaxFileSize_accepts_iff.1 sizeChecked
  exact ⟨positive, checkWorkers_accepts_iff.1 workersChecked,
    checkCount_accepts_iff.1 commitsChecked, limits_iff positive⟩

/-- Half a megabyte is a limit. -/
theorem load_limits_halfMegabyte :
    ∃ settings, load (projectMachine "max_file_size_mb = 0.5".toUTF8.toList []) none [] =
      .ok settings ∧ Limits settings.maxFileSize := by
  obtain ⟨settings, loaded, bounds⟩ : ∃ settings,
      load (projectMachine "max_file_size_mb = 0.5".toUTF8.toList []) none [] = .ok settings ∧
        boundsSize settings.maxFileSize = true := exists_of_any (by decide +kernel)
  exact ⟨settings, loaded, (load_limits loaded).2.2.2.2 bounds⟩

/-- Limits that are NaN are accepted, and limit nothing. -/
theorem load_limitless :
    ∃ settings, load (projectMachine
      "max_file_size_mb = nan\nworkers = nan\ngit_max_commits = nan".toUTF8.toList []) none [] =
      .ok settings ∧
      above 0 settings.maxFileSize = false ∧ ¬ Limits settings.maxFileSize ∧
      settings.workers ≠ .null ∧ atLeast 1 settings.workers = false ∧
      atLeast 1 settings.maxCommits = false := by
  have nowhere {value : Value} (nan : value.isNaN = true) :
      above 0 value = false ∧ atLeast 1 value = false := by
    rw [above, atLeast, compareTo_eq_none.2 nan, compareTo_eq_none.2 nan]
    exact ⟨rfl, rfl⟩
  obtain ⟨settings, loaded, nan⟩ : ∃ settings, load (projectMachine
      "max_file_size_mb = nan\nworkers = nan\ngit_max_commits = nan".toUTF8.toList []) none [] =
      .ok settings ∧
      (settings.maxFileSize.isNaN && !boundsSize settings.maxFileSize && settings.workers.isNaN &&
        settings.maxCommits.isNaN) = true := exists_of_any (by decide +kernel)
  simp only [Bool.and_eq_true, Bool.not_eq_true'] at nan
  obtain ⟨⟨⟨size, endless⟩, workers⟩, commits⟩ := nan
  refine ⟨settings, loaded, (nowhere size).1, fun limits => ?_, fun unset => ?_,
    (nowhere workers).2, (nowhere commits).2⟩
  · cases endless.symm.trans ((limits_iff (.inr size)).1 limits)
  · rw [unset] at workers
    cases workers

end Settings

end CodeMetrics
