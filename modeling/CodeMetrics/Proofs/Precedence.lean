import CodeMetrics.Proofs.Layers
import CodeMetrics.Proofs.LongNumber

/-!
# The precedence of the settings

Every field has the value of the highest layer that sets it: what the caller gives, the variables of
the environment, the file the caller names, the project's file and the user's file, in this order,
and the default when none of them does. What a lower layer says of the field does not matter then,
even when it is nothing that could be accepted. Names that are no field are refused in whichever
layer they stand, and so are variables that cannot be read. A variable that belongs to no field is
not looked at, and null from the caller gives nothing, under any name.

Results:
1. `load_of_masked`: what does not matter.
2. `not_refused_iff`, `load_of_not_refused`: what is refused, and what decides otherwise.
3. `load_longPrecision`: a number that is too long, whatever is above it.
4. `load_layers`: the precedence of the layers, with all of this.
5. `load_not_refused`: a variable that is not looked at, and a value that is masked and still read.
-/

namespace CodeMetrics

namespace Settings

variable {settings : Settings} {host : Host} {overrides : Layer} {named : Option Path}

/-! ## Masks -/

/-- The files above a file. -/
def Source.above : Source → List Source
  | .home => [.project, .named]
  | .project => [.named]
  | .named => []

/-- Something above a file sets a field. -/
def Masked (host : Host) (named : Option Path) (overrides : Layer) (source : Source)
    (field : Field) : Prop :=
  (callerValue? overrides field).isSome = true ∨ (variableValue? host field).isSome = true ∨
    ∃ upper ∈ source.above, ∃ layer, upper.read host named = .ok layer ∧
      (layer.lookup field.name).isSome = true

/-- Two layers are the same but for the value of one field. -/
structure SameBut (field : Field) (layer other : Layer) : Prop where
  names_eq : Entries.names other = Entries.names layer
  values_eq : ∀ name ≠ field.name, other.lookup name = layer.lookup name

/-- Two machines are the same but for the value of one field in one file. -/
structure Replaced (named : Option Path) (source : Source) (field : Field) (host other : Host) :
    Prop where
  environment_eq : other.environment = host.environment
  files_eq : ∀ file ≠ source, file.read other named = file.read host named
  replaced : ∃ layer changed, source.read host named = .ok layer ∧
    source.read other named = .ok changed ∧ SameBut field layer changed

theorem environmentLayer_congr {other : Host} (same : other.environment = host.environment) :
    environmentLayer other = environmentLayer host := by
  have each : fieldVariable other = fieldVariable host := by
    funext field
    rw [fieldVariable, fieldVariable, Host.valueOf?, Host.valueOf?, same]
  rw [environmentLayer, environmentLayer, each]

theorem orElse_congr {α : Type} {first second third : Option α}
    (same : first = none → second = third) : (first <|> second) = (first <|> third) := by
  cases first with
  | none => exact same rfl
  | some a => rfl

theorem SameBut.refl (field : Field) (layer : Layer) : SameBut field layer layer :=
  ⟨rfl, fun _ _ => rfl⟩

/-- Layers that are the same but for a field give the same settings if something sets the field
above the place where they differ. -/
theorem ofLayer_layered_congr {field : Field} {home project given : Layer}
    {home' project' given' exported : Layer}
    (distinct : Entries.Distinct overrides) (readVariables : environmentLayer host = .ok exported)
    (distinctProject : Entries.Distinct project) (distinctNamed : Entries.Distinct given)
    (distinctProject' : Entries.Distinct project') (distinctNamed' : Entries.Distinct given')
    (sameHome : SameBut field home home') (sameProject : SameBut field project project')
    (sameNamed : SameBut field given given')
    (masked : callerValue? overrides field = none → variableValue? host field = none →
      given'.lookup field.name = given.lookup field.name ∧
        (given.lookup field.name = none →
          project'.lookup field.name = project.lookup field.name ∧
            (project.lookup field.name = none →
              home'.lookup field.name = home.lookup field.name))) :
    ofLayer (layered home' project' given' exported overrides) =
      ofLayer (layered home project given exported overrides) := by
  refine ofLayer_congr ?_ fun other => ?_
  · rw [stranger?_eq_find?, stranger?_eq_find?]
    refine congrArg (List.find? _) ?_
    have files := Entries.names_merge_congr
      (Entries.names_merge_congr sameHome.names_eq sameProject.names_eq) sameNamed.names_eq
    exact Entries.names_merge_congr (Entries.names_merge_congr files rfl) rfl
  · rw [get_layered distinctProject distinctNamed readVariables distinct,
      get_layered distinctProject' distinctNamed' readVariables distinct, highest, highest]
    refine congrArg (Option.getD · other.default) ?_
    by_cases here : other = field
    · subst here
      refine orElse_congr fun noCaller => orElse_congr fun noVariable => ?_
      obtain ⟨given, below⟩ := masked noCaller noVariable
      rw [given]
      refine orElse_congr fun noNamed => ?_
      obtain ⟨project, below⟩ := below noNamed
      rw [project]
      exact orElse_congr below
    · have elsewhere : other.name ≠ field.name := fun same => here (Field.name_injective same)
      rw [sameNamed.values_eq _ elsewhere, sameProject.values_eq _ elsewhere,
        sameHome.values_eq _ elsewhere]

/-- A file above sets the field, unless the caller or a variable does. -/
theorem Masked.above {source : Source} {field : Field}
    (masked : Masked host named overrides source field)
    (noCaller : callerValue? overrides field = none)
    (noVariable : variableValue? host field = none) :
    ∃ upper ∈ source.above, ∀ layer, upper.read host named = .ok layer →
      layer.lookup field.name ≠ none := by
  rcases masked with caller | exported | ⟨upper, above, layer, read, sets⟩
  · rw [noCaller] at caller
    cases caller
  · rw [noVariable] at exported
    cases exported
  · refine ⟨upper, above, fun other readOther unset => ?_⟩
    cases read.symm.trans readOther
    rw [unset] at sets
    cases sets

/-- What is masked does not matter, neither for the settings nor for what is reported. -/
theorem load_of_masked {other : Host} {source : Source} {field : Field}
    (distinct : Entries.Distinct overrides) (replaced : Replaced named source field host other)
    (masked : Masked host named overrides source field) :
    load other named overrides = load host named overrides := by
  obtain ⟨environment, files, layer, changed, read, readChanged, same⟩ := replaced
  rw [load_eq, load_eq, environmentLayer_congr environment]
  split
  · rfl
  -- Both machines read the same layers but for one, so that it is enough to compare the mergers.
  have refl (layer : Layer) := SameBut.refl field layer
  have distinctLayer := distinct_read read
  have distinctChanged := distinct_read readChanged
  cases source with
  | home =>
      rw [read, readChanged, files .project (by decide), files .named (by decide)]
      refine bind_congr_of_ok fun project readProject => bind_congr_of_ok fun given readNamed =>
        bind_congr_of_ok fun exported readVariables => congrArg reportMisuse ?_
      have distinctProject := distinct_read readProject
      have distinctNamed := distinct_read readNamed
      refine ofLayer_layered_congr distinct readVariables distinctProject distinctNamed
        distinctProject distinctNamed same (refl _) (refl _) fun noCaller noVariable =>
          ⟨rfl, fun noNamed => ⟨rfl, fun noProject => ?_⟩⟩
      obtain ⟨upper, above, sets⟩ := masked.above noCaller noVariable
      rcases List.mem_pair.1 above with rfl | rfl
      · exact absurd noProject (sets project readProject)
      · exact absurd noNamed (sets given readNamed)
  | project =>
      rw [read, readChanged, files .home (by decide), files .named (by decide)]
      refine bind_congr_of_ok fun home readHome => bind_congr_of_ok fun given readNamed =>
        bind_congr_of_ok fun exported readVariables => congrArg reportMisuse ?_
      have distinctNamed := distinct_read readNamed
      refine ofLayer_layered_congr distinct readVariables distinctLayer distinctNamed
        distinctChanged distinctNamed (refl _) same (refl _) fun noCaller noVariable =>
          ⟨rfl, fun noNamed => ?_⟩
      obtain ⟨upper, above, sets⟩ := masked.above noCaller noVariable
      obtain rfl := List.mem_singleton.1 above
      exact absurd noNamed (sets given readNamed)
  | named =>
      rw [read, readChanged, files .home (by decide), files .project (by decide)]
      refine bind_congr_of_ok fun home readHome => bind_congr_of_ok fun project readProject =>
        bind_congr_of_ok fun exported readVariables => congrArg reportMisuse ?_
      have distinctProject := distinct_read readProject
      refine ofLayer_layered_congr distinct readVariables distinctProject distinctLayer
        distinctProject distinctChanged (refl _) (refl _) same fun noCaller noVariable => ?_
      obtain ⟨upper, above, -⟩ := masked.above noCaller noVariable
      cases above

/-! ## What is refused -/

/-- Something is set that there is no field for, or a variable of a field cannot be read. -/
inductive Refused (host : Host) (named : Option Path) (overrides : Layer) : Prop
  | file {source : Source} {layer : Layer} {name : String} : source.read host named = .ok layer →
      name ∈ Entries.names layer → Field.ofName? name = none → Refused host named overrides
  | caller {name : String} : (given? overrides name).isSome = true → name ≠ "quiet" →
      name ≠ "verbose" → Field.ofName? name = none → Refused host named overrides
  | environment {field : Field} {given : Wording} {error : ReadError} :
      host.valueOf? field.variableName = some given → field.reading.read given = .error error →
      Refused host named overrides

/-- When no variable is unreadable, the environment has its layer. -/
theorem exists_environmentLayer (accepted : ¬ Refused host named overrides) :
    ∃ exported, environmentLayer host = .ok exported := by
  cases each : Field.all.mapM (fieldVariable host) with
  | ok entries => exact ⟨entries.filterMap id, bind_eq_ok.2 ⟨entries, each, rfl⟩⟩
  | error problem =>
      obtain ⟨before, field, after, -, -, stopped⟩ := exists_of_mapM_eq_error each
      rw [fieldVariable] at stopped
      split at stopped
      · cases stopped
      · next given present =>
        split at stopped
        · cases stopped
        · next error unreadable => exact absurd (.environment present unreadable) accepted

/-- Nothing is refused when the environment has its layer and no layer has a name that is no
field. -/
theorem not_refused_iff {home project given : Layer} (distinct : Entries.Distinct overrides)
    (readHome : Source.home.read host named = .ok home)
    (readProject : Source.project.read host named = .ok project)
    (readNamed : Source.named.read host named = .ok given) :
    ¬ Refused host named overrides ↔ ∃ exported, environmentLayer host = .ok exported ∧
      stranger? (layered home project given exported overrides) = none := by
  simp only [stranger?_eq_none, layered, Entries.mem_names_merge]
  constructor
  · intro accepted
    obtain ⟨exported, readVariables⟩ := exists_environmentLayer accepted
    refine ⟨exported, readVariables, fun name member stranger => ?_⟩
    -- A name of the variables is the name of a field; any other is refused where it stands.
    rcases member with (((member | member) | member) | member) | member
    · exact accepted (.file readHome member stranger)
    · exact accepted (.file readProject member stranger)
    · exact accepted (.file readNamed member stranger)
    · rw [(environmentLayer_eq_ok readVariables).1] at member
      exact ofName?_of_entriesOf member stranger
    · obtain ⟨noQuiet, noVerbose, set⟩ := (mem_callerLayer_of_stranger distinct stranger).1 member
      exact accepted (.caller set noQuiet noVerbose stranger)
  · rintro ⟨exported, readVariables, known⟩
      (⟨read, member, stranger⟩ | ⟨set, noQuiet, noVerbose, stranger⟩ | ⟨present, unreadable⟩)
    · next source layer name =>
      cases source with
      | home =>
          cases readHome.symm.trans read
          exact known name (.inl (.inl (.inl (.inl member)))) stranger
      | project =>
          cases readProject.symm.trans read
          exact known name (.inl (.inl (.inl (.inr member)))) stranger
      | named =>
          cases readNamed.symm.trans read
          exact known name (.inl (.inl (.inr member))) stranger
    · exact known _ (.inr ((mem_callerLayer_of_stranger distinct stranger).2
        ⟨noQuiet, noVerbose, set⟩)) stranger
    · obtain ⟨entry, entered⟩ := (environmentLayer_eq_ok readVariables).2 _
      exact fieldVariable_of_unreadable present unreadable entry entered

/-- When nothing is refused, the values of the fields decide what is loaded or reported. -/
theorem load_of_not_refused {home project given : Layer} (distinct : Entries.Distinct overrides)
    (readHome : Source.home.read host named = .ok home)
    (readProject : Source.project.read host named = .ok project)
    (readNamed : Source.named.read host named = .ok given)
    (unnamed : overrides.lookup "config_file" = none) (accepted : ¬ Refused host named overrides) :
    load host named overrides =
      reportMisuse (ofLayer (fullLayer (highest host overrides given project home))) := by
  obtain ⟨exported, readVariables, known⟩ :=
    (not_refused_iff distinct readHome readProject readNamed).1 accepted
  have fields : stranger? (fullLayer (highest host overrides given project home)) = none :=
    stranger?_eq_none.2 fun name member => ofName?_of_entriesOf member
  rw [load_eq, unnamed, if_neg (by decide), readHome, bind_ok, readProject, bind_ok, readNamed,
    bind_ok, readVariables, bind_ok]
  refine congrArg reportMisuse (ofLayer_congr (known.trans fields.symm) fun field => ?_)
  rw [get_fullLayer,
    get_layered (distinct_read readProject) (distinct_read readNamed) readVariables distinct]

theorem not_refused_of_loaded (distinct : Entries.Distinct overrides)
    (loaded : load host named overrides = .ok settings) : ¬ Refused host named overrides := by
  obtain ⟨home, project, given, exported, readHome, readProject, readNamed, readVariables,
    accepted⟩ := load_eq_ok loaded
  exact (not_refused_iff distinct readHome readProject readNamed).2
    ⟨exported, readVariables, stranger?_of_accepted accepted⟩

/-! ## Machines with a file -/

/-- A machine with a settings file for its project, and variables. -/
def projectMachine (bytes : List UInt8) (environment : Entries Wording) : Host where
  disk := .ofNodes [(["halstead.toml"], .file bytes)]
  current := []
  environment := environment
  logging := .initial
  time := ""
  account := some "/"
  library := .standIn
  console := .recorder

/-- When the folder of the user is the root, and no file is there, the file says nothing. -/
theorem read_home_of_absent (unset : host.environment = []) (rooted : host.account = some "/")
    (absent : host.lookup? ⟨"/", [".halstead.toml"]⟩ = .ok none) :
    Source.home.read host none = .ok [] := by
  have place : (Path.ofString "/").join (.ofString homeFile) = ⟨"/", [".halstead.toml"]⟩ := by
    decide
  have named : ((host.valueOf? "HOME").map Wording.shown <|> host.account) = some "/" := by
    rw [Host.valueOf?, unset, rooted]
    rfl
  have home : host.home = .ok (.ofString "/") := by
    rw [Host.home, named]
    rfl
  rw [Source.read, home]
  show optionalFile host ((Path.ofString "/").join (.ofString homeFile)) = _
  rw [place, optionalFile, absent]
  rfl

theorem read_home (bytes : List UInt8) :
    Source.home.read (projectMachine bytes []) none = .ok [] := by
  have missing : (projectMachine bytes []).disk.find (projectMachine bytes []).current
      ⟨"/", [".halstead.toml"]⟩ = .error .missing := by
    rw [Disk.find, if_neg (by decide), if_neg (by decide), if_pos (by decide)]
    rfl
  refine read_home_of_absent rfl rfl ?_
  rw [Host.lookup?, missing]
  rfl

/-- Where the file of the project is. -/
theorem lookup_project (bytes : List UInt8) (environment : Entries Wording) :
    (projectMachine bytes environment).lookup? ⟨"/", ["halstead.toml"]⟩ =
      .ok (some ⟨.file bytes, none⟩) := by
  have found : (projectMachine bytes environment).disk.find
      (projectMachine bytes environment).current ⟨"/", ["halstead.toml"]⟩ =
      .ok (["halstead.toml"], .file bytes) := by
    rw [Disk.find, if_neg (by decide), if_neg (by decide), if_pos (by decide)]
    rfl
  rw [Host.lookup?, found]
  rfl

theorem read_project (bytes : List UInt8) (environment : Entries Wording) :
    Source.project.read (projectMachine bytes environment) none =
      ofBytes Toml.standIn ⟨"/", ["halstead.toml"]⟩ bytes := by
  have place : (Path.absolute []).join (.ofString projectFile) = ⟨"/", ["halstead.toml"]⟩ := by
    decide
  show optionalFile (projectMachine bytes environment)
    ((Path.absolute []).join (.ofString projectFile)) = _
  rw [place, optionalFile, lookup_project]
  rfl

theorem exists_of_names {outcome : Except Problem Layer} {names : List String}
    (shown : outcome.toOption.map Entries.names = some names) :
    ∃ layer, outcome = .ok layer ∧ Entries.names layer = names := by
  cases outcome with
  | error problem => cases shown
  | ok layer => exact ⟨layer, rfl, Option.some.inj shown⟩

theorem exists_of_loaded {outcome : Except Problem Settings}
    (loaded : outcome.toOption.isSome = true) : ∃ settings, outcome = .ok settings := by
  cases outcome with
  | error problem => cases loaded
  | ok settings => exact ⟨settings, rfl⟩

/-- The bytes of a settings file with a precision of so many digits. -/
def longPrecision (digits : Nat) : List UInt8 :=
  "precision = ".toUTF8.toList ++ List.replicate digits 0x31

theorem decode_longPrecision (digits : Nat) :
    Text.Encoding.decode .utf8 (longPrecision digits) =
      .ok ("precision = ".toList ++ ones digits) :=
  Text.Encoding.decode_ones (by decide +kernel) (by decide +kernel) digits

/-- A number that is too long is read even where the caller masks it, and nothing is loaded. -/
theorem load_longPrecision {digits : Nat} (long : Number.digitLimit < digits)
    (unnamed : overrides.lookup "config_file" = none) :
    load (projectMachine (longPrecision digits) []) none overrides =
      .error (.escaped (.tooManyDigits digits)) := by
  have read : Source.project.read (projectMachine (longPrecision digits) []) none =
      .error (.escaped (.tooManyDigits digits)) := by
    rw [read_project, ofBytes, decode_longPrecision]
    dsimp only
    rw [Toml.standIn, Toml.read_precision long]
    rfl
  rw [load_eq, unnamed, if_neg (by decide), read_home, bind_ok, read]
  rfl

/-! ## Loading -/

/-- Settings that are loaded have the value of the highest layer that sets a field: the caller, the
variables, the file the caller names, the project's file and the user's file, and the default behind
these. No variable sets the roles. No settings are loaded when a name that is no field is set, or a
variable of a field cannot be read, in whichever layer and whatever is above it. When nothing of
this is so, these values alone decide what is loaded or reported. A value in a file may be any other
one when something above the file sets the field: the same settings are loaded, or the same is
reported. -/
theorem load_layers (distinct : Entries.Distinct overrides) :
    (∀ settings, load host named overrides = .ok settings →
      ∃ home project given, Source.home.read host named = .ok home ∧
        Source.project.read host named = .ok project ∧
        Source.named.read host named = .ok given ∧
        ∀ field, settings.get field = highest host overrides given project home field) ∧
    variableValue? host .roles = none ∧
    (Refused host named overrides → ∃ problem, load host named overrides = .error problem) ∧
    (∀ home project given, Source.home.read host named = .ok home →
      Source.project.read host named = .ok project → Source.named.read host named = .ok given →
      overrides.lookup "config_file" = none → ¬ Refused host named overrides →
      load host named overrides =
        reportMisuse (ofLayer (fullLayer (highest host overrides given project home)))) ∧
    ∀ other source field, Replaced named source field host other →
      Masked host named overrides source field →
      load other named overrides = load host named overrides := by
  refine ⟨fun settings loaded => ?_, variableValue?_roles host, fun refused => ?_,
    fun home project given => load_of_not_refused distinct,
    fun other source field replaced => load_of_masked distinct replaced⟩
  · obtain ⟨home, project, given, exported, readHome, readProject, readNamed, readVariables,
      accepted⟩ := load_eq_ok loaded
    refine ⟨home, project, given, readHome, readProject, readNamed, fun field => ?_⟩
    rw [get_ofLayer accepted,
      get_layered (distinct_read readProject) (distinct_read readNamed) readVariables distinct]
  · cases ended : load host named overrides with
    | error problem => exact ⟨problem, rfl⟩
    | ok settings => exact absurd refused (not_refused_of_loaded distinct ended)

/-- A precision that no settings can have, and one that is none at all, are masked by the caller;
a misspelt name is not. -/
theorem load_layers_precision :
    let excessive := projectMachine "precision = 99".toUTF8.toList []
    let listed := projectMachine "precision = [1]".toUTF8.toList []
    let misspelt := projectMachine "percision = 3".toUTF8.toList []
    let overrides : Layer := [("precision", .int 3)]
    load listed none overrides = load excessive none overrides ∧
    (∃ settings, load excessive none overrides = .ok settings ∧
      settings.get .precision = .int 3) ∧
    ∃ problem, load misspelt none overrides = .error problem := by
  intro excessive listed misspelt overrides
  have distinct : Entries.Distinct overrides := by decide
  obtain ⟨layer, read, names⟩ : ∃ layer, Source.project.read excessive none = .ok layer ∧
      Entries.names layer = ["precision"] := exists_of_names (by decide +kernel)
  obtain ⟨changed, readChanged, namesChanged⟩ : ∃ layer,
      Source.project.read listed none = .ok layer ∧ Entries.names layer = ["precision"] :=
    exists_of_names (by decide +kernel)
  obtain ⟨other, readOther, namesOther⟩ : ∃ layer,
      Source.project.read misspelt none = .ok layer ∧ Entries.names layer = ["percision"] :=
    exists_of_names (by decide +kernel)
  have same : SameBut .precision layer changed := by
    refine ⟨namesChanged.trans names.symm, fun name elsewhere => ?_⟩
    have absent (table : Layer) (names : Entries.names table = ["precision"]) :
        table.lookup name = none :=
      Entries.lookup_eq_none_iff.2 (names ▸ fun member => elsewhere (List.mem_singleton.1 member))
    rw [absent changed namesChanged, absent layer names]
  have replaced : Replaced none .project .precision excessive listed := by
    refine ⟨rfl, fun file different => ?_, layer, changed, read, readChanged, same⟩
    cases file with
    | home => exact (read_home _).trans (read_home _).symm
    | project => exact absurd rfl different
    | named => rfl
  have masked : Masked excessive none overrides .project .precision := .inl (by decide)
  obtain ⟨settings, loaded⟩ : ∃ settings, load excessive none overrides = .ok settings :=
    exists_of_loaded (by decide +kernel)
  obtain ⟨_, _, _, _, _, _, values⟩ := (load_layers distinct).1 settings loaded
  refine ⟨(load_layers distinct).2.2.2.2 listed .project .precision replaced masked,
    ⟨settings, loaded, (values .precision).trans rfl⟩, (load_layers distinct).2.2.1 ?_⟩
  exact .file readOther (namesOther ▸ List.mem_singleton_self _) (by decide)

/-- A variable of no field is not looked at, and neither is a name of no field that the caller gives
null. A masked precision of too many digits is still read. -/
theorem load_not_refused :
    ((∀ field : Field, field.variableName ≠ "HALSTEAD_BOGUS") ∧
      ∃ settings, load (projectMachine [] [("HALSTEAD_BOGUS", .whole "1")]) none [] =
        .ok settings) ∧
    (Field.ofName? "bogus" = none ∧
      ∃ settings, load (projectMachine [] []) none [("bogus", .null)] = .ok settings) ∧
    (∃ settings,
      load (projectMachine (longPrecision 1) []) none [("precision", .int 3)] = .ok settings) ∧
    load (projectMachine (longPrecision 4301) []) none [("precision", .int 3)] =
      .error (.escaped (.tooManyDigits 4301)) := by
  refine ⟨⟨fun field => ?_, exists_of_loaded (by decide +kernel)⟩,
    ⟨by decide, exists_of_loaded (by decide +kernel)⟩, exists_of_loaded (by decide +kernel),
    load_longPrecision (by decide) rfl⟩
  cases field <;> decide +kernel

end Settings

end CodeMetrics
