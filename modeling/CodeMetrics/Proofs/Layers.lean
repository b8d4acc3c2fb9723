import CodeMetrics.Proofs.Entries
import CodeMetrics.Settings.Load

/-!
# The layers of the settings

Settings are checked field by field, and what is accepted is what the layer has. Layers come from
five places, and each of them is known by what is found in it: what the caller gives, where two
switches come before the verbosity and null gives nothing; the variables of the environment; and the
three files, whose tables have a name once only. Merged, a field has the value of the highest layer
that sets it.

Results:
1. `get_ofLayer`, `ofLayer_congr`: checked settings and their layer.
2. `lookup_callerLayer`, `mem_callerLayer_of_stranger`: what the caller gives.
3. `lookup_environmentLayer`, `distinct_read`: the variables and the files.
4. `load_eq_ok`, `get_layered`: the layers together.
-/

namespace CodeMetrics

namespace Settings

variable {layer other : Layer} {settings : Settings} {host : Host} {overrides : Layer}
  {named : Option Path}

/-! ## Fields -/

theorem Field.mem_all (field : Field) : field ∈ Field.all := by
  cases field <;> decide

theorem Field.name_injective {field other : Field} (same : field.name = other.name) :
    field = other := by
  cases field <;> cases other <;> first | rfl | exact absurd same (by decide)

theorem Field.ofName?_name (field : Field) : Field.ofName? field.name = some field := by
  cases field <;> decide

/-! ## Checked settings -/

/-- A value that names something is the text of its name. -/
theorem eq_text_of_found {α : Type} {choices : List α} {nameOf : α → String} {value : Value}
    {chosen : α}
    (found : (match value with
      | .text name => choices.find? fun choice => nameOf choice == name
      | _ => none) = some chosen) : value = .text (nameOf chosen) := by
  cases value with
  | text name =>
      have same : nameOf chosen = name := by simpa using List.find?_some found
      rw [same]
  | null | bool | int | real | torn | moment | list | table => cases found

theorem requireMetric_eq_ok {value : Value} {metric : Metric}
    (accepted : requireMetric value = .ok metric) : value = .text metric.name := by
  rw [requireMetric] at accepted
  split at accepted
  · next found =>
    cases accepted
    exact eq_text_of_found found
  · cases accepted

theorem checkPrecision_eq_ok {value checked : Value}
    (accepted : checkPrecision value = .ok checked) : checked = value := by
  rw [checkPrecision.eq_def] at accepted
  split at accepted
  · cases accepted
    rfl
  · split_ifs at accepted
    cases accepted
    rfl

theorem checkMaxFileSize_eq_ok {value checked : Value}
    (accepted : checkMaxFileSize value = .ok checked) : checked = value := by
  rw [checkMaxFileSize] at accepted
  split_ifs at accepted
  cases accepted
  rfl

theorem checkCount_eq_ok {name : String} {value checked : Value}
    (accepted : checkCount name value = .ok checked) : checked = value := by
  rw [checkCount] at accepted
  split_ifs at accepted
  cases accepted
  rfl

theorem checkWorkers_eq_ok {value checked : Value}
    (accepted : checkWorkers value = .ok checked) : checked = value := by
  rw [checkWorkers.eq_def] at accepted
  split at accepted
  · cases accepted
    rfl
  · exact checkCount_eq_ok accepted

theorem checkLayout_eq_ok {value : Value} {layout : Report.Layout}
    (accepted : checkLayout value = .ok layout) : value = .text layout.name := by
  rw [checkLayout.eq_def] at accepted
  dsimp only at accepted
  split at accepted
  · next found =>
    cases accepted
    exact eq_text_of_found found
  · cases accepted

theorem checkVerbosity_eq_ok {value : Value} {verbosity : Verbosity}
    (accepted : checkVerbosity value = .ok verbosity) : value = .text verbosity.name := by
  rw [checkVerbosity.eq_def] at accepted
  dsimp only at accepted
  split at accepted
  · next found =>
    cases accepted
    exact eq_text_of_found found
  · cases accepted

theorem checkRoles_eq_ok {value : Value} {roles : List (String × Value)}
    (accepted : checkRoles value = .ok roles) : value = .table roles := by
  rw [checkRoles.eq_def] at accepted
  split at accepted
  · obtain ⟨_, _, returned⟩ := bind_eq_ok.1 accepted
    cases returned
    rfl
  · cases accepted

/-- Checking keeps the values of a layer. -/
theorem get_ofLayer (accepted : ofLayer layer = .ok settings) (field : Field) :
    settings.get field = layer.get field := by
  rw [ofLayer] at accepted
  split at accepted
  · cases accepted
  obtain ⟨_, metric, accepted⟩ := bind_eq_ok.1 accepted
  obtain ⟨_, precision, accepted⟩ := bind_eq_ok.1 accepted
  obtain ⟨_, layout, accepted⟩ := bind_eq_ok.1 accepted
  obtain ⟨_, maxFileSize, accepted⟩ := bind_eq_ok.1 accepted
  obtain ⟨_, workers, accepted⟩ := bind_eq_ok.1 accepted
  obtain ⟨_, maxCommits, accepted⟩ := bind_eq_ok.1 accepted
  obtain ⟨_, verbosity, accepted⟩ := bind_eq_ok.1 accepted
  obtain ⟨_, roles, accepted⟩ := bind_eq_ok.1 accepted
  cases accepted
  cases field with
  | metric => exact (requireMetric_eq_ok metric).symm
  | precision => exact checkPrecision_eq_ok precision
  | layout => exact (checkLayout_eq_ok layout).symm
  | maxFileSize => exact checkMaxFileSize_eq_ok maxFileSize
  | workers => exact checkWorkers_eq_ok workers
  | maxCommits => exact checkCount_eq_ok maxCommits
  | verbosity => exact (checkVerbosity_eq_ok verbosity).symm
  | roles => exact (checkRoles_eq_ok roles).symm
  | lexer | dump | encoding | logFile => rfl

theorem stranger?_eq_find? (layer : Layer) :
    stranger? layer = (Entries.names layer).find? fun name => (Field.ofName? name).isNone := by
  rw [stranger?, Entries.names, List.find?_map]
  rfl

theorem stranger?_eq_none :
    stranger? layer = none ↔ ∀ name ∈ Entries.names layer, Field.ofName? name ≠ none := by
  rw [stranger?_eq_find?, List.find?_eq_none]
  simp only [Option.isNone_iff_eq_none, ne_eq]

/-- The names of accepted settings are fields. -/
theorem stranger?_of_accepted (accepted : ofLayer layer = .ok settings) :
    stranger? layer = none := by
  rw [ofLayer] at accepted
  split at accepted
  · cases accepted
  · assumption

/-- Settings are known by what is no field in their layer, and by the values of the fields. -/
theorem ofLayer_congr (strangers : stranger? layer = stranger? other)
    (values : ∀ field, layer.get field = other.get field) : ofLayer layer = ofLayer other := by
  rw [ofLayer, ofLayer, strangers, funext values]

/-! ## What the caller gives -/

/-- A switch that the caller turned on. -/
def isOn (overrides : Layer) (switch : String) : Bool := (overrides.lookup switch).any Value.holds

/-- What the caller gives under a name. Null gives nothing. -/
def given? (overrides : Layer) (name : String) : Option Value :=
  (overrides.lookup name).filter fun value => !value.isNull

/-- What the caller gives for a field. Two switches come before the verbosity itself. -/
def callerValue? (overrides : Layer) : Field → Option Value
  | .verbosity =>
      if isOn overrides "quiet" then some (.text "quiet")
      else if isOn overrides "verbose" then some (.text "verbose")
      else given? overrides "verbosity"
  | field => given? overrides field.name

theorem lookup_applySwitch (switch verbosity : String) (overrides : Layer) (name : String) :
    (applySwitch switch verbosity overrides).lookup name =
      if name = switch then none
      else if name = "verbosity" ∧ isOn overrides switch = true then some (.text verbosity)
      else overrides.lookup name := by
  rw [applySwitch, isOn]
  split
  · next absent =>
    rw [absent]
    by_cases here : name = switch
    · simp [here, absent]
    · simp [here]
  · next value given =>
    rw [given, lookup_filter_key (· != switch)]
    by_cases here : name = switch
    · simp [here]
    · rw [if_pos (by simpa using here), if_neg here]
      split
      · next holds =>
        rw [Entries.lookup_put]
        simp [holds]
      · next off => simp [off]

theorem distinct_applySwitch (switch verbosity : String) (distinct : Entries.Distinct overrides) :
    Entries.Distinct (applySwitch switch verbosity overrides) := by
  rw [applySwitch]
  split
  · exact distinct
  · refine Entries.distinct_filter ?_ _
    split
    · exact Entries.distinct_put distinct _ _
    · exact distinct

theorem distinct_callerLayer (distinct : Entries.Distinct overrides) :
    Entries.Distinct (callerLayer overrides) :=
  Entries.distinct_filter (distinct_applySwitch _ _ (distinct_applySwitch _ _ distinct)) _

theorem lookup_callerLayer_of_ne (distinct : Entries.Distinct overrides) {name : String}
    (noQuiet : name ≠ "quiet") (noVerbose : name ≠ "verbose") (noVerbosity : name ≠ "verbosity") :
    (callerLayer overrides).lookup name = given? overrides name := by
  rw [callerLayer, Entries.lookup_filter_value
      (distinct_applySwitch _ _ (distinct_applySwitch _ _ distinct)) (!·.isNull),
    lookup_applySwitch, lookup_applySwitch]
  simp only [if_neg noQuiet, if_neg noVerbose, noVerbosity, false_and, if_false]
  rfl

theorem lookup_callerLayer (distinct : Entries.Distinct overrides) (field : Field) :
    (callerLayer overrides).lookup field.name = callerValue? overrides field := by
  by_cases verbosity : field = .verbosity
  · subst verbosity
    -- The other switch is applied first, and leaves this one as it is.
    have quietAfter : isOn (applySwitch "verbose" "verbose" overrides) "quiet" =
        isOn overrides "quiet" := by
      rw [isOn, lookup_applySwitch, if_neg (by decide), if_neg (by simp)]
      rfl
    rw [callerLayer, Entries.lookup_filter_value
        (distinct_applySwitch _ _ (distinct_applySwitch _ _ distinct)) (!·.isNull),
      lookup_applySwitch, lookup_applySwitch, quietAfter, callerValue?]
    rw [if_neg (by decide)]
    cases quiet : isOn overrides "quiet" with
    | true => rfl
    | false =>
        rw [if_neg (by simp), if_neg (by decide)]
        cases verbose : isOn overrides "verbose" with
        | true => rfl
        | false =>
            rw [if_neg (by simp)]
            rfl
  · have other : callerValue? overrides field = given? overrides field.name := by
      cases field <;> first | rfl | exact absurd rfl verbosity
    rw [other]
    refine lookup_callerLayer_of_ne distinct ?_ ?_ fun same => ?_
    · cases field <;> decide
    · cases field <;> decide
    · exact verbosity (Field.name_injective same)

/-- What the caller gives under a name that is no field. The switches are not handed on. -/
theorem mem_callerLayer_of_stranger (distinct : Entries.Distinct overrides) {name : String}
    (stranger : Field.ofName? name = none) :
    name ∈ Entries.names (callerLayer overrides) ↔
      name ≠ "quiet" ∧ name ≠ "verbose" ∧ (given? overrides name).isSome = true := by
  have noVerbosity : name ≠ "verbosity" := by
    rintro rfl
    exact absurd stranger (by decide)
  rw [Entries.mem_names_iff]
  by_cases switch : name = "quiet" ∨ name = "verbose"
  · have dropped : (callerLayer overrides).lookup name = none := by
      rw [callerLayer, Entries.lookup_filter_value
          (distinct_applySwitch _ _ (distinct_applySwitch _ _ distinct)) (!·.isNull),
        lookup_applySwitch, lookup_applySwitch]
      rcases switch with quiet | verbose
      · rw [if_pos quiet]
        rfl
      · simp [verbose]
    rw [dropped]
    simp only [Option.isSome_none, Bool.false_eq_true, false_iff]
    rintro ⟨noQuiet, noVerbose, -⟩
    exact switch.elim noQuiet noVerbose
  · obtain ⟨noQuiet, noVerbose⟩ := not_or.1 switch
    rw [lookup_callerLayer_of_ne distinct noQuiet noVerbose noVerbosity]
    simp [noQuiet, noVerbose]

/-! ## Variables -/

/-- What the environment sets of a field. -/
def variableValue? (host : Host) (field : Field) : Option Value :=
  match (host.valueOf? field.variableName).map fun given => field.reading.read given with
  | some (.ok value) => value
  | _ => none

/-- No variable is read as a table. -/
theorem variableValue?_roles (host : Host) : variableValue? host .roles = none := by
  rw [variableValue?]
  cases host.valueOf? (Field.variableName .roles) <;> rfl

theorem fieldVariable_eq_ok {field : Field} {entry : Option (String × Value)}
    (read : fieldVariable host field = .ok entry) :
    entry = (variableValue? host field).map (field.name, ·) := by
  rw [fieldVariable] at read
  rw [variableValue?]
  split at read
  · next absent =>
    rw [absent]
    cases read
    rfl
  · next text present =>
    rw [present]
    split at read
    · next value known =>
      cases read
      rw [Option.map_some, known]
    · cases read

/-- A variable that cannot be read is refused. -/
theorem fieldVariable_of_unreadable {field : Field} {given : Wording} {error : ReadError}
    (present : host.valueOf? field.variableName = some given)
    (unreadable : field.reading.read given = .error error) (entry : Option (String × Value)) :
    fieldVariable host field ≠ .ok entry := by
  rw [fieldVariable, present]
  dsimp only
  rw [unreadable]
  nofun

/-- What some fields are set to, one after the other. -/
def entriesOf (value? : Field → Option Value) (fields : List Field) : Layer :=
  fields.filterMap fun field => (value? field).map (field.name, ·)

theorem entriesOf_cons (value? : Field → Option Value) (field : Field) (rest : List Field) :
    entriesOf value? (field :: rest) =
      ((value? field).map (field.name, ·)).toList ++ entriesOf value? rest := by
  rw [entriesOf, List.filterMap_cons]
  cases value? field <;> rfl

theorem lookup_entriesOf (value? : Field → Option Value) (fields : List Field) (field : Field) :
    (entriesOf value? fields).lookup field.name =
      if field ∈ fields then value? field else none :=
  lookup_filterMap_key Field.name_injective value? fields field

theorem names_entriesOf (value? : Field → Option Value) (fields : List Field) :
    List.Sublist (Entries.names (entriesOf value? fields)) (fields.map Field.name) := by
  induction fields with
  | nil => exact .slnil
  | cons first rest ih =>
      rw [entriesOf_cons]
      cases value? first with
      | none => exact ih.cons _
      | some value => exact ih.cons_cons _

/-- Fields are no strangers. -/
theorem ofName?_of_entriesOf {value? : Field → Option Value} {fields : List Field} {name : String}
    (member : name ∈ Entries.names (entriesOf value? fields)) : Field.ofName? name ≠ none := by
  obtain ⟨field, -, rfl⟩ := List.mem_map.1 ((names_entriesOf value? fields).subset member)
  rw [field.ofName?_name]
  exact Option.some_ne_none field

/-- The layer of the environment has what can be read from its variables, and all that are there
can be read. -/
theorem environmentLayer_eq_ok (read : environmentLayer host = .ok layer) :
    layer = entriesOf (variableValue? host) Field.all ∧
      ∀ field, ∃ entry, fieldVariable host field = .ok entry := by
  obtain ⟨entries, each, returned⟩ := bind_eq_ok.1 read
  cases returned
  have known := mapM_eq_ok.1 each
  have equal : entries =
      Field.all.map fun field => (variableValue? host field).map (field.name, ·) := by
    rw [eq_comm, ← List.forall₂_eq_eq_eq, List.forall₂_map_left_iff]
    exact known.imp fun field entry one => (fieldVariable_eq_ok one).symm
  rw [equal, List.forall₂_map_right_iff, List.forall₂_same] at known
  refine ⟨?_, fun field => ⟨_, known field field.mem_all⟩⟩
  rw [equal, List.filterMap_map]
  rfl

theorem lookup_environmentLayer (read : environmentLayer host = .ok layer) (field : Field) :
    layer.lookup field.name = variableValue? host field := by
  rw [(environmentLayer_eq_ok read).1, lookup_entriesOf, if_pos field.mem_all]

theorem distinct_environmentLayer (read : environmentLayer host = .ok layer) :
    Entries.Distinct layer := by
  have distinct : (Field.all.map Field.name).Nodup := by decide
  rw [(environmentLayer_eq_ok read).1]
  exact distinct.sublist (names_entriesOf _ _)

/-! ## Files -/

/-- The files that settings are read from. -/
inductive Source where
  | home
  | project
  | named
  deriving DecidableEq, Repr

/-- The layer of a file. Of a file that is not there it is empty, unless the caller names the
file. -/
def Source.read (host : Host) (named : Option Path) : Source → Except Problem Layer
  | .home => do optionalFile host ((← host.home).join (.ofString homeFile))
  | .project => optionalFile host ((Path.absolute host.current).join (.ofString projectFile))
  | .named => namedFile host named

theorem distinct_ofBytes {reader : Toml.Reader} {path : Path} {bytes : List UInt8}
    (read : ofBytes reader path bytes = .ok layer) : Entries.Distinct layer := by
  rw [ofBytes] at read
  split at read
  · cases read
  · next cs _ =>
    cases described : reader cs with
    | error stop =>
        rw [described] at read
        cases read
    | ok table =>
        rw [described] at read
        cases read
        exact table.distinct

theorem distinct_ofFound {reader : Toml.Reader} {path : Path} {found : Found}
    (read : ofFound reader path found = .ok layer) : Entries.Distinct layer := by
  rw [ofFound] at read
  split at read
  · cases read
  · cases read
  · exact distinct_ofBytes read
  · exact distinct_ofBytes read

theorem distinct_optionalFile {path : Path} (read : optionalFile host path = .ok layer) :
    Entries.Distinct layer := by
  obtain ⟨found?, -, read⟩ := bind_eq_ok.1 read
  cases found? with
  | none =>
      cases read
      exact List.nodup_nil
  | some found => exact distinct_ofFound read

theorem distinct_read {source : Source} (read : source.read host named = .ok layer) :
    Entries.Distinct layer := by
  cases source with
  | home =>
      obtain ⟨folder, -, read⟩ := bind_eq_ok.1 read
      exact distinct_optionalFile read
  | project => exact distinct_optionalFile read
  | named =>
      cases named with
      | none =>
          cases read
          exact List.nodup_nil
      | some path =>
          obtain ⟨found?, -, read⟩ := bind_eq_ok.1 read
          cases found? with
          | none => cases read
          | some found => exact distinct_ofFound read

/-! ## All layers -/

/-- The layers merged, with that of the caller on top. -/
def layered (home project named exported overrides : Layer) : Layer :=
  (((home.merge project).merge named).merge exported).merge (callerLayer overrides)

theorem load_eq (host : Host) (named : Option Path) (overrides : Layer) :
    load host named overrides =
      if (overrides.lookup "config_file").isSome then .error (.escaped .fileGivenTwice)
      else Source.home.read host named >>= fun home =>
        Source.project.read host named >>= fun project =>
          Source.named.read host named >>= fun given =>
            environmentLayer host >>= fun exported =>
              reportMisuse (ofLayer (layered home project given exported overrides)) := by
  rw [load]
  split
  · rfl
  · show (liftM host.home >>= _ : Except Problem Settings) = _
    rw [Source.read]
    cases host.home <;> rfl

theorem reportMisuse_eq_ok {outcome : Except Problem Settings} :
    reportMisuse outcome = .ok settings ↔ outcome = .ok settings := by
  rw [reportMisuse.eq_def]
  split <;> simp

/-- What settings that are loaded were read from. -/
theorem load_eq_ok (loaded : load host named overrides = .ok settings) :
    ∃ home project given exported, Source.home.read host named = .ok home ∧
      Source.project.read host named = .ok project ∧ Source.named.read host named = .ok given ∧
      environmentLayer host = .ok exported ∧
      ofLayer (layered home project given exported overrides) = .ok settings := by
  rw [load_eq] at loaded
  split at loaded
  · cases loaded
  obtain ⟨home, readHome, loaded⟩ := bind_eq_ok.1 loaded
  obtain ⟨project, readProject, loaded⟩ := bind_eq_ok.1 loaded
  obtain ⟨given, readNamed, loaded⟩ := bind_eq_ok.1 loaded
  obtain ⟨exported, readVariables, loaded⟩ := bind_eq_ok.1 loaded
  exact ⟨home, project, given, exported, readHome, readProject, readNamed, readVariables,
    reportMisuse_eq_ok.1 loaded⟩

/-- The highest layer that sets a field. -/
theorem lookup_layered {home project given exported : Layer}
    (distinctProject : Entries.Distinct project) (distinctNamed : Entries.Distinct given)
    (readVariables : environmentLayer host = .ok exported)
    (distinct : Entries.Distinct overrides) (field : Field) :
    (layered home project given exported overrides).lookup field.name =
      (callerValue? overrides field <|> variableValue? host field <|> given.lookup field.name <|>
        project.lookup field.name <|> home.lookup field.name) := by
  rw [layered, Entries.lookup_merge (distinct_callerLayer distinct),
    Entries.lookup_merge (distinct_environmentLayer readVariables),
    Entries.lookup_merge distinctNamed, Entries.lookup_merge distinctProject,
    lookup_callerLayer distinct, lookup_environmentLayer readVariables]
  simp only [Option.orElse_eq_orElse, Option.orElse_eq_or]

/-- What the highest layer that sets a field sets it to, and the default where none does. -/
def highest (host : Host) (overrides given project home : Layer) (field : Field) : Value :=
  (callerValue? overrides field <|> variableValue? host field <|> given.lookup field.name <|>
    project.lookup field.name <|> home.lookup field.name).getD field.default

theorem get_layered {home project given exported : Layer}
    (distinctProject : Entries.Distinct project) (distinctNamed : Entries.Distinct given)
    (readVariables : environmentLayer host = .ok exported)
    (distinct : Entries.Distinct overrides) (field : Field) :
    (layered home project given exported overrides).get field =
      highest host overrides given project home field := by
  rw [Layer.get, lookup_layered distinctProject distinctNamed readVariables distinct, highest]

/-- A layer that sets every field. -/
def fullLayer (value : Field → Value) : Layer :=
  entriesOf (fun field => some (value field)) Field.all

theorem get_fullLayer (value : Field → Value) (field : Field) :
    (fullLayer value).get field = value field := by
  rw [Layer.get, fullLayer, lookup_entriesOf, if_pos field.mem_all]
  rfl

end Settings

end CodeMetrics
