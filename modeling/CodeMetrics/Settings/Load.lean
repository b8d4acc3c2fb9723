import CodeMetrics.Files.Host
import CodeMetrics.Settings.Check

/-!
# Loading settings

Settings are put together from layers: the user's file, the project's file, a file the caller
names, the variables of the environment, and what the caller gives. A field has the value of the
highest layer that sets it.
-/

namespace CodeMetrics.Settings

/-- The user's file, in the home folder. -/
def homeFile : String := ".halstead.toml"

/-- The project's file, in the current folder. -/
def projectFile : String := "halstead.toml"

/-- The variable that sets a field. -/
def Field.variableName (field : Field) : String :=
  "HALSTEAD_" ++ field.name.map Char.toUpper

def unusableFile (path : Path) (reason : String) : Failure :=
  .configuration (.text s!"Invalid config file '{path.text}': {reason}")
    (.table [("path", .text path.text)])

/-- The settings in the bytes of a file. -/
def ofBytes (reader : Toml.Reader) (path : Path) (bytes : List UInt8) : Except Problem Layer :=
  match Text.Encoding.decode .utf8 bytes with
  | .error error => .error (.escaped (.undecodable Text.Encoding.utf8.name error))
  | .ok cs => ((reader cs).map Dictionary.entries).mapError (Stop.problem (unusableFile path))

/-- The layer of a settings file that was found. -/
def ofFound (reader : Toml.Reader) (path : Path) (found : Found) : Except Problem Layer :=
  match found.refusal, found.node with
  | some error, _ =>
      .error (.reported (unusableFile path (Fault.text (.system error path.text))))
  | none, .folder => .error (.reported (unusableFile path (Fault.text (.isFolder path.text))))
  | none, .file bytes => ofBytes reader path bytes
  | none, _ => ofBytes reader path []

/-- The layer of a file that need not be there. -/
def optionalFile (host : Host) (path : Path) : Except Problem Layer := do
  match ← host.lookup? path with
  | none => return []
  | some found => ofFound host.library.toml path found

/-- The layer of the file the caller names, if one is named. -/
def namedFile (host : Host) : Option Path → Except Problem Layer
  | none => .ok []
  | some path => do
      match ← host.lookup? path with
      | none =>
          .error (.reported (.configuration (.text s!"Config file not found: {path.text}")
            (.table [("path", .text path.text)])))
      | some found => ofFound host.library.toml path found

/-- What the environment sets of one field. -/
def fieldVariable (host : Host) (field : Field) : Except Problem (Option (String × Value)) :=
  match host.valueOf? field.variableName with
  | none => .ok none
  | some given =>
      match field.reading.read given with
      | .ok value => .ok (value.map (field.name, ·))
      | .error error =>
          .error (.invalidSetting field.variableName (.ofWording given) error.message)

def environmentLayer (host : Host) : Except Problem Layer := do
  return (← Field.all.mapM (fieldVariable host)).filterMap id

/-- A switch that, when it is on, sets the verbosity; it is no field itself. -/
def applySwitch (switch verbosity : String) (overrides : Layer) : Layer :=
  match overrides.lookup switch with
  | none => overrides
  | some value =>
      let set := if value.holds then overrides.put "verbosity" (.text verbosity) else overrides
      set.filter fun entry => entry.1 != switch

/-- The layer of what the caller gives. Null gives nothing. -/
def callerLayer (overrides : Layer) : Layer :=
  (applySwitch "quiet" "quiet" (applySwitch "verbose" "verbose" overrides)).filter
    fun entry => !entry.2.isNull

/-- Values that cannot even be compared, and names that are no field, are reported as errors of the
settings. -/
def reportMisuse {α : Type} : Except Problem α → Except Problem α
  | .error (.escaped fault@(.unordered ..)) | .error (.escaped fault@(.unknownSetting ..)) =>
      .error (.reported (.configuration (.text s!"Invalid configuration: {fault.text}") .null))
  | outcome => outcome

/-- The settings of all layers together. The caller names the file apart from the fields that it
gives. -/
def load (host : Host) (named : Option Path) (overrides : Layer) : Except Problem Settings := do
  if (overrides.lookup "config_file").isSome then throw (.escaped .fileGivenTwice)
  let home ← optionalFile host ((← host.home).join (.ofString homeFile))
  let project ← optionalFile host ((Path.absolute host.current).join (.ofString projectFile))
  let named ← namedFile host named
  let exported ← environmentLayer host
  let files := (home.merge project).merge named
  reportMisuse (ofLayer ((files.merge exported).merge (callerLayer overrides)))

end CodeMetrics.Settings
