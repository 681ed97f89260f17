import FlexForm.Folder.Basic
import FlexForm.Overlay
import FlexForm.Settings.Basic
import FlexForm.Text.Case
import FlexForm.Toml.Document

/-! # Where settings come from

Settings are given to the program, stand in variables of its environment, or in a file. Given ones
win over variables, and variables over the file, key by key.

* `Settings.ofVariables`: the values in the environment.
* `Settings.ofGiven`, `Settings.ofFile`, `Settings.ofFileOrDefaults`: the settings from the sources.
* `Settings.SourceFault`: why the sources make no settings.
-/

namespace FlexForm.Settings
set_option autoImplicit false

/-- The variables of the environment, of which a later one wins. -/
abbrev Environment := List (String × String)

/-- Why the sources make no settings. -/
inductive SourceFault where
  | values (fault : Fault)
  /-- The variable of a group of settings holds no JSON text. -/
  | noJson (setting : String)
  | absent (place : String)
  /-- Nothing can be asked for where the file is said to be. -/
  | outOfReach (why : Folder.AskFault)
  /-- The values of a file and the environment make no settings. -/
  | refusedFile (complaints : List Complaint)
  | unreadable (place why : String)

def SourceFault.message : SourceFault → String
  | .values fault => fault.message
  | .noJson setting => "error parsing value for field \"" ++ setting ++
      "\" from source \"EnvSettingsSource\""
  | .absent place => s!"Configuration file not found: {place}"
  | .outOfReach why => why.message
  | .refusedFile complaints => (Fault.refused complaints).message
  | .unreadable place why => s!"Invalid TOML syntax in {place}: {why}"

/-! ## The environment -/

/-- How the names of the variables start, in small letters. -/
def variableStart : String := "flexshare_"

/-- The variables by their names in small letters. -/
def lowered (environment : Environment) : Environment :=
  Fields.ofPairs (environment.map fun (name, value) => (Text.lower name, value))

/-- The parts of a name between pairs of underscores. -/
def splitParts : List Char → List (List Char)
  | '_' :: '_' :: rest => [] :: splitParts rest
  | c :: rest =>
    match splitParts rest with
    | [] => [[c]]
    | part :: parts => (c :: part) :: parts
  | [] => [[]]

/-- Puts a text under a row of keys; a text that is on the way is kept. -/
def putUnder : List (String × Json) → List String → String → List (String × Json)
  | fields, [], _ => fields
  | fields, [key], value => Fields.insert fields key (.str value)
  | fields, key :: keys, value =>
    match Fields.get? fields key with
    | none => Fields.insert fields key (.obj (putUnder [] keys value))
    | some (.obj inner) => Fields.insert fields key (.obj (putUnder inner keys value))
    | some _ => fields

/-- The values in variables whose names go on behind the one of a group of settings. -/
def valuesBelow (environment : Environment) (setting : String) : List (String × Json) :=
  let start := (variableStart ++ setting ++ "__").toList
  environment.foldl (fun fields (name, value) =>
    let cs := name.toList
    if start.isPrefixOf cs then
      putUnder fields ((splitParts (cs.drop start.length)).map String.ofList) value
    else fields) []

/-- The values with the names of settings in the letters in which these are spelled. -/
def withNames (names : List String) (fields : List (String × Json)) : List (String × Json) :=
  Fields.ofPairs (fields.map fun (key, v) =>
    ((names.find? fun name => name == Text.lower key).getD key, v))

/-- The groups of settings, with the names of the settings in each. -/
def groups : List (String × List String) :=
  [("render", ["max_patch_depth", "cache_size"]), ("web", ["host", "port", "reload"])]

/-- The value of a group of settings in the environment: an object of the variables behind its name,
merged into the JSON text of its own variable. -/
def groupValue (environment : Environment) (setting : String) (names : List String) :
    Except SourceFault (Option Json) :=
  let below := valuesBelow environment setting
  match Fields.get? environment (variableStart ++ setting) with
  | none => .ok (if below.isEmpty then none else some (.obj (withNames names below)))
  | some text =>
    match Json.read true text with
    | .error _ => .error (.noJson setting)
    | .ok .null => .ok none
    | .ok (.obj fields) => .ok (some (.obj (withNames names (Json.mergeFields fields below))))
    | .ok v => .ok (some v)

/-- The value of a setting in the environment. -/
def variableValue (environment : Environment) (setting : String) :
    Except SourceFault (Option Json) :=
  match groups.lookup setting with
  | some names => groupValue environment setting names
  | none => .ok ((Fields.get? environment (variableStart ++ setting)).map Json.str)

/-- The values in the environment. -/
def ofVariables (environment : Environment) : Except SourceFault (List (String × Json)) := do
  let found ← names.mapM fun setting => do
    pure ((← variableValue (lowered environment) setting).map fun v => (setting, v))
  pure (found.filterMap id)

/-! ## Settings from all sources -/

/-- The values of a file. A point in time is no zone, however it is written. -/
def valuesOf (entries : List (String × Toml.Value)) : List (String × Json) :=
  entries.map fun (key, v) =>
    match v with
    | .moment shown => (key, if key == "timezone" then .str shown else v.toJson)
    | _ => (key, v.toJson)

/-- The settings from values that are given, and the environment. -/
def ofGiven (environment : Environment) (given : List (String × Json)) :
    Except SourceFault Settings := do
  let found ← ofVariables environment
  match load (Json.mergeFields found given) with
  | .ok s => pure s
  | .error fault => throw (.values fault)

/-- The values in the text of a file. -/
def readFile (folder : Folder) (place : String) : Except SourceFault (List (String × Json)) :=
  match folder.textAt? (.ofText place) with
  | none => .ok []
  | some content =>
    match Toml.read content with
    | .ok entries => .ok (valuesOf entries)
    | .error why => .error (.unreadable place why)

/-- The settings from a file, and the environment. -/
def ofFile (folder : Folder) (environment : Environment) (place : String) :
    Except SourceFault Settings := do
  if folder.tooLong (.ofText place) then
    throw (.outOfReach (.tooLong (Location.ofText place).text))
  if !folder.existsAt (.ofText place) then throw (.absent place)
  let values ← readFile folder place
  match ofVariables environment with
  | .error fault => throw (.unreadable place fault.message)
  | .ok found =>
    match load (Json.mergeFields values found) with
    | .ok s => pure s
    | .error (.refused complaints) => throw (.refusedFile complaints)
    | .error fault => throw (.values fault)

/-- The settings from a file when it is there, and the environment. -/
def ofFileOrDefaults (folder : Folder) (environment : Environment) (place : String) :
    Except SourceFault Settings :=
  if place ≠ "" && (folder.tooLong (.ofText place) || folder.existsAt (.ofText place)) then
    ofFile folder environment place
  else match ofGiven environment [] with
    | .error (.values (.refused complaints)) => .error (.refusedFile complaints)
    | result => result

end FlexForm.Settings
