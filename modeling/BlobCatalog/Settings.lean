import BlobCatalog.Key
import BlobCatalog.Log
import BlobCatalog.Path
import BlobCatalog.Settings.EnvFile
import BlobCatalog.Text.Uppercase

/-!
# Settings

Three settings: the directory of the data, the kind that records are stored under, and the level of
the log. Each is taken from the values given by name, else from the environment, else from a file
of settings, else it has a default. Names in the environment and in the file are compared without
regard to case. From the directory follow the place of the table and that of the objects.
-/

namespace BlobCatalog

open Checked (andAlso)
open EnvFile (Binding Environment)

/-- The settings of the command line. -/
structure Settings where
  appDataDir : Text
  entityKind : Text
  logLevel : LogLevel
deriving DecidableEq, Repr

namespace Settings

/-- The name of the directory setting. -/
def directoryName : String := "app_data_dir"

/-- The name of the kind setting. -/
def kindName : String := "entity_kind"

/-- The name of the log level setting. -/
def levelName : String := "log_level"

/-! ## Sources -/

/-- A character of a name without its case, for the letters that settings use: the capitals and the
sign of the kelvin. -/
def foldCase (c : Char) : Char :=
  if c.toNat = 0x212a then 'k' else c.toLower

/-- A name without its case. -/
def foldName (name : String) : String := String.ofList (name.toList.map foldCase)

/-- The value of a name, whatever its case. If it is bound several times, the last one counts. -/
def lastValue? (bound : List (Binding Text)) (name : String) : Option Text :=
  (bound.reverse.find? fun binding => foldName binding.name == name).bind (·.value)

/-- The bindings of an environment. -/
def bindingsOf (environment : Environment) : List (Binding Text) :=
  environment.map fun (name, value) => ⟨name, some value⟩

/-- The value of a setting: given by name, from the environment or from a file. -/
def sourced? (given : Fields) (environment : Environment) (file : List (Binding Text))
    (name : String) : Option Value :=
  match given.get? name, lastValue? (bindingsOf environment) name, lastValue? file name with
  | some value, _, _ => some value
  | none, some value, _ => some (.text value)
  | none, none, some value => some (.text value)
  | none, none, none => none

/-- The values of all settings that have one. -/
def sources (given : Fields) (environment : Environment) (file : List (Binding Text)) : Fields :=
  [directoryName, kindName, levelName].filterMap fun name =>
    (sourced? given environment file name).map fun value => (name, value)

/-! ## Checking -/

/-- A log level by name, whatever its case. -/
def level : Value → Except FieldCause LogLevel
  | .text name =>
    match (Text.uppercase name).string? with
    | some name =>
      match LogLevel.ofName? name with
      | some level => .ok level
      | none => .error .notLevel
    | none => .error .malformedText
  | _ => .error .notLevel

/-- A setting checked by a rule, or its default. -/
def checkedSetting {α : Type} (fields : Fields) (name : String) (default : α)
    (rule : Value → Except FieldCause α) : Checked α :=
  match fields.get? name with
  | some value => Checked.at? [name] (rule value)
  | none => .ok default

/-- The settings with the given values. -/
def checked (fields : Fields) : Checked Settings :=
  let directory := checkedSetting fields directoryName (.ofString "./data") Field.text
  let kind := checkedSetting fields kindName (.ofString Key.defaultKind) Field.text
  let level := checkedSetting fields levelName .info level
  andAlso (andAlso (directory.map Settings.mk) kind) level

/-- The settings from their sources. -/
def ofSources (given : Fields) (environment : Environment) (file : List (Binding Text)) :
    Except Fault Settings :=
  (checked (sources given environment file)).mapError Fault.invalid

/-! ## Places -/

/-- A code point that names may hold: a character, or a surrogate that stands for a byte. -/
def isEncodable : Point → Bool
  | .char _ => true
  | .surrogate place => 0x480 ≤ place.val && place.val < 0x500

/-- Why no directory has a name: it cannot be encoded, or it holds the character of code 0. -/
def nameFault? (name : Text) : Option Fault :=
  if !name.points.all isEncodable then some .unencodable
  else if name.points.contains (.char (Char.ofNat 0)) then some .unreadable
  else none

/-- The segments of the directory are looked up one after another, and each has to be a name. -/
def checkPlace (settings : Settings) : Except Fault Unit :=
  match (Path.ofText settings.appDataDir).segments.findSome? nameFault? with
  | some fault => .error fault
  | none => .ok ()

/-- The directory of the data, from a working directory. -/
def dataDir (settings : Settings) (directory : Path) : Path :=
  directory.resolve (Path.ofText settings.appDataDir)

/-- The place of the table. -/
def tablePath (settings : Settings) (directory : Path) : Path :=
  (settings.dataDir directory).child "metadb.sqlite3"

/-- The directory of the objects. -/
def objectPath (settings : Settings) (directory : Path) : Path :=
  (settings.dataDir directory).child "objects"

end Settings

end BlobCatalog
