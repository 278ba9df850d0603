import Transcoding.Dotenv
import Transcoding.Json.Reader
import Transcoding.Settings

/-!
Settings from environment variables and from a file of them, found as `pydantic_settings` finds
them. A setting is given by the variable of its name in any case, one of the Conductor by the
variable with a prefix; the environment counts before the file. One variable can hold the settings
of the Conductor as a JSON object, and these count before the others. Files of secrets and arguments
of the command line give no settings here.
-/

namespace Transcoding.Settings

inductive Origin
  | environment
  | file
  deriving DecidableEq, Repr

inductive Fault
  /-- A variable that should hold JSON does not. -/
  | unreadable (setting : String) (origin : Origin)
  /-- Arrays and objects lie in each other too deeply. -/
  | tooDeep
  | invalid (issues : List Issue)
  deriving DecidableEq, Repr

def Origin.name : Origin → String
  | .environment => "EnvSettingsSource"
  | .file => "DotEnvSettingsSource"

def unreadableMessage (setting : String) (origin : Origin) : String :=
  "error parsing value for field \"" ++ setting ++ "\" from source \"" ++ origin.name ++ "\""

/-- Variables by their names in lower case; the last of one name counts, and one without a value
does not. -/
abbrev Variables := List (List Char × List Char)

def Variables.ofAssignments (found : List Dotenv.Assignment) : Variables :=
  go [] (found.map fun (name, value) => (Text.toLower name, value))
where
  go (known : Variables) : List Dotenv.Assignment → Variables
    | [] => known
    | (name, value) :: rest =>
      let others := known.filter (·.1 != name)
      go (match value with
        | some value => (name, value) :: others
        | none => others) rest

def Variables.get? (v : Variables) (name : String) : Option (List Char) :=
  v.lookup name.toList

structure Sources where
  environment : Variables
  file : Variables

namespace Sources

def read (environment : List (String × String)) (file : Option String) : Sources :=
  let given := environment.map fun (name, value) => (name.toList, value.toList)
  { environment := .ofAssignments (given.map fun (name, value) => (name, some value))
    file := match file with
      | some text => .ofAssignments (Dotenv.read given text.toList)
      | none => [] }

def get? (s : Sources) (name : String) : Option (List Char) :=
  (s.environment.get? name).or (s.file.get? name)

/-- The settings of some names that variables give, each variable having a prefix and
then the name. -/
def members (s : Sources) (start : String) (names : List String) : Json.Members :=
  names.filterMap fun name =>
    (s.get? (start ++ name)).map fun value => (.text name, .string (String.ofList value))

/-- The name of a setting for that name in any case. -/
def canonicalName : Json.Name → Json.Name
  | .text name =>
    let lower := String.ofList (Text.toLower name.toList)
    if ConductorSettings.names.contains lower then lower else name
  | .broken symbols => .broken symbols

/-- The members of an object by the names of settings, whatever their case. -/
def canonicalMembers (members : Json.Members) : Json.Members :=
  members.map fun (name, value) => (canonicalName name, value)

/-- The variable that holds all settings of the Conductor. -/
def conductorVariable : String := "elemental_conductor"

/-- The value of that variable, if it has one, read with at most so many arrays and objects in each
other. -/
def wholeConductor (levels : Nat) (v : Variables) (origin : Origin) :
    Except Fault (Option Json) :=
  match v.get? conductorVariable with
  | none => .ok none
  | some text =>
    match Json.read levels (text.map .char) with
    | .error .tooDeep => .error .tooDeep
    | .error _ => .error (.unreadable conductorVariable origin)
    | .ok .null => .ok none
    | .ok (.object members) => .ok (some (.ofMembers (canonicalMembers members)))
    | .ok value => .ok (some value)

/-- Two values for the same settings; an object takes from the other what it does not have. -/
def merge : Option Json → Option Json → Option Json
  | some (.object first), some (.object second) => some (.ofMembers (second ++ first))
  | none, second => second
  | first, _ => first

def conductorMembers (s : Sources) : Json.Members :=
  s.members "elementalconductor_" ConductorSettings.names

def conductorSettings (s : Sources) : Except Fault ConductorSettings :=
  (ConductorSettings.check s.conductorMembers).toExcept.mapError .invalid

/-- The settings of the Conductor from a value that may leave some of them to variables. -/
def checkWhole (s : Sources) (value : Json) : Check ConductorSettings :=
  Check.under (.member conductorVariable) (Validation.record .modelType value fun members =>
    ConductorSettings.check (members ++ s.conductorMembers))

/-- The settings. Those of the Conductor, where no variable holds them all, are looked at first. -/
def settings (levels : Nat) (s : Sources) : Except Fault Settings := do
  let inEnvironment ← wholeConductor levels s.environment .environment
  let inFile ← wholeConductor levels s.file .file
  let conductor ← match merge inEnvironment inFile with
    | some value => .ok (s.checkWhole value)
    | none => s.conductorSettings.map .valid
  (Settings.check (s.members "" Settings.names) conductor).toExcept.mapError .invalid

end Sources

/-- The settings, if JSON is read with at most so many arrays and objects in each other. -/
def ofEnvironment (levels : Nat) (environment : List (String × String)) (file : Option String) :
    Except Fault Settings :=
  (Sources.read environment file).settings levels

end Transcoding.Settings
