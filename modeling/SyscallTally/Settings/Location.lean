import SyscallTally.Settings.Basic

/-!
Contract: what the environment says about settings.

Owns:
- `Environment`, the variables of a process and the home directory of its user;
- where the settings are kept;
- the overrides that hold for one run.

A variable of the program's own counts only when its value is text. The home directory may be any
octets: that of the variable, or else the one on record for the user.
-/

set_option autoImplicit false

namespace SyscallTally

/-- The variables of a process, and the home directory on record for its user. -/
structure Environment where
  bindings : List (String × List UInt8) := []
  userHome : Option Files.Path := none
deriving DecidableEq, Repr

namespace Environment

/-- The value of a variable. -/
def get? (environment : Environment) (name : String) : Option (List UInt8) :=
  environment.bindings.lookup name

/-- The value of a variable that is text. -/
def text? (environment : Environment) (name : String) : Option String :=
  (environment.get? name).bind Text.Utf8.decode?

/-- Removes a variable. -/
def unset (name : String) (environment : Environment) : Environment :=
  { environment with bindings := environment.bindings.filter (·.1 != name) }

/-- Sets a variable. -/
def set (name : String) (value : List UInt8) (environment : Environment) : Environment :=
  { environment with bindings := (name, value) :: (environment.unset name).bindings }

/-- The home directory. -/
def home? (environment : Environment) : Option Files.Path :=
  match environment.get? "HOME" with
  | some home => some home
  | none => environment.userHome

end Environment

namespace Settings

/-- The variable that names the file of the settings. -/
def locationVariable : String := "EXECWATCH_CONFIG_PATH"

/-- The variable that overrides the path of the probe object. -/
def objectVariable : String := "EXECWATCH_OBJECT_PATH"

/-- The variable that overrides the event. -/
def eventVariable : String := "EXECWATCH_EVENT"

/-- The place of the settings below the home directory. -/
def placeInHome : Files.Path := Files.Path.ofString ".config/execwatch/execwatch.toml"

/-- The file of the settings: the one that is named, or the usual one below the home directory. -/
def location? (environment : Environment) : Option Files.Path :=
  match environment.text? locationVariable with
  | some path => some (Files.Path.ofString path)
  | none => environment.home?.map fun home => Files.Path.join home placeInHome

/-- The fields that the environment overrides for one run. -/
def overrides (environment : Environment) : Changes where
  event := environment.text? eventVariable
  objectPath := (environment.text? objectVariable).map Files.Path.ofString

end Settings

end SyscallTally
