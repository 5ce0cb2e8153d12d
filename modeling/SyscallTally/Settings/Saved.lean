import SyscallTally.Files.Store
import SyscallTally.Log
import SyscallTally.Settings.Document
import SyscallTally.Settings.Location

/-!
Contract: settings in a file.

Owns:
- `stored`, the settings that a file holds;
- `load`, those in force for a run;
- `save` and `modify`.

## A file counts as a whole or not at all

A file that exists and cannot be read, is not text, or is no acceptable document gives none of its
fields: the defaults stand in, with a warning. A file that does not exist is no reason for one.

`modify` starts from the settings in force, overrides included. It checks everything that can be
checked before it touches the file system.
-/

set_option autoImplicit false

namespace SyscallTally.Settings

/-- Why a file holds no settings. -/
inductive Unusable where
  | file (fault : Files.Fault)
  | notText
  | malformed
deriving DecidableEq, Repr

/-- The text of the reason. What is wrong with a document is not told. -/
def Unusable.message : Unusable → String
  | .file fault => fault.message
  | .notText => Cause.notText.message
  | .malformed => "TOML error"

/-- The settings that a file holds, the defaults standing in for missing fields. -/
def stored (store : Files.Store) (path : Files.Path) : Except Unusable Settings :=
  match store.read path with
  | .error fault => .error (.file fault)
  | .ok (.object _) => .error .notText
  | .ok (.octets octets) =>
      match Text.Utf8.decode? octets with
      | none => .error .notText
      | some text =>
          match ofDocument? text with
          | none => .error .malformed
          | some fields => .ok (fields.apply default)

/-- The warning about a file that holds no settings. -/
def unusableWarning (path : Files.Path) (reason : Unusable) : LogRecord :=
  ⟨.warn, "Failed to load config from " ++ Files.Path.quoted path
    ++ ", using default config: " ++ reason.message⟩

/-- The settings before any override. -/
def loadStored (environment : Environment) (store : Files.Store) : Settings × List LogRecord :=
  match location? environment with
  | none => (default, [])
  | some path =>
      if store.pathExists path then
        match stored store path with
        | .ok settings => (settings, [])
        | .error reason => (default, [unusableWarning path reason])
      else (default, [])

/-- The settings in force. -/
def load (environment : Environment) (store : Files.Store) : Settings × List LogRecord :=
  let (settings, log) := loadStored environment store
  ((overrides environment).apply settings, log)

/-- Creates the directory that a file is to be written in. -/
def prepareParent (store : Files.Store) (path : Files.Path) : Except Problem Unit × Files.Store :=
  match Files.Path.parent? path with
  | none => (.ok (), store)
  | some parent =>
      match store.createChain parent with
      | (.ok (), prepared) => (.ok (), prepared)
      | (.error fault, prepared) =>
          (.error ⟨.file fault, ["Failed to create " ++ Files.Path.quoted parent]⟩, prepared)

def save (environment : Environment) (settings : Settings) (store : Files.Store) :
    Except Problem Unit × Files.Store :=
  match location? environment with
  | none => (.error ⟨.noHome, []⟩, store)
  | some path =>
      match document settings with
      | .error problem => (.error problem, store)
      | .ok text =>
          match prepareParent store path with
          | (.error problem, prepared) => (.error problem, prepared)
          | (.ok (), prepared) =>
              match prepared.write path (.octets (Text.Utf8.encode text)) with
              | .ok written => (.ok (), written)
              | .error fault =>
                  (.error ⟨.file fault, ["Failed to write " ++ Files.Path.quoted path]⟩,
                    prepared)

/-- The outcome of a change of the saved settings. -/
structure Modified where
  result : Except Problem Settings
  store : Files.Store
  log : List LogRecord

/-- Replaces fields of the settings in force and saves the result. -/
def modify (environment : Environment) (changes : Changes) (store : Files.Store) : Modified :=
  let (current, log) := load environment store
  let settings := changes.apply current
  match settings.validate with
  | .error problem => ⟨.error problem, store, log⟩
  | .ok () =>
      match save environment settings store with
      | (.error problem, store) => ⟨.error problem, store, log⟩
      | (.ok (), store) => ⟨.ok settings, store, log⟩

end SyscallTally.Settings
