import SyscallTally.Settings.Basic
import SyscallTally.Toml.Document

/-!
Contract: the fields of settings in a document.

Owns: reading the five fields from the table of a document; every field may be missing, and other
keys are ignored. A field of the wrong type refuses the document as a whole.

The kind of probe is given by its name, or by a table whose only key is the name and stands for
nothing: an empty table or an empty array.
-/

set_option autoImplicit false

namespace SyscallTally.Settings

open SyscallTally.Toml

/-- The keys of the five fields. -/
structure FieldNames where
  probe : String := "probe"
  event : String := "event"
  interval : String := "polling_interval_ms"
  objectPath : String := "object_path"
  symbolsPath : String := "kallsyms_path"

/-- The keys as documents have them. -/
def fieldNames : FieldNames := {}

/-- Whether an item stands for nothing. -/
def standsForNothing : Item → Bool
  | .table _ entries => entries.isEmpty
  | .array items => items.isEmpty
  | .tables elements => elements.isEmpty
  | _ => false

/-- The kind of probe that an item gives. -/
def probeOf? : Item → Option Probe.Kind
  | .text name => Probe.Kind.ofName? (String.ofList name)
  | .table _ [(name, item)] =>
      if standsForNothing item then Probe.Kind.ofName? (String.ofList name) else none
  | _ => none

def textOf? : Item → Option String
  | .text content => some (String.ofList content)
  | _ => none

def pathOf? (item : Item) : Option Files.Path := (textOf? item).map Files.Path.ofString

/-- The interval of an item. Documents cannot hold integers of 2^63 and more. -/
def intervalOf? : Item → Option UInt64
  | .integer value => if 0 ≤ value then some (UInt64.ofNat value.toNat) else none
  | _ => none

/-- A field that may be missing, but not of the wrong type. -/
def field? {α : Type} (read? : Item → Option α) (name : String) (entries : Entries) :
    Option (Option α) :=
  match entries.lookup name.toList with
  | none => some none
  | some item => (read? item).map some

/-- The fields of a document's table. -/
def fields? (entries : Entries) : Option Changes := do
  let probe ← field? probeOf? fieldNames.probe entries
  let event ← field? textOf? fieldNames.event entries
  let interval ← field? intervalOf? fieldNames.interval entries
  let objectPath ← field? pathOf? fieldNames.objectPath entries
  let symbolsPath ← field? pathOf? fieldNames.symbolsPath entries
  return { probe, event, interval, objectPath, symbolsPath }

def ofDocument? (text : String) : Option Changes :=
  (document? text.toList).bind fields?

end SyscallTally.Settings
