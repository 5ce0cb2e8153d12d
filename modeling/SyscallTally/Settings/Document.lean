import SyscallTally.Settings.Fields
import SyscallTally.Toml.Writer

/-!
Contract: the document in which settings are saved.

It has all five fields, one assignment each, in a fixed order. Two things cannot be written: an
interval of 2^63 or more, since the integers of a document are signed, and a path that is not text.
The interval is looked at first.
-/

set_option autoImplicit false

namespace SyscallTally.Settings

open SyscallTally.Toml

/-- The line of a field that is given as text. -/
def textLine (name : String) (content : String) : List Char :=
  assignmentLine name.toList (written content.toList)

def intervalLine (interval : UInt64) : List Char :=
  assignmentLine fieldNames.interval.toList (Nat.repr interval.toNat).toList

def document (settings : Settings) : Except Problem String :=
  if integerLimit < settings.interval.toNat then .error ⟨.intervalOutOfRange, []⟩
  else
    match Text.Utf8.decode? settings.objectPath, Text.Utf8.decode? settings.symbolsPath with
    | some objectPath, some symbolsPath =>
        .ok (String.ofList
          (textLine fieldNames.probe settings.probe.name
            ++ textLine fieldNames.event settings.event
            ++ intervalLine settings.interval
            ++ textLine fieldNames.objectPath objectPath
            ++ textLine fieldNames.symbolsPath symbolsPath))
    | _, _ => .error ⟨.pathNotText, []⟩

end SyscallTally.Settings
