import SyscallTally.Files.Path
import SyscallTally.Probe.Kind
import SyscallTally.Problem

/-!
Contract: the settings of a run.

Owns:
- `Settings`, with the defaults;
- `Changes`, a choice of fields to replace, and their application.

The polling interval is in milliseconds. Paths are octets and need not be text; an event is text.
-/

set_option autoImplicit false

namespace SyscallTally

/-- The settings of a run. -/
structure Settings where
  probe : Probe.Kind := .count
  event : String := "execve"
  interval : UInt64 := 2000
  objectPath : Files.Path := Files.Path.ofString "/usr/lib/execwatch/execwatch-ebpf"
  symbolsPath : Files.Path := Files.Path.ofString "/proc/kallsyms"
deriving DecidableEq, Repr

namespace Settings

/-- The settings where nothing else is said. -/
def default : Settings := {}

/-- Refuses settings under which a session would never pause. -/
def validate (settings : Settings) : Except Problem Unit :=
  if settings.interval = 0 then .error ⟨.zeroInterval, []⟩ else .ok ()

/-- A choice of fields to replace. -/
structure Changes where
  probe : Option Probe.Kind := none
  event : Option String := none
  interval : Option UInt64 := none
  objectPath : Option Files.Path := none
  symbolsPath : Option Files.Path := none
deriving DecidableEq, Repr

/-- Replaces the chosen fields. -/
def Changes.apply (changes : Changes) (settings : Settings) : Settings where
  probe := changes.probe.getD settings.probe
  event := changes.event.getD settings.event
  interval := changes.interval.getD settings.interval
  objectPath := changes.objectPath.getD settings.objectPath
  symbolsPath := changes.symbolsPath.getD settings.symbolsPath

end Settings

end SyscallTally
