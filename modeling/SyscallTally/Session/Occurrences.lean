import SyscallTally.Platform.Loaded
import SyscallTally.Platform.Memory
import SyscallTally.Session.Timeline

/-!
Contract: how the occurrences of a timeline reach the platforms.

Owns:
- `InMemory`, the platform in memory with the code of the first occurrence that it refused;
- `InMemory.occur` and `occurInKernel`, the occurrences of a trigger on either platform.

In memory the platform is told of an occurrence, and only the credentials matter. In a kernel the
trigger's symbol is called, and every hook on it runs.
-/

set_option autoImplicit false

namespace SyscallTally.Session.Timeline

open SyscallTally.Platform

/-- The platform in memory during a session. An occurrence that it refuses is an error of whoever
brought it about, so its code is kept. -/
structure InMemory where
  state : Memory.State
  refused : Option Int := none

namespace InMemory

/-- The platform in memory, which never looks at refusals. -/
def platform : Platform InMemory Memory.Probe :=
  Memory.platform.onPart InMemory.state fun state whole => { whole with state }

/-- Lets the occurrences of a trigger happen, up to the first that is refused. -/
def occur (trigger : Trigger) (whole : InMemory) : InMemory :=
  let (code, state) := Memory.triggerTimes 0 trigger.times trigger.credentials whole.state
  ⟨state, whole.refused.or code⟩

end InMemory

/-- Calls the symbol of a trigger. -/
def occurInKernel (trigger : Trigger) (host : Loaded.Host) : Loaded.Host :=
  let calls : Kernel.Calls := ⟨trigger.symbol, trigger.credentials, trigger.times⟩
  { host with machine := host.machine.occur calls }

end SyscallTally.Session.Timeline
