import SyscallTally.Platform.Loaded

/-!
Contract: the platform that loads an object, with a list of all that it asks the kernel to do.

Owns:
- `Request`, a step that only the kernel can take, and its answer to it;
- what is asked for in order to attach, to read and to detach;
- `recording`, the platform that keeps the list and answers like the one that does not.

Resolving an event and checking privileges ask the kernel for nothing: they are left as they are, on
a host without the list.
-/

set_option autoImplicit false

namespace SyscallTally.Platform.Loaded

open SyscallTally.Counter SyscallTally.Kernel SyscallTally.Probe

/-- What the kernel is asked to do. -/
inductive Request where
  /-- To create the maps of an object, and with them all that its programs refer to. -/
  | loadObject (object : Object)
  | startLog (object : Object)
  | loadProgram (object : Object) (program : String)
  | hook (symbol program : String) (capacity : Nat)
  | walk (number : Nat)
  | unhook (number : Nat)
deriving DecidableEq, Repr

namespace Request

/-- Whether the kernel does what it is asked to do, and why not. -/
def answer (machine : Machine) : Request → Except Refusal Unit
  | .loadObject object => machine.loadObject object
  | .startLog object => machine.startLog object
  | .loadProgram object program => machine.loadProgram object program
  | .hook symbol program capacity => (machine.hook symbol program capacity).map fun _ => ()
  | .walk number => (machine.walk number).1.map fun _ => ()
  | .unhook _ => .ok ()

/-- The number of the hook that the kernel is asked to disable. -/
def unhooked? : Request → Option Nat
  | .unhook number => some number
  | _ => none

end Request

/-- The object of a file, before the kernel has seen it. -/
def readObject (paths : Paths) (files : Files.Store) : Except Refusal Object := do
  let file ← readObjectFile files paths.object
  Object.ofFile file

/-! ## The requests of each step -/

/-- The requests of attaching, up to the first that is refused. -/
def attachRequests (paths : Paths) (target : Target) (artifact : Artifact) (host : Host) :
    List Request :=
  match readObject paths host.files with
  | .error _ => []
  | .ok object =>
      .loadObject object ::
        match host.machine.loadObject object with
        | .error _ => []
        | .ok () =>
            .startLog object ::
              match (startLog artifact object host).1, findTable artifact object with
              | .ok (), .ok table =>
                  .loadProgram object artifact.program ::
                    match host.machine.loadProgram object artifact.program with
                    | .error _ => []
                    | .ok () =>
                        let capacity := (table.map fun found => found.2.capacity).getD 0
                        [.hook target.symbol artifact.program capacity]
              | _, _ => []

/-- The requests of reading: a walk, if there is a table to be walked. -/
def readRequests (probe : Probe) : List Request :=
  match probe.table with
  | none => []
  | some (_, table) =>
      if !probe.attached then []
      else
        match checkLayout table with
        | .error _ => []
        | .ok () => [.walk probe.hook]

def detachRequests (probe : Probe) : List Request :=
  if probe.attached then [.unhook probe.hook] else []

/-! ## The list of requests -/

/-- A host with the requests made so far, the first one first. -/
structure Recorded where
  host : Host
  requests : List Request := []

namespace Recorded

/-- The list with another host. -/
def withHost (host : Host) (recorded : Recorded) : Recorded := { recorded with host }

/-- The list with further requests, and the host that they have left. -/
def after (recorded : Recorded) (further : List Request) (host : Host) : Recorded :=
  ⟨host, recorded.requests ++ further⟩

end Recorded

/-- The platform that keeps a list of its requests. -/
def recording (paths : Paths) : Platform Recorded Probe :=
  { (platform paths).onPart Recorded.host Recorded.withHost with
    attach := fun target artifact recorded =>
      (attach paths target artifact recorded.host).onPart
        (recorded.after (attachRequests paths target artifact recorded.host))
    readTable := fun probe recorded =>
      (readTable probe recorded.host).onPart (recorded.after (readRequests probe))
    detach := fun probe recorded =>
      let (detached, response) := detach probe recorded.host
      (detached, response.onPart (recorded.after (detachRequests probe))) }

end SyscallTally.Platform.Loaded
