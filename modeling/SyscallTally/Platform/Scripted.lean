import SyscallTally.Platform.Basic

/-!
Contract: a platform whose answers are laid down in advance, and a platform that keeps a list of the
calls made to it.

The scripted platform resolves events in a list of symbols; every other step succeeds or fails as
its script says. The tracing platform answers like the one inside it.
-/

set_option autoImplicit false

namespace SyscallTally.Platform

open SyscallTally.Counter SyscallTally.Kernel SyscallTally.Probe

/-! ## Scripted answers -/

namespace Scripted

/-- The script, and how far the reads have come. -/
structure State where
  symbols : Symbols
  privilegesError : Option String := none
  attachError : Option String := none
  detachError : Option String := none
  /-- The answers to the reads; the last one is given from then on. -/
  reads : List (Except String Snapshot) := []
  readCount : Nat := 0

structure Probe where
  program : String
  target : Target
  attached : Bool
deriving DecidableEq, Repr

/-- The answer to the next read. A script without answers has empty tables. -/
def State.nextRead (state : State) : Except String Snapshot :=
  (state.reads[state.readCount]?.or state.reads.getLast?).getD (.ok Snapshot.empty)

/-- A step that fails if the script gives a reason for it. -/
def scriptedStep {α : Type} (reason : Option String) (fail : String → Failure) (value : α)
    (state : State) : Response State α :=
  match reason with
  | some reason => ⟨.error (fail reason), state, []⟩
  | none => ⟨.ok value, state, []⟩

def platform : Platform State Probe where
  resolve event state := ⟨state.symbols.resolve event, state, []⟩
  ensurePrivileges target artifact state :=
    scriptedStep state.privilegesError (.attachment artifact.program target.symbol) () state
  attach target artifact state :=
    scriptedStep state.attachError (.attachment artifact.program target.symbol)
      ⟨artifact.program, target, true⟩ state
  readTable _ state :=
    let next := { state with readCount := state.readCount + 1 }
    match state.nextRead with
    | .ok snapshot => ⟨.ok snapshot, next, []⟩
    | .error reason => ⟨.error (.tableRead counterTable reason), next, []⟩
  detach probe state :=
    ({ probe with attached := false },
      scriptedStep state.detachError (.detachment probe.program) () state)
  program := Probe.program
  target := Probe.target
  isAttached := Probe.attached

end Scripted

/-! ## Traces -/

inductive Call where
  | resolve (event : String)
  | ensurePrivileges (target : Target) (artifact : Artifact)
  | attach (target : Target) (artifact : Artifact)
  | readTable
  | detach
deriving DecidableEq, Repr

/-- A state with the calls made so far, the first one first. -/
structure Traced (σ : Type) where
  state : σ
  calls : List Call := []

/-- The state after one more call. -/
def Traced.after {σ : Type} (traced : Traced σ) (call : Call) (state : σ) : Traced σ :=
  ⟨state, traced.calls ++ [call]⟩

/-- The platform that keeps a list of calls and answers like the one inside. -/
def traced {σ π : Type} (platform : Platform σ π) : Platform (Traced σ) π where
  resolve event traced :=
    (platform.resolve event traced.state).onPart (traced.after (.resolve event))
  ensurePrivileges target artifact traced :=
    (platform.ensurePrivileges target artifact traced.state).onPart
      (traced.after (.ensurePrivileges target artifact))
  attach target artifact traced :=
    (platform.attach target artifact traced.state).onPart
      (traced.after (.attach target artifact))
  readTable probe traced :=
    (platform.readTable probe traced.state).onPart (traced.after .readTable)
  detach probe traced :=
    let (detached, response) := platform.detach probe traced.state
    (detached, response.onPart (traced.after .detach))
  program := platform.program
  target := platform.target
  isAttached := platform.isAttached

end SyscallTally.Platform
