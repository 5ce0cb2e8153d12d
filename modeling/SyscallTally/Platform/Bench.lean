import SyscallTally.Platform.Basic

/-!
Contract: several probes on one platform, numbered in the order of their attachment.

Owns:
- `Bench`, a platform's state with its probes and the snapshots taken;
- attaching, detaching, releasing and reading by number;
- `Step`, one of these or an occurrence, and `Bench.run`, step after step.

A released probe is detached first and keeps its number, which then stands for no probe.
-/

set_option autoImplicit false

namespace SyscallTally.Platform

open SyscallTally.Counter SyscallTally.Probe

/-- A platform's state, its probes by number, and the snapshots taken of them, oldest first. -/
structure Bench (σ π : Type) where
  state : σ
  probes : List (Option π) := []
  kept : List Snapshot := []

namespace Bench

variable {σ π : Type}

/-- The probe of a number, unless it was released or never attached. -/
def probe? (bench : Bench σ π) (number : Nat) : Option π := bench.probes[number]?.join

/-- Attaches a probe and gives its number. -/
def attach (platform : Platform σ π) (event : String) (kind : Kind) (bench : Bench σ π) :
    Except Failure Nat × Bench σ π × List LogRecord :=
  let response := platform.attachProbe event kind bench.state
  match response.result with
  | .error failure => (.error failure, { bench with state := response.state }, response.log)
  | .ok probe =>
      (.ok bench.probes.length,
        { bench with state := response.state, probes := bench.probes ++ [some probe] },
        response.log)

/-- Detaches a probe, which keeps its number. -/
def detach (platform : Platform σ π) (number : Nat) (probe : π) (bench : Bench σ π) :
    Except Failure Unit × Bench σ π × List LogRecord :=
  let (detached, response) := platform.detach probe bench.state
  (response.result,
    { bench with state := response.state, probes := bench.probes.set number (some detached) },
    response.log)

/-- Detaches a probe and gives it up. A failure to detach is not reported. -/
def release (platform : Platform σ π) (number : Nat) (probe : π) (bench : Bench σ π) :
    Bench σ π × List LogRecord :=
  let (_, response) := platform.detach probe bench.state
  ({ bench with state := response.state, probes := bench.probes.set number none }, response.log)

/-- Releases the probes with the given numbers, as far as there are any. -/
def releaseAll (platform : Platform σ π) :
    List Nat → Bench σ π → Bench σ π × List LogRecord
  | [], bench => (bench, [])
  | number :: rest, bench =>
      match bench.probe? number with
      | none => releaseAll platform rest bench
      | some probe =>
          let (bench, log) := bench.release platform number probe
          let (bench, further) := releaseAll platform rest bench
          (bench, log ++ further)

/-- Releases all probes in the order of their numbers. -/
def close (platform : Platform σ π) (bench : Bench σ π) : Bench σ π × List LogRecord :=
  bench.releaseAll platform (List.range bench.probes.length)

/-- Reads the table of a probe and keeps the snapshot. -/
def read (platform : Platform σ π) (probe : π) (bench : Bench σ π) :
    Except Failure Snapshot × Bench σ π × List LogRecord :=
  let response := platform.readTable probe bench.state
  match response.result with
  | .error failure => (.error failure, { bench with state := response.state }, response.log)
  | .ok snapshot =>
      (.ok snapshot,
        { bench with state := response.state, kept := bench.kept ++ [snapshot] },
        response.log)

end Bench

/-! ## Step after step -/

/-- A step in the life of a platform: something is done to its probes, or something occurs that is
none of the bench's doing. -/
inductive Step (ε : Type) where
  | attach (event : String) (kind : Kind)
  | detach (number : Nat)
  | release (number : Nat)
  | read (number : Nat)
  | occur (occurrence : ε)
deriving DecidableEq, Repr

namespace Bench

variable {σ π ε : Type}

/-- Does one step. Nothing is done to a number that stands for no probe. -/
def advance (platform : Platform σ π) (occur : ε → σ → σ) (bench : Bench σ π) :
    Step ε → Bench σ π
  | .attach event kind => (bench.attach platform event kind).2.1
  | .detach number =>
      match bench.probe? number with
      | some probe => (bench.detach platform number probe).2.1
      | none => bench
  | .release number =>
      match bench.probe? number with
      | some probe => (bench.release platform number probe).1
      | none => bench
  | .read number =>
      match bench.probe? number with
      | some probe => (bench.read platform probe).2.1
      | none => bench
  | .occur occurrence => { bench with state := occur occurrence bench.state }

/-- Does steps one after the other. -/
def run (platform : Platform σ π) (occur : ε → σ → σ) (steps : List (Step ε))
    (bench : Bench σ π) : Bench σ π :=
  steps.foldl (advance platform occur) bench

end Bench

end SyscallTally.Platform
