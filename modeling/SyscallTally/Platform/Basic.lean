import SyscallTally.Counter.Snapshot
import SyscallTally.Kernel.Symbols
import SyscallTally.Log
import SyscallTally.Probe.Kind

/-!
Contract: what the life of a probe needs of a platform.

Owns:
- `Response`, what a step leaves behind: a result, a state, records;
- `Platform`, the steps: resolving an event, checking privileges, attaching, reading, detaching;
- `attachProbe`, the order of the first three;
- `FailsInOwnName`, by which a failure tells which step it is of;
- `Platform.onPart`, a platform as a part of a larger state.

A platform has states `σ` and probes `π`. A probe is a value; what changes when it is detached is
the value that stands for it from then on. Detaching twice is detaching once.
-/

set_option autoImplicit false

namespace SyscallTally

open SyscallTally.Counter SyscallTally.Kernel SyscallTally.Probe

/-- What a step leaves behind. -/
structure Response (σ α : Type) where
  result : Except Failure α
  state : σ
  log : List LogRecord := []

namespace Response

variable {σ α β : Type}

/-- Goes on with the value of a step that succeeded. The records of both steps are kept. -/
def andThen (response : Response σ α) (next : α → σ → Response σ β) : Response σ β :=
  match response.result with
  | .error failure => ⟨.error failure, response.state, response.log⟩
  | .ok value =>
      let after := next value response.state
      ⟨after.result, after.state, response.log ++ after.log⟩

/-- A step that only leaves a record. -/
def noting (level : LogLevel) (message : String) (state : σ) : Response σ Unit :=
  ⟨.ok (), state, [⟨level, message⟩]⟩

/-- The response of a step on a part of a larger state. -/
def onPart {ω : Type} (response : Response σ α) (place : σ → ω) : Response ω α :=
  ⟨response.result, place response.state, response.log⟩

end Response

/-- The facilities that the life of a probe is built on. -/
structure Platform (σ π : Type) where
  resolve : String → σ → Response σ Target
  ensurePrivileges : Target → Artifact → σ → Response σ Unit
  /-- Installs a program. The probe is active once this succeeds. -/
  attach : Target → Artifact → σ → Response σ π
  /-- Copies the table of a probe, which is never changed by it. -/
  readTable : π → σ → Response σ Snapshot
  /-- Detaches a probe, which counts as detached even if this fails. -/
  detach : π → σ → π × Response σ Unit
  program : π → String
  target : π → Target
  isAttached : π → Bool

namespace Platform

variable {σ π ω : Type}

/-- Resolves an event, checks privileges and installs the program of a kind. Nothing is installed
unless the first two succeed. -/
def attachProbe (platform : Platform σ π) (event : String) (kind : Kind) (state : σ) :
    Response σ π :=
  (platform.resolve event state).andThen fun target state =>
  (Response.noting .info ("resolved " ++ target.name ++ " to " ++ target.symbol) state).andThen
    fun _ state =>
  (platform.ensurePrivileges target kind.artifact state).andThen fun _ state =>
  (platform.attach target kind.artifact state).andThen fun probe state =>
  (Response.noting .info (kind.name ++ " probe active on " ++ (platform.target probe).symbol
    ++ " (" ++ platform.program probe ++ ")") state).andThen fun _ state =>
  ⟨.ok probe, state, []⟩

section

variable {platform : Platform σ π} {event : String} {kind : Kind} {target : Target} {probe : π}
  {failure : Failure} {state resolved checked last : σ}
  {resolveLog checkLog log : List LogRecord}

theorem attachProbe_of_unresolved
    (resolving : platform.resolve event state = ⟨.error failure, last, log⟩) :
    platform.attachProbe event kind state = ⟨.error failure, last, log⟩ := by
  simp only [attachProbe, Response.andThen, resolving]

theorem attachProbe_of_unprivileged
    (resolving : platform.resolve event state = ⟨.ok target, resolved, resolveLog⟩)
    (checking : platform.ensurePrivileges target kind.artifact resolved =
      ⟨.error failure, last, log⟩) :
    platform.attachProbe event kind state =
      ⟨.error failure, last, resolveLog ++
        (⟨.info, "resolved " ++ target.name ++ " to " ++ target.symbol⟩ :: log)⟩ := by
  simp only [attachProbe, Response.andThen, Response.noting, resolving, checking,
    List.singleton_append]

theorem attachProbe_of_unattached
    (resolving : platform.resolve event state = ⟨.ok target, resolved, resolveLog⟩)
    (checking : platform.ensurePrivileges target kind.artifact resolved =
      ⟨.ok (), checked, checkLog⟩)
    (attaching : platform.attach target kind.artifact checked = ⟨.error failure, last, log⟩) :
    platform.attachProbe event kind state =
      ⟨.error failure, last, resolveLog ++
        (⟨.info, "resolved " ++ target.name ++ " to " ++ target.symbol⟩ :: (checkLog ++ log))⟩ := by
  simp only [attachProbe, Response.andThen, Response.noting, resolving, checking, attaching,
    List.singleton_append]

theorem attachProbe_of_attached
    (resolving : platform.resolve event state = ⟨.ok target, resolved, resolveLog⟩)
    (checking : platform.ensurePrivileges target kind.artifact resolved =
      ⟨.ok (), checked, checkLog⟩)
    (attaching : platform.attach target kind.artifact checked = ⟨.ok probe, last, log⟩) :
    platform.attachProbe event kind state =
      ⟨.ok probe, last, resolveLog ++
        (⟨.info, "resolved " ++ target.name ++ " to " ++ target.symbol⟩ ::
          (checkLog ++ (log ++ [⟨.info, kind.name ++ " probe active on " ++
            (platform.target probe).symbol ++ " (" ++ platform.program probe ++ ")"⟩])))⟩ := by
  simp only [attachProbe, Response.andThen, Response.noting, resolving, checking, attaching,
    List.singleton_append, List.append_nil]

end

/-- Whether the steps of a platform fail in their own names: the failure of a step is of its kind, and
tells what the step was asked for. -/
structure FailsInOwnName (platform : Platform σ π) : Prop where
  resolve : ∀ {event state failure}, (platform.resolve event state).result = .error failure →
    ∃ reason, failure = .resolution event reason
  ensurePrivileges : ∀ {target artifact state failure},
    (platform.ensurePrivileges target artifact state).result = .error failure →
      ∃ reason, failure = .attachment artifact.program target.symbol reason
  attach : ∀ {target artifact state failure},
    (platform.attach target artifact state).result = .error failure →
      ∃ reason, failure = .attachment artifact.program target.symbol reason
  readTable : ∀ {probe state failure}, (platform.readTable probe state).result = .error failure →
    ∃ table reason, failure = .tableRead table reason
  detach : ∀ {probe state failure}, (platform.detach probe state).2.result = .error failure →
    ∃ reason, failure = .detachment (platform.program probe) reason

/-- The platform as a part of a larger state. -/
def onPart (platform : Platform σ π) (part : ω → σ) (replace : σ → ω → ω) : Platform ω π where
  resolve event whole := (platform.resolve event (part whole)).onPart (replace · whole)
  ensurePrivileges target artifact whole :=
    (platform.ensurePrivileges target artifact (part whole)).onPart (replace · whole)
  attach target artifact whole :=
    (platform.attach target artifact (part whole)).onPart (replace · whole)
  readTable probe whole := (platform.readTable probe (part whole)).onPart (replace · whole)
  detach probe whole :=
    let (detached, response) := platform.detach probe (part whole)
    (detached, response.onPart (replace · whole))
  program := platform.program
  target := platform.target
  isAttached := platform.isAttached

theorem FailsInOwnName.onPart {platform : Platform σ π} (named : platform.FailsInOwnName)
    (part : ω → σ) (replace : σ → ω → ω) : (platform.onPart part replace).FailsInOwnName where
  resolve := named.resolve
  ensurePrivileges := named.ensurePrivileges
  attach := named.attach
  readTable := named.readTable
  detach := named.detach

end Platform

end SyscallTally
