import SyscallTally.Platform.Memory
import SyscallTally.Proofs.Counter.Tallies

/-!
Owns what the steps on the platform in memory do:

- an attachment either fails and leaves the platform as it was, or gives a probe of its kind and
  counts it if it is a counting one (`attachProbe_cases`);
- an occurrence is counted, refused by a full table, or ignored (`trigger_of_hasRoom`,
  `trigger_of_full`, `trigger_of_idle`).
-/

set_option autoImplicit false

namespace SyscallTally.Platform.Memory

open SyscallTally.Counter SyscallTally.Kernel SyscallTally.Probe

variable {state : State} {credentials : UInt64}

/-! ### Attaching -/

/-- The probe of a kind, just attached. -/
def Probe.attachedTo (target : Target) (kind : Kind) : Probe :=
  ⟨kind.artifact.program, target, kind.artifact.table, true⟩

/-- The platform with one more probe of a kind. -/
def State.withProbe (kind : Kind) (state : State) : State :=
  { state with attached := state.attached + if kind = .count then 1 else 0 }

theorem withProbe_hello : state.withProbe .hello = state := by
  simp [State.withProbe]

theorem attach_cases (target : Target) (kind : Kind) (state : State) :
    (∃ failure, platform.attach target kind.artifact state = ⟨.error failure, state, []⟩) ∨
      platform.attach target kind.artifact state =
        ⟨.ok (Probe.attachedTo target kind), state.withProbe kind, []⟩ := by
  show (∃ failure, attach target kind.artifact state = _) ∨ attach target kind.artifact state = _
  unfold attach
  cases refusal? kind.artifact state with
  | some reason => exact .inl ⟨_, rfl⟩
  | none =>
      right
      cases kind with
      | hello => simp [Probe.attachedTo, State.withProbe, Kind.artifact]
      | count => simp [Probe.attachedTo, State.withProbe, Kind.artifact]

theorem ensurePrivileges_cases (target : Target) (artifact : Artifact) (state : State) :
    (∃ failure, platform.ensurePrivileges target artifact state = ⟨.error failure, state, []⟩) ∨
      platform.ensurePrivileges target artifact state = ⟨.ok (), state, []⟩ := by
  show (∃ failure, ensurePrivileges target artifact state = _) ∨
    ensurePrivileges target artifact state = _
  unfold ensurePrivileges
  cases state.privileged with
  | true => exact .inr rfl
  | false => exact .inl ⟨_, rfl⟩

theorem attachProbe_cases (event : String) (kind : Kind) (state : State) :
    (∃ failure log, platform.attachProbe event kind state = ⟨.error failure, state, log⟩) ∨
      ∃ target log, platform.attachProbe event kind state =
        ⟨.ok (Probe.attachedTo target kind), state.withProbe kind, log⟩ := by
  rcases resolved : state.symbols.resolve event with failure | target
  · have resolving : platform.resolve event state = ⟨.error failure, state, []⟩ := by
      rw [← resolved]
      rfl
    exact .inl ⟨_, _, Platform.attachProbe_of_unresolved resolving⟩
  · have resolving : platform.resolve event state = ⟨.ok target, state, []⟩ := by
      rw [← resolved]
      rfl
    rcases ensurePrivileges_cases target kind.artifact state with ⟨failure, checking⟩ | checking
    · exact .inl ⟨_, _, Platform.attachProbe_of_unprivileged resolving checking⟩
    · rcases attach_cases target kind state with ⟨failure, attaching⟩ | attaching
      · exact .inl ⟨_, _, Platform.attachProbe_of_unattached resolving checking attaching⟩
      · exact .inr ⟨target, _, Platform.attachProbe_of_attached resolving checking attaching⟩

/-! ### Occurrences -/

theorem trigger_of_idle (idle : ¬ 0 < state.attached) :
    trigger credentials state = (none, state) := by
  simp only [trigger, if_neg idle]

theorem trigger_of_hasRoom (live : 0 < state.attached)
    (room : state.table.HasRoom (userKey credentials)) :
    trigger credentials state = (none, { state with
      table := state.table.store (userKey credentials)
        (state.table.count (userKey credentials) + 1) }) := by
  simp only [trigger, if_pos live, Table.record_of_hasRoom room]

theorem trigger_of_full (live : 0 < state.attached)
    (full : ¬ state.table.HasRoom (userKey credentials)) :
    trigger credentials state = (some fullCode, state) := by
  simp only [trigger, if_pos live, Table.record_of_not_hasRoom full]

end SyscallTally.Platform.Memory
