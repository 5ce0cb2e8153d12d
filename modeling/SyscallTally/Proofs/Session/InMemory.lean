import SyscallTally.Proofs.Platform.Memory
import SyscallTally.Proofs.Session.Parts
import SyscallTally.Session.Occurrences

/-!
Owns what a timeline's occurrences do to the platform in memory while a counting probe is attached:
as long as they are of few users, each is counted and none is refused (`Counts.happen`).
-/

set_option autoImplicit false

namespace SyscallTally.Session.Timeline

open SyscallTally.Counter SyscallTally.Probe SyscallTally.Platform

/-! ### Occurrences of triggers -/

/-- The keys of all occurrences of triggers, each as often as it occurs. -/
def occurrences (triggers : List Trigger) : List UInt64 :=
  triggers.flatMap fun trigger => List.replicate trigger.times (userKey trigger.credentials)

theorem occurrences_append (first second : List Trigger) :
    occurrences (first ++ second) = occurrences first ++ occurrences second :=
  List.flatMap_append

theorem occurrences_perm {first second : List Trigger} (same : first.Perm second) :
    (occurrences first).Perm (occurrences second) :=
  same.flatMap_right _

theorem occurrences_subset {first second : List Trigger} (fewer : first ⊆ second) :
    occurrences first ⊆ occurrences second := by
  intro key member
  obtain ⟨trigger, listed, occurs⟩ := List.mem_flatMap.mp member
  exact List.mem_flatMap.mpr ⟨trigger, fewer listed, occurs⟩

namespace InMemory

/-! ### Counting in memory -/

/-- A platform on which a counting probe is attached and which has counted the given keys, all of
them among few. -/
structure Counts (ids keys : List UInt64) (whole : InMemory) : Prop where
  attached : 0 < whole.state.attached
  accepted : whole.refused = none
  room : ids.dedup.length ≤ whole.state.table.capacity
  known : keys ⊆ ids
  tallies : whole.state.table.Tallies keys

namespace Counts

variable {ids keys others : List UInt64} {whole : InMemory} {state : Memory.State}

theorem perm (counts : Counts ids keys whole) (same : keys.Perm others) :
    Counts ids others whole :=
  { counts with
    known := List.Subset.trans same.symm.subset counts.known
    tallies := counts.tallies.perm same }

theorem known_of_mem {key : UInt64} (counts : Counts ids keys whole)
    (present : key ∈ whole.state.table.counts) : key ∈ ids :=
  counts.known (counts.tallies.mem_iff.mp present)

theorem trigger {credentials : UInt64} (counts : Counts ids keys ⟨state, none⟩)
    (member : userKey credentials ∈ ids) :
    ∃ next, Memory.trigger credentials state = (none, next) ∧
      next.table = state.table.store (userKey credentials)
        (state.table.count (userKey credentials) + 1) ∧
      Counts ids (userKey credentials :: keys) ⟨next, none⟩ := by
  have room : state.table.HasRoom (userKey credentials) :=
    Table.hasRoom_of_known (fun _ => counts.known_of_mem) counts.room member
  exact ⟨_, Memory.trigger_of_hasRoom counts.attached room, rfl, counts.attached, rfl, counts.room,
    List.cons_subset.mpr ⟨member, counts.known⟩, counts.tallies.store⟩

theorem triggerTimes {credentials : UInt64} (times : Nat) (counts : Counts ids keys ⟨state, none⟩)
    (members : List.replicate times (userKey credentials) ⊆ ids) :
    ∃ next, Memory.triggerTimes 0 times credentials state = (none, next) ∧
      Counts ids (List.replicate times (userKey credentials) ++ keys) ⟨next, none⟩ := by
  induction times generalizing state keys with
  | zero => exact ⟨state, rfl, counts⟩
  | succ times inductionHypothesis =>
      rw [List.replicate_succ, List.cons_subset] at members
      obtain ⟨after, counted, -, countsAfter⟩ := counts.trigger members.1
      obtain ⟨next, countedAll, countsNext⟩ := inductionHypothesis countsAfter members.2
      refine ⟨next, ?_, ?_⟩
      · rw [Memory.triggerTimes, counted]
        simp only [UInt64.add_zero]
        exact countedAll
      · rwa [List.replicate_succ', List.append_assoc]

theorem occur {trigger : Trigger} (counts : Counts ids keys whole)
    (members : occurrences [trigger] ⊆ ids) :
    Counts ids (occurrences [trigger] ++ keys) (occur trigger whole) := by
  rcases whole with ⟨state, refused⟩
  obtain rfl : refused = none := counts.accepted
  have each : occurrences [trigger] =
      List.replicate trigger.times (userKey trigger.credentials) := List.append_nil _
  rw [each] at members ⊢
  obtain ⟨next, counted, countsNext⟩ := counts.triggerTimes trigger.times members
  have after : InMemory.occur trigger ⟨state, none⟩ = ⟨next, none⟩ := by
    simp only [InMemory.occur, counted, Option.or_none]
  rwa [after]

/-- Occurrences of known users are all counted. -/
theorem happen {triggers : List Trigger} (counts : Counts ids keys whole)
    (members : occurrences triggers ⊆ ids) :
    Counts ids (occurrences triggers ++ keys) (happen InMemory.occur triggers whole) := by
  induction triggers generalizing keys whole with
  | nil => exact counts
  | cons trigger rest inductionHypothesis =>
      have split : occurrences (trigger :: rest) = occurrences [trigger] ++ occurrences rest :=
        occurrences_append [trigger] rest
      rw [split, List.append_subset] at members
      refine (inductionHypothesis (counts.occur members.1) members.2).perm ?_
      rw [split, List.append_assoc]
      exact List.perm_append_comm_assoc _ _ _

end Counts

/-! ### Attaching and reading -/

/-- The platform before anything has happened on it, however it is set up to fail. -/
structure IsFresh (whole : InMemory) : Prop where
  accepted : whole.refused = none
  unattached : whole.state.attached = 0
  table : whole.state.table = Table.empty limit

theorem state_isPart : IsPart InMemory.state fun state whole => { whole with state } :=
  ⟨fun _ _ => rfl, fun _ => rfl, fun _ _ _ => rfl⟩

/-- A counting probe that is attached to a fresh platform counts from nothing. -/
theorem counts_of_attached {event : String} {probe : Memory.Probe} {whole attached : InMemory}
    {log : List LogRecord} {ids : List UInt64} (fresh : whole.IsFresh)
    (few : ids.dedup.length ≤ limit)
    (attaching : platform.attachProbe event .count whole = ⟨.ok probe, attached, log⟩) :
    (∃ target, probe = Memory.Probe.attachedTo target .count) ∧ Counts ids [] attached := by
  have attachingPart : platform.attachProbe event .count whole =
      (Memory.platform.attachProbe event .count whole.state).onPart
        fun state => { whole with state } :=
    Platform.attachProbe_onPart state_isPart Memory.platform event .count whole
  rw [attachingPart] at attaching
  rcases Memory.attachProbe_cases event .count whole.state with
    ⟨failure, _, failing⟩ | ⟨target, _, succeeding⟩
  · rw [failing] at attaching
    cases attaching
  · rw [succeeding] at attaching
    cases attaching
    have empty : (whole.state.withProbe .count).table = Table.empty limit := fresh.table
    refine ⟨⟨target, rfl⟩, ?_, fresh.accepted, ?_, List.nil_subset _, ?_⟩
    · show 0 < whole.state.attached + 1
      rw [fresh.unattached]
      decide
    · rw [empty]
      exact few
    · rw [empty]
      exact Table.tallies_empty limit

/-- On a platform that is not set up to fail, every event that it knows can be counted. -/
theorem attachProbe_of_resolved {event : String} {symbols : Kernel.Symbols}
    {target : Kernel.Target} (resolving : symbols.resolve event = .ok target) :
    ∃ log, platform.attachProbe event .count ⟨{ symbols }, none⟩ =
      ⟨.ok (Memory.Probe.attachedTo target .count),
        ⟨({ symbols } : Memory.State).withProbe .count, none⟩, log⟩ := by
  have resolves : platform.resolve event ⟨{ symbols }, none⟩ =
      ⟨.ok target, ⟨{ symbols }, none⟩, []⟩ := by
    show (⟨symbols.resolve event, ⟨{ symbols }, none⟩, []⟩ : Response InMemory Kernel.Target) = _
    rw [resolving]
  exact ⟨_, Platform.attachProbe_of_attached resolves rfl rfl⟩

/-- Reading the table of an attached counting probe copies it and changes nothing. -/
theorem readTable_attachedTo (target : Kernel.Target) (whole : InMemory) :
    platform.readTable (Memory.Probe.attachedTo target .count) whole =
      ⟨.ok whole.state.table.snapshot, whole, []⟩ := rfl

end InMemory

end SyscallTally.Session.Timeline
