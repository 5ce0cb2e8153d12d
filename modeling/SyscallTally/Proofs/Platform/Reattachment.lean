import SyscallTally.Proofs.Platform.Lifecycle

/-!
Owns what a counting probe in memory reads when others have been attached before it
(`snapshot_carries_over`).

The table of the platform is the same for all its probes and is never emptied. So a snapshot tallies
what has occurred since its probe was attached together with all that earlier probes have counted;
it tells the occurrences since then alone exactly if nothing shows of the earlier ones.
-/

set_option autoImplicit false

namespace SyscallTally.Platform.Memory

open SyscallTally.Counter SyscallTally.Kernel SyscallTally.Probe

/-! ### Keys -/

/-- The keys of the occurrences among some steps, each as often as it occurs. -/
def occurredKeys (steps : List (Step UInt64)) : List UInt64 :=
  steps.filterMap fun
    | .occur credentials => some (userKey credentials)
    | _ => none

/-- The keys of the occurrences at which a counting probe was attached. -/
def countedKeys : List (Step UInt64) → Bench State Probe → List UInt64
  | [], _ => []
  | step :: rest, bench =>
      (if 0 < bench.state.attached then occurredKeys [step] else [])
        ++ countedKeys rest (bench.advance platform occur step)

theorem occurredKeys_cons (step : Step UInt64) (rest : List (Step UInt64)) :
    occurredKeys (step :: rest) = occurredKeys [step] ++ occurredKeys rest :=
  List.filterMap_append (l := [step])

variable {bench : Bench State Probe} {number : Nat} {probe : Probe} {ids keys : List UInt64}
  {step : Step UInt64}

theorem countedKeys_subset (steps : List (Step UInt64)) (bench : Bench State Probe) :
    countedKeys steps bench ⊆ occurredKeys steps := by
  induction steps generalizing bench with
  | nil => exact List.nil_subset _
  | cons step rest inductionHypothesis =>
      rw [countedKeys, occurredKeys_cons step rest]
      refine List.append_subset.mpr ⟨?_, ?_⟩
      · split
        case isTrue => exact List.subset_append_left _ _
        case isFalse => exact List.nil_subset _
      · exact List.Subset.trans (inductionHypothesis _) (List.subset_append_right _ _)

theorem occurredKeys_of_quiet (quiet : ∀ credentials, step ≠ .occur credentials) :
    occurredKeys [step] = [] := by
  cases step with
  | occur credentials => exact absurd rfl (quiet credentials)
  | _ => rfl

/-! ### What the table tallies -/

/-- As long as there are few keys, the table of a sound bench tallies what has been counted. -/
theorem tallies_advance (sound : Sound bench) (tallies : bench.state.table.Tallies keys)
    (few : ids.dedup.length ≤ limit) (known : keys ⊆ ids) (members : occurredKeys [step] ⊆ ids) :
    (bench.advance platform occur step).state.table.Tallies
      (keys ++ if 0 < bench.state.attached then occurredKeys [step] else []) := by
  have effect := effect_advance sound step
  generalize bench.advance platform occur step = later at effect ⊢
  cases effect with
  | nothing quiet state _ =>
      rw [occurredKeys_of_quiet quiet, ite_self, List.append_nil, state]
      exact tallies
  | attached event kind target =>
      have nothing : occurredKeys [.attach event kind] = [] := rfl
      rw [nothing, ite_self, List.append_nil]
      exact tallies
  | retired quiet _ _ _ =>
      rw [occurredKeys_of_quiet quiet, ite_self, List.append_nil]
      exact tallies
  | occurred credentials =>
      show (occur credentials bench.state).table.Tallies _
      unfold occur
      by_cases live : 0 < bench.state.attached
      · have room : bench.state.table.HasRoom (userKey credentials) := by
          refine Table.hasRoom_of_known (fun key present => known (tallies.mem_iff.mp present)) ?_
            (members List.mem_cons_self)
          rw [sound.capacity]
          exact few
        rw [trigger_of_hasRoom live room, if_pos live]
        exact tallies.store.perm (List.perm_append_singleton _ _).symm
      · rw [trigger_of_idle live, if_neg live, List.append_nil]
        exact tallies

theorem tallies_run (sound : Sound bench) (tallies : bench.state.table.Tallies keys)
    (steps : List (Step UInt64)) (few : ids.dedup.length ≤ limit) (known : keys ⊆ ids)
    (members : occurredKeys steps ⊆ ids) :
    (bench.run platform occur steps).state.table.Tallies (keys ++ countedKeys steps bench) := by
  induction steps generalizing bench keys with
  | nil =>
      rw [countedKeys, List.append_nil]
      exact tallies
  | cons step rest inductionHypothesis =>
      rw [occurredKeys_cons step rest] at members
      obtain ⟨first, others⟩ := List.append_subset.mp members
      have next := tallies_advance sound tallies few known first
      rw [countedKeys, ← List.append_assoc]
      refine inductionHypothesis (sound.advance step) next
        (List.append_subset.mpr ⟨known, ?_⟩) others
      split
      case isTrue => exact first
      case isFalse => exact List.nil_subset _

/-! ### While a probe is attached -/

theorem retires : platform.Retires := by
  intro probe state
  show (detach probe state).1.attached = false
  unfold detach
  cases attached : probe.attached with
  | true => rfl
  | false => exact attached

/-- A platform counts as long as one of its counting probes is attached. -/
theorem Sound.attached_pos (sound : Sound bench) (found : bench.probe? number = some probe)
    (live : isLive probe = true) : 0 < bench.state.attached := by
  have counted : 0 < liveProbes bench :=
    List.countP_pos_iff.mpr ⟨some probe, Bench.mem_of_probe? found, live⟩
  rw [sound.balanced]
  exact Int.natCast_pos.mpr counted

/-- All that occurs is counted if some counting probe is attached throughout. -/
theorem countedKeys_of_live (sound : Sound bench) (steps : List (Step UInt64))
    (old : number < bench.probes.length) (live : isLive probe = true)
    (found : (bench.run platform occur steps).probe? number = some probe) :
    countedKeys steps bench = occurredKeys steps := by
  have attached : platform.isAttached probe = true := (Bool.and_eq_true_iff.mp live).1
  induction steps generalizing bench with
  | nil => rfl
  | cons step rest inductionHypothesis =>
      have first : bench.probe? number = some probe :=
        Bench.probe?_of_run retires (step :: rest) old attached found
      have known : number < (bench.advance platform occur step).probes.length :=
        Nat.lt_of_lt_of_le old (Bench.length_probes_advance retires bench step)
      rw [countedKeys, occurredKeys_cons step rest, if_pos (sound.attached_pos first live),
        inductionHypothesis (sound.advance step) known found]

/-! ### Snapshots -/

/-- Whether a snapshot has exactly the given keys, each with the number of its occurrences. -/
def Tells (snapshot : Snapshot) (keys : List UInt64) : Prop :=
  ∀ key value, (key, value) ∈ snapshot.toList ↔
    key ∈ keys ∧ value = UInt64.ofNat (keys.count key)

/-- A snapshot of earlier and later keys tells the later ones alone exactly if nothing shows of the
earlier ones: each has occurred again later, and its earlier occurrences fill up its counter. -/
theorem tells_later_iff {snapshot : Snapshot} {earlier later : List UInt64}
    (tells : Tells snapshot (earlier ++ later)) :
    Tells snapshot later ↔
      ∀ key ∈ earlier, key ∈ later ∧ UInt64.ofNat (earlier.count key) = 0 := by
  constructor
  · intro tellsLater key member
    have entry := (tells key _).mpr ⟨List.mem_append_left _ member, rfl⟩
    obtain ⟨again, same⟩ := (tellsLater key _).mp entry
    refine ⟨again, ?_⟩
    rw [List.count_append, UInt64.ofNat_add] at same
    exact UInt64.add_eq_right.mp same
  · intro hidden key value
    rw [tells, List.mem_append, List.count_append, UInt64.ofNat_add]
    by_cases member : key ∈ earlier
    · obtain ⟨again, zero⟩ := hidden key member
      simp only [member, again, zero, UInt64.zero_add, true_or, true_and]
    · simp only [member, List.count_eq_zero.mpr member, false_or]
      rw [show UInt64.ofNat 0 = 0 from rfl, UInt64.zero_add]

/-- Attaching a counting probe gives it the next number and leaves the table as it is. -/
theorem attach_of_isOk {event : String} {kind : Kind}
    (attaches : (bench.attach platform event kind).1 = .ok number) :
    number = bench.probes.length ∧ ∃ target,
      bench.advance platform occur (.attach event kind) = { bench with
        state := bench.state.withProbe kind
        probes := bench.probes ++ [some (Probe.attachedTo target kind)] } := by
  rcases attach_cases_of_bench bench event kind with
    ⟨failure, log, failed⟩ | ⟨target, log, attached⟩
  · rw [failed] at attaches
    cases attaches
  · rw [attached] at attaches
    exact ⟨(Except.ok.inj attaches).symm, target, by simp only [Bench.advance, attached]⟩

/-- What a counting probe reads, as long as few ids occur, tells all that has occurred since it was
attached, and with it all that was counted by probes before it. So it tells what has occurred since
then alone exactly if nothing shows of what was counted before. -/
theorem snapshot_carries_over (symbols : Symbols)
    (privileged rejecting hasLogger hasTable : Bool) (before after : List (Step UInt64))
    (event : String) (number : Nat) (probe : Probe) :
    let start : Bench State Probe :=
      { state := { symbols, privileged, rejecting, hasLogger, hasTable } }
    let earlier := start.run platform occur before
    let last := (earlier.advance platform occur (.attach event .count)).run platform occur after
    let carried := countedKeys before start
    let since := occurredKeys after
    (occurredKeys before ++ since).dedup.length ≤ 10240 →
    (earlier.attach platform event .count).1 = .ok number →
    last.probe? number = some probe → platform.isAttached probe = true →
    ∃ snapshot, (last.read platform probe).1 = .ok snapshot ∧ Tells snapshot (carried ++ since) ∧
      (Tells snapshot since ↔
        ∀ key ∈ carried, key ∈ since ∧ UInt64.ofNat (carried.count key) = 0) := by
  intro start earlier last carried since few attaches found attached
  have soundEarlier : Sound earlier := (sound_fresh _ rfl rfl).run before
  obtain ⟨rfl, target, attachedBench⟩ := attach_of_isOk attaches
  have soundNext := soundEarlier.advance (.attach event .count)
  have old : earlier.probes.length <
      (earlier.advance platform occur (.attach event .count)).probes.length := by
    rw [attachedBench, List.length_append]
    exact Nat.lt_succ_self _
  -- The number is not given again, so the probe found at last is the one that was attached.
  have isNew := Bench.probe?_of_run retires after old attached found
  have live : isLive probe = true := by
    rw [attachedBench, Bench.probe?_eq_some_iff, List.getElem?_concat_length] at isNew
    rw [← Option.some.inj (Option.some.inj isNew)]
    rfl
  have carriedSubset : carried ⊆ occurredKeys before ++ since :=
    List.Subset.trans (countedKeys_subset before start) (List.subset_append_left _ _)
  have talliesEarlier : earlier.state.table.Tallies carried :=
    tallies_run (sound_fresh _ rfl rfl) (Table.tallies_empty limit) before few
      (List.nil_subset _) (List.subset_append_left _ _)
  have talliesNext :
      (earlier.advance platform occur (.attach event .count)).state.table.Tallies carried := by
    rw [attachedBench]
    exact talliesEarlier
  have tallies := tallies_run soundNext talliesNext after few carriedSubset
    (List.subset_append_right _ _)
  rw [countedKeys_of_live soundNext after old live found] at tallies
  have soundLast : Sound last := soundNext.run after
  have reading : platform.readTable probe last.state =
      ⟨.ok last.state.table.snapshot, last.state, []⟩ :=
    readTable_of_live (soundLast.kinds probe (Bench.mem_of_probe? found)) live
  have tells : Tells last.state.table.snapshot (carried ++ since) :=
    fun key value => Snapshot.mem_toList_of_tallies tallies
  exact ⟨last.state.table.snapshot, by simp only [Bench.read, reading], tells,
    tells_later_iff tells⟩

/-- A probe that is attached after another has counted and been given up. -/
theorem snapshot_carries_over_reattached :
    let start : Bench State Probe := { state := {} }
    let before : List (Step UInt64) := [.attach "execve" .count, .occur 7, .release 0]
    let last := ((start.run platform occur before).advance platform occur
      (.attach "execve" .count)).run platform occur [.occur 8]
    ∃ probe snapshot, last.probe? 1 = some probe ∧ platform.isAttached probe = true ∧
      (last.read platform probe).1 = .ok snapshot ∧ Tells snapshot [7, 8] := by
  intro start before last
  obtain ⟨snapshot, reads, tells, -⟩ :=
    snapshot_carries_over ⟨["sys_bpf", "sys_execve", "sys_execveat"]⟩ true false true true before
      [.occur 8] "execve" 1 _ (by decide) (by rfl) (by rfl) (by rfl)
  exact ⟨_, snapshot, rfl, rfl, reads, tells⟩

/-- A probe that has just been attached, before anything occurs, reads what another has counted. -/
theorem fresh_probe_reads_old_counts :
    let start : Bench State Probe := { state := {} }
    let before : List (Step UInt64) := [.attach "execve" .count, .occur 7, .release 0]
    let after : List (Step UInt64) := []
    let last := ((start.run platform occur before).advance platform occur
      (.attach "execve" .count)).run platform occur after
    ∃ probe snapshot, last.probe? 1 = some probe ∧ platform.isAttached probe = true ∧
      (last.read platform probe).1 = .ok snapshot ∧ snapshot.toList = [(7, 1)] ∧
      ¬ Tells snapshot (occurredKeys after) := by
  intro start before after last
  refine ⟨_, _, rfl, rfl, rfl, by decide, ?_⟩
  intro tells
  exact List.not_mem_nil ((tells 7 1).mp (by decide)).1

end SyscallTally.Platform.Memory
