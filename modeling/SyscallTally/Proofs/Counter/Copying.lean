import SyscallTally.Counter.Copying
import SyscallTally.Proofs.Counter.Interleaving
import SyscallTally.Proofs.Counter.Tallies

/-!
Owns what a snapshot shows that is taken while occurrences are recorded
(`snapshots_are_consistent`): it has just the entries that were there when it took hold of the
table, and each value lies between the counters at its beginning and at its end. So a later snapshot
never falls behind an earlier one. A snapshot that nobody disturbs is the copy of the table
(`copy_alone`).

The entries stay the same because as many snapshots hold the table as there are holders
(`holders_workTogether`). The values are told from the occurrences that have been counted so far,
which only become more (`countedBy_mono`); nothing is said of the moments at which single entries
are copied.
-/

set_option autoImplicit false

namespace SyscallTally.Counter

/-! ### The steps of workers -/

namespace Copying

variable {copied : List (UInt64 × UInt64)} {table : Table} {key : UInt64}

theorem mem_remaining :
    key ∈ remaining copied table ↔ key ∈ table.counts ∧ key ∉ copied.map Prod.fst := by
  rw [remaining, List.mem_filter, Std.TreeMap.mem_keys, Bool.not_eq_true', List.contains_eq_mem,
    decide_eq_false_iff_not]

/-- As long as something remains to be copied, every choice picks some of it. -/
theorem getElem?_choice_eq_none_iff {keys : List UInt64} {choice : Nat} :
    keys[choice % keys.length]? = none ↔ keys = [] := by
  rw [List.getElem?_eq_none_iff]
  constructor
  · intro beyond
    have empty : keys.length = 0 := by
      rcases Nat.eq_zero_or_pos keys.length with empty | filled
      · exact empty
      · exact absurd (Nat.mod_lt choice filled) (Nat.not_lt.mpr beyond)
    exact List.length_eq_zero_iff.mp empty
  · rintro rfl
    exact Nat.zero_le _

end Copying

/-- The steps that a worker can take: where it stood, where it stands, and the table after. -/
inductive Worker.Moves (held : HeldTable) : Worker → Worker → HeldTable → Prop where
  /-- A recording waits for the snapshots to let go. -/
  | waits {attempt : Attempt} (isHeld : 0 < held.holders) :
      Moves held (.recorder attempt) (.recorder attempt) held
  | records {attempt : Attempt} {progress : Recording} {table : Table}
      (free : 0 < held.holders → attempt.progress ≠ .missed)
      (moves : attempt.progress.Moves attempt.key held.table progress table) :
      Moves held (.recorder attempt) (.recorder { attempt with progress }) { held with table }
  | takesHold :
      Moves held (.copier .begun) (.copier (.holding [])) { held with holders := held.holders + 1 }
  | copies {copied : List (UInt64 × UInt64)} {key : UInt64} (present : key ∈ held.table.counts)
      (uncopied : key ∉ copied.map Prod.fst) :
      Moves held (.copier (.holding copied))
        (.copier (.holding (copied ++ [(key, held.table.count key)]))) held
  | letsGo {copied : List (UInt64 × UInt64)}
      (complete : ∀ key ∈ held.table.counts, key ∈ copied.map Prod.fst) :
      Moves held (.copier (.holding copied)) (.copier (.ended (Snapshot.ofList copied)))
        { held with holders := held.holders - 1 }
  | stays {snapshot : Snapshot} :
      Moves held (.copier (.ended snapshot)) (.copier (.ended snapshot)) held

theorem Worker.advance_moves (turn : WorkTurn) (worker : Worker) (held : HeldTable) :
    worker.Moves held (worker.advance turn held).1 (worker.advance turn held).2 := by
  cases worker with
  | recorder attempt =>
      simp only [advance]
      split
      case isTrue waiting => exact .waits waiting.2
      case isFalse going =>
        exact .records (fun isHeld missed => going ⟨missed, isHeld⟩)
          (attempt.advance_moves held.table)
  | copier progress =>
      cases progress with
      | begun => exact .takesHold
      | holding copied =>
          simp only [advance, Copying.advance]
          split
          case h_1 key picked =>
            obtain ⟨present, uncopied⟩ := Copying.mem_remaining.mp (List.mem_of_getElem? picked)
            exact .copies present uncopied
          case h_2 unpicked =>
            refine .letsGo fun key present => ?_
            by_contra uncopied
            have left := Copying.mem_remaining.mpr ⟨present, uncopied⟩
            rw [Copying.getElem?_choice_eq_none_iff.mp unpicked] at left
            cases left
      | ended snapshot => exact .stays

/-- Whether a worker has counted its occurrence, which is one of the given key. -/
def Worker.hasCounted (key : UInt64) (worker : Worker) : Bool :=
  worker.attempt?.any fun attempt => attempt.key = key ∧ attempt.outcome? = some .counted

/-- Whether a worker holds the table. -/
def Worker.isHolding : Worker → Bool
  | .copier (.holding _) => true
  | _ => false

theorem Worker.hasCounted_recorder (own key : UInt64) (progress : Recording) :
    (Worker.recorder ⟨own, progress⟩).hasCounted key =
      decide (own = key ∧ progress = .ended .counted) := by
  show decide (own = key ∧ Attempt.outcome? ⟨own, progress⟩ = some .counted) = _
  simp only [Attempt.outcome?_eq_some_iff]

namespace Worker.Moves

variable {held later : HeldTable} {before after : Worker} {key : UInt64}

theorem grows (moves : before.Moves held after later) : held.table.GrowsTo later.table := by
  cases moves with
  | waits => exact .refl held.table
  | records _ moves => exact moves.grows
  | takesHold => exact .refl held.table
  | copies => exact .refl held.table
  | letsGo => exact .refl held.table
  | stays => exact .refl held.table

/-- While somebody holds the table, no entry is created. -/
theorem mem_iff_of_held (moves : before.Moves held after later) (isHeld : 0 < held.holders) :
    key ∈ later.table.counts ↔ key ∈ held.table.counts := by
  cases moves with
  | waits => rfl
  | @records attempt progress table free moves =>
      obtain ⟨own, stood⟩ := attempt
      have counting (present : own ∈ held.table.counts) (value : UInt64) :
          key ∈ (held.table.store own value).counts ↔ key ∈ held.table.counts := by
        rw [Table.mem_store, or_iff_right_of_imp fun same : key = own => same ▸ present]
      cases moves with
      | added present => exact counting present _
      | addedLate present => exact counting present _
      | created => exact absurd rfl (free isHeld)
      | missed => rfl
      | refused => rfl
      | forestalled => rfl
      | vanished => rfl
      | stays => rfl
  | takesHold => rfl
  | copies => rfl
  | letsGo => rfl
  | stays => rfl

/-- A counter gains one in the step that counts an occurrence of its key, and changes in no
other. -/
theorem count_add (moves : before.Moves held after later) (key : UInt64) :
    later.table.count key + UInt64.ofNat (before.hasCounted key).toNat =
      held.table.count key + UInt64.ofNat (after.hasCounted key).toNat := by
  cases moves with
  | @records attempt progress table free moves =>
      obtain ⟨own, stood⟩ := attempt
      rw [hasCounted_recorder, hasCounted_recorder]
      exact moves.count_add key
  | waits => rfl
  | takesHold => rfl
  | copies => rfl
  | letsGo => rfl
  | stays => rfl

/-- What has been counted stays counted. -/
theorem hasCounted (moves : before.Moves held after later) (counted : before.hasCounted key) :
    after.hasCounted key := by
  cases moves with
  | @records attempt progress table free moves =>
      obtain ⟨own, stood⟩ := attempt
      rw [hasCounted_recorder, decide_eq_true_eq] at counted ⊢
      obtain ⟨sameKey, rfl⟩ := counted
      cases moves
      exact ⟨sameKey, rfl⟩
  | waits => exact counted
  | takesHold => exact counted
  | copies => exact counted
  | letsGo => exact counted
  | stays => exact counted

/-- The number of holders moves with the worker that takes hold or lets go. -/
theorem holders_add (moves : before.Moves held after later)
    (known : before.isHolding → 0 < held.holders) :
    later.holders + before.isHolding.toNat = held.holders + after.isHolding.toNat := by
  cases moves with
  | letsGo => exact Nat.sub_add_cancel (known rfl)
  | waits => rfl
  | records => rfl
  | takesHold => rfl
  | copies => rfl
  | stays => rfl

end Worker.Moves

/-! ### Workers under a schedule -/

/-- The number of occurrences of a key that workers have counted. -/
def countedBy (key : UInt64) (workers : List Worker) : Nat :=
  countedUnder key (workers.filterMap Worker.attempt?)

theorem countedBy_eq_countP (key : UInt64) (workers : List Worker) :
    countedBy key workers = workers.countP (Worker.hasCounted key) := by
  rw [countedBy, countedUnder, List.countP_filterMap]
  refine List.countP_congr fun worker _ => ?_
  cases worker with
  | recorder attempt => rfl
  | copier progress => rfl

section

variable (tasks : List Task) (start : Table)

theorem workTogether_append (early late : List WorkTurn) :
    workTogether tasks (early ++ late) start =
      (workTogether tasks early start).run workingRules late :=
  Crowd.run_append _ early late

theorem workTogether_concat (schedule : List WorkTurn) (turn : WorkTurn) :
    workTogether tasks (schedule ++ [turn]) start =
      (workTogether tasks schedule start).turn workingRules turn :=
  Crowd.run_concat _ schedule

theorem workTogether_grows {early late : List WorkTurn} (sooner : early <+: late) :
    (workTogether tasks early start).shared.table.GrowsTo
      (workTogether tasks late start).shared.table := by
  obtain ⟨rest, rfl⟩ := sooner
  rw [workTogether_append]
  exact Crowd.shared_run workingRules (fun before after => before.table.GrowsTo after.table)
    (fun held => .refl held.table) Table.GrowsTo.trans
    (fun turn worker held => (worker.advance_moves turn held).grows) rest

/-- What has been counted at one time has been counted at any later time. -/
theorem countedBy_mono {early late : List WorkTurn} (sooner : early <+: late) (key : UInt64) :
    countedBy key (workTogether tasks early start).members ≤
      countedBy key (workTogether tasks late start).members := by
  obtain ⟨rest, rfl⟩ := sooner
  rw [countedBy_eq_countP, countedBy_eq_countP, workTogether_append]
  exact Crowd.countP_le_run workingRules (Worker.hasCounted key)
    (fun turn worker held => (worker.advance_moves turn held).hasCounted) rest

variable (schedule : List WorkTurn)

theorem begin_of_mem {worker : Worker} (member : worker ∈ tasks.map Task.begin) :
    (∃ key, worker = .recorder { key }) ∨ worker = .copier .begun := by
  obtain ⟨task, -, rfl⟩ := List.mem_map.mp member
  cases task with
  | record key => exact .inl ⟨key, rfl⟩
  | copy => exact .inr rfl

theorem count_workTogether (key : UInt64) :
    (workTogether tasks schedule start).shared.table.count key =
      start.count key + UInt64.ofNat
        (countedBy key (workTogether tasks schedule start).members) := by
  have upheld : Crowd.Upholds workingRules fun _ _ => True :=
    ⟨fun _ _ _ _ => trivial, fun _ _ _ _ _ => trivial⟩
  rw [countedBy_eq_countP]
  refine upheld.balance_run (fun held => held.table.count key) (Worker.hasCounted key)
    (fun turn worker held _ => (worker.advance_moves turn held).count_add key) schedule ?_
  intro worker member
  rcases begin_of_mem tasks member with ⟨own, rfl⟩ | rfl
  · simp [Worker.hasCounted_recorder]
  · exact ⟨trivial, Bool.false_ne_true⟩

/-- A table is held by the snapshots that are in progress, and by nobody else. -/
theorem holders_workTogether :
    (workTogether tasks schedule start).shared.holders =
      (workTogether tasks schedule start).members.countP Worker.isHolding := by
  refine Crowd.run_preserves workingRules
    (fun crowd : Crowd HeldTable Worker =>
      crowd.shared.holders = crowd.members.countP Worker.isHolding) ?_ schedule ?_
  · intro turn crowd worker found balanced
    have known : worker.isHolding → 0 < crowd.shared.holders := fun holding => by
      rw [balanced]
      exact List.countP_pos_iff.mpr ⟨worker, List.mem_of_getElem? found, holding⟩
    have moved := (worker.advance_moves turn crowd.shared).holders_add known
    have counted := Crowd.countP_set_add Worker.isHolding found (worker.advance turn crowd.shared).1
    rw [balanced, ← counted] at moved
    exact Nat.add_right_cancel moved
  · refine (List.countP_eq_zero.mpr fun worker member => ?_).symm
    rcases begin_of_mem tasks member with ⟨own, rfl⟩ | rfl
    · exact Bool.false_ne_true
    · exact Bool.false_ne_true

end

/-! ### One snapshot -/

/-- Where a snapshot came from that has just taken a step. -/
theorem Worker.Moves.copier_cases {held later : HeldTable} {before : Worker} {progress : Copying}
    (moves : before.Moves held (.copier progress) later) :
    (before = .copier .begun ∧ progress = .holding []) ∨
    (∃ copied key, before = .copier (.holding copied) ∧ key ∉ copied.map Prod.fst ∧
      key ∈ held.table.counts ∧ progress = .holding (copied ++ [(key, held.table.count key)])) ∨
    (∃ copied, before = .copier (.holding copied) ∧
      (∀ key ∈ held.table.counts, key ∈ copied.map Prod.fst) ∧
      progress = .ended (Snapshot.ofList copied)) ∨
    ∃ snapshot, before = .copier (.ended snapshot) ∧ progress = .ended snapshot := by
  cases moves with
  | takesHold => exact .inl ⟨rfl, rfl⟩
  | copies present uncopied => exact .inr (.inl ⟨_, _, rfl, uncopied, present, rfl⟩)
  | letsGo complete => exact .inr (.inr (.inl ⟨_, rfl, complete, rfl⟩))
  | stays => exact .inr (.inr (.inr ⟨_, rfl, rfl⟩))

/-- What a snapshot in progress has copied: entries of the table, and none of them twice. -/
def Worker.HasCopied (held : HeldTable) : Worker → Prop
  | .copier (.holding copied) =>
      (copied.map Prod.fst).Nodup ∧ ∀ key ∈ copied.map Prod.fst, key ∈ held.table.counts
  | _ => True

/-- The number of steps that a snapshot in progress has taken. -/
def Copying.steps? : Copying → Option Nat
  | .begun => some 0
  | .holding copied => some (copied.length + 1)
  | .ended _ => none

theorem workingRules_uphold : Crowd.Upholds workingRules Worker.HasCopied where
  own := fun turn worker held known => by
    have moves := worker.advance_moves turn held
    show ((worker.advance turn held).1).HasCopied (worker.advance turn held).2
    revert moves
    generalize (worker.advance turn held).1 = after
    generalize (worker.advance turn held).2 = later
    intro moves
    cases moves with
    | @copies copied key present uncopied =>
        obtain ⟨distinct, included⟩ := known
        rw [Worker.HasCopied, List.map_append, List.map_singleton]
        refine ⟨List.nodup_append.mpr ⟨distinct, List.nodup_singleton key, ?_⟩, ?_⟩
        · intro other member last isLast same
          rw [same, List.mem_singleton.mp isLast] at member
          exact uncopied member
        · intro other member
          rcases List.mem_append.mp member with old | new
          · exact included other old
          · exact List.mem_singleton.mp new ▸ present
    | takesHold => exact ⟨List.nodup_nil, fun _ member => nomatch member⟩
    | waits => trivial
    | records => trivial
    | letsGo => trivial
    | stays => trivial
  others := fun turn worker held bystander known => by
    have keeps := (worker.advance_moves turn held).grows.keeps
    cases bystander with
    | recorder attempt => trivial
    | copier progress =>
        cases progress with
        | holding copied => exact ⟨known.1, fun key member => keeps key (known.2 key member)⟩
        | begun => trivial
        | ended snapshot => trivial

/-- A table has at least as many entries as distinct keys are found in it. -/
theorem Table.length_le_size {table : Table} {keys : List UInt64} (distinct : keys.Nodup)
    (included : ∀ key ∈ keys, key ∈ table.counts) : keys.length ≤ table.counts.size := by
  rw [← Std.TreeMap.length_keys]
  exact (List.subperm_of_subset distinct fun key member =>
    Std.TreeMap.mem_keys.mpr (included key member)).length_le

section

variable {tasks : List Task} {start : Table} {schedule : List WorkTurn} {number : Nat}

theorem hasCopied_workTogether : ∀ worker ∈ (workTogether tasks schedule start).members,
    worker.HasCopied (workTogether tasks schedule start).shared := by
  refine workingRules_uphold.forall_members_run schedule fun worker member => ?_
  rcases begin_of_mem tasks member with ⟨own, rfl⟩ | rfl
  · trivial
  · trivial

/-- The member of a number after one more turn. -/
theorem getElem?_workTogether_concat (turn : WorkTurn) (number : Nat) :
    (workTogether tasks (schedule ++ [turn]) start).members[number]? =
      if turn.worker = number then
        (workTogether tasks schedule start).members[number]?.map fun worker =>
          (worker.advance turn (workTogether tasks schedule start).shared).1
      else (workTogether tasks schedule start).members[number]? := by
  rw [workTogether_concat]
  exact Crowd.getElem?_members_turn workingRules _ turn number

/-- A snapshot in progress has taken a step in each of its turns. -/
theorem steps_of_found {progress : Copying} {steps : Nat}
    (found : (workTogether tasks schedule start).members[number]? = some (.copier progress))
    (taken : progress.steps? = some steps) :
    schedule.countP (fun turn => turn.worker = number) = steps := by
  induction schedule using List.reverseRecOn generalizing progress steps with
  | nil =>
      have begun := begin_of_mem tasks (List.mem_of_getElem? found)
      rcases begun with ⟨own, isRecorder⟩ | isBegun
      · cases isRecorder
      · cases isBegun
        cases taken
        rfl
  | append_singleton schedule turn inductionHypothesis =>
      rw [getElem?_workTogether_concat] at found
      rw [List.countP_append, List.countP_singleton]
      split at found
      case isFalse other =>
        rw [inductionHypothesis found taken, if_neg (by simpa using other), Nat.add_zero]
      case isTrue own =>
        obtain ⟨worker, foundBefore, moved⟩ := Option.map_eq_some_iff.mp found
        have moves := worker.advance_moves turn (workTogether tasks schedule start).shared
        rw [moved] at moves
        rw [if_pos (by simpa using own)]
        rcases moves.copier_cases with ⟨rfl, rfl⟩ | ⟨copied, key, rfl, -, -, rfl⟩ |
          ⟨copied, rfl, -, rfl⟩ | ⟨snapshot, rfl, rfl⟩
        · cases taken
          rw [inductionHypothesis foundBefore rfl, List.length_nil]
        · cases taken
          rw [inductionHypothesis foundBefore rfl, List.length_append, List.length_singleton]
        · cases taken
        · cases taken

/-- The steps of a snapshot leave the table as it is. -/
theorem table_advance_copier (turn : WorkTurn) (progress : Copying) (held : HeldTable) :
    ((Worker.copier progress).advance turn held).2.table = held.table := by
  cases progress with
  | begun => rfl
  | holding copied =>
      simp only [Worker.advance, Copying.advance]
      split
      · rfl
      · rfl
  | ended snapshot => rfl

theorem holders_pos_of_holding {copied : List (UInt64 × UInt64)}
    (found : (workTogether tasks schedule start).members[number]? =
      some (.copier (.holding copied))) :
    0 < (workTogether tasks schedule start).shared.holders := by
  rw [holders_workTogether]
  exact List.countP_pos_iff.mpr ⟨_, List.mem_of_getElem? found, rfl⟩

end

section

variable (tasks : List Task) (start : Table)

/-- What a snapshot has copied between two points of a schedule: since the earlier one no entry has
been created, and each value was counted at some time in between. -/
structure CopiedBetween (opening now : List WorkTurn) (copied : List (UInt64 × UInt64)) :
    Prop where
  sameKeys : ∀ key, key ∈ (workTogether tasks now start).shared.table.counts ↔
    key ∈ (workTogether tasks opening start).shared.table.counts
  values : ∀ key value, (key, value) ∈ copied → ∃ count,
    countedBy key (workTogether tasks opening start).members ≤ count ∧
    count ≤ countedBy key (workTogether tasks now start).members ∧
    value = start.count key + UInt64.ofNat count

variable {tasks start} {number : Nat} {opening : List WorkTurn} {first : WorkTurn}

theorem CopiedBetween.concat {now : List WorkTurn} {copied : List (UInt64 × UInt64)}
    (between : CopiedBetween tasks start opening now copied) (turn : WorkTurn)
    (isHeld : 0 < (workTogether tasks now start).shared.holders) :
    CopiedBetween tasks start opening (now ++ [turn]) copied where
  sameKeys := fun key => by
    rw [← between.sameKeys key, workTogether_concat]
    cases found : (workTogether tasks now start).members[turn.worker]? with
    | none => rw [Crowd.turn_of_none workingRules found]
    | some worker =>
        rw [Crowd.turn_of_some workingRules found]
        exact (worker.advance_moves turn _).mem_iff_of_held isHeld
  values := fun key value member => by
    obtain ⟨count, since, sofar, isValue⟩ := between.values key value member
    have later := countedBy_mono tasks start (List.prefix_append now [turn]) key
    exact ⟨count, since, Nat.le_trans sofar later, isValue⟩

theorem copiedBetween_of_holding (own : first.worker = number)
    (begun : (workTogether tasks opening start).members[number]? = some (.copier .begun))
    (during : List WorkTurn) {copied : List (UInt64 × UInt64)}
    (found : (workTogether tasks (opening ++ first :: during) start).members[number]? =
      some (.copier (.holding copied))) :
    CopiedBetween tasks start opening (opening ++ first :: during) copied := by
  induction during using List.reverseRecOn generalizing copied with
  | nil =>
      rw [getElem?_workTogether_concat, if_pos own, begun] at found
      cases found
      refine ⟨fun key => ?_, fun _ _ member => nomatch member⟩
      rw [workTogether_concat, Crowd.turn_of_some workingRules (own.symm ▸ begun)]
      rfl
  | append_singleton during turn inductionHypothesis =>
      rw [← List.cons_append, ← List.append_assoc] at found ⊢
      rw [getElem?_workTogether_concat] at found
      split at found
      case isFalse other =>
        exact (inductionHypothesis found).concat turn (holders_pos_of_holding found)
      case isTrue ownTurn =>
        obtain ⟨worker, foundBefore, moved⟩ := Option.map_eq_some_iff.mp found
        have moves := worker.advance_moves turn
          (workTogether tasks (opening ++ first :: during) start).shared
        rw [moved] at moves
        rcases moves.copier_cases with ⟨rfl, -⟩ | ⟨earlier, key, rfl, -, -, same⟩ |
          ⟨_, -, -, impossible⟩ | ⟨_, -, impossible⟩
        · -- The first turn has been a step already.
          have none := steps_of_found foundBefore rfl
          rw [List.countP_eq_zero] at none
          exact absurd (decide_eq_true own)
            (none first (List.mem_append_right opening List.mem_cons_self))
        · cases same
          have between := (inductionHypothesis foundBefore).concat turn
            (holders_pos_of_holding foundBefore)
          refine ⟨between.sameKeys, fun other value member => ?_⟩
          rcases List.mem_append.mp member with old | new
          · exact between.values other value old
          · cases List.mem_singleton.mp new
            refine ⟨_, countedBy_mono tasks start (List.prefix_append opening _) key,
              countedBy_mono tasks start (List.prefix_append _ [turn]) key,
              count_workTogether tasks start _ key⟩
        · cases impossible
        · cases impossible

variable (tasks start) in
/-- A snapshot is taken in a stretch of a schedule. The stretch begins with the turn in which it
takes hold of the table and ends with the one in which it lets go. -/
structure TakenBetween (number : Nat) (snapshot : Snapshot) (opening closing : List WorkTurn) :
    Prop where
  begun : (workTogether tasks opening start).members[number]? = some (.copier .begun)
  stretch : ∃ first during last, closing = opening ++ first :: during ++ [last] ∧
    first.worker = number ∧ last.worker = number ∧
    ∃ copied, (workTogether tasks (opening ++ first :: during) start).members[number]? =
      some (.copier (.holding copied))
  ended : (workTogether tasks closing start).members[number]? = some (.copier (.ended snapshot))

/-- A snapshot that is in progress at one point and has ended at a later one has let go of the table
in between. What it is then, it stays. -/
theorem exists_letting_go {point rest : List WorkTurn} {held : List (UInt64 × UInt64)}
    {snapshot : Snapshot}
    (holding : (workTogether tasks point start).members[number]? = some (.copier (.holding held)))
    (ended : (workTogether tasks (point ++ rest) start).members[number]? =
      some (.copier (.ended snapshot))) :
    ∃ during last, point ++ during ++ [last] <+: point ++ rest ∧ last.worker = number ∧
      (∃ copied, (workTogether tasks (point ++ during) start).members[number]? =
        some (.copier (.holding copied))) ∧
      (workTogether tasks (point ++ during ++ [last]) start).members[number]? =
        some (.copier (.ended snapshot)) := by
  have endedRun := ended
  rw [workTogether_append] at endedRun
  obtain ⟨during, last, later, closer, rfl, own, foundCloser, notYet, closed, moved⟩ :=
    Crowd.exists_turn_of_change workingRules
      (fun worker => ∃ snapshot, worker = .copier (.ended snapshot)) rest holding (by simp) endedRun
      ⟨snapshot, rfl⟩
  replace own : last.worker = number := own
  rw [← workTogether_append] at foundCloser moved
  have closing : (workTogether tasks (point ++ during ++ [last]) start).members[number]? =
      some (.copier (.ended closed)) := by
    rw [getElem?_workTogether_concat, if_pos own, foundCloser]
    exact congrArg some moved
  have split : point ++ (during ++ last :: later) = point ++ during ++ [last] ++ later := by simp
  have same : closed = snapshot := by
    rw [split, workTogether_append] at ended
    obtain ⟨final, foundFinal, rfl⟩ := Crowd.getElem?_run_of_kept workingRules
      (· = .copier (.ended closed)) (by rintro turn _ held rfl; rfl) later closing rfl
    rw [foundFinal] at ended
    simpa using ended
  have moves := closer.advance_moves last (workTogether tasks (point ++ during) start).shared
  replace moved : (closer.advance last (workTogether tasks (point ++ during) start).shared).1 =
    .copier (.ended closed) := moved
  rw [moved] at moves
  refine ⟨during, last, ⟨later, split.symm⟩, own, ?_, same ▸ closing⟩
  rcases moves.copier_cases with ⟨-, impossible⟩ | ⟨_, _, -, -, -, impossible⟩ |
    ⟨copied, rfl, -, -⟩ | ⟨_, rfl, -⟩
  · cases impossible
  · cases impossible
  · exact ⟨copied, foundCloser⟩
  · exact absurd ⟨_, rfl⟩ notYet

/-- A snapshot that has not begun at one point and has ended at a later one was taken between
them. -/
theorem exists_takenBetween {point rest : List WorkTurn} {snapshot : Snapshot}
    (begun : (workTogether tasks point start).members[number]? = some (.copier .begun))
    (ended : (workTogether tasks (point ++ rest) start).members[number]? =
      some (.copier (.ended snapshot))) :
    ∃ opening closing, point <+: opening ∧ closing <+: point ++ rest ∧
      TakenBetween tasks start number snapshot opening closing := by
  have endedRun := ended
  rw [workTogether_append] at endedRun
  obtain ⟨before, first, after, opener, rfl, own, foundOpener, isBegun, -⟩ :=
    Crowd.exists_turn_of_change workingRules (· ≠ .copier .begun) rest begun (by simp) endedRun
      (by simp)
  replace own : first.worker = number := own
  obtain rfl := not_not.mp isBegun
  rw [← workTogether_append] at foundOpener
  have holding : (workTogether tasks (point ++ before ++ [first]) start).members[number]? =
      some (.copier (.holding [])) := by
    rw [getElem?_workTogether_concat, if_pos own, foundOpener]
    rfl
  have split : point ++ (before ++ first :: after) = point ++ before ++ [first] ++ after := by simp
  rw [split] at ended ⊢
  obtain ⟨during, last, within, ownLast, ⟨copied, foundCloser⟩, closing⟩ :=
    exists_letting_go holding ended
  rw [← List.append_cons] at foundCloser closing within
  refine ⟨point ++ before, _, List.prefix_append point before, within, foundOpener, ?_, closing⟩
  exact ⟨first, during, last, rfl, own, ownLast, copied, foundCloser⟩

theorem TakenBetween.opening_prefix {snapshot : Snapshot} {closing : List WorkTurn}
    (taken : TakenBetween tasks start number snapshot opening closing) : opening <+: closing := by
  obtain ⟨first, during, last, rfl, -⟩ := taken.stretch
  rw [List.append_assoc]
  exact List.prefix_append opening _

/-- What a snapshot shows: the entries from its beginning, each with a value that was counted
between its beginning and its end. -/
theorem TakenBetween.shows {snapshot : Snapshot} {closing : List WorkTurn}
    (taken : TakenBetween tasks start number snapshot opening closing) :
    (∀ key, key ∈ snapshot.counts ↔
      key ∈ (workTogether tasks opening start).shared.table.counts) ∧
    ∀ key value, (key, value) ∈ snapshot.toList → ∃ count,
      countedBy key (workTogether tasks opening start).members ≤ count ∧
      count ≤ countedBy key (workTogether tasks closing start).members ∧
      value = start.count key + UInt64.ofNat count := by
  obtain ⟨begun, ⟨first, during, last, rfl, own, ownLast, copied, holding⟩, ended⟩ := taken
  have between := copiedBetween_of_holding own begun during holding
  obtain ⟨distinct, included⟩ := hasCopied_workTogether _ (List.mem_of_getElem? holding)
  -- The last turn is the step that finds nothing left to copy.
  rw [getElem?_workTogether_concat, if_pos ownLast, holding, Option.map_some,
    Option.some.injEq] at ended
  have moves := Worker.advance_moves last (.copier (.holding copied))
    (workTogether tasks (opening ++ first :: during) start).shared
  rw [ended] at moves
  rcases moves.copier_cases with ⟨_, impossible⟩ | ⟨_, _, -, -, -, impossible⟩ |
    ⟨_, same, complete, isSnapshot⟩ | ⟨_, impossible, -⟩
  · cases impossible
  · cases impossible
  · cases same
    cases isSnapshot
    constructor
    · intro key
      rw [Snapshot.mem_ofList distinct, ← between.sameKeys key]
      exact ⟨included key, complete key⟩
    · intro key value member
      exact (between.concat last (holders_pos_of_holding holding)).values key value
        ((Snapshot.mem_toList_ofList distinct).mp member)
  · cases impossible

end

/-! ### Ends of snapshots -/

/-- No table outgrows both its capacity and what it started with. -/
theorem Table.GrowsTo.size_le {before after : Table} (grown : before.GrowsTo after) :
    after.counts.size ≤ max before.capacity before.counts.size := by
  rcases Nat.le_total before.counts.size before.capacity with fitting | full
  · rw [Nat.max_eq_left fitting, ← grown.capacity]
    exact grown.fits fitting
  · rw [Nat.max_eq_right full, ← Std.TreeMap.length_keys]
    refine Table.length_le_size ?_ fun key member =>
      (grown.staysFull full).2 key (Std.TreeMap.mem_keys.mp member)
    exact Std.TreeMap.distinct_keys.imp fun differs same =>
      differs (Std.LawfulEqCmp.compare_eq_iff_eq.mpr same)

section

variable {tasks : List Task} {start : Table} {schedule : List WorkTurn} {number : Nat}

theorem exists_copier (start : Table) (schedule : List WorkTurn)
    (isCopy : tasks[number]? = some .copy) :
    ∃ progress, (workTogether tasks schedule start).members[number]? =
      some (.copier progress) := by
  have begun : (workTogether tasks [] start).members[number]? = some (.copier .begun) := by
    show (tasks.map Task.begin)[number]? = _
    rw [List.getElem?_map, isCopy]
    rfl
  obtain ⟨worker, found, progress, rfl⟩ := Crowd.getElem?_run_of_kept workingRules
    (fun worker => ∃ progress, worker = .copier progress)
    (by rintro turn _ held ⟨progress, rfl⟩; exact ⟨_, rfl⟩) schedule begun ⟨_, rfl⟩
  exact ⟨progress, found⟩

theorem begun_of_found {progress : Copying}
    (found : (workTogether tasks schedule start).members[number]? = some (.copier progress)) :
    (workTogether tasks [] start).members[number]? = some (.copier .begun) := by
  obtain ⟨first, foundFirst⟩ := Crowd.exists_member_of_run workingRules found
  rcases begin_of_mem tasks (List.mem_of_getElem? foundFirst) with ⟨own, rfl⟩ | rfl
  · have staysRecorder : ∀ turn worker held, (∃ attempt, worker = Worker.recorder attempt) →
        ∃ attempt, (workingRules.advance turn worker held).1 = .recorder attempt := by
      rintro turn _ held ⟨attempt, rfl⟩
      simp only [workingRules, Worker.advance]
      split
      · exact ⟨_, rfl⟩
      · exact ⟨_, rfl⟩
    obtain ⟨last, foundLast, attempt, rfl⟩ := Crowd.getElem?_run_of_kept workingRules
      (fun worker => ∃ attempt, worker = .recorder attempt) staysRecorder schedule foundFirst
      ⟨_, rfl⟩
    cases found.symm.trans foundLast
  · exact foundFirst

/-- A snapshot ends after two turns of its own more than there can be entries. -/
theorem exists_ended_of_turns (isCopy : tasks[number]? = some .copy)
    (turns : max start.capacity start.counts.size + 2 ≤
      schedule.countP fun turn => turn.worker = number) :
    ∃ snapshot, (workTogether tasks schedule start).members[number]? =
      some (.copier (.ended snapshot)) := by
  obtain ⟨progress, found⟩ := exists_copier start schedule isCopy
  cases progress with
  | begun =>
      rw [steps_of_found found rfl] at turns
      omega
  | holding copied =>
      rw [steps_of_found found rfl] at turns
      obtain ⟨distinct, included⟩ := hasCopied_workTogether _ (List.mem_of_getElem? found)
      have few := Table.length_le_size distinct included
      have bounded := (workTogether_grows tasks start (List.nil_prefix (l := schedule))).size_le
      rw [List.length_map] at few
      change _ ≤ max start.capacity start.counts.size at bounded
      omega
  | ended snapshot => exact ⟨snapshot, found⟩

/-- A snapshot that nobody disturbs leaves the table as it is. -/
theorem workTogether_copy (start : Table) (schedule : List WorkTurn) :
    (workTogether [.copy] schedule start).shared.table = start ∧
      ∃ progress, (workTogether [.copy] schedule start).members = [.copier progress] := by
  refine Crowd.run_preserves workingRules
    (fun crowd : Crowd HeldTable Worker =>
      crowd.shared.table = start ∧ ∃ progress, crowd.members = [.copier progress]) ?_ schedule
    ⟨rfl, _, rfl⟩
  rintro turn crowd worker found ⟨same, progress, members⟩
  rw [members] at found ⊢
  obtain rfl : worker = .copier progress := List.mem_singleton.mp (List.mem_of_getElem? found)
  obtain ⟨below, -⟩ := List.getElem?_eq_some_iff.mp found
  obtain isFirst : workingRules.who turn = 0 := Nat.lt_one_iff.mp below
  exact ⟨(table_advance_copier turn progress crowd.shared).trans same, _, by rw [isFirst]; rfl⟩

/-- A snapshot that nobody disturbs is the copy of the table, in whatever order the entries are
copied. -/
theorem copy_alone (turns : max start.capacity start.counts.size + 2 ≤
      schedule.countP fun turn => turn.worker = 0) :
    ∃ snapshot, (workTogether [.copy] schedule start).members = [.copier (.ended snapshot)] ∧
      snapshot.toList = start.snapshot.toList := by
  have isCopy : ([.copy] : List Task)[0]? = some .copy := rfl
  obtain ⟨snapshot, found⟩ := exists_ended_of_turns isCopy turns
  obtain ⟨-, progress, members⟩ := workTogether_copy start schedule
  refine ⟨snapshot, ?_, ?_⟩
  · rw [members] at found ⊢
    exact congrArg ([·]) (Option.some.inj found)
  obtain ⟨opening, closing, -, -, taken⟩ :=
    exists_takenBetween (begun_of_found found) (List.nil_append schedule ▸ found)
  obtain ⟨sameKeys, values⟩ := taken.shows
  rw [(workTogether_copy start opening).1] at sameKeys
  obtain ⟨-, last, lastMembers⟩ := workTogether_copy start closing
  -- Without recordings each value is the counter at the start.
  have value_eq {key value : UInt64} (member : (key, value) ∈ snapshot.toList) :
      value = start.count key := by
    obtain ⟨count, -, sofar, rfl⟩ := values key value member
    rw [lastMembers] at sofar
    rw [Nat.le_zero.mp sofar]
    exact UInt64.add_zero _
  have same : Std.TreeMap.Equiv snapshot.counts start.counts := by
    refine Std.TreeMap.Equiv.of_forall_constGet?_eq fun key => ?_
    by_cases present : key ∈ start.counts
    · obtain ⟨value, member⟩ := Snapshot.mem_counts_iff.mp ((sameKeys key).mpr present)
      have held : snapshot.counts[key]? = some value :=
        Std.TreeMap.mem_toList_iff_getElem?_eq_some.mp member
      rw [held, value_eq member]
      exact (Std.TreeMap.getElem?_eq_some_getD present).symm
    · rw [Std.TreeMap.getElem?_eq_none present,
        Std.TreeMap.getElem?_eq_none (mt (sameKeys key).mp present)]
  exact same.toList_eq

theorem add_ofNat_le_add_ofNat {base : UInt64} {fewer more : Nat} (le : fewer ≤ more)
    (unwrapped : base.toNat + more < UInt64.size) :
    base + UInt64.ofNat fewer ≤ base + UInt64.ofNat more := by
  rw [UInt64.le_iff_toNat_le, UInt64.toNat_add, UInt64.toNat_add, UInt64.toNat_ofNat',
    UInt64.toNat_ofNat', Nat.add_mod_mod, Nat.add_mod_mod]
  have size : UInt64.size = 2 ^ 64 := rfl
  rw [Nat.mod_eq_of_lt (by omega), Nat.mod_eq_of_lt (by omega)]
  exact Nat.add_le_add_left le _

end

section

variable (tasks : List Task) (schedule : List WorkTurn) (start : Table)

/-- A snapshot that is taken while occurrences are recorded is consistent, as long as no counter
wraps. It has just the entries that the table had when it took hold of it, and each value lies
between the counters at its beginning and at its end. A snapshot that begins after another one has
ended has all entries of the earlier one, with values that are no less. Every snapshot ends when it
gets its turns. -/
theorem snapshots_are_consistent
    (unwrapped : ∀ key, (start.count key).toNat +
      countedBy key (workTogether tasks schedule start).members < UInt64.size) :
    (∀ number snapshot, (workTogether tasks schedule start).members[number]? =
        some (.copier (.ended snapshot)) →
      ∃ opening closing, closing <+: schedule ∧
        TakenBetween tasks start number snapshot opening closing ∧
        (∀ key, key ∈ snapshot.counts ↔
          key ∈ (workTogether tasks opening start).shared.table.counts) ∧
        ∀ key value, (key, value) ∈ snapshot.toList →
          (workTogether tasks opening start).shared.table.count key ≤ value ∧
          value ≤ (workTogether tasks closing start).shared.table.count key) ∧
    (∀ (point : List WorkTurn) (number other : Nat) (earlier later : Snapshot),
      point <+: schedule →
      (workTogether tasks point start).members[number]? = some (.copier (.ended earlier)) →
      (workTogether tasks point start).members[other]? = some (.copier .begun) →
      (workTogether tasks schedule start).members[other]? = some (.copier (.ended later)) →
      ∀ key value, (key, value) ∈ earlier.toList →
        ∃ grown, (key, grown) ∈ later.toList ∧ value ≤ grown) ∧
    (∀ number, tasks[number]? = some .copy →
      max start.capacity start.counts.size + 2 ≤
        schedule.countP (fun turn => turn.worker = number) →
      ∃ snapshot, (workTogether tasks schedule start).members[number]? =
        some (.copier (.ended snapshot))) := by
  have unwrappedAt {point : List WorkTurn} (sooner : point <+: schedule) (key : UInt64) :
      (start.count key).toNat + countedBy key (workTogether tasks point start).members <
        UInt64.size :=
    Nat.lt_of_le_of_lt (Nat.add_le_add_left (countedBy_mono tasks start sooner key) _)
      (unwrapped key)
  refine ⟨?_, ?_, fun number isCopy turns => exists_ended_of_turns isCopy turns⟩
  · intro number snapshot found
    obtain ⟨opening, closing, -, within, taken⟩ :=
      exists_takenBetween (begun_of_found found) (List.nil_append schedule ▸ found)
    rw [List.nil_append] at within
    have earlier : opening <+: schedule := taken.opening_prefix.trans within
    refine ⟨opening, closing, within, taken, taken.shows.1, fun key value member => ?_⟩
    obtain ⟨count, since, sofar, rfl⟩ := taken.shows.2 key value member
    have unwrappedThen := unwrappedAt within key
    rw [count_workTogether, count_workTogether]
    exact ⟨add_ofNat_le_add_ofNat since (by omega), add_ofNat_le_add_ofNat sofar unwrappedThen⟩
  · intro point number other earlier later sooner foundEarlier begun foundLater key value member
    obtain ⟨rest, rfl⟩ := sooner
    obtain ⟨opening, closing, -, within, taken⟩ :=
      exists_takenBetween (begun_of_found foundEarlier) (List.nil_append point ▸ foundEarlier)
    obtain ⟨openingLater, closingLater, after, withinLater, takenLater⟩ :=
      exists_takenBetween begun foundLater
    rw [List.nil_append] at within
    -- What the earlier snapshot shows was there at its beginning, and so at that of the later one.
    have present : key ∈ later.counts := by
      rw [takenLater.shows.1 key]
      refine (workTogether_grows tasks start ?_).keeps key
        ((taken.shows.1 key).mp (Snapshot.mem_counts_iff.mpr ⟨value, member⟩))
      exact taken.opening_prefix.trans (within.trans after)
    obtain ⟨grown, memberLater⟩ := Snapshot.mem_counts_iff.mp present
    refine ⟨grown, memberLater, ?_⟩
    obtain ⟨count, -, sofar, rfl⟩ := taken.shows.2 key value member
    obtain ⟨countLater, since, sofarLater, rfl⟩ := takenLater.shows.2 key grown memberLater
    have between := countedBy_mono tasks start (within.trans after) key
    have unwrappedThen := unwrappedAt withinLater key
    exact add_ofNat_le_add_ofNat (by omega) (by omega)

end

/-- A table of two users. -/
def heldTable : Table := ((Table.empty 4).store 5 3).store 9 1

/-- A snapshot among occurrences of an old and of a new user, and a snapshot after it. -/
def busyTasks : List Task := [.copy, .record 5, .record 7, .record 5, .copy]

/-- The first snapshot takes hold, copies an entry after it has grown and another before it grows,
and keeps the new user waiting. -/
def busySchedule : List WorkTurn :=
  [⟨0, 0⟩, ⟨2, 0⟩, ⟨2, 0⟩, ⟨1, 0⟩, ⟨0, 0⟩, ⟨3, 0⟩, ⟨0, 0⟩, ⟨0, 0⟩, ⟨2, 0⟩, ⟨4, 0⟩, ⟨4, 2⟩, ⟨4, 2⟩,
    ⟨4, 2⟩, ⟨4, 2⟩]

/-- The new user is missing from the snapshot that it waits for, and the old one is not less in the
next. -/
theorem snapshots_are_consistent_busy :
    (∀ key, (heldTable.count key).toNat +
      countedBy key (workTogether busyTasks busySchedule heldTable).members < UInt64.size) ∧
    ∃ earlier later,
      (workTogether busyTasks busySchedule heldTable).members[0]? =
        some (.copier (.ended earlier)) ∧
      (workTogether busyTasks busySchedule heldTable).members[4]? =
        some (.copier (.ended later)) ∧
      earlier.toList = [(5, 4), (9, 1)] ∧ ∃ grown, (5, grown) ∈ later.toList ∧ 4 ≤ grown := by
  have unwrapped : ∀ key, (heldTable.count key).toNat +
      countedBy key (workTogether busyTasks busySchedule heldTable).members < UInt64.size := by
    intro key
    have few : countedBy key (workTogether busyTasks busySchedule heldTable).members ≤ 5 := by
      rw [countedBy_eq_countP]
      exact List.countP_le_length
    have small : (heldTable.count key).toNat ≤ 3 := by
      rw [heldTable, Table.count_store, Table.count_store]
      split
      · decide
      split
      · decide
      · exact Nat.zero_le 3
    have size : UInt64.size = 18446744073709551616 := rfl
    omega
  obtain ⟨-, grows, -⟩ := snapshots_are_consistent busyTasks busySchedule heldTable unwrapped
  -- After nine turns the first snapshot has ended and the second has not begun.
  obtain ⟨earlier, foundThen, foundEarlier, isEarlier⟩ : ∃ earlier,
      (workTogether busyTasks (busySchedule.take 9) heldTable).members[0]? =
        some (.copier (.ended earlier)) ∧
      (workTogether busyTasks busySchedule heldTable).members[0]? =
        some (.copier (.ended earlier)) ∧ earlier.toList = [(5, 4), (9, 1)] :=
    ⟨_, rfl, rfl, by decide⟩
  obtain ⟨later, foundLater⟩ : ∃ later,
      (workTogether busyTasks busySchedule heldTable).members[4]? =
        some (.copier (.ended later)) := ⟨_, rfl⟩
  refine ⟨unwrapped, earlier, later, foundEarlier, foundLater, isEarlier, ?_⟩
  exact grows (busySchedule.take 9) 0 4 earlier later (List.take_prefix 9 _) foundThen rfl
    foundLater 5 4 (isEarlier ▸ List.mem_cons_self)

end SyscallTally.Counter
