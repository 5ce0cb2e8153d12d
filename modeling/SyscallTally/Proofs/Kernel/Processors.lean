import SyscallTally.Kernel.Processors
import SyscallTally.Proofs.Counter.Crowd

/-!
Owns what the counting program does on any number of processors: under every schedule, and whatever
entries the kernel refuses, the counters gain exactly the runs that returned zero
(`counters_gain_successful_runs`). One run by itself is `Kernel.run` (`countTogether_alone`).

A run that holds a pointer, or was told of an entry, relies on that entry staying. Nothing else about
the other processors matters, since adding to a counter takes one step.
-/

set_option autoImplicit false

namespace SyscallTally.Kernel

open SyscallTally.Counter SyscallTally.Probe

/-! ### The kernel's operations on a table -/

variable {turn : Turn} {key value : UInt64} {table : Table}

theorem lookup_eq_true_iff : lookup key table = true ↔ key ∈ table.counts :=
  Std.TreeMap.contains_iff_mem

theorem fetchAdd_of_mem (present : key ∈ table.counts) :
    fetchAdd key table = table.store key (table.count key + 1) := by
  rw [fetchAdd, Table.increment_of_mem present]

/-- An entry is reported, also where the kernel would refuse a new one. -/
theorem Turn.insert_of_mem (present : key ∈ table.counts) :
    turn.insert key value table = (existsCode, table) := by
  unfold Turn.insert
  cases turn.refusal with
  | none => simp only [insertNoExist, Table.insertNew_of_mem present]
  | some refusal => exact if_pos (lookup_eq_true_iff.mpr present)

/-- A new entry is either created or refused with a code that tells a refusal. -/
theorem Turn.insert_of_not_mem (turn : Turn) (value : UInt64) (absent : key ∉ table.counts) :
    turn.insert key value table = (0, table.store key value) ∨
      ∃ refusal : RefusalCode, turn.insert key value table = (refusal.code, table) := by
  unfold Turn.insert
  cases turn.refusal with
  | some refusal => exact .inr ⟨refusal, if_neg (mt lookup_eq_true_iff.mp absent)⟩
  | none =>
      rcases Nat.lt_or_ge table.counts.size table.capacity with room | full
      · exact .inl (by simp only [insertNoExist, Table.insertNew_of_room absent room])
      · exact .inr ⟨⟨fullCode, by decide, by decide⟩,
          by simp only [insertNoExist, Table.insertNew_of_full absent full]⟩

@[simp] theorem insertionOfCode_zero : insertionOfCode 0 = .inserted := rfl

@[simp] theorem insertionOfCode_existsCode : insertionOfCode existsCode = .present := rfl

@[simp] theorem insertionOfCode_refusal (refusal : RefusalCode) :
    insertionOfCode refusal.code = .rejected refusal.code := by
  unfold insertionOfCode
  rw [if_neg (Int.ne_of_lt refusal.negative), if_neg refusal.notExists]

/-! ### The steps of a run -/

/-- The steps that a run with a key can take in a turn: where it stood, where it stands, and the
table after. -/
inductive Stage.Moves (turn : Turn) (key : UInt64) (table : Table) :
    Stage → Stage → Table → Prop where
  | found (present : key ∈ table.counts) : Moves turn key table .begun .pointed table
  | missed (absent : key ∉ table.counts) : Moves turn key table .begun .missed table
  | added (present : key ∈ table.counts) :
      Moves turn key table .pointed (.ended .counted) (table.store key (table.count key + 1))
  | dangled (absent : key ∉ table.counts) :
      Moves turn key table .pointed (.ended .counted) (fetchAdd key table)
  | created (absent : key ∉ table.counts) :
      Moves turn key table .missed (.ended .counted) (table.store key (table.count key + 1))
  | refused (refusal : RefusalCode) (answer : (turn.insert key 1 table).1 = refusal.code) :
      Moves turn key table .missed (.ended (.dropped refusal.code)) table
  | forestalled (present : key ∈ table.counts) : Moves turn key table .missed .forestalled table
  | foundLate (present : key ∈ table.counts) : Moves turn key table .forestalled .pointed table
  | vanished (absent : key ∉ table.counts) :
      Moves turn key table .forestalled (.ended (.dropped againCode)) table
  | stays (outcome : Outcome) : Moves turn key table (.ended outcome) (.ended outcome) table

theorem CountingRun.advance_moves (turn : Turn) (run : CountingRun) (table : Table) :
    Stage.Moves turn run.key table run.stage (run.advance turn table).1.stage
      (run.advance turn table).2 := by
  obtain ⟨credentials, stage⟩ := run
  have key : CountingRun.key ⟨credentials, stage⟩ = userKey credentials := rfl
  by_cases present : userKey credentials ∈ table.counts
  · have looked : lookup (userKey credentials) table = true := lookup_eq_true_iff.mpr present
    cases stage with
    | begun =>
        simp only [advance, key, looked, if_true]
        exact .found present
    | pointed =>
        simp only [advance, key, fetchAdd_of_mem present]
        exact .added present
    | missed =>
        simp only [advance, key, Turn.insert_of_mem present, insertionOfCode_existsCode]
        exact .forestalled present
    | forestalled =>
        simp only [advance, key, looked, if_true]
        exact .foundLate present
    | ended outcome => exact .stays outcome
  · have looked : lookup (userKey credentials) table = false :=
      Bool.eq_false_iff.mpr (mt lookup_eq_true_iff.mp present)
    cases stage with
    | begun =>
        simp only [advance, key, looked, Bool.false_eq_true, if_false]
        exact .missed present
    | pointed => exact .dangled present
    | missed =>
        rcases turn.insert_of_not_mem 1 present with created | ⟨refusal, refused⟩
        · simp only [advance, key, created, insertionOfCode_zero]
          -- A created entry starts at one, which is one more than the count of no entry.
          have moves : Stage.Moves turn (userKey credentials) table .missed (.ended .counted)
            (table.store (userKey credentials) (table.count (userKey credentials) + 1)) :=
            .created present
          rwa [Table.count_of_not_mem present, UInt64.zero_add] at moves
        · simp only [advance, key, refused, insertionOfCode_refusal]
          exact .refused refusal (congrArg Prod.fst refused)
    | forestalled =>
        simp only [advance, key, looked, Bool.false_eq_true, if_false]
        exact .vanished present
    | ended outcome => exact .stays outcome

@[simp] theorem CountingRun.credentials_advance (turn : Turn) (run : CountingRun) (table : Table) :
    (run.advance turn table).1.credentials = run.credentials := by
  obtain ⟨credentials, stage⟩ := run
  cases stage with
  | begun => simp only [advance]; split <;> rfl
  | pointed => rfl
  | missed => simp only [advance]; split <;> rfl
  | forestalled => simp only [advance]; split <;> rfl
  | ended outcome => rfl

theorem CountingRun.key_advance (turn : Turn) (run : CountingRun) (table : Table) :
    (run.advance turn table).1.key = run.key :=
  congrArg userKey (run.credentials_advance turn table)

/-- What a run relies on: the entry that it points to, or was told of, is there. -/
def Stage.Relies (key : UInt64) (table : Table) : Stage → Prop
  | .pointed => key ∈ table.counts
  | .forestalled => key ∈ table.counts
  | _ => True

namespace Stage.Moves

variable {later : Table} {before after : Stage}

theorem keeps (moves : Moves turn key table before after later) {other : UInt64}
    (present : other ∈ table.counts) : other ∈ later.counts := by
  cases moves with
  | added => exact Table.mem_store.mpr (.inr present)
  | created => exact Table.mem_store.mpr (.inr present)
  | dangled absent =>
      rw [fetchAdd, Table.increment_of_not_mem absent]
      exact present
  | found => exact present
  | missed => exact present
  | refused => exact present
  | forestalled => exact present
  | foundLate => exact present
  | vanished => exact present
  | stays => exact present

theorem relies (moves : Moves turn key table before after later)
    (known : before.Relies key table) : after.Relies key later := by
  cases moves with
  | found present => exact present
  | forestalled present => exact present
  | foundLate present => exact present
  | missed => trivial
  | added => trivial
  | dangled => trivial
  | created => trivial
  | refused => trivial
  | vanished => trivial
  | stays => exact known

/-- A step that does not count leaves the table as it was. -/
theorem table_eq (moves : Moves turn key table before after later)
    (uncounted : after ≠ .ended .counted) : later = table := by
  cases moves with
  | added => exact absurd rfl uncounted
  | dangled => exact absurd rfl uncounted
  | created => exact absurd rfl uncounted
  | found => rfl
  | missed => rfl
  | refused => rfl
  | forestalled => rfl
  | foundLate => rfl
  | vanished => rfl
  | stays => rfl

/-- The step that drops an occurrence is an insertion that the kernel refuses. It is never a second
look-up, since an entry that a run was told of does not vanish. -/
theorem refused_of_dropped {code : Int}
    (moves : Moves turn key table before (.ended (.dropped code)) later)
    (known : before.Relies key table) (notYet : before ≠ .ended (.dropped code)) :
    before = .missed ∧
      ∃ refusal : RefusalCode, (turn.insert key 1 table).1 = refusal.code ∧
        code = refusal.code := by
  cases moves with
  | refused refusal answer => exact ⟨rfl, refusal, answer, rfl⟩
  | vanished absent => exact absurd known absent
  | stays => exact absurd rfl notYet

/-- A counter gains one in the step that counts an occurrence of its key, and changes in no
other. -/
theorem count_add (moves : Moves turn key table before after later)
    (known : before.Relies key table) (other : UInt64) :
    later.count other + UInt64.ofNat (decide (key = other ∧ before = .ended .counted)).toNat =
      table.count other +
        UInt64.ofNat (decide (key = other ∧ after = .ended .counted)).toNat := by
  cases moves with
  | added => simp [Table.count_store_succ]
  | created => simp [Table.count_store_succ]
  | dangled absent => exact absurd known absent
  | found => simp
  | missed => simp
  | refused => simp
  | forestalled => simp
  | foundLate => simp
  | vanished => simp
  | stays => rfl

end Stage.Moves

/-! ### Runs under a schedule -/

namespace CountingRun

variable {run : CountingRun}

theorem done?_eq_some_iff {left : Run} :
    run.done? = some left ↔ ∃ outcome, run.stage = .ended outcome ∧ conclude run.key outcome = left := by
  unfold done?
  cases run.stage with
  | begun => simp
  | pointed => simp
  | missed => simp
  | forestalled => simp
  | ended reached => simp

/-- A run has returned zero exactly if its occurrence was counted. -/
theorem returned_zero_iff :
    run.done?.map Run.returned = some 0 ↔ run.stage = .ended .counted := by
  unfold done?
  cases run.stage with
  | begun => simp
  | pointed => simp
  | missed => simp
  | forestalled => simp
  | ended outcome =>
      cases outcome with
      | counted => simp [conclude]
      | dropped code => simp [conclude]

end CountingRun

/-- The number of runs for a key that have returned zero. -/
def successfulRuns (key : UInt64) (runs : List CountingRun) : Nat :=
  runs.countP fun run => run.key = key ∧ run.done?.map Run.returned = some 0

theorem countingRules_who : countingRules.who = Turn.run := rfl

theorem countingRules_advance : countingRules.advance = CountingRun.advance := rfl

theorem countingRules_uphold : Crowd.Upholds countingRules
    fun table run => run.stage.Relies run.key table where
  own := fun turn run table known => by
    have moves := run.advance_moves turn table
    rw [countingRules_advance, run.key_advance]
    exact moves.relies known
  others := fun turn run table bystander known => by
    have moves := run.advance_moves turn table
    cases stage : bystander.stage with
    | pointed =>
        rw [stage] at known
        exact moves.keeps known
    | forestalled =>
        rw [stage] at known
        exact moves.keeps known
    | begun => trivial
    | missed => trivial
    | ended outcome => trivial

section

variable (processes : List UInt64) (start : Table) (schedule : List Turn)

/-- The runs keep their processes and their order. -/
theorem credentials_countTogether :
    (countTogether processes schedule start).members.map CountingRun.credentials = processes := by
  rw [countTogether, Crowd.map_members_run countingRules CountingRun.credentials
    (fun turn run table => run.credentials_advance turn table) schedule, List.map_map]
  exact List.map_id processes

theorem relies_countTogether :
    ∀ run ∈ (countTogether processes schedule start).members,
      run.stage.Relies run.key (countTogether processes schedule start).shared := by
  refine countingRules_uphold.forall_members_run schedule ?_
  intro run member
  obtain ⟨credentials, -, rfl⟩ := List.mem_map.mp member
  trivial

theorem count_countTogether (key : UInt64) :
    (countTogether processes schedule start).shared.count key =
      start.count key +
        UInt64.ofNat (successfulRuns key (countTogether processes schedule start).members) := by
  refine countingRules_uphold.balance_run (Table.count key)
    (fun run => run.key = key ∧ run.done?.map Run.returned = some 0) ?_ schedule ?_
  · intro turn run table known
    simp only [CountingRun.returned_zero_iff, countingRules_advance, CountingRun.key_advance]
    exact (run.advance_moves turn table).count_add known key
  · intro run member
    obtain ⟨credentials, -, rfl⟩ := List.mem_map.mp member
    exact ⟨trivial, by simp [CountingRun.done?]⟩

theorem countTogether_concat (turn : Turn) :
    countTogether processes (schedule ++ [turn]) start =
      (countTogether processes schedule start).turn countingRules turn :=
  Crowd.run_concat _ schedule

theorem countTogether_append (early late : List Turn) :
    countTogether processes (early ++ late) start =
      (countTogether processes early start).run countingRules late :=
  Crowd.run_append _ early late

variable {processes start schedule}

/-- A run whose occurrence is not counted leaves the table as it is in each of its turns. -/
theorem shared_turn_of_uncounted {number : Nat} {run : CountingRun} {before after : List Turn}
    {turn : Turn} (split : schedule = before ++ turn :: after) (own : turn.run = number)
    (found : (countTogether processes schedule start).members[number]? = some run)
    (uncounted : run.stage ≠ .ended .counted) :
    (countTogether processes (before ++ [turn]) start).shared =
      (countTogether processes before start).shared := by
  rw [split, List.append_cons, countTogether_append] at found
  obtain ⟨moved, foundMoved⟩ := Crowd.exists_member_of_run _ found
  have movedUncounted : moved.stage ≠ .ended .counted := by
    intro counted
    -- A counted run stays counted to the end of the schedule.
    obtain ⟨last, foundLast, stillCounted⟩ := Crowd.getElem?_run_of_kept countingRules
      (fun run => run.stage = .ended .counted)
      (fun turn run table kept => by
        simp only [countingRules_advance, CountingRun.advance, kept])
      after foundMoved counted
    rw [found] at foundLast
    cases foundLast
    exact uncounted stillCounted
  rw [countTogether_concat] at foundMoved ⊢
  cases foundMover : (countTogether processes before start).members[turn.run]? with
  | none => rw [Crowd.turn_of_none countingRules foundMover]
  | some mover =>
      rw [← own, Crowd.getElem?_members_turn, countingRules_who, if_pos rfl, foundMover,
        Option.map_some, Option.some.injEq] at foundMoved
      rw [Crowd.turn_of_some countingRules foundMover]
      rw [← foundMoved] at movedUncounted
      exact (mover.advance_moves turn _).table_eq movedUncounted

/-- A run that is forestalled finds the entry when it looks again. -/
theorem pointed_of_forestalled {run : CountingRun}
    (member : run ∈ (countTogether processes schedule start).members)
    (forestalled : run.stage = .forestalled) (turn : Turn) :
    (run.advance turn (countTogether processes schedule start).shared).1.stage = .pointed := by
  have known := relies_countTogether processes start schedule run member
  rw [forestalled] at known
  have looked := lookup_eq_true_iff.mpr known
  simp only [CountingRun.advance, forestalled, looked, if_true]

/-- A run drops its occurrence in the turn in which the kernel refuses the new entry. -/
theorem exists_refusal_of_dropped {number : Nat} {run : CountingRun} {code : Int}
    (found : (countTogether processes schedule start).members[number]? = some run)
    (dropped : run.stage = .ended (.dropped code)) :
    ∃ before turn after, ∃ refusal : RefusalCode,
      schedule = before ++ turn :: after ∧ turn.run = number ∧
      (countTogether processes before start).members[number]? =
        some { run with stage := .missed } ∧
      (turn.insert run.key 1 (countTogether processes before start).shared).1 = refusal.code ∧
      code = refusal.code := by
  obtain ⟨first, foundFirst⟩ := Crowd.exists_member_of_run _ found
  have notYet : first.stage ≠ .ended (.dropped code) := by
    obtain ⟨credentials, -, rfl⟩ := List.mem_map.mp (List.mem_of_getElem? foundFirst)
    exact Stage.noConfusion
  obtain ⟨before, turn, after, mover, split, own, foundMover, moverNotYet, now⟩ :=
    Crowd.exists_turn_of_change countingRules (fun run => run.stage = .ended (.dropped code))
      schedule foundFirst notYet found dropped
  rw [← countTogether] at foundMover now
  have sameProcess : run.credentials = mover.credentials := by
    rw [split, countTogether_append] at found
    exact Crowd.trait_eq_of_run countingRules CountingRun.credentials
      (fun turn run table => run.credentials_advance turn table) foundMover found
  have sameKey : run.key = mover.key := congrArg userKey sameProcess
  have known := relies_countTogether processes start before mover
    (List.mem_of_getElem? foundMover)
  have moves := mover.advance_moves turn (countTogether processes before start).shared
  rw [countingRules_advance] at now
  rw [now] at moves
  obtain ⟨missed, refusal, answer, codeEq⟩ := moves.refused_of_dropped known moverNotYet
  refine ⟨before, turn, after, refusal, split, own, ?_, ?_, codeEq⟩
  · rw [foundMover, sameProcess, ← missed]
  · rw [sameKey, answer]

/-- The most steps that a run has before it. -/
def Stage.stepsLeft : Stage → Nat
  | .begun => 4
  | .missed => 3
  | .forestalled => 2
  | .pointed => 1
  | .ended _ => 0

theorem Stage.Moves.stepsLeft_le {turn : Turn} {key : UInt64} {table later : Table}
    {before after : Stage} (moves : Stage.Moves turn key table before after later) :
    after.stepsLeft ≤ before.stepsLeft - 1 := by
  cases moves <;> simp [stepsLeft]

/-- Whatever the others do and the kernel refuses, four turns end a run. -/
theorem done_of_four_turns {number : Nat} {run : CountingRun}
    (found : (countTogether processes schedule start).members[number]? = some run)
    (turns : 4 ≤ schedule.countP (fun turn => turn.run = number)) : run.done?.isSome := by
  obtain ⟨first, foundFirst⟩ := Crowd.exists_member_of_run _ found
  have begun : first.stage = .begun := by
    obtain ⟨credentials, -, rfl⟩ := List.mem_map.mp (List.mem_of_getElem? foundFirst)
    rfl
  have fallen := Crowd.rank_run_le countingRules (fun run => run.stage.stepsLeft)
    (fun turn run table => (run.advance_moves turn table).stepsLeft_le) schedule foundFirst found
  rw [begun, countingRules_who] at fallen
  unfold CountingRun.done?
  cases reached : run.stage with
  | ended outcome => rfl
  | begun => simp only [reached, Stage.stepsLeft] at fallen; omega
  | pointed => simp only [reached, Stage.stepsLeft] at fallen; omega
  | missed => simp only [reached, Stage.stepsLeft] at fallen; omega
  | forestalled => simp only [reached, Stage.stepsLeft] at fallen; omega

end

/-- A run that nobody else disturbs, after a number of steps. -/
theorem run_alone_succ (count : Nat) (table : Table) (run : CountingRun) :
    Crowd.run countingRules (List.replicate (count + 1) { run := 0 }) ⟨table, [run]⟩ =
      Crowd.run countingRules (List.replicate count { run := 0 })
        ⟨(run.advance { run := 0 } table).2, [(run.advance { run := 0 } table).1]⟩ := rfl

/-- On a processor by itself the steps make up a run of the program: with what it returns and logs,
and with the table that it leaves. -/
theorem countTogether_alone (credentials : UInt64) (table : Table) :
    let alone := countTogether [credentials] (List.replicate 4 { run := 0 }) table
    alone.members.map CountingRun.done? = [some (run .count credentials .quiet table).1] ∧
      alone.shared = (run .count credentials .quiet table).2 := by
  have key : ∀ stage, CountingRun.key ⟨credentials, stage⟩ = userKey credentials := fun _ => rfl
  simp only [countTogether, List.map_cons, List.map_nil, run_alone_succ, List.replicate_zero,
    Crowd.run_nil, run, record, counterMap]
  by_cases present : userKey credentials ∈ table.counts
  · have looked := lookup_eq_true_iff.mpr present
    simp only [CountingRun.advance, key, looked, if_true]
    simp [CountingRun.done?, key]
  · have looked := Bool.eq_false_iff.mpr (mt lookup_eq_true_iff.mp present)
    have quiet : (Turn.mk 0 none).insert (userKey credentials) 1 table =
        Race.quiet.insertNoExist (userKey credentials) 1 table := rfl
    rcases (Turn.mk 0 none).insert_of_not_mem 1 present with created | ⟨refusal, refused⟩
    · have raced := quiet.symm.trans created
      simp only [CountingRun.advance, key, looked, created, raced, insertionOfCode_zero,
        Bool.false_eq_true, if_false]
      simp [CountingRun.done?, key]
    · have raced := quiet.symm.trans refused
      simp only [CountingRun.advance, key, looked, refused, raced, insertionOfCode_refusal,
        Bool.false_eq_true, if_false]
      simp [CountingRun.done?, key]

/-- The counters gain exactly the runs that return zero, on any number of processors and whatever
new entries the kernel refuses. A run that returns one has changed nothing, and its one warning
carries the id and the code of the refusal. A run that was told of an entry finds it when it looks
again. Every run ends after four steps of its own. -/
theorem counters_gain_successful_runs (processes : List UInt64) (schedule : List Turn)
    (start : Table) :
    let final := countTogether processes schedule start
    final.members.map CountingRun.credentials = processes ∧
    (∀ number run, final.members[number]? = some run →
      4 ≤ schedule.countP (fun turn => turn.run = number) → run.done?.isSome) ∧
    (∀ key, final.shared.count key =
      start.count key + UInt64.ofNat (successfulRuns key final.members)) ∧
    (∀ number run left, final.members[number]? = some run → run.done? = some left →
      left.returned = 1 →
      (∀ before turn after, schedule = before ++ turn :: after → turn.run = number →
        (countTogether processes (before ++ [turn]) start).shared =
          (countTogether processes before start).shared) ∧
      ∃ before turn after, ∃ refusal : RefusalCode,
        schedule = before ++ turn :: after ∧ turn.run = number ∧
        (countTogether processes before start).members[number]? =
          some { run with stage := .missed } ∧
        (turn.insert run.key 1 (countTogether processes before start).shared).1 = refusal.code ∧
        left.log = [⟨.warn, "dropped occurrence for id " ++ Nat.repr run.key.toNat ++ ": " ++
          Int.repr refusal.code⟩]) ∧
    (∀ early, early <+: schedule →
      ∀ run ∈ (countTogether processes early start).members, run.stage = .forestalled →
        ∀ turn, (run.advance turn (countTogether processes early start).shared).1.stage =
          .pointed) := by
  intro final
  refine ⟨credentials_countTogether processes start schedule,
    fun number run found turns => done_of_four_turns found turns,
    count_countTogether processes start schedule, ?_,
    fun early _ run member forestalled turn => pointed_of_forestalled member forestalled turn⟩
  intro number run left found done returned
  obtain ⟨outcome, stage, rfl⟩ := CountingRun.done?_eq_some_iff.mp done
  cases outcome with
  | counted => exact absurd returned Nat.zero_ne_one
  | dropped code =>
      have uncounted : run.stage ≠ .ended .counted := by
        rw [stage]
        exact fun equal => Outcome.noConfusion (Stage.ended.inj equal)
      refine ⟨fun before turn after split own =>
        shared_turn_of_uncounted split own found uncounted, ?_⟩
      obtain ⟨before, turn, after, refusal, split, own, missed, answer, rfl⟩ :=
        exists_refusal_of_dropped found stage
      exact ⟨before, turn, after, refusal, split, own, missed, answer, rfl⟩

end SyscallTally.Kernel
