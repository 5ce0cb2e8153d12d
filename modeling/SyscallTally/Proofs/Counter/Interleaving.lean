import SyscallTally.Counter.Interleaving
import SyscallTally.Counter.Table
import SyscallTally.Proofs.Counter.Crowd

/-!
Owns the losslessness of recordings that interleave on one bounded table: under every schedule each
occurrence is counted once or refused by a full table (`counts_each_occurrence_once`), and every
recording ends after three steps of its own (`ended_of_three_turns`).

The argument has two halves. `Table.GrowsTo` is all that a step may do to the table, whoever takes
it: no entry goes away, and a full table stays as it is. `Attempt.Justified` is what an attempt
knows at each of its points, and it knows only what growth keeps.
-/

set_option autoImplicit false

namespace SyscallTally.Counter

/-! ### What steps do to a table -/

/-- What may become of a table in the course of recordings. -/
structure Table.GrowsTo (before after : Table) : Prop where
  capacity : after.capacity = before.capacity
  keeps : ∀ key ∈ before.counts, key ∈ after.counts
  fits : before.counts.size ≤ before.capacity → after.counts.size ≤ after.capacity
  staysFull : before.capacity ≤ before.counts.size →
    after.capacity ≤ after.counts.size ∧ ∀ key ∈ after.counts, key ∈ before.counts

namespace Table.GrowsTo

variable {first second third table : Table} {key value : UInt64}

theorem refl (table : Table) : table.GrowsTo table where
  capacity := rfl
  keeps := fun _ present => present
  fits := fun fitting => fitting
  staysFull := fun full => ⟨full, fun _ present => present⟩

theorem trans (early : first.GrowsTo second) (late : second.GrowsTo third) :
    first.GrowsTo third where
  capacity := late.capacity.trans early.capacity
  keeps := fun key present => late.keeps key (early.keeps key present)
  fits := fun fitting => late.fits (early.fits fitting)
  staysFull := fun full => by
    obtain ⟨fullThen, keptThen⟩ := early.staysFull full
    obtain ⟨fullNow, keptNow⟩ := late.staysFull fullThen
    exact ⟨fullNow, fun key present => keptThen key (keptNow key present)⟩

/-- Changing the counter of an entry. -/
theorem of_store_present (present : key ∈ table.counts) :
    table.GrowsTo (table.store key value) where
  capacity := rfl
  keeps := fun _ before => mem_store.mpr (Or.inr before)
  fits := fun fitting => by rwa [capacity_store, size_store_of_mem present]
  staysFull := fun full => by
    rw [capacity_store, size_store_of_mem present]
    refine ⟨full, fun other after => ?_⟩
    rcases mem_store.mp after with rfl | before
    · exact present
    · exact before

/-- Creating an entry where there is room. -/
theorem of_store_room (absent : key ∉ table.counts) (room : table.counts.size < table.capacity) :
    table.GrowsTo (table.store key value) where
  capacity := rfl
  keeps := fun _ before => mem_store.mpr (Or.inr before)
  fits := fun _ => by
    rw [capacity_store, size_store_of_not_mem absent]
    exact room
  staysFull := fun full => absurd full (Nat.not_le.mpr room)

end Table.GrowsTo

/-! ### The steps of a recording -/

/-- The steps that a recording of a key can take on a table: where it stood, where it stands, and
the table after. -/
inductive Recording.Moves (key : UInt64) (table : Table) :
    Recording → Recording → Table → Prop where
  | added (present : key ∈ table.counts) :
      Moves key table .begun (.ended .counted) (table.store key (table.count key + 1))
  | missed (absent : key ∉ table.counts) : Moves key table .begun .missed table
  | created (absent : key ∉ table.counts) (room : table.counts.size < table.capacity) :
      Moves key table .missed (.ended .counted) (table.store key (table.count key + 1))
  | refused (absent : key ∉ table.counts) (full : table.capacity ≤ table.counts.size) :
      Moves key table .missed (.ended (.dropped fullCode)) table
  | forestalled (present : key ∈ table.counts) : Moves key table .missed .forestalled table
  | addedLate (present : key ∈ table.counts) :
      Moves key table .forestalled (.ended .counted) (table.store key (table.count key + 1))
  | vanished (absent : key ∉ table.counts) :
      Moves key table .forestalled (.ended (.dropped againCode)) table
  | stays (outcome : Outcome) : Moves key table (.ended outcome) (.ended outcome) table

theorem Recording.advance_moves (progress : Recording) (key : UInt64) (table : Table) :
    Moves key table progress (progress.advance Table.counterMap key table).1
      (progress.advance Table.counterMap key table).2 := by
  by_cases present : key ∈ table.counts
  · cases progress with
    | begun =>
        simp only [advance, Table.counterMap, Table.increment_of_mem present]
        exact .added present
    | missed =>
        simp only [advance, Table.counterMap, Table.insertNew_of_mem present]
        exact .forestalled present
    | forestalled =>
        simp only [advance, Table.counterMap, Table.increment_of_mem present]
        exact .addedLate present
    | ended outcome => exact .stays outcome
  · cases progress with
    | begun =>
        simp only [advance, Table.counterMap, Table.increment_of_not_mem present]
        exact .missed present
    | missed =>
        rcases Nat.lt_or_ge table.counts.size table.capacity with room | full
        · simp only [advance, Table.counterMap, Table.insertNew_of_room present room]
          -- A created entry starts at one, which is one more than the count of no entry.
          have created := Moves.created present room
          rwa [Table.count_of_not_mem present, UInt64.zero_add] at created
        · simp only [advance, Table.counterMap, Table.insertNew_of_full present full]
          exact .refused present full
    | forestalled =>
        simp only [advance, Table.counterMap, Table.increment_of_not_mem present]
        exact .vanished present
    | ended outcome => exact .stays outcome

/-- What the recording of a key knows of the table at each of its points. One that was forestalled
or counted has an entry; one that was refused never will. -/
def Recording.Justified (key : UInt64) (table : Table) : Recording → Prop
  | .begun => True
  | .missed => True
  | .forestalled => key ∈ table.counts
  | .ended .counted => key ∈ table.counts
  | .ended (.dropped code) =>
      code = fullCode ∧ key ∉ table.counts ∧ table.capacity ≤ table.counts.size

/-- No growth of the table takes from a recording what it knows. -/
theorem Recording.Justified.of_growsTo {key : UInt64} {before after : Table} :
    ∀ {progress : Recording}, progress.Justified key before → before.GrowsTo after →
      progress.Justified key after
  | .begun, _, _ => trivial
  | .missed, _, _ => trivial
  | .forestalled, present, grown => grown.keeps key present
  | .ended .counted, present, grown => grown.keeps key present
  | .ended (.dropped _), ⟨codeEq, absent, full⟩, grown =>
      ⟨codeEq, fun present => absent ((grown.staysFull full).2 key present),
        (grown.staysFull full).1⟩

namespace Recording.Moves

variable {key : UInt64} {table later : Table} {before after : Recording}

theorem grows (moves : Moves key table before after later) : table.GrowsTo later := by
  cases moves with
  | added present => exact .of_store_present present
  | missed => exact .refl table
  | created absent room => exact .of_store_room absent room
  | refused => exact .refl table
  | forestalled => exact .refl table
  | addedLate present => exact .of_store_present present
  | vanished => exact .refl table
  | stays => exact .refl table

theorem justified (moves : Moves key table before after later)
    (known : before.Justified key table) : after.Justified key later := by
  cases moves with
  | added => exact Table.mem_store.mpr (Or.inl rfl)
  | missed => trivial
  | created => exact Table.mem_store.mpr (Or.inl rfl)
  | refused absent full => exact ⟨rfl, absent, full⟩
  | forestalled present => exact present
  | addedLate => exact Table.mem_store.mpr (Or.inl rfl)
  -- The only way to the code of a vanished entry: the entry was known to be there.
  | vanished absent => exact absurd known absent
  | stays => exact known

/-- A counter gains one in the step that counts an occurrence of its key, and changes in no
other. -/
theorem count_add (moves : Moves key table before after later) (other : UInt64) :
    later.count other +
        UInt64.ofNat (decide (key = other ∧ before = .ended .counted)).toNat =
      table.count other +
        UInt64.ofNat (decide (key = other ∧ after = .ended .counted)).toNat := by
  cases moves with
  | added => simp [Table.count_store_succ]
  | missed => simp
  | created => simp [Table.count_store_succ]
  | refused => simp
  | forestalled => simp
  | addedLate => simp [Table.count_store_succ]
  | vanished => simp
  | stays => rfl

/-- An entry that was not there before is that of an occurrence which has just been counted. -/
theorem mem_later (moves : Moves key table before after later) {other : UInt64}
    (present : other ∈ later.counts) :
    other ∈ table.counts ∨ (key = other ∧ after = .ended .counted) := by
  cases moves with
  | added => exact (Table.mem_store.mp present).elim (fun same => .inr ⟨same.symm, rfl⟩) .inl
  | created => exact (Table.mem_store.mp present).elim (fun same => .inr ⟨same.symm, rfl⟩) .inl
  | addedLate =>
      exact (Table.mem_store.mp present).elim (fun same => .inr ⟨same.symm, rfl⟩) .inl
  | missed => exact .inl present
  | refused => exact .inl present
  | forestalled => exact .inl present
  | vanished => exact .inl present
  | stays => exact .inl present

end Recording.Moves

/-! ### Attempts under a schedule -/

theorem Attempt.outcome?_eq_some_iff {attempt : Attempt} {outcome : Outcome} :
    attempt.outcome? = some outcome ↔ attempt.progress = .ended outcome := by
  unfold Attempt.outcome?
  cases attempt.progress with
  | begun => simp
  | missed => simp
  | forestalled => simp
  | ended reached => simp

/-- An attempt that has ended stays as it is. -/
theorem Attempt.outcome?_advance {σ : Type} (map : CounterMap σ) {attempt : Attempt}
    {outcome : Outcome} (ended : attempt.outcome? = some outcome) (state : σ) :
    (attempt.advance map state).1.outcome? = some outcome := by
  rw [Attempt.outcome?_eq_some_iff] at ended ⊢
  simp only [Attempt.advance, ended, Recording.advance]

theorem Attempt.advance_moves (attempt : Attempt) (table : Table) :
    Recording.Moves attempt.key table attempt.progress
      (attempt.advance Table.counterMap table).1.progress
      (attempt.advance Table.counterMap table).2 :=
  Recording.advance_moves attempt.progress attempt.key table

section

variable {σ : Type} (map : CounterMap σ) (keys : List UInt64) (schedule : List Nat) (state : σ)

theorem recordTogether_append (early late : List Nat) :
    recordTogether map keys (early ++ late) state =
      (recordTogether map keys early state).run (recordingRules map) late :=
  Crowd.run_append _ early late

/-- The attempts keep their keys and their order. -/
theorem keys_recordTogether :
    (recordTogether map keys schedule state).members.map Attempt.key = keys := by
  rw [recordTogether, Crowd.map_members_run _ Attempt.key (fun _ _ _ => rfl) schedule, List.map_map]
  exact List.map_id keys

/-- The most steps that a recording has before it. -/
def Recording.stepsLeft : Recording → Nat
  | .begun => 3
  | .missed => 2
  | .forestalled => 1
  | .ended _ => 0

theorem Recording.stepsLeft_advance_le (progress : Recording) (key : UInt64) :
    (progress.advance map key state).1.stepsLeft ≤ progress.stepsLeft - 1 := by
  cases progress with
  | begun =>
      simp only [advance]
      split <;> simp [stepsLeft]
  | missed =>
      simp only [advance]
      split <;> simp [stepsLeft]
  | forestalled =>
      simp only [advance]
      split <;> simp [stepsLeft]
  | ended outcome => exact Nat.le_refl _

/-- Whatever the map answers and whatever the others do, three turns end an attempt. -/
theorem ended_of_three_turns {number : Nat} {attempt : Attempt}
    (found : (recordTogether map keys schedule state).members[number]? = some attempt)
    (turns : 3 ≤ schedule.count number) : attempt.outcome?.isSome := by
  obtain ⟨first, foundFirst⟩ := Crowd.exists_member_of_run _ found
  have begun : first.progress = .begun := by
    obtain ⟨key, -, rfl⟩ := List.mem_map.mp (List.mem_of_getElem? foundFirst)
    rfl
  have fallen := Crowd.rank_run_le (recordingRules map)
    (fun attempt : Attempt => attempt.progress.stepsLeft)
    (fun _ attempt state => Recording.stepsLeft_advance_le map state attempt.progress attempt.key)
    schedule foundFirst found
  have taken : schedule.countP (fun turn => (recordingRules map).who turn = number) =
      schedule.count number := rfl
  rw [begun, taken] at fallen
  unfold Attempt.outcome?
  cases reached : attempt.progress with
  | ended outcome => rfl
  | begun => simp [reached, Recording.stepsLeft] at fallen; omega
  | missed => simp [reached, Recording.stepsLeft] at fallen; omega
  | forestalled => simp [reached, Recording.stepsLeft] at fallen; omega

end

/-! ### Attempts on a bounded table -/

section

variable (start : Table) (keys : List UInt64)

theorem recordTogether_grows {early late : List Nat} (sooner : early <+: late) :
    (recordTogether Table.counterMap keys early start).shared.GrowsTo
      (recordTogether Table.counterMap keys late start).shared := by
  obtain ⟨rest, rfl⟩ := sooner
  rw [recordTogether_append]
  exact Crowd.shared_run (recordingRules Table.counterMap) Table.GrowsTo Table.GrowsTo.refl
    Table.GrowsTo.trans (fun _ attempt table => (attempt.advance_moves table).grows) rest

variable (schedule : List Nat)

theorem recordingRules_uphold : Crowd.Upholds (recordingRules Table.counterMap)
    fun table attempt => attempt.progress.Justified attempt.key table where
  own := fun _ attempt table known => (attempt.advance_moves table).justified known
  others := fun _ attempt table _ known => known.of_growsTo (attempt.advance_moves table).grows

theorem justified_recordTogether :
    ∀ attempt ∈ (recordTogether Table.counterMap keys schedule start).members,
      attempt.progress.Justified attempt.key
        (recordTogether Table.counterMap keys schedule start).shared := by
  refine recordingRules_uphold.forall_members_run schedule ?_
  intro attempt member
  obtain ⟨key, -, rfl⟩ := List.mem_map.mp member
  trivial

theorem count_recordTogether (key : UInt64) :
    (recordTogether Table.counterMap keys schedule start).shared.count key =
      start.count key + UInt64.ofNat
        (countedUnder key (recordTogether Table.counterMap keys schedule start).members) := by
  refine recordingRules_uphold.balance_run (Table.count key)
    (fun attempt => attempt.key = key ∧ attempt.outcome? = some .counted) ?_ schedule ?_
  · intro _ attempt table _
    simp only [Attempt.outcome?_eq_some_iff]
    exact (attempt.advance_moves table).count_add key
  · intro attempt member
    obtain ⟨key, -, rfl⟩ := List.mem_map.mp member
    exact ⟨trivial, by simp [Attempt.outcome?]⟩

/-- The entries are the old ones and those of the occurrences that were counted. -/
theorem mem_recordTogether (key : UInt64) :
    key ∈ (recordTogether Table.counterMap keys schedule start).shared.counts ↔
      key ∈ start.counts ∨
        ∃ attempt ∈ (recordTogether Table.counterMap keys schedule start).members,
          attempt.key = key ∧ attempt.outcome? = some .counted := by
  constructor
  · refine Crowd.run_preserves (recordingRules Table.counterMap)
      (fun crowd : Crowd Table Attempt => key ∈ crowd.shared.counts → key ∈ start.counts ∨
        ∃ attempt ∈ crowd.members, attempt.key = key ∧ attempt.outcome? = some .counted)
      ?_ schedule Or.inl
    intro turn crowd attempt found known present
    rcases (attempt.advance_moves crowd.shared).mem_later present with before | ⟨own, counted⟩
    · rcases known before with old | ⟨other, member, ofKey, counted⟩
      · exact .inl old
      · obtain ⟨number, foundOther⟩ := List.mem_iff_getElem?.mp member
        have later := Crowd.getElem?_run_of_kept (recordingRules Table.counterMap)
          (fun attempt : Attempt => attempt.key = key ∧ attempt.outcome? = some .counted)
          (fun _ _ table kept => ⟨kept.1, Attempt.outcome?_advance _ kept.2 table⟩)
          [turn] foundOther ⟨ofKey, counted⟩
        rw [Crowd.run_cons, Crowd.run_nil, Crowd.turn_of_some _ found] at later
        obtain ⟨still, foundStill, kept⟩ := later
        exact .inr ⟨still, List.mem_of_getElem? foundStill, kept⟩
    · obtain ⟨below, -⟩ := List.getElem?_eq_some_iff.mp found
      exact .inr ⟨_, List.mem_set below _, own, Attempt.outcome?_eq_some_iff.mpr counted⟩
  · rintro (old | ⟨attempt, member, rfl, counted⟩)
    · exact (recordTogether_grows start keys List.nil_prefix).keeps key old
    · have known := justified_recordTogether start keys schedule attempt member
      rw [Attempt.outcome?_eq_some_iff.mp counted] at known
      exact known

/-- No occurrence is lost or counted twice. When all attempts have ended, under whatever schedule,
each counter has gained the number of counted occurrences of its key. An occurrence is dropped only
for want of room, and then so are all others of its key, which has no entry. All along the table
stays within its capacity and loses no entry. -/
theorem counts_each_occurrence_once (fits : start.counts.size ≤ start.capacity)
    (ended : ∀ attempt ∈ (recordTogether Table.counterMap keys schedule start).members,
      attempt.outcome?.isSome) :
    let final := recordTogether Table.counterMap keys schedule start
    final.members.map Attempt.key = keys ∧
    (∀ key, final.shared.count key =
      start.count key + UInt64.ofNat (countedUnder key final.members)) ∧
    (∀ attempt ∈ final.members, ∀ code, attempt.outcome? = some (.dropped code) →
      code = fullCode ∧ code ≠ againCode) ∧
    (∀ key,
      (∀ attempt ∈ final.members, attempt.key = key → attempt.outcome? = some .counted) ∨
      (∀ attempt ∈ final.members, attempt.key = key →
        attempt.outcome? = some (.dropped fullCode)) ∧ key ∉ final.shared.counts) ∧
    (∀ key, key ∈ final.shared.counts ↔ key ∈ start.counts ∨
      ∃ attempt ∈ final.members, attempt.key = key ∧ attempt.outcome? = some .counted) ∧
    (∀ early late, early <+: late →
      let sooner := (recordTogether Table.counterMap keys early start).shared
      let later := (recordTogether Table.counterMap keys late start).shared
      later.counts.size ≤ start.capacity ∧ ∀ key ∈ sooner.counts, key ∈ later.counts) := by
  intro final
  have known := justified_recordTogether start keys schedule
  have dropped : ∀ attempt ∈ final.members, ∀ code,
      attempt.outcome? = some (.dropped code) →
        code = fullCode ∧ attempt.key ∉ final.shared.counts := by
    intro attempt member code outcome
    have fact := known attempt member
    rw [Attempt.outcome?_eq_some_iff.mp outcome] at fact
    exact ⟨fact.1, fact.2.1⟩
  have counted : ∀ attempt ∈ final.members, attempt.outcome? = some .counted →
      attempt.key ∈ final.shared.counts := by
    intro attempt member outcome
    have fact := known attempt member
    rw [Attempt.outcome?_eq_some_iff.mp outcome] at fact
    exact fact
  refine ⟨keys_recordTogether _ keys schedule start, count_recordTogether start keys schedule,
    ?_, ?_, mem_recordTogether start keys schedule, ?_⟩
  · intro attempt member code outcome
    obtain ⟨rfl, -⟩ := dropped attempt member code outcome
    exact ⟨rfl, by decide⟩
  · intro key
    -- Whether the key has an entry at the end decides the outcome of all attempts on it.
    by_cases present : key ∈ final.shared.counts
    · left
      rintro attempt member rfl
      obtain ⟨outcome, isOutcome⟩ := Option.isSome_iff_exists.mp (ended attempt member)
      cases outcome with
      | counted => exact isOutcome
      | dropped code => exact absurd present (dropped attempt member code isOutcome).2
    · right
      refine ⟨?_, present⟩
      rintro attempt member rfl
      obtain ⟨outcome, isOutcome⟩ := Option.isSome_iff_exists.mp (ended attempt member)
      cases outcome with
      | counted => exact absurd (counted attempt member isOutcome) present
      | dropped code =>
          obtain ⟨rfl, -⟩ := dropped attempt member code isOutcome
          exact isOutcome
  · intro early late sooner
    have grown : start.GrowsTo (recordTogether Table.counterMap keys late start).shared :=
      recordTogether_grows start keys List.nil_prefix
    refine ⟨?_, (recordTogether_grows start keys sooner).keeps⟩
    rw [← grown.capacity]
    exact grown.fits fits

/-- Two attempts on one key that both miss, an old counter at its end, and a key for which there is
no room. -/
theorem counts_each_occurrence_once_crossing :
    let start : Table := ⟨2, (∅ : Counts).insert 9 0xFFFFFFFFFFFFFFFF⟩
    let final := recordTogether Table.counterMap [5, 5, 9, 7] [0, 1, 0, 1, 3, 1, 2, 3] start
    start.counts.size ≤ start.capacity ∧
    (∀ attempt ∈ final.members, attempt.outcome?.isSome) ∧
    final.shared.count 5 = 2 ∧ final.shared.count 9 = 0 ∧ 7 ∉ final.shared.counts := by
  intro start final
  have fits : start.counts.size ≤ start.capacity := by decide
  have ended : ∀ attempt ∈ final.members, attempt.outcome?.isSome := by decide
  obtain ⟨-, count, -, -, present, -⟩ :=
    counts_each_occurrence_once start [5, 5, 9, 7] [0, 1, 0, 1, 3, 1, 2, 3] fits ended
  refine ⟨fits, ended, ?_, ?_, ?_⟩
  · rw [count 5]
    decide
  · rw [count 9]
    decide
  · rw [present 7]
    decide

end

end SyscallTally.Counter
