import Mathlib.Logic.Function.Basic
import SyscallTally.Counter.Table

/-!
Owns what one recording does to a map on which others work between its calls, whatever they do
there, deletions included:

- `CounterMap.Faithful`, the contract of a map: it answers with success exactly where it has done
  what was asked, and else it has done nothing;
- `CounterMap.amid`, a map with others around it, and the calls made of it;
- `Course`, the calls of a recording from its first to its last, and how it ends with them;
- a recording takes effect once or not at all (`record_takes_effect_once`).

Does not own: what many recordings together do to one map. Where others may delete entries, nothing
is said about the map as a whole, only about each call.
-/

set_option autoImplicit false

namespace SyscallTally.Counter

/-! ### What a map is trusted with -/

/-- The contract of a map, as far as its entries show: a success is the one change that was asked
for, and any other answer is no change. A map may fail when it likes. -/
structure CounterMap.Faithful {σ : Type} (map : CounterMap σ)
    (entries : σ → UInt64 → Option UInt64) : Prop where
  incremented : ∀ key state, (map.increment key state).1 = true →
    ∃ count, entries state key = some count ∧
      entries (map.increment key state).2 =
        Function.update (entries state) key (some (count + 1))
  missed : ∀ key state, (map.increment key state).1 = false →
    entries (map.increment key state).2 = entries state
  inserted : ∀ key value state, (map.insertNew key value state).1 = .inserted →
    entries state key = none ∧
      entries (map.insertNew key value state).2 =
        Function.update (entries state) key (some value)
  refused : ∀ key value state, (map.insertNew key value state).1 ≠ .inserted →
    entries (map.insertNew key value state).2 = entries state

/-- The entries of a table, as a function of the key. -/
def Table.entries (table : Table) (key : UInt64) : Option UInt64 := table.counts[key]?

theorem Table.entries_store (key value : UInt64) (table : Table) :
    (table.store key value).entries = Function.update table.entries key (some value) := by
  funext other
  simp only [entries, store, Std.TreeMap.getElem?_insert, Std.LawfulEqCmp.compare_eq_iff_eq,
    Function.update_apply]
  simp only [eq_comm]

theorem Table.counterMap_faithful : counterMap.Faithful entries where
  incremented := fun key table succeeded => by
    by_cases present : key ∈ table.counts
    · refine ⟨table.count key, Std.TreeMap.getElem?_eq_some_getD present, ?_⟩
      simp only [counterMap, increment_of_mem present, entries_store]
    · simp only [counterMap, increment_of_not_mem present, Bool.false_eq_true] at succeeded
  missed := fun key table failed => by
    by_cases present : key ∈ table.counts
    · simp only [counterMap, increment_of_mem present, reduceCtorEq] at failed
    · simp only [counterMap, increment_of_not_mem present]
  inserted := fun key value table succeeded => by
    by_cases present : key ∈ table.counts
    · simp only [counterMap, insertNew_of_mem present, reduceCtorEq] at succeeded
    · rcases Nat.lt_or_ge table.counts.size table.capacity with room | full
      · refine ⟨Std.TreeMap.getElem?_eq_none present, ?_⟩
        simp only [counterMap, insertNew_of_room present room, entries_store]
      · simp only [counterMap, insertNew_of_full present full, reduceCtorEq] at succeeded
  refused := fun key value table failed => by
    by_cases present : key ∈ table.counts
    · simp only [counterMap, insertNew_of_mem present]
    · rcases Nat.lt_or_ge table.counts.size table.capacity with room | full
      · exact absurd (by simp only [counterMap, insertNew_of_room present room]) failed
      · simp only [counterMap, insertNew_of_full present full]

/-! ### Calls amid the doings of others -/

/-- What a map was asked, and what it answered. -/
inductive Exchange where
  | increment (key : UInt64) (found : Bool)
  | insertNew (key value : UInt64) (answer : Insertion)
deriving DecidableEq, Repr

namespace Exchange

/-- Whether one more is asked for under a key. -/
def IsFor (key : UInt64) : Exchange → Prop
  | increment asked _ => asked = key
  | insertNew asked value _ => asked = key ∧ value = 1

def isIncrement : Exchange → Bool
  | increment _ _ => true
  | insertNew _ _ _ => false

def isInsertion : Exchange → Bool
  | increment _ _ => false
  | insertNew _ _ _ => true

def succeeded : Exchange → Bool
  | increment _ found => found
  | insertNew _ _ answer => answer = .inserted

end Exchange

/-- A call with the map as it was just before it and just after it. -/
structure Call (σ : Type) where
  exchange : Exchange
  before : σ
  after : σ

/-- A map that others work on, and the calls that have been made of it, the first one first. -/
structure Disturbed (σ : Type) where
  shared : σ
  calls : List (Call σ) := []

/-- A map on which others do something just before each call, by the number of calls before. -/
def CounterMap.amid {σ : Type} (map : CounterMap σ) (others : Nat → σ → σ) :
    CounterMap (Disturbed σ) where
  increment key state :=
    let before := others state.calls.length state.shared
    let (found, after) := map.increment key before
    (found, ⟨after, state.calls ++ [⟨.increment key found, before, after⟩]⟩)
  insertNew key value state :=
    let before := others state.calls.length state.shared
    let (answer, after) := map.insertNew key value before
    (answer, ⟨after, state.calls ++ [⟨.insertNew key value answer, before, after⟩]⟩)

section

variable {σ : Type} {map : CounterMap σ} {others : Nat → σ → σ} {key value : UInt64} {after : σ}
  {state : Disturbed σ}

theorem increment_amid {found : Bool}
    (answered : map.increment key (others state.calls.length state.shared) = (found, after)) :
    (map.amid others).increment key state =
      (found, ⟨after, state.calls ++
        [⟨.increment key found, others state.calls.length state.shared, after⟩]⟩) := by
  simp only [CounterMap.amid, answered]

theorem insertNew_amid {answer : Insertion}
    (answered : map.insertNew key value (others state.calls.length state.shared) =
      (answer, after)) :
    (map.amid others).insertNew key value state =
      (answer, ⟨after, state.calls ++
        [⟨.insertNew key value answer, others state.calls.length state.shared, after⟩]⟩) := by
  simp only [CounterMap.amid, answered]

end

namespace Call

variable {σ : Type} {map : CounterMap σ} {entries : σ → UInt64 → Option UInt64} {call : Call σ}

/-- Whether a call is one of the map: it answered so, and left the map so. -/
def IsOf (map : CounterMap σ) (call : Call σ) : Prop :=
  match call.exchange with
  | .increment key found => map.increment key call.before = (found, call.after)
  | .insertNew key value answer => map.insertNew key value call.before = (answer, call.after)

/-- Whether a call changed the entries. -/
def TookEffect (entries : σ → UInt64 → Option UInt64) (call : Call σ) : Prop :=
  entries call.after ≠ entries call.before

/-- Whether a call added one under a key, an entry that was not there being zero before, and left
all other entries alone. -/
def AddsOne (entries : σ → UInt64 → Option UInt64) (key : UInt64) (call : Call σ) : Prop :=
  entries call.after =
    Function.update (entries call.before) key (some ((entries call.before key).getD 0 + 1))

theorem AddsOne.tookEffect {key : UInt64} (adds : call.AddsOne entries key) :
    call.TookEffect entries := by
  intro same
  have atKey : entries call.after key = some ((entries call.before key).getD 0 + 1) := by
    rw [adds, Function.update_self]
  rw [same] at atKey
  cases held : entries call.before key with
  | none => simp [held] at atKey
  | some count => simp [held] at atKey

theorem addsOne_of_succeeded (faithful : map.Faithful entries) (isOf : call.IsOf map)
    {key : UInt64} (isFor : call.exchange.IsFor key) (succeeded : call.exchange.succeeded = true) :
    call.AddsOne entries key := by
  obtain ⟨exchange, before, after⟩ := call
  cases exchange with
  | increment asked found =>
      obtain rfl : asked = key := isFor
      obtain rfl : found = true := succeeded
      have answered : map.increment asked before = (true, after) := isOf
      obtain ⟨count, held, left⟩ := faithful.incremented asked before (by rw [answered])
      rw [answered] at left
      rw [AddsOne, left, held]
      rfl
  | insertNew asked value answer =>
      obtain ⟨rfl, rfl⟩ : asked = key ∧ value = 1 := isFor
      obtain rfl : answer = .inserted := of_decide_eq_true succeeded
      have answered : map.insertNew asked 1 before = (.inserted, after) := isOf
      obtain ⟨absent, left⟩ := faithful.inserted asked 1 before (by rw [answered])
      rw [answered] at left
      rw [AddsOne, left, absent]
      rfl

theorem unchanged_of_failed (faithful : map.Faithful entries) (isOf : call.IsOf map)
    (failed : call.exchange.succeeded = false) : entries call.after = entries call.before := by
  obtain ⟨exchange, before, after⟩ := call
  cases exchange with
  | increment asked found =>
      obtain rfl : found = false := failed
      have answered : map.increment asked before = (false, after) := isOf
      have left := faithful.missed asked before (by rw [answered])
      rwa [answered] at left
  | insertNew asked value answer =>
      have other : answer ≠ .inserted := of_decide_eq_false failed
      have answered : map.insertNew asked value before = (answer, after) := isOf
      have left := faithful.refused asked value before (by rwa [answered])
      rwa [answered] at left

theorem tookEffect_iff (faithful : map.Faithful entries) (isOf : call.IsOf map) {key : UInt64}
    (isFor : call.exchange.IsFor key) :
    call.TookEffect entries ↔ call.exchange.succeeded = true := by
  constructor
  · intro effect
    by_contra failed
    exact effect (unchanged_of_failed faithful isOf (Bool.eq_false_iff.mpr failed))
  · intro succeeded
    exact (addsOne_of_succeeded faithful isOf isFor succeeded).tookEffect

end Call

/-! ### One recording -/

/-- The calls that a recording of a key makes, with their answers, and how it ends with them. -/
inductive Course (key : UInt64) : List Exchange → Outcome → Prop where
  | found : Course key [.increment key true] .counted
  | created : Course key [.increment key false, .insertNew key 1 .inserted] .counted
  | rejected (code : Int) :
      Course key [.increment key false, .insertNew key 1 (.rejected code)] (.dropped code)
  | foundLate :
      Course key [.increment key false, .insertNew key 1 .present, .increment key true] .counted
  | vanished :
      Course key [.increment key false, .insertNew key 1 .present, .increment key false]
        (.dropped againCode)

namespace Course

variable {key : UInt64} {exchanges : List Exchange} {outcome : Outcome}

theorem isFor (course : Course key exchanges outcome) :
    ∀ exchange ∈ exchanges, exchange.IsFor key := by
  cases course <;> simp [Exchange.IsFor]

theorem few (course : Course key exchanges outcome) :
    exchanges.countP Exchange.isIncrement ≤ 2 ∧ exchanges.countP Exchange.isInsertion ≤ 1 := by
  cases course <;> simp [List.countP_cons, Exchange.isIncrement, Exchange.isInsertion]

/-- No call but the last succeeds, and that one does exactly if the occurrence is counted. -/
theorem last (course : Course key exchanges outcome) :
    ∃ front last, exchanges = front ++ [last] ∧
      (∀ exchange ∈ front, exchange.succeeded = false) ∧
      (last.succeeded = true ↔ outcome = .counted) := by
  cases course with
  | found => exact ⟨[], _, rfl, by simp, by simp [Exchange.succeeded]⟩
  | created =>
      exact ⟨[_], _, rfl, by simp [Exchange.succeeded], by simp [Exchange.succeeded]⟩
  | rejected code =>
      exact ⟨[_], _, rfl, by simp [Exchange.succeeded], by simp [Exchange.succeeded]⟩
  | foundLate =>
      exact ⟨[_, _], _, rfl, by simp [Exchange.succeeded], by simp [Exchange.succeeded]⟩
  | vanished =>
      exact ⟨[_, _], _, rfl, by simp [Exchange.succeeded], by simp [Exchange.succeeded]⟩

theorem dropped_iff (course : Course key exchanges outcome) (code : Int) :
    outcome = .dropped code ↔
      exchanges = [.increment key false, .insertNew key 1 (.rejected code)] ∨
      code = againCode ∧ exchanges =
        [.increment key false, .insertNew key 1 .present, .increment key false] := by
  cases course with
  | found => simp
  | created => simp
  | rejected refusal => simp
  | foundLate => simp
  | vanished => simp only [Outcome.dropped.injEq, List.cons.injEq]; simp [@eq_comm Int code]

end Course

theorem record_amid_course {σ : Type} (map : CounterMap σ) (others : Nat → σ → σ) (key : UInt64)
    (start : σ) :
    let recorded := record (map.amid others) key ⟨start, []⟩
    Course key (recorded.2.calls.map Call.exchange) recorded.1 ∧
      ∀ call ∈ recorded.2.calls, call.IsOf map := by
  intro recorded
  -- Each call is named before its answer decides whether another one follows.
  rcases first : map.increment key (others 0 start) with ⟨found, missed⟩
  have firstCall : (map.amid others).increment key ⟨start, []⟩ =
      (found, ⟨missed, [⟨.increment key found, others 0 start, missed⟩]⟩) := increment_amid first
  cases found with
  | true =>
      simp only [recorded, record, firstCall]
      exact ⟨.found, by simpa [Call.IsOf] using first⟩
  | false =>
      rcases second : map.insertNew key 1 (others 1 missed) with ⟨answer, tried⟩
      have secondCall : (map.amid others).insertNew key 1
            ⟨missed, [⟨.increment key false, others 0 start, missed⟩]⟩ =
          (answer, ⟨tried, [⟨.increment key false, others 0 start, missed⟩,
            ⟨.insertNew key 1 answer, others 1 missed, tried⟩]⟩) := insertNew_amid second
      cases answer with
      | inserted =>
          simp only [recorded, record, firstCall, secondCall]
          exact ⟨.created, by simpa [Call.IsOf] using ⟨first, second⟩⟩
      | rejected code =>
          simp only [recorded, record, firstCall, secondCall]
          exact ⟨.rejected code, by simpa [Call.IsOf] using ⟨first, second⟩⟩
      | present =>
          rcases third : map.increment key (others 2 tried) with ⟨found, last⟩
          have thirdCall : (map.amid others).increment key
                ⟨tried, [⟨.increment key false, others 0 start, missed⟩,
                  ⟨.insertNew key 1 .present, others 1 missed, tried⟩]⟩ =
              (found, ⟨last, [⟨.increment key false, others 0 start, missed⟩,
                ⟨.insertNew key 1 .present, others 1 missed, tried⟩,
                ⟨.increment key found, others 2 tried, last⟩]⟩) := increment_amid third
          cases found with
          | true =>
              simp only [recorded, record, firstCall, secondCall, thirdCall]
              exact ⟨.foundLate, by simpa [Call.IsOf] using ⟨first, second, third⟩⟩
          | false =>
              simp only [recorded, record, firstCall, secondCall, thirdCall]
              exact ⟨.vanished, by simpa [Call.IsOf] using ⟨first, second, third⟩⟩

/-- Only the last call of a recording can take effect, and it does exactly if the occurrence is
counted. -/
theorem record_amid_last {σ : Type} {map : CounterMap σ} {entries : σ → UInt64 → Option UInt64}
    (faithful : map.Faithful entries) (others : Nat → σ → σ) (key : UInt64) (start : σ) :
    let recorded := record (map.amid others) key ⟨start, []⟩
    ∃ front last, recorded.2.calls = front ++ [last] ∧
      (∀ call ∈ front, ¬ call.TookEffect entries) ∧
      (last.TookEffect entries ↔ recorded.1 = .counted) := by
  intro recorded
  obtain ⟨course, areOf⟩ := record_amid_course map others key start
  obtain ⟨frontExchanges, lastExchange, split, failed, succeeds⟩ := course.last
  obtain ⟨front, rest, callsEq, rfl, restEq⟩ := List.map_eq_append_iff.mp split
  obtain ⟨last, rfl, rfl⟩ := List.map_eq_singleton_iff.mp restEq
  -- A faithful map tells by its answers which calls took effect.
  have effect : ∀ call ∈ front ++ [last],
      call.TookEffect entries ↔ call.exchange.succeeded = true := by
    rw [← callsEq]
    exact fun call member => Call.tookEffect_iff faithful (areOf call member)
      (course.isFor _ (List.mem_map_of_mem member))
  refine ⟨front, last, callsEq, fun call member => ?_, ?_⟩
  · rw [effect call (List.mem_append_left _ member),
      failed _ (List.mem_map_of_mem member)]
    exact Bool.false_ne_true
  · rw [effect last (List.mem_append_right _ (List.mem_singleton_self last)), succeeds]

theorem dropped_iff_not_counted {outcome : Outcome} :
    (∃ code, outcome = .dropped code) ↔ ¬ outcome = .counted := by
  cases outcome <;> simp

/-- A recording takes effect once or not at all, whatever others do to the map between its calls. An
occurrence is counted exactly if one of the calls took effect and no other did, and that call added
one under its key. It is dropped exactly if no call changed anything: with the map's own code,
whatever that is, where the map rejected the new entry, or with the code to try again where the map
reported an entry that was gone when it was looked for. There are at most two increments and one
insertion, all for the key. -/
theorem record_takes_effect_once {σ : Type} {map : CounterMap σ}
    {entries : σ → UInt64 → Option UInt64} (faithful : map.Faithful entries)
    (others : Nat → σ → σ) (key : UInt64) (start : σ) :
    let recorded := record (map.amid others) key ⟨start, []⟩
    let outcome := recorded.1
    let calls := recorded.2.calls
    let exchanges := calls.map Call.exchange
    (outcome = .counted ↔ ∃ early call late, calls = early ++ call :: late ∧
      call.TookEffect entries ∧ ∀ other ∈ early ++ late, ¬ other.TookEffect entries) ∧
    (∀ call ∈ calls, call.TookEffect entries → call.AddsOne entries key) ∧
    ((∃ code, outcome = .dropped code) ↔
      ∀ call ∈ calls, entries call.after = entries call.before) ∧
    (∀ code, outcome = .dropped code ↔
      exchanges = [.increment key false, .insertNew key 1 (.rejected code)] ∨
      code = againCode ∧ exchanges =
        [.increment key false, .insertNew key 1 .present, .increment key false]) ∧
    (∀ call ∈ calls, call.exchange.IsFor key ∧
      ∀ other, other ≠ key → entries call.after other = entries call.before other) ∧
    exchanges.countP Exchange.isIncrement ≤ 2 ∧ exchanges.countP Exchange.isInsertion ≤ 1 := by
  intro recorded outcome calls exchanges
  obtain ⟨course, areOf⟩ := record_amid_course map others key start
  obtain ⟨front, last, callsEq, idle, lastEffect⟩ := record_amid_last faithful others key start
  have isFor : ∀ call ∈ calls, call.exchange.IsFor key := fun call member =>
    course.isFor _ (List.mem_map_of_mem member)
  have adds : ∀ call ∈ calls, call.TookEffect entries → call.AddsOne entries key := by
    intro call member tookEffect
    have effect := Call.tookEffect_iff faithful (areOf call member) (isFor call member)
    exact Call.addsOne_of_succeeded faithful (areOf call member) (isFor call member)
      (effect.mp tookEffect)
  have counted : outcome = .counted ↔ ∃ call ∈ calls, call.TookEffect entries := by
    rw [← lastEffect]
    constructor
    · intro tookEffect
      refine ⟨last, ?_, tookEffect⟩
      rw [show calls = front ++ [last] from callsEq]
      exact List.mem_append_right front (List.mem_singleton_self last)
    · rintro ⟨call, member, tookEffect⟩
      rw [show calls = front ++ [last] from callsEq] at member
      rcases List.mem_append.mp member with inFront | isLast
      · exact absurd tookEffect (idle call inFront)
      · rwa [← List.mem_singleton.mp isLast]
  refine ⟨⟨fun isCounted => ?_, ?_⟩, adds, ?_, course.dropped_iff, ?_, course.few⟩
  · refine ⟨front, last, [], callsEq, lastEffect.mpr isCounted, ?_⟩
    rwa [List.append_nil]
  · rintro ⟨early, call, late, split, tookEffect, -⟩
    refine counted.mpr ⟨call, ?_, tookEffect⟩
    rw [split]
    exact List.mem_append_right early List.mem_cons_self
  · rw [dropped_iff_not_counted, counted]
    simp only [Call.TookEffect, not_exists, not_and, not_not]
  · intro call member
    refine ⟨isFor call member, fun other different => ?_⟩
    by_cases tookEffect : call.TookEffect entries
    · have added : entries call.after = _ := adds call member tookEffect
      rw [added, Function.update_of_ne different]
    · rw [not_not.mp tookEffect]

/-- Another party creates the entry before it can be inserted and deletes it before it is looked for
again. -/
theorem record_takes_effect_once_vanishing :
    let others : Nat → Table → Table := fun made table =>
      if made = 1 then table.store 5 9 else if made = 2 then table.erase 5 else table
    let recorded := record (Table.counterMap.amid others) 5 ⟨Table.empty 4, []⟩
    Table.counterMap.Faithful Table.entries ∧ recorded.1 = .dropped againCode ∧
      recorded.2.calls.length = 3 ∧
      ∀ call ∈ recorded.2.calls, call.after.entries = call.before.entries := by
  intro others recorded
  have outcome : recorded.1 = .dropped againCode := by decide
  obtain ⟨-, -, dropped, -⟩ :=
    record_takes_effect_once Table.counterMap_faithful others 5 (Table.empty 4)
  exact ⟨Table.counterMap_faithful, outcome, by decide, dropped.mp ⟨againCode, outcome⟩⟩

end SyscallTally.Counter
