import Std.Data.TreeMap
import SyscallTally.Counter.Occurrence

/-!
Contract: a bounded table of counters.

Owns:
- `Table`, at most `capacity` entries under 64-bit keys, listed in the order of the keys;
- its two atomic operations, and the counter map they make;
- `count`, the counter of a key, zero where there is none;
- `limit`, the capacity of the table that the counting program declares.

Counters wrap at 2^64. A table refuses a new key when it is full and never drops an entry to make
room.
-/

set_option autoImplicit false

namespace SyscallTally.Counter

/-- Counters by key. -/
abbrev Counts := Std.TreeMap UInt64 UInt64

/-- The number of keys that the counting program keeps apart. -/
def limit : Nat := 10240

def fullCode : Int := -7

/-- Counters and the number of entries that they may grow to. -/
structure Table where
  capacity : Nat
  counts : Counts := ∅

namespace Table

/-- A table without entries. -/
def empty (capacity : Nat) : Table := ⟨capacity, ∅⟩

/-- The counter of a key, zero for a key without entry. -/
def count (key : UInt64) (table : Table) : UInt64 := table.counts.getD key 0

/-- Adds one to an entry and says whether there was one. -/
def increment (key : UInt64) (table : Table) : Bool × Table :=
  match table.counts[key]? with
  | some count => (true, { table with counts := table.counts.insert key (count + 1) })
  | none => (false, table)

/-- Stores a counter, whether or not the key has one and the table is full. -/
def store (key value : UInt64) (table : Table) : Table :=
  { table with counts := table.counts.insert key value }

/-- Removes an entry. -/
def erase (key : UInt64) (table : Table) : Table :=
  { table with counts := table.counts.erase key }

/-- Creates an entry unless one exists or the table is full. An existing entry is reported first,
also by a full table. -/
def insertNew (key value : UInt64) (table : Table) : Insertion × Table :=
  if table.counts.contains key then (.present, table)
  else if table.capacity ≤ table.counts.size then (.rejected fullCode, table)
  else (.inserted, table.store key value)

/-- The table as the map that the rule records on. -/
def counterMap : CounterMap Table where
  increment := increment
  insertNew := insertNew

/-! ## What the operations do to counters and entries -/

variable {table : Table} {key other value : UInt64}

@[simp] theorem capacity_store : (table.store key value).capacity = table.capacity := rfl

theorem mem_store : other ∈ (table.store key value).counts ↔ other = key ∨ other ∈ table.counts := by
  simp only [store, Std.TreeMap.mem_insert, Std.LawfulEqCmp.compare_eq_iff_eq]
  rw [eq_comm]

theorem count_store :
    (table.store key value).count other = if other = key then value else table.count other := by
  simp only [store, count, Std.TreeMap.getD_insert, Std.LawfulEqCmp.compare_eq_iff_eq]
  simp only [eq_comm]

/-- Storing the successor of a counter adds one to it and to no other. -/
theorem count_store_succ : (table.store key (table.count key + 1)).count other =
    table.count other + UInt64.ofNat (decide (key = other)).toNat := by
  rw [count_store]
  by_cases same : other = key
  · rw [if_pos same, same, decide_eq_true rfl]
    rfl
  · rw [if_neg same, decide_eq_false (Ne.symm same)]
    exact (UInt64.add_zero _).symm

theorem size_store_of_mem (present : key ∈ table.counts) :
    (table.store key value).counts.size = table.counts.size := by
  simp [store, Std.TreeMap.size_insert, present]

theorem size_store_of_not_mem (absent : key ∉ table.counts) :
    (table.store key value).counts.size = table.counts.size + 1 := by
  simp [store, Std.TreeMap.size_insert, absent]

theorem count_of_not_mem (absent : key ∉ table.counts) : table.count key = 0 :=
  Std.TreeMap.getD_eq_fallback absent

theorem increment_of_mem (present : key ∈ table.counts) :
    table.increment key = (true, table.store key (table.count key + 1)) := by
  unfold increment count
  rw [Std.TreeMap.getElem?_eq_some_getD present]
  rfl

theorem increment_of_not_mem (absent : key ∉ table.counts) :
    table.increment key = (false, table) := by
  unfold increment
  rw [Std.TreeMap.getElem?_eq_none absent]

theorem insertNew_of_mem (present : key ∈ table.counts) :
    table.insertNew key value = (.present, table) := by
  simp [insertNew, present]

theorem insertNew_of_full (absent : key ∉ table.counts)
    (full : table.capacity ≤ table.counts.size) :
    table.insertNew key value = (.rejected fullCode, table) := by
  simp [insertNew, absent, full]

theorem insertNew_of_room (absent : key ∉ table.counts)
    (room : table.counts.size < table.capacity) :
    table.insertNew key value = (.inserted, table.store key value) := by
  simp [insertNew, absent, Nat.not_le.mpr room]

end Table

end SyscallTally.Counter
