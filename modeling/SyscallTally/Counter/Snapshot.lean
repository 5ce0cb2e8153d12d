import SyscallTally.Counter.Table

/-!
Contract: a copy of the counters at one moment, and the report line made of it.

The line has one item per key, in ascending numeric order of the keys, and ends with a newline. An
empty snapshot is an empty line.
-/

set_option autoImplicit false

namespace SyscallTally.Counter

/-- A copy of counters. -/
structure Snapshot where
  counts : Counts := ∅

namespace Snapshot

/-- The snapshot without entries. -/
def empty : Snapshot := ⟨∅⟩

/-- The snapshot of the given entries. Of two entries under one key the later counts. -/
def ofList (entries : List (UInt64 × UInt64)) : Snapshot :=
  ⟨entries.foldl (fun counts entry => counts.insert entry.1 entry.2) ∅⟩

/-- The entries in ascending order of their keys. -/
def toList (snapshot : Snapshot) : List (UInt64 × UInt64) := snapshot.counts.toList

/-- The number of entries. -/
def size (snapshot : Snapshot) : Nat := snapshot.counts.size

/-- Whether there are no entries. -/
def isEmpty (snapshot : Snapshot) : Bool := snapshot.counts.isEmpty

/-- Two snapshots are equal when they have the same entries. -/
instance : BEq Snapshot := ⟨fun left right => left.toList == right.toList⟩

/-- The item of one entry in a report line. -/
def item (entry : UInt64 × UInt64) : String :=
  "ID: " ++ Nat.repr entry.1.toNat ++ ", " ++ Nat.repr entry.2.toNat ++ "\t"

/-- The report line of a snapshot. -/
def line (snapshot : Snapshot) : String :=
  String.join (snapshot.toList.map item) ++ "\n"

end Snapshot

/-- A copy of the table's counters. -/
def Table.snapshot (table : Table) : Snapshot := ⟨table.counts⟩

end SyscallTally.Counter
