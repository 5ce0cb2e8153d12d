import SyscallTally.Counter.Interleaving
import SyscallTally.Counter.Snapshot

/-!
Contract: snapshots of a table that are taken while occurrences are recorded on it.

Owns:
- `Copying`, the taking of a snapshot as far as it has come, and its atomic steps;
- `HeldTable`, a table with the number of snapshots that hold it;
- `workTogether`, recordings and snapshots under a schedule.

## What holding a table keeps away

A snapshot takes many steps: one in which it takes hold of the table, one for each entry, and one in
which it lets go. In between others may add to entries, also to one that has been copied already.
They may not create any: a recording that is about to create an entry waits until nobody holds the
table. Several snapshots may hold it at once.

The entries are copied in no particular order. The turn of a snapshot says which of the remaining
entries is next.
-/

set_option autoImplicit false

namespace SyscallTally.Counter

/-- A table and the number of snapshots that hold it. -/
structure HeldTable where
  table : Table
  holders : Nat := 0

/-- A turn: the number of the worker that takes it, and the position, among the entries that are
still to be copied, of the one to be copied next. It counts on from the front at the end. -/
structure WorkTurn where
  worker : Nat
  choice : Nat := 0
deriving DecidableEq, Repr

/-- Where the taking of a snapshot stands between two of its steps. -/
inductive Copying where
  /-- Nothing has been done yet. -/
  | begun
  /-- The table is held, and the given entries have been copied. -/
  | holding (copied : List (UInt64 × UInt64))
  | ended (snapshot : Snapshot)

namespace Copying

/-- The keys of a table that are not among the copied entries. -/
def remaining (copied : List (UInt64 × UInt64)) (table : Table) : List UInt64 :=
  table.counts.keys.filter fun key => !(copied.map Prod.fst).contains key

/-- The next atomic step of a snapshot. One that has ended takes no step. -/
def advance (choice : Nat) (progress : Copying) (held : HeldTable) : Copying × HeldTable :=
  match progress with
  | .begun => (.holding [], { held with holders := held.holders + 1 })
  | .holding copied =>
      let keys := remaining copied held.table
      match keys[choice % keys.length]? with
      | some key => (.holding (copied ++ [(key, held.table.count key)]), held)
      | none => (.ended (Snapshot.ofList copied), { held with holders := held.holders - 1 })
  | .ended snapshot => (.ended snapshot, held)

end Copying

/-- What is to be done on a table. -/
inductive Task where
  /-- Record an occurrence of a key. -/
  | record (key : UInt64)
  /-- Take a snapshot. -/
  | copy
deriving DecidableEq, Repr

/-- A task as far as it has come. -/
inductive Worker where
  | recorder (attempt : Attempt)
  | copier (progress : Copying)

/-- A task of which nothing has been done yet. -/
def Task.begin : Task → Worker
  | .record key => .recorder { key }
  | .copy => .copier .begun

namespace Worker

/-- The recording of an occurrence, if that is the task. -/
def attempt? : Worker → Option Attempt
  | .recorder attempt => some attempt
  | .copier _ => none

/-- The next atomic step of a worker. A recording that is about to create an entry takes none while
the table is held. -/
def advance (turn : WorkTurn) (worker : Worker) (held : HeldTable) : Worker × HeldTable :=
  match worker with
  | .recorder attempt =>
      if attempt.progress = .missed ∧ 0 < held.holders then (worker, held)
      else
        let (attempt, table) := attempt.advance Table.counterMap held.table
        (.recorder attempt, { held with table })
  | .copier progress =>
      let (progress, held) := progress.advance turn.choice held
      (.copier progress, held)

end Worker

def workingRules : TurnRules WorkTurn HeldTable Worker where
  who := WorkTurn.worker
  advance := Worker.advance

/-- Tasks on a table, none of them begun, after the turns of a schedule. -/
def workTogether (tasks : List Task) (schedule : List WorkTurn) (table : Table) :
    Crowd HeldTable Worker :=
  Crowd.run workingRules schedule ⟨{ table }, tasks.map Task.begin⟩

end SyscallTally.Counter
