import SyscallTally.Counter.Table
import SyscallTally.Log
import SyscallTally.Probe.Kind

/-!
Contract: one run of a probe's program inside the kernel.

Owns:
- the kernel's own operations on a table: looking up an entry, adding to it through the pointer
  found, and inserting under the rule that no entry may exist;
- `Race`, what another processor does between a failed lookup and the insertion that follows it;
- `run`, a whole run of a program.

Does not own: when a program runs; see the machine.

The kernel reports an insertion by a code, zero for success. The rule that the counting program
follows is the one of `Counter.record`, on the map that these operations make.
-/

set_option autoImplicit false

namespace SyscallTally.Kernel

open SyscallTally.Counter SyscallTally.Probe

/-- The code of an insertion under a key that has an entry. -/
def existsCode : Int := -17

/-- Whether the key has an entry; the kernel answers with a pointer to its counter. -/
def lookup (key : UInt64) (table : Table) : Bool := table.counts.contains key

/-- Adds one, in one step, to the counter that a lookup has found. -/
def fetchAdd (key : UInt64) (table : Table) : Table := (table.increment key).2

/-- Inserts an entry unless there is one, and answers with a code. -/
def insertNoExist (key value : UInt64) (table : Table) : Int × Table :=
  match table.insertNew key value with
  | (.inserted, table) => (0, table)
  | (.present, table) => (existsCode, table)
  | (.rejected code, table) => (code, table)

/-- What another processor does between a failed lookup and the insertion that follows it. -/
inductive Race where
  /-- Nothing. -/
  | quiet
  /-- It stores a counter under the same key, also in a full table. -/
  | stored (count : UInt64)
  /-- It creates the entry, and deletes it after the insertion was refused. -/
  | deleted
  /-- It makes the kernel answer the insertion with this code. -/
  | answered (code : Int)
deriving DecidableEq, Repr

/-- The insertion as it turns out under a race. -/
def Race.insertNoExist (race : Race) (key value : UInt64) (table : Table) : Int × Table :=
  match race with
  | .quiet => Kernel.insertNoExist key value table
  | .stored count => Kernel.insertNoExist key value (table.store key count)
  | .deleted => (existsCode, table.erase key)
  | .answered code => (code, table)

/-- What a code says about an insertion. -/
def insertionOfCode (code : Int) : Insertion :=
  if code = 0 then .inserted
  else if code = existsCode then .present
  else .rejected code

/-- The kernel's operations as the map that the counting program records on. -/
def counterMap (race : Race) : CounterMap Table where
  increment key table := if lookup key table then (true, fetchAdd key table) else (false, table)
  insertNew key value table :=
    match race.insertNoExist key value table with
    | (code, table) => (insertionOfCode code, table)

/-- What one run of a program leaves behind. -/
structure Run where
  program : String
  returned : Nat
  log : List LogRecord
deriving DecidableEq, Repr

/-- The message about an occurrence that was not counted. -/
def droppedMessage (key : UInt64) (code : Int) : String :=
  "dropped occurrence for id " ++ Nat.repr key.toNat ++ ": " ++ Int.repr code

/-- What the counting program returns and logs when its recording has ended. -/
def conclude (key : UInt64) : Outcome → Run
  | .counted => ⟨countProgram, 0, []⟩
  | .dropped code => ⟨countProgram, 1, [⟨.warn, droppedMessage key code⟩]⟩

/-- Runs a program once for a process with the given credentials. -/
def run (kind : Kind) (credentials : UInt64) (race : Race) (table : Table) : Run × Table :=
  match kind with
  | .hello => (⟨helloProgram, 0, [⟨.info, "Hello World!"⟩]⟩, table)
  | .count =>
      let key := userKey credentials
      let (outcome, table) := record (counterMap race) key table
      (conclude key outcome, table)

/-- Runs a program the given number of times and keeps the last run. The credentials grow by the
stride from run to run. -/
def runTimes (kind : Kind) (race : Race) (stride : UInt64) :
    Nat → UInt64 → Table → Option Run × Table
  | 0, _, table => (none, table)
  | 1, credentials, table =>
      let (last, table) := run kind credentials race table
      (some last, table)
  | times + 2, credentials, table =>
      runTimes kind race stride (times + 1) (credentials + stride)
        (run kind credentials race table).2

end SyscallTally.Kernel
