import SyscallTally.Counter.Crowd
import SyscallTally.Kernel.Program

/-!
Contract: the counting program on several processors at once, over one table.

Owns:
- `CountingRun`, a run of the program as far as it has come, and its atomic steps;
- `Turn`, the step of one processor, with what the kernel makes of an insertion in it;
- `countTogether`, runs for given processes under a schedule.

## Three steps where the rule has one

To the rule of counting, adding to an entry is one operation. To a processor it is two: it looks the
entry up, and then adds through the pointer that it was given. In between others may look up, add
and insert. No entry is ever deleted, so a pointer stays good, and it is the key that stands for it.
-/

set_option autoImplicit false

namespace SyscallTally.Kernel

open SyscallTally.Counter SyscallTally.Probe

/-- A code with which a kernel refuses a new entry. It is not the one that reports an entry. -/
structure RefusalCode where
  code : Int
  negative : code < 0
  notExists : code ≠ existsCode
deriving DecidableEq, Repr

/-- A turn: the number of the run that takes it, and the code with which the kernel would refuse a
new entry just then, if it would. -/
structure Turn where
  run : Nat
  refusal : Option RefusalCode := none
deriving DecidableEq, Repr

/-- An insertion in a turn. An entry is reported, whatever the kernel thinks of new ones. -/
def Turn.insert (turn : Turn) (key value : UInt64) (table : Table) : Int × Table :=
  match turn.refusal with
  | none => insertNoExist key value table
  | some refusal => if lookup key table then (existsCode, table) else (refusal.code, table)

/-- Where a run stands between two of its steps. -/
inductive Stage where
  /-- Nothing has been done yet. -/
  | begun
  /-- An entry was found; it is to be added to next. -/
  | pointed
  /-- There was no entry; it is to be inserted next. -/
  | missed
  /-- An entry was there when it was to be inserted; it is to be looked up again. -/
  | forestalled
  | ended (outcome : Outcome)
deriving DecidableEq, Repr

/-- A run of the counting program for a process, as far as it has come. -/
structure CountingRun where
  credentials : UInt64
  stage : Stage := .begun
deriving DecidableEq, Repr

namespace CountingRun

/-- The key that a run counts under. -/
def key (run : CountingRun) : UInt64 := userKey run.credentials

/-- What a run leaves behind, if it is done. -/
def done? (run : CountingRun) : Option Run :=
  match run.stage with
  | .ended outcome => some (conclude run.key outcome)
  | _ => none

/-- The next atomic step of a run. One that is done takes no step. -/
def advance (turn : Turn) (run : CountingRun) (table : Table) : CountingRun × Table :=
  match run.stage with
  | .begun =>
      if lookup run.key table then ({ run with stage := .pointed }, table)
      else ({ run with stage := .missed }, table)
  | .pointed => ({ run with stage := .ended .counted }, fetchAdd run.key table)
  | .missed =>
      let (code, table) := turn.insert run.key 1 table
      match insertionOfCode code with
      | .inserted => ({ run with stage := .ended .counted }, table)
      | .present => ({ run with stage := .forestalled }, table)
      | .rejected code => ({ run with stage := .ended (.dropped code) }, table)
  | .forestalled =>
      if lookup run.key table then ({ run with stage := .pointed }, table)
      else ({ run with stage := .ended (.dropped againCode) }, table)
  | .ended _ => (run, table)

end CountingRun

def countingRules : TurnRules Turn Table CountingRun where
  who := Turn.run
  advance := CountingRun.advance

/-- Runs for processes with the given credentials, none of them begun, after the turns of a
schedule. -/
def countTogether (processes : List UInt64) (schedule : List Turn) (table : Table) :
    Crowd Table CountingRun :=
  Crowd.run countingRules schedule ⟨table, processes.map fun credentials => { credentials }⟩

end SyscallTally.Kernel
