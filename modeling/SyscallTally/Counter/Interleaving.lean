import SyscallTally.Counter.Crowd
import SyscallTally.Counter.Recording

/-!
Contract: recordings of many occurrences at once, whose steps interleave on one map.

Owns:
- `Attempt`, the recording of an occurrence as far as it has come;
- `recordTogether`, the attempts on given keys under a schedule.

A schedule lists the numbers of the attempts in the order of their steps. An attempt that the
schedule names late, or seldom, is one that starts late or is held up between two of its steps.
-/

set_option autoImplicit false

namespace SyscallTally.Counter

/-- The recording of one occurrence of a key, as far as it has come. -/
structure Attempt where
  key : UInt64
  progress : Recording := .begun
deriving DecidableEq, Repr

namespace Attempt

/-- The next atomic step of an attempt. -/
def advance {σ : Type} (map : CounterMap σ) (attempt : Attempt) (state : σ) : Attempt × σ :=
  let (progress, state) := attempt.progress.advance map attempt.key state
  ({ attempt with progress }, state)

/-- How an attempt ended, if it has. -/
def outcome? (attempt : Attempt) : Option Outcome :=
  match attempt.progress with
  | .ended outcome => some outcome
  | _ => none

end Attempt

/-- The number of attempts on a key that ended with their occurrence counted. -/
def countedUnder (key : UInt64) (attempts : List Attempt) : Nat :=
  attempts.countP fun attempt => attempt.key = key ∧ attempt.outcome? = some .counted

/-- The turns of attempts on a map. A turn is the number of the attempt that takes it. -/
def recordingRules {σ : Type} (map : CounterMap σ) : TurnRules Nat σ Attempt where
  who := id
  advance _ := Attempt.advance map

/-- Attempts on the given keys, none of them begun, after the turns of a schedule. -/
def recordTogether {σ : Type} (map : CounterMap σ) (keys : List UInt64) (schedule : List Nat)
    (state : σ) : Crowd σ Attempt :=
  Crowd.run (recordingRules map) schedule ⟨state, keys.map fun key => { key }⟩

end SyscallTally.Counter
