/-!
Contract: the rule by which one occurrence is recorded on a map of counters.

Owns:
- `CounterMap`, the two operations the rule needs of a map;
- `record`, the rule: add to the entry, else create it, else add to the entry that somebody else
  created meanwhile;
- `userKey`, the key of a process.

Does not own: any particular map, or how the steps of several recordings interleave.

## Why the rule looks twice

A miss is the normal first occurrence of a key. Two processors can both miss and both try to create
the entry; only one succeeds. The other adds to the entry that the winner created, so neither
occurrence is lost. A second retry is never needed where entries are not deleted.
-/

set_option autoImplicit false

namespace SyscallTally.Counter

/-- The user id lives in the low 32 bits of a process's credentials and the group id in the high
ones. Only the user id is a key. -/
def userKey (credentials : UInt64) : UInt64 := credentials &&& 0xFFFFFFFF

/-- The answer of a map asked to create an entry. -/
inductive Insertion where
  | inserted
  /-- An entry of that key exists; the map is unchanged. -/
  | present
  /-- The map refuses the entry, typically because it is full. -/
  | rejected (code : Int)
deriving DecidableEq, Repr

/-- What the rule needs of a map of counters with states `σ`. Each operation is one atomic step.
`increment` adds one to an existing entry and says whether there was one; `insertNew` creates an
entry that does not exist yet. -/
structure CounterMap (σ : Type) where
  increment : UInt64 → σ → Bool × σ
  insertNew : UInt64 → UInt64 → σ → Insertion × σ

/-- How the recording of an occurrence ended. A dropped occurrence carries the code that says
why. -/
inductive Outcome where
  | counted
  | dropped (code : Int)
deriving DecidableEq, Repr

/-- The code of an entry that was reported present and then found gone: try again. -/
def againCode : Int := -11

def record {σ : Type} (map : CounterMap σ) (key : UInt64) (state : σ) : Outcome × σ :=
  match map.increment key state with
  | (true, state) => (.counted, state)
  | (false, state) =>
      match map.insertNew key 1 state with
      | (.inserted, state) => (.counted, state)
      | (.rejected code, state) => (.dropped code, state)
      | (.present, state) =>
          match map.increment key state with
          | (true, state) => (.counted, state)
          | (false, state) => (.dropped againCode, state)

end SyscallTally.Counter
