import SyscallTally.Counter.Occurrence

/-!
Contract: a map of counters whose answers are laid down in advance, with a list of the calls made
to it.

It shows which operations a recording uses, in which order, whatever the answers are.
-/

set_option autoImplicit false

namespace SyscallTally.Counter.Scripted

/-- A call to the map. -/
inductive Call where
  | increment (key : UInt64)
  | insertNew (key value : UInt64)
deriving DecidableEq, Repr

/-- The answers to come, and the calls made, the first one first. -/
structure State where
  /-- The answers to increments; when they are used up, the entry is absent. -/
  increments : List Bool := []
  insertion : Insertion := .inserted
  calls : List Call := []
deriving DecidableEq, Repr

def counterMap : CounterMap State where
  increment key state :=
    (state.increments.headD false,
      { state with
        increments := state.increments.tail
        calls := state.calls ++ [.increment key] })
  insertNew key value state :=
    (state.insertion, { state with calls := state.calls ++ [.insertNew key value] })

end SyscallTally.Counter.Scripted
