import SyscallTally.Counter.Occurrence

/-!
Contract: a recording in progress, one atomic step at a time.

`record` runs to its end on a map that nobody else touches. On several processors the steps of many
recordings interleave, and each recording stands at one of the points listed here between its
steps. `advance` is one step; `advance_advance_advance` says that three steps on an undisturbed map
are `record`.
-/

set_option autoImplicit false

namespace SyscallTally.Counter

/-- Where a recording stands between two of its steps. -/
inductive Recording where
  /-- Nothing has been done yet. -/
  | begun
  /-- The key was absent; the entry is to be created next. -/
  | missed
  /-- The entry was created by another recording; it is to be incremented next. -/
  | forestalled
  /-- The recording has ended. -/
  | ended (outcome : Outcome)
deriving DecidableEq, Repr

/-- The next atomic step of a recording of the given key. One that has ended takes no step. -/
def Recording.advance {σ : Type} (map : CounterMap σ) (key : UInt64) :
    Recording → σ → Recording × σ
  | .begun, state =>
      match map.increment key state with
      | (true, state) => (.ended .counted, state)
      | (false, state) => (.missed, state)
  | .missed, state =>
      match map.insertNew key 1 state with
      | (.inserted, state) => (.ended .counted, state)
      | (.rejected code, state) => (.ended (.dropped code), state)
      | (.present, state) => (.forestalled, state)
  | .forestalled, state =>
      match map.increment key state with
      | (true, state) => (.ended .counted, state)
      | (false, state) => (.ended (.dropped againCode), state)
  | .ended outcome, state => (.ended outcome, state)

/-- Three steps without interference end every recording, with the outcome and the map of
`record`. -/
theorem advance_advance_advance {σ : Type} (map : CounterMap σ) (key : UInt64) (state : σ) :
    let first := Recording.advance map key .begun state
    let second := Recording.advance map key first.1 first.2
    Recording.advance map key second.1 second.2 =
      (.ended (record map key state).1, (record map key state).2) := by
  simp only [Recording.advance, record]
  rcases missed : map.increment key state with ⟨_ | _, missedState⟩
  · rcases tried : map.insertNew key 1 missedState with ⟨_ | _ | code, triedState⟩
    · simp only [tried]
    · rcases again : map.increment key triedState with ⟨_ | _, finalState⟩ <;>
        simp only [tried, again]
    · simp only [tried]
  · rfl

end SyscallTally.Counter
