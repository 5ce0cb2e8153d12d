/-!
Contract: members that take turns on one shared state.

Owns:
- `Crowd`, a shared state and its members, each as far as it has come;
- `TurnRules`, whose turn it is and what a member does in its turn;
- `Crowd.run`, the turns of a schedule, one after the other.

A turn is one atomic step of one member. A schedule is any list of turns, so the runs of all
schedules are all interleavings of the members' steps. A turn of a number that no member has is
idle.
-/

set_option autoImplicit false

namespace SyscallTally.Counter

/-- A shared state and the members that work on it, by number. -/
structure Crowd (σ τ : Type) where
  shared : σ
  members : List τ

/-- How turns `κ` are taken: by whom, and what the member does to itself and the shared state. -/
structure TurnRules (κ σ τ : Type) where
  who : κ → Nat
  advance : κ → τ → σ → τ × σ

namespace Crowd

variable {κ σ τ : Type}

def turn (rules : TurnRules κ σ τ) (crowd : Crowd σ τ) (turn : κ) : Crowd σ τ :=
  match crowd.members[rules.who turn]? with
  | none => crowd
  | some member =>
      let (moved, shared) := rules.advance turn member crowd.shared
      ⟨shared, crowd.members.set (rules.who turn) moved⟩

def run (rules : TurnRules κ σ τ) (schedule : List κ) (crowd : Crowd σ τ) : Crowd σ τ :=
  schedule.foldl (turn rules) crowd

end Crowd

end SyscallTally.Counter
