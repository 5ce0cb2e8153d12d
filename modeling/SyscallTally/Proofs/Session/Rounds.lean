import SyscallTally.Session.Basic

/-!
Owns the reports of a session as a relation (`Rounds`), with one rule for each way in which a round
of the loop can go, and its agreement with the loop (`reportEach_iff_rounds`). What holds of a whole
loop is proved by induction on its rounds.
-/

set_option autoImplicit false

namespace SyscallTally.Session

open SyscallTally.Counter SyscallTally.Probe

variable {ω π : Type}

/-- The rounds of a loop of reports from a state to an ending, with the number of reports that it
may make. -/
inductive Rounds (platform : Platform ω π) (around : Surroundings ω) (interval : Nat) (probe : π) :
    Nat → ω → Ending ω → Prop where
  | cancelled {rounds : Nat} {world after : ω}
      (pausing : around.pause interval world = (true, after)) :
      Rounds platform around interval probe rounds world
        ⟨.ok (), after, [⟨.debug, "polling cancelled"⟩]⟩
  | unread {rounds : Nat} {world after left : ω} {failure : Failure} {log : List LogRecord}
      (pausing : around.pause interval world = (false, after))
      (reading : platform.readTable probe after = ⟨.error failure, left, log⟩) :
      Rounds platform around interval probe (rounds + 1) world
        ⟨.error (.ofFailure failure), left, log⟩
  | unreported {rounds : Nat} {world after left last : ω} {snapshot : Snapshot}
      {log : List LogRecord} {problem : Problem}
      (pausing : around.pause interval world = (false, after))
      (reading : platform.readTable probe after = ⟨.ok snapshot, left, log⟩)
      (reporting : report around snapshot left = (.error problem, last)) :
      Rounds platform around interval probe (rounds + 1) world
        ⟨.error problem, last, log ++ [readRecord snapshot]⟩
  | reported {rounds : Nat} {world after left next : ω} {snapshot : Snapshot}
      {log : List LogRecord} {ending : Ending ω}
      (pausing : around.pause interval world = (false, after))
      (reading : platform.readTable probe after = ⟨.ok snapshot, left, log⟩)
      (reporting : report around snapshot left = (.ok (), next))
      (goingOn : Rounds platform around interval probe rounds next ending) :
      Rounds platform around interval probe (rounds + 1) world
        (ending.following (log ++ [readRecord snapshot]))

variable {platform : Platform ω π} {around : Surroundings ω} {interval rounds : Nat} {probe : π}
  {world : ω} {ending : Ending ω}

theorem Rounds.of_reportEach
    (ends : reportEach platform around interval probe rounds world = some ending) :
    Rounds platform around interval probe rounds world ending := by
  induction rounds generalizing world ending with
  | zero =>
      rw [reportEach] at ends
      rcases pausing : around.pause interval world with ⟨_ | _, after⟩
      · simp only [pausing, reduceCtorEq] at ends
      · simp only [pausing, Option.some.injEq] at ends
        rw [← ends]
        exact .cancelled pausing
  | succ rounds inductionHypothesis =>
      rw [reportEach] at ends
      rcases pausing : around.pause interval world with ⟨_ | _, after⟩
      case true =>
        simp only [pausing, Option.some.injEq] at ends
        rw [← ends]
        exact .cancelled pausing
      case false =>
        rcases reading : platform.readTable probe after with ⟨failure | snapshot, left, log⟩
        · simp only [pausing, reading, Option.some.injEq] at ends
          rw [← ends]
          exact .unread pausing reading
        · rcases reporting : report around snapshot left with ⟨problem | ⟨⟩, next⟩
          · simp only [pausing, reading, reporting, Option.some.injEq] at ends
            rw [← ends]
            exact .unreported pausing reading reporting
          · simp only [pausing, reading, reporting, Option.map_eq_some_iff] at ends
            obtain ⟨later, endsLater, rfl⟩ := ends
            exact .reported pausing reading reporting (inductionHypothesis endsLater)

theorem Rounds.ends (going : Rounds platform around interval probe rounds world ending) :
    reportEach platform around interval probe rounds world = some ending := by
  induction going with
  | cancelled pausing => rw [reportEach, pausing]
  | unread pausing reading =>
      rw [reportEach, pausing]
      simp only [reading]
  | unreported pausing reading reporting =>
      rw [reportEach, pausing]
      simp only [reading, reporting]
  | reported pausing reading reporting goingOn inductionHypothesis =>
      rw [reportEach, pausing]
      simp only [reading, reporting, inductionHypothesis, Option.map_some]

theorem reportEach_iff_rounds :
    reportEach platform around interval probe rounds world = some ending ↔
      Rounds platform around interval probe rounds world ending :=
  ⟨Rounds.of_reportEach, Rounds.ends⟩

end SyscallTally.Session
