import SyscallTally.Proofs.Session.Lockstep
import SyscallTally.Proofs.Session.Parts

/-!
Owns sessions that note when their table is read, with what result, and how detaching went.

Notes are taken by a platform that answers like the one inside it (`noting`), among surroundings
that leave them alone. They change nothing: a session that takes them has the results and the states
of the session itself (`run_noting`).
-/

set_option autoImplicit false

namespace SyscallTally.Session

open SyscallTally.Counter SyscallTally.Probe

variable {ω π : Type}

/-- A state with notes on the reads made so far, each with its instant, and on detachments. -/
structure Noted (ω : Type) where
  state : ω
  reads : List (Nat × Except Failure Snapshot) := []
  detachments : List (Except Failure Unit) := []

/-- The notes with another state. -/
def Noted.withState (state : ω) (noted : Noted ω) : Noted ω := { noted with state }

/-- The notes with one more read, and the state that it has left. -/
def Noted.withRead (noted : Noted ω) (instant : Nat) (result : Except Failure Snapshot)
    (state : ω) : Noted ω :=
  { noted with state, reads := noted.reads ++ [(instant, result)] }

/-- The notes with one more detachment, and the state that it has left. -/
def Noted.withDetachment (noted : Noted ω) (result : Except Failure Unit) (state : ω) :
    Noted ω :=
  { noted with state, detachments := noted.detachments ++ [result] }

/-- The platform that takes notes and answers like the one inside. -/
def noting (clock : ω → Nat) (platform : Platform ω π) : Platform (Noted ω) π :=
  { platform.onPart Noted.state Noted.withState with
    readTable := fun probe noted =>
      let read := platform.readTable probe noted.state
      read.onPart (noted.withRead (clock noted.state) read.result)
    detach := fun probe noted =>
      let (detached, response) := platform.detach probe noted.state
      (detached, response.onPart (noted.withDetachment response.result)) }

/-- The surroundings, which leave the notes alone. -/
def Surroundings.noted (around : Surroundings ω) : Surroundings (Noted ω) :=
  around.onPart Noted.state Noted.withState

theorem noted_isPart : IsPart (Noted.state (ω := ω)) Noted.withState :=
  ⟨fun _ _ => rfl, fun _ => rfl, fun _ _ _ => rfl⟩

variable {platform : Platform ω π} {around : Surroundings ω} {probe : π} {noted : Noted ω}
  {clock : ω → Nat} {settings : Settings} {attached : ω} {log : List LogRecord}

theorem attachProbe_noted (clock : ω → Nat) (noted : Noted ω) {event : String} {kind : Kind}
    {result : Except Failure π}
    (attaching : platform.attachProbe event kind noted.state = ⟨result, attached, log⟩) :
    (noting clock platform).attachProbe event kind noted =
      ⟨result, noted.withState attached, log⟩ :=
  Platform.attachProbe_of_part noted_isPart attaching

theorem pause_noted {interval : Nat} {answer : Bool} {after : ω}
    (pausing : around.pause interval noted.state = (answer, after)) :
    around.noted.pause interval noted = (answer, noted.withState after) := by
  have pausingPart : around.noted.pause interval noted =
    ((around.pause interval noted.state).1,
      noted.withState (around.pause interval noted.state).2) := rfl
  rw [pausingPart, pausing]

theorem readTable_noted {result : Except Failure Snapshot} {left : ω}
    (reading : platform.readTable probe noted.state = ⟨result, left, log⟩) :
    (noting clock platform).readTable probe noted =
      ⟨result, noted.withRead (clock noted.state) result left, log⟩ := by
  have readingPart : (noting clock platform).readTable probe noted =
    (platform.readTable probe noted.state).onPart
      (noted.withRead (clock noted.state) (platform.readTable probe noted.state).result) := rfl
  rw [readingPart, reading]
  rfl

theorem report_noted {snapshot : Snapshot} {result : Except Problem Unit} {after : ω}
    (reporting : report around snapshot noted.state = (result, after)) :
    report around.noted snapshot noted = (result, noted.withState after) := by
  have reportingPart := report_onPart noted_isPart around snapshot noted
  rwa [reporting] at reportingPart

theorem noting_lockstep :
    Lockstep (fun noted state => noted.state = state) (noting clock platform) around.noted probe
      platform around probe where
  pause _ same := same ▸ ⟨_, _, _, rfl, rfl, rfl⟩
  write _ same := same ▸ ⟨_, _, _, rfl, rfl, rfl⟩
  flush same := same ▸ ⟨_, _, _, rfl, rfl, rfl⟩
  read same := same ▸ ⟨rfl, rfl⟩

/-- Taking notes changes neither the result of a session nor the state that it ends in. -/
theorem run_noting (clock : ω → Nat) (around : Surroundings ω) (noted : Noted ω)
    (counting : settings.probe = .count)
    (attaching : platform.attachProbe settings.event settings.probe noted.state =
      ⟨.ok probe, attached, log⟩) (rounds : Nat) :
    (run platform around settings rounds noted.state).map
        (fun ending => (ending.result, ending.world)) =
      (run (noting clock platform) around.noted settings rounds noted).map
        fun ending => (ending.result, ending.world.state) :=
  noting_lockstep.run_of_part (fun _ => ⟨rfl, rfl⟩) counting
    (attachProbe_noted clock noted attaching) attaching rfl rounds

end SyscallTally.Session
