import SyscallTally.Proofs.Session.Reads

/-!
Owns sessions that tell all that passes between them and their table and output: what was read, what
the output took of each text it was offered, and how each flush went.

The history is told by a platform that answers like the one inside it (`telling`), among
surroundings that do the same (`Surroundings.telling`). It changes nothing: a session that tells its
history has the results and the states of the session itself (`run_telling`).
-/

set_option autoImplicit false

namespace SyscallTally.Session

open SyscallTally.Counter SyscallTally.Probe

variable {ω π : Type}

/-- Something that passes between a session and its table or its output. -/
inductive Happening where
  | read (result : Except Failure Snapshot)
  /-- The output took the beginning of what it was offered, or nothing. -/
  | taken (text : List Char)
  /-- The output failed when it was offered something. -/
  | refused (text : String)
  | flushed
  | unflushed (text : String)

/-- A state with what has happened so far, the first thing first. -/
structure Told (ω : Type) where
  state : ω
  history : List Happening := []

/-- The history with another state. -/
def Told.withState (state : ω) (told : Told ω) : Told ω := { told with state }

/-- The history with one more happening, and the state that it has left. -/
def Told.after (told : Told ω) (happening : Happening) (state : ω) : Told ω :=
  ⟨state, told.history ++ [happening]⟩

/-- The platform that tells what is read, and answers like the one inside. -/
def telling (platform : Platform ω π) : Platform (Told ω) π :=
  { platform.onPart Told.state Told.withState with
    readTable := fun probe told =>
      let read := platform.readTable probe told.state
      read.onPart (told.after (.read read.result)) }

/-- The surroundings that tell what the output does, and do what those inside do. -/
def Surroundings.telling (around : Surroundings ω) : Surroundings (Told ω) :=
  { around.onPart Told.state Told.withState with
    write := fun text told =>
      match around.write text told.state with
      | (.error reason, state) => (.error reason, told.after (.refused reason) state)
      | (.ok taken, state) => (.ok taken, told.after (.taken (text.take taken)) state)
    flush := fun told =>
      match around.flush told.state with
      | (.error reason, state) => (.error reason, told.after (.unflushed reason) state)
      | (.ok (), state) => (.ok (), told.after .flushed state) }

theorem told_isPart : IsPart (Told.state (ω := ω)) Told.withState :=
  ⟨fun _ _ => rfl, fun _ => rfl, fun _ _ _ => rfl⟩

variable {platform : Platform ω π} {around : Surroundings ω} {probe : π} {told : Told ω}
  {settings : Settings} {attached : ω} {log : List LogRecord}

/-- Attaching is no part of the history. -/
theorem attachProbe_telling (told : Told ω) {event : String} {kind : Kind}
    {result : Except Failure π}
    (attaching : platform.attachProbe event kind told.state = ⟨result, attached, log⟩) :
    (telling platform).attachProbe event kind told = ⟨result, told.withState attached, log⟩ :=
  Platform.attachProbe_of_part told_isPart attaching

/-! ### Single steps -/

section

variable {text : List Char} {reason : String} {taken : Nat} {after : ω}

theorem write_telling_of_error (writing : around.write text told.state = (.error reason, after)) :
    around.telling.write text told = (.error reason, told.after (.refused reason) after) := by
  simp only [Surroundings.telling, writing]

theorem write_telling_of_ok (writing : around.write text told.state = (.ok taken, after)) :
    around.telling.write text told = (.ok taken, told.after (.taken (text.take taken)) after) := by
  simp only [Surroundings.telling, writing]

theorem flush_telling_of_error (flushing : around.flush told.state = (.error reason, after)) :
    around.telling.flush told = (.error reason, told.after (.unflushed reason) after) := by
  simp only [Surroundings.telling, flushing]

theorem flush_telling_of_ok (flushing : around.flush told.state = (.ok (), after)) :
    around.telling.flush told = (.ok (), told.after .flushed after) := by
  simp only [Surroundings.telling, flushing]

end

/-! ### Whole sessions -/

theorem telling_lockstep :
    Lockstep (fun told state => told.state = state) (telling platform) around.telling probe
      platform around probe where
  pause _ same := same ▸ ⟨_, _, _, rfl, rfl, rfl⟩
  write {told state} text same := by
    subst same
    rcases writing : around.write text told.state with ⟨reason | taken, after⟩
    · exact ⟨_, _, _, write_telling_of_error writing, rfl, rfl⟩
    · exact ⟨_, _, _, write_telling_of_ok writing, rfl, rfl⟩
  flush {told state} same := by
    subst same
    rcases flushing : around.flush told.state with ⟨reason | ⟨⟩, after⟩
    · exact ⟨_, _, _, flush_telling_of_error flushing, rfl, rfl⟩
    · exact ⟨_, _, _, flush_telling_of_ok flushing, rfl, rfl⟩
  read same := same ▸ ⟨rfl, rfl⟩

/-- Telling its history changes neither the result of a session nor the state that it ends in. -/
theorem run_telling (platform : Platform ω π) (around : Surroundings ω) (told : Told ω)
    (counting : settings.probe = .count) (rounds : Nat) :
    (run platform around settings rounds told.state).map
        (fun ending => (ending.result, ending.world)) =
      (run (telling platform) around.telling settings rounds told).map
        fun ending => (ending.result, ending.world.state) := by
  rcases attaching : platform.attachProbe settings.event settings.probe told.state with
    ⟨failure | probe, attached, log⟩
  · rw [run_of_unattached attaching, run_of_unattached (attachProbe_telling told attaching)]
    rfl
  · exact telling_lockstep.run_of_part (fun _ => ⟨rfl, rfl⟩) counting
      (attachProbe_telling told attaching) attaching rfl rounds

end SyscallTally.Session
