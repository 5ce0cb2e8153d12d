import SyscallTally.Session.Basic

/-!
Contract: surroundings in virtual time: what happens is laid down in advance, and waiting takes no
longer than the clock says.

Owns:
- `Event`, what happens at an instant, and `Reaction`, how the output behaves towards one report and
  what its line sets off;
- `World`, a platform's state with the clock, the events to come and the output;
- `surroundings`, which make a session run among these.

Events happen in the order of their times, before anything that is due later. An event at the very
instant at which a pause ends happens after the pause.
-/

set_option autoImplicit false

namespace SyscallTally.Session.Timeline

/-- Occurrences of one process. -/
structure Trigger where
  credentials : UInt64
  times : Nat
  symbol : String
deriving DecidableEq, Repr

/-- What happens at an instant: occurrences, then perhaps the cancellation. -/
structure Event where
  time : Nat
  triggers : List Trigger := []
  cancels : Bool := false
deriving DecidableEq, Repr

/-- How the output behaves towards a report, and what follows when its line has been flushed. -/
structure Reaction where
  writeError : Option String := none
  flushError : Option String := none
  /-- The most characters that one write takes. -/
  mostTaken : Option Nat := none
  triggers : List Trigger := []
  cancels : Bool := false
deriving DecidableEq, Repr

/-- A line and the instant at which it was flushed. -/
structure Line where
  time : Nat
  text : String
deriving DecidableEq, Repr

/-- The state of a session in virtual time, around a platform's state. -/
structure World (σ : Type) where
  platform : σ
  now : Nat := 0
  cancelled : Bool := false
  /-- The events to come, the next one first. -/
  upcoming : List Event := []
  /-- The reactions to the reports, by the number of lines flushed before. -/
  reactions : List Reaction := []
  lines : List Line := []
  /-- What has been written since the last line. -/
  unflushed : List Char := []

section

variable {σ : Type}

/-- Lets occurrences happen on a platform, one after the other. -/
def happen (occur : Trigger → σ → σ) (triggers : List Trigger) (state : σ) : σ :=
  triggers.foldl (fun state trigger => occur trigger state) state

/-- Lets occurrences happen. -/
def World.fire (occur : Trigger → σ → σ) (triggers : List Trigger) (world : World σ) : World σ :=
  { world with platform := happen occur triggers world.platform }

/-- Whether an instant comes before a deadline, if there is one. -/
def isBefore (time : Nat) : Option Nat → Bool
  | none => true
  | some deadline => time < deadline

/-- Lets the given events happen up to a deadline or the cancellation; says whether that came. -/
def elapse (occur : Trigger → σ → σ) (deadline : Option Nat) :
    List Event → World σ → Bool × World σ
  | [], world => (false, { world with now := deadline.getD world.now, upcoming := [] })
  | event :: rest, world =>
      if isBefore event.time deadline then
        let world := { world with now := event.time }.fire occur event.triggers
        if event.cancels then (true, { world with cancelled := true, upcoming := rest })
        else elapse occur deadline rest world
      else (false, { world with now := deadline.getD world.now, upcoming := event :: rest })

/-- Waits for a deadline or the cancellation. -/
def wait (occur : Trigger → σ → σ) (deadline : Option Nat) (world : World σ) : Bool × World σ :=
  if world.cancelled then (true, world) else elapse occur deadline world.upcoming world

/-- The reaction to the report that is being written. -/
def World.reaction (world : World σ) : Reaction :=
  world.reactions[world.lines.length]?.getD {}

/-- Takes as much of a text as the reaction allows. -/
def write (text : List Char) (world : World σ) : Except String Nat × World σ :=
  match world.reaction.writeError with
  | some error => (.error error, world)
  | none =>
      let taken := min text.length (world.reaction.mostTaken.getD text.length)
      (.ok taken, { world with unflushed := world.unflushed ++ text.take taken })

/-- Flushes what has been written as a line, and lets follow what follows. -/
def flush (occur : Trigger → σ → σ) (world : World σ) : Except String Unit × World σ :=
  let reaction := world.reaction
  match reaction.flushError with
  | some error => (.error error, world)
  | none =>
      let line : Line := ⟨world.now, String.ofList world.unflushed⟩
      let flushed := { world with lines := world.lines ++ [line], unflushed := [] }
      let world := flushed.fire occur reaction.triggers
      (.ok (), { world with cancelled := world.cancelled || reaction.cancels })

/-- The surroundings in virtual time. Occurrences reach the platform through `occur`. -/
def surroundings (occur : Trigger → σ → σ) : Surroundings (World σ) where
  pause interval world := wait occur (some (world.now + interval)) world
  awaitCancel world :=
    match wait occur none world with
    | (true, world) => some world
    | (false, _) => none
  write := write
  flush := flush occur

/-- A platform inside virtual time. -/
def inside {π : Type} (platform : Platform σ π) : Platform (World σ) π :=
  platform.onPart World.platform fun state world => { world with platform := state }

end

end SyscallTally.Session.Timeline
