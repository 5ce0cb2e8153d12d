import SyscallTally.Platform.Basic
import SyscallTally.Settings.Basic
import SyscallTally.Text.Elapsed

/-!
Contract: a session: a probe is attached, kept until the session is cancelled or a report fails, and
detached.

Owns:
- `Surroundings`, the clock, the cancellation and the output that a session runs among, and
  `Surroundings.onPart`, the same as a part of a larger state;
- `report`, one line written whole and flushed;
- `reportEach`, the reports of a counting session;
- `run`, the whole session.

## Every way out detaches

Once a probe is attached there is exactly one way on, whatever the reports do: the probe is detached
and the session ends. A failed report is the result even if detaching fails too.

## Rounds

A session that nobody cancels and no report ends goes on for ever. `run` is given a number of
reports that it may make; it has no answer if the session would go on after them.
-/

set_option autoImplicit false

namespace SyscallTally.Session

open SyscallTally.Counter SyscallTally.Probe

/-- What a session runs among, with states `ω`. The output takes ASCII, so characters and octets are
the same to it. -/
structure Surroundings (ω : Type) where
  /-- Waits the given milliseconds, unless the session is cancelled before they are over; says
  whether it was. -/
  pause : Nat → ω → Bool × ω
  /-- Waits for the cancellation, if it ever comes. -/
  awaitCancel : ω → Option ω
  /-- Offers a text to the output, which takes as many of its first characters as it says. -/
  write : List Char → ω → Except String Nat × ω
  flush : ω → Except String Unit × ω

/-- The surroundings as a part of a larger state. -/
def Surroundings.onPart {σ ω : Type} (around : Surroundings σ) (part : ω → σ)
    (replace : σ → ω → ω) : Surroundings ω where
  pause interval whole :=
    let (cancelled, state) := around.pause interval (part whole)
    (cancelled, replace state whole)
  awaitCancel whole := (around.awaitCancel (part whole)).map (replace · whole)
  write text whole :=
    let (taken, state) := around.write text (part whole)
    (taken, replace state whole)
  flush whole :=
    let (flushed, state) := around.flush (part whole)
    (flushed, replace state whole)

/-- How a session, or its reports, ended. -/
structure Ending (ω : Type) where
  result : Except Problem Unit
  world : ω
  log : List LogRecord := []

/-- An ending after earlier records. -/
def Ending.following {ω : Type} (earlier : List LogRecord) (ending : Ending ω) : Ending ω :=
  { ending with log := earlier ++ ending.log }

section

variable {ω π : Type}

/-! ## One report -/

/-- The text of an output that takes nothing of what it is offered. -/
def nothingTaken : String := "failed to write whole buffer"

/-- Writes a text to its end, after skipping characters that the output has taken already. -/
def writeAll (around : Surroundings ω) : Nat → List Char → ω → Except String Unit × ω
  | _, [], world => (.ok (), world)
  | skipped + 1, _ :: rest, world => writeAll around skipped rest world
  | 0, char :: rest, world =>
      match around.write (char :: rest) world with
      | (.error text, world) => (.error text, world)
      | (.ok 0, world) => (.error nothingTaken, world)
      | (.ok (taken + 1), world) => writeAll around taken rest world

/-- Writes the line of a snapshot and flushes it. -/
def report (around : Surroundings ω) (snapshot : Snapshot) (world : ω) :
    Except Problem Unit × ω :=
  match writeAll around 0 snapshot.line.toList world with
  | (.error text, world) => (.error ⟨.output text, ["Failed to write report"]⟩, world)
  | (.ok (), world) =>
      match around.flush world with
      | (.error text, world) => (.error ⟨.output text, ["Failed to flush report"]⟩, world)
      | (.ok (), world) => (.ok (), world)

/-- The record about a snapshot that was read. -/
def readRecord (snapshot : Snapshot) : LogRecord :=
  if snapshot.isEmpty then ⟨.debug, "no occurrences recorded yet"⟩
  else ⟨.debug, "read " ++ Nat.repr snapshot.size ++ " entries"⟩

/-! ## The reports of a session -/

/-- Reports after every interval until the session is cancelled or a report fails, for at most the
given number of reports. -/
def reportEach (platform : Platform ω π) (around : Surroundings ω) (interval : Nat)
    (probe : π) : Nat → ω → Option (Ending ω)
  | rounds, world =>
      match around.pause interval world with
      | (true, world) => some ⟨.ok (), world, [⟨.debug, "polling cancelled"⟩]⟩
      | (false, world) =>
          match rounds with
          | 0 => none
          | rounds + 1 =>
              let read := platform.readTable probe world
              match read.result with
              | .error failure => some ⟨.error (.ofFailure failure), read.state, read.log⟩
              | .ok snapshot =>
                  let log := read.log ++ [readRecord snapshot]
                  match report around snapshot read.state with
                  | (.error problem, world) => some ⟨.error problem, world, log⟩
                  | (.ok (), world) =>
                      (reportEach platform around interval probe rounds world).map
                        (Ending.following log)

/-- What a session does between attaching and detaching. -/
def watch (platform : Platform ω π) (around : Surroundings ω) (settings : Settings)
    (probe : π) (rounds : Nat) (world : ω) : Option (Ending ω) :=
  match settings.probe with
  | .count =>
      let started : LogRecord := ⟨.info, "counting " ++ settings.event
        ++ " calls per user ID, reporting every " ++ Text.elapsed settings.interval.toNat⟩
      (reportEach platform around settings.interval.toNat probe rounds world).map
        (Ending.following [started])
  | .hello =>
      let started : LogRecord := ⟨.info, "tracing " ++ settings.event
        ++ ", press Ctrl-C to stop"⟩
      (around.awaitCancel world).map fun world => ⟨.ok (), world, [started]⟩

/-- The result of a session: that of its reports, or else that of detaching. -/
def combine (reports : Except Problem Unit) (detached : Except Failure Unit) :
    Except Problem Unit :=
  match reports with
  | .error problem => .error problem
  | .ok () =>
      match detached with
      | .error failure => .error (.ofFailure failure)
      | .ok () => .ok ()

/-- Detaches the probe of a session that has come to its end. -/
def finish (platform : Platform ω π) (probe : π) (ending : Ending ω) : Ending ω :=
  let (_, detached) := platform.detach probe ending.world
  ⟨combine ending.result detached.result, detached.state, ending.log ++ detached.log⟩

/-- A whole session, of at most the given number of reports. -/
def run (platform : Platform ω π) (around : Surroundings ω) (settings : Settings)
    (rounds : Nat) (world : ω) : Option (Ending ω) :=
  let attached := platform.attachProbe settings.event settings.probe world
  match attached.result with
  | .error failure => some ⟨.error (.ofFailure failure), attached.state, attached.log⟩
  | .ok probe =>
      (watch platform around settings probe rounds attached.state).map fun ending =>
        (finish platform probe ending).following attached.log

end

end SyscallTally.Session
