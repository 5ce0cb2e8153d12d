import SyscallTally.Command.Line
import SyscallTally.Platform.Loaded
import SyscallTally.Session.Basic
import SyscallTally.Settings.Saved

/-!
Contract: a whole run of the program, from its arguments to its exit code.

Owns:
- `World`, what a run works with: the environment, the host and the output;
- `Facilities`, what commands call upon: platforms, the surroundings of their sessions, and the
  signal that stops them;
- the five commands, `execute`, and `run`, with the `Exit` that it ends in;
- the facilities of a process, in which a session is cancelled by the signal to stop and nothing
  else.

A usage error ends the run before the settings are read. Every command but that starts from the
settings in force.
-/

set_option autoImplicit false

namespace SyscallTally.Command

open SyscallTally.Platform

/-- The name and version of the program. -/
def programName : String := "execwatch"

/-- The version of the program. -/
def version : String := "0.1.0"

/-- What a run works with. -/
structure World where
  environment : Environment := {}
  host : Loaded.Host
  output : String := ""

/-- Adds a line to the output. -/
def World.print (line : String) (world : World) : World :=
  { world with output := world.output ++ line ++ "\n" }

/-- The lines that tell settings. A path that is not text is shown with replacements. -/
def settingsLines (settings : Settings) : List String :=
  [ "Probe: " ++ settings.probe.name,
    "Event: " ++ settings.event,
    "Polling interval: " ++ Nat.repr settings.interval.toNat ++ " ms",
    "Probe object: " ++ Text.Utf8.lossy settings.objectPath,
    "Kernel symbols: " ++ Text.Utf8.lossy settings.symbolsPath,
    "Version: " ++ version ]

/-- Tells settings. -/
def printSettings (settings : Settings) (world : World) : World :=
  (settingsLines settings).foldl (fun world line => world.print line) world

/-- How a command ended: with a result, and the state as it was then. -/
structure Outcome (ω : Type) where
  result : Except Problem Unit
  world : ω

/-- What the program says at its end, apart from its output. -/
inductive Diagnostic where
  | silent
  /-- An explanation of the usage. -/
  | usage
  | line (text : String)
deriving DecidableEq, Repr

/-- How the program ends. -/
structure Exit (ω : Type) where
  code : Nat
  diagnostic : Diagnostic
  world : ω

/-- The end of a run whose command has been executed. -/
def exitOfOutcome {ω : Type} (outcome : Outcome ω) : Exit ω :=
  match outcome.result with
  | .ok () => ⟨0, .silent, outcome.world⟩
  | .error problem => ⟨problem.exitCode, .line problem.diagnostic, outcome.world⟩

/-- The settings under which a command works: those in force, with the command's own options. -/
def effective (command : Command) (inForce : Settings) : Settings :=
  match command with
  | .hello event =>
      ({ probe := some .hello, event } : Settings.Changes).apply inForce
  | .count event interval =>
      ({ probe := some .count, event, interval } : Settings.Changes).apply inForce
  | _ => inForce

/-- What commands call upon, over states `ω` that have a world in them: the platform for the settings
of a run, whose failures tell their steps, and the surroundings of a session. -/
structure Facilities (ω π : Type) where
  platform : Settings → Platform ω π
  around : Session.Surroundings ω
  /-- Begins to listen for the signal to stop, which is what cancels a session. -/
  listen : ω → Except String Unit × ω
  world : ω → World
  withWorld : World → ω → ω
  named : ∀ settings, (platform settings).FailsInOwnName

namespace Facilities

variable {ω π : Type}

/-- Changes the world in a state. -/
def inWorld (facilities : Facilities ω π) (change : World → World) (whole : ω) : ω :=
  facilities.withWorld (change (facilities.world whole)) whole

/-- Runs a session of at most the given number of reports. There is none that could not be stopped. -/
def runSession (facilities : Facilities ω π) (settings : Settings) (rounds : Nat) (whole : ω) :
    Option (Outcome ω) :=
  match facilities.listen whole with
  | (.error text, whole) => some ⟨.error ⟨.other text, []⟩, whole⟩
  | (.ok (), whole) =>
      (Session.run (facilities.platform settings) facilities.around settings rounds whole).map
        fun ending => ⟨ending.result, ending.world⟩

/-- Counts, with settings that leave a pause between reports. -/
def runCount (facilities : Facilities ω π) (settings : Settings) (rounds : Nat) (whole : ω) :
    Option (Outcome ω) :=
  match settings.validate with
  | .error problem => some ⟨.error problem, whole⟩
  | .ok () => facilities.runSession settings rounds whole

/-- Tells the symbol of an event. -/
def runResolve (facilities : Facilities ω π) (settings : Settings) (event : String) (whole : ω) :
    Outcome ω :=
  let response := (facilities.platform settings).resolve event whole
  match response.result with
  | .error failure => ⟨.error (.ofFailure failure), response.state⟩
  | .ok target =>
      ⟨.ok (), facilities.inWorld (·.print (target.name ++ " -> " ++ target.symbol))
        response.state⟩

/-- Saves changed settings and tells them. -/
def runSetup (facilities : Facilities ω π) (changes : Settings.Changes) (whole : ω) : Outcome ω :=
  let world := facilities.world whole
  let modified := Settings.modify world.environment changes world.host.files
  let whole := facilities.withWorld { world with host := { world.host with files := modified.store } }
    whole
  match modified.result with
  | .error problem => ⟨.error problem, whole⟩
  | .ok settings => ⟨.ok (), facilities.inWorld (printSettings settings) whole⟩

def execute (facilities : Facilities ω π) (command : Command) (rounds : Nat) (whole : ω) :
    Option (Outcome ω) :=
  let world := facilities.world whole
  let (inForce, _) := Settings.load world.environment world.host.files
  let settings := effective command inForce
  match command with
  | .hello _ => facilities.runSession settings rounds whole
  | .count _ _ => facilities.runCount settings rounds whole
  | .resolve event => some (facilities.runResolve settings event whole)
  | .info => some ⟨.ok (), facilities.inWorld (printSettings settings) whole⟩
  | .setup changes => some (facilities.runSetup changes whole)

/-- The end of a run whose arguments make no command. -/
def exitOfUsage (facilities : Facilities ω π) (error : UsageError) (whole : ω) : Exit ω :=
  match error with
  | .versionRequested =>
      ⟨error.exitCode, .silent, facilities.inWorld (·.print (programName ++ " " ++ version)) whole⟩
  | _ => ⟨error.exitCode, .usage, whole⟩

/-- A whole run, of at most the given number of reports. -/
def run (facilities : Facilities ω π) (arguments : List Text.Octets) (rounds : Nat) (whole : ω) :
    Option (Exit ω) :=
  match parse arguments with
  | .error error => some (facilities.exitOfUsage error whole)
  | .ok command => (facilities.execute command rounds whole).map exitOfOutcome

end Facilities

/-! ## A process -/

/-- The surroundings of a session in a process. Time passes as it will; all that counts is whether
the process has been told to stop. The output takes everything. -/
def surroundings : Session.Surroundings World where
  pause _ world := (world.host.machine.stopped, world)
  awaitCancel world := if world.host.machine.stopped then some world else none
  write text world :=
    (.ok text.length, { world with output := world.output ++ String.ofList text })
  flush world := (.ok (), world)

/-- The platform of a process with the given settings. -/
def platform (settings : Settings) : Platform World Loaded.Probe :=
  (Loaded.platform ⟨settings.objectPath, settings.symbolsPath⟩).onPart World.host
    fun host world => { world with host }

def facilities : Facilities World Loaded.Probe where
  platform := platform
  around := surroundings
  listen world := (.ok (), world)
  world := id
  withWorld world _ := world
  named _ := (Loaded.failsInOwnName _).onPart _ _

/-- A whole run of a process, of at most the given number of reports. -/
def run (arguments : List Text.Octets) (rounds : Nat) (world : World) : Option (Exit World) :=
  facilities.run arguments rounds world

end SyscallTally.Command
