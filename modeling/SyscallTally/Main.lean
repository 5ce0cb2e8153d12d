import SyscallTally.Command.Run

/-!
Contract: the command line.

The few files that a run can touch are looked at beforehand: that of the settings, the list of
symbols and the probe object. The run itself is `Command.run` on what was found. Afterwards its
output is printed, and the file of the settings is written if the run has changed it.

The kernel of a session is one in which nothing is called and nothing asks the session to stop. So
what shows is whether the probe can be attached. An attached session is given up after a report.
-/

set_option autoImplicit false

namespace SyscallTally.Main

open SyscallTally

/-- The variables that a run looks at. -/
def variableNames : List String :=
  ["HOME", Settings.locationVariable, Settings.objectVariable, Settings.eventVariable]

/-- The environment of this process. -/
def readEnvironment : IO Environment :=
  variableNames.foldlM
    (fun environment name => do
      match ← IO.getEnv name with
      | some value => return environment.set name (Text.Utf8.encode value)
      | none => return environment)
    {}

/-- What the disk has at a path. -/
def lookAt (path : Files.Path) : IO (Option Files.Node) := do
  try
    let octets ← IO.FS.readBinFile (Text.Utf8.lossy path)
    return some (.file (.octets octets.toList))
  catch error =>
    match error with
    | .inappropriateType _ _ _ => return some .directory
    | _ => return none

/-- Notes in a tree what the disk has at a path. -/
def look (store : Files.Store) (path : Files.Path) : IO Files.Store := do
  match ← lookAt path with
  | none => return store
  | some .directory => return (store.createChain path).2
  | some (.file contents) =>
      let prepared := (Settings.prepareParent store path).2
      match prepared.write path contents with
      | .ok written => return written
      | .error _ => return prepared

/-- The effective user in the status of a process: the second number of the line `Uid`. -/
def effectiveUser? (status : String) : Option Nat :=
  let rows := (Text.segments (· == '\n') status.toList).map (Text.tokens Text.isBlank)
  match rows.find? fun columns => columns.head? == some "Uid:".toList with
  | some columns => columns[2]?.bind Text.Decimal.ofDigits?
  | none => none

/-- The effective user of this process; where there is no telling, one without privileges. -/
def readEffectiveUser : IO Nat := do
  try
    let status ← IO.FS.readFile "/proc/self/status"
    return (effectiveUser? status).getD 1
  catch _ => return 1

/-- A short account of the usage. -/
def usage : String :=
  "Usage: execwatch hello [--event <EVENT>]\n"
    ++ "       execwatch count [--event <EVENT>] [--interval-ms <INTERVAL_MS>]\n"
    ++ "       execwatch resolve <EVENT>\n"
    ++ "       execwatch info\n"
    ++ "       execwatch setup [--probe <PROBE>] [--event <EVENT>] [--interval-ms <INTERVAL_MS>]"
    ++ " [--object-path <OBJECT_PATH>]"

/-- Writes the file of the settings if the run has changed it. -/
def writeBack (environment : Environment) (before after : Files.Store) : IO Unit := do
  match Settings.location? environment with
  | none => return ()
  | some path =>
      match after.read path with
      | .ok (.octets octets) =>
          if before.read path matches .ok (.octets _) && before.nodes == after.nodes then return ()
          match Files.Path.parent? path with
          | some parent =>
              if !parent.isEmpty then IO.FS.createDirAll (Text.Utf8.lossy parent)
          | none => pure ()
          IO.FS.writeBinFile (Text.Utf8.lossy path) ⟨octets.toArray⟩
      | _ => return ()

/-- Tells how a run ended. -/
def tell (exit : Command.Exit Command.World) : IO Unit := do
  IO.print exit.world.output
  match exit.diagnostic with
  | .silent => return ()
  | .usage => if exit.code = 0 then IO.println usage else IO.eprintln usage
  | .line text => IO.eprintln text

/-- The number of reports after which a session is given up, since nothing ends it. -/
def reportLimit : Nat := 1

end SyscallTally.Main

open SyscallTally in
/-- Runs the program. -/
def main (arguments : List String) : IO UInt32 := do
  let environment ← Main.readEnvironment
  let empty : Files.Store := { workingDirectory := [Files.dot] }
  let located ← match Settings.location? environment with
    | some path => Main.look empty path
    | none => pure empty
  let (settings, _) := Settings.load environment located
  let withSymbols ← Main.look located settings.symbolsPath
  let files ← Main.look withSymbols settings.objectPath
  let effectiveUser ← Main.readEffectiveUser
  let world : Command.World := { environment, host := { files, effectiveUser } }
  match Command.run (arguments.map Text.Utf8.encode) Main.reportLimit world with
  | none => return 1
  | some exit =>
      Main.tell exit
      Main.writeBack environment files exit.world.host.files
      return UInt32.ofNat exit.code
