import SyscallTally.Files.Store
import SyscallTally.Kernel.Elf.Reader
import SyscallTally.Kernel.Machine
import SyscallTally.Platform.Basic
import SyscallTally.Problem

/-!
Contract: the platform that loads a compiled object into a kernel.

Owns:
- `Host`, the files, the kernel and the effective user of a process;
- the order of the steps of attaching, and the reason that each of them fails with;
- reading the table of a probe, and detaching it.

## The order of attaching

The object is read and loaded with its maps, the log is started, the table must be in the object,
the program must be in it and be loaded, and last the program is hooked on the symbol. A log that
cannot be started ends the attachment of a program whose only output it is; for any other it is a
warning.
-/

set_option autoImplicit false

namespace SyscallTally.Platform.Loaded

open SyscallTally.Counter SyscallTally.Kernel SyscallTally.Probe

/-- The surroundings of a process. -/
structure Host where
  files : Files.Store
  machine : Machine := {}
  effectiveUser : Nat := 0

/-- Where the platform finds its files. -/
structure Paths where
  object : Files.Path
  symbols : Files.Path
deriving DecidableEq, Repr

/-- A probe in the kernel: its program, its target, the table of its object, and its hook as long as
it is attached. A probe keeps the number of its hook, whose table is that of the probe. -/
structure Probe where
  program : String
  target : Target
  table : Option (String × MapSpec)
  hook : Nat
  attached : Bool
deriving DecidableEq, Repr

/-! ## Symbols and privileges -/

/-- The symbols in a file. Opening it and reading it fail differently. -/
def loadSymbols (files : Files.Store) (path : Files.Path) : Except Problem Symbols :=
  let openFailed := "Failed to open " ++ Files.Path.quoted path
  let readFailed := "Failed to read " ++ Files.Path.quoted path
  match files.openNode path with
  | .error fault => .error ⟨.file fault, [openFailed]⟩
  | .ok .directory => .error ⟨.file .isDirectory, [readFailed]⟩
  | .ok (.file (.object _)) => .error ⟨.notText, [readFailed]⟩
  | .ok (.file (.octets listing)) =>
      match Symbols.parse? listing with
      | none => .error ⟨.notText, [readFailed]⟩
      | some symbols => .ok symbols

/-- Resolves an event in the file of symbols. -/
def resolve (paths : Paths) (event : String) (host : Host) : Response Host Target :=
  match loadSymbols host.files paths.symbols with
  | .error problem => ⟨.error (.resolution event problem.chain), host, []⟩
  | .ok symbols => ⟨symbols.resolve event, host, []⟩

/-- Only the user with number zero may load programs. -/
def ensurePrivileges (target : Target) (artifact : Artifact) (host : Host) : Response Host Unit :=
  if host.effectiveUser = 0 then ⟨.ok (), host, []⟩
  else
    ⟨.error (.attachment artifact.program target.symbol
      ("loading kernel probes requires root privileges (effective uid is "
        ++ Nat.repr host.effectiveUser ++ ")")), host, []⟩

/-! ## Attaching -/

def readObjectFile (files : Files.Store) (path : Files.Path) : Except Refusal ObjectFile :=
  match files.read path with
  | .error _ => .error (.unreadable path)
  | .ok (.object blueprint) => .ok blueprint.file
  | .ok (.octets octets) =>
      match Elf.objectFile? octets with
      | none => .error .malformed
      | some file => .ok file

/-- The object of a file, loaded. -/
def loadObject (paths : Paths) (host : Host) : Except String Object :=
  let loaded := do
    let file ← readObjectFile host.files paths.object
    let object ← Object.ofFile file
    host.machine.loadObject object
    return object
  loaded.mapError fun refusal =>
    "failed to load " ++ Files.Path.quoted paths.object ++ ": " ++ refusal.message

/-- Starts the log of an object, as far as the program needs it. -/
def startLog (artifact : Artifact) (object : Object) (host : Host) :
    Except String Unit × List LogRecord :=
  match host.machine.startLog object with
  | .ok () => (.ok (), [])
  | .error refusal =>
      let message := "failed to initialize eBPF logger: " ++ refusal.message
      if artifact.needsLogger then (.error message, []) else (.ok (), [⟨.warn, message⟩])

/-- The table that a program needs, in its object. -/
def findTable (artifact : Artifact) (object : Object) :
    Except String (Option (String × MapSpec)) :=
  match artifact.table with
  | none => .ok none
  | some name =>
      match object.map? name with
      | some found => .ok (some (name, found))
      | none => .error (Refusal.noTable name).message

/-- Hooks a loaded program on the symbol of its target. -/
def hookProgram (target : Target) (artifact : Artifact) (table : Option (String × MapSpec))
    (host : Host) : Except String (Probe × Host) :=
  let capacity := (table.map fun found => found.2.capacity).getD 0
  match host.machine.hook target.symbol artifact.program capacity with
  | .error refusal => .error refusal.message
  | .ok (number, machine) =>
      .ok (⟨artifact.program, target, table, number, true⟩, { host with machine })

/-- The steps of attaching, in their order, with a reason for the first that fails. -/
def install (paths : Paths) (target : Target) (artifact : Artifact) (host : Host) :
    Except String (Probe × Host) × List LogRecord :=
  match loadObject paths host with
  | .error reason => (.error reason, [])
  | .ok object =>
      let loaded : LogRecord := ⟨.debug, "loaded probe object " ++ Files.Path.quoted paths.object⟩
      match startLog artifact object host with
      | (.error reason, log) => (.error reason, loaded :: log)
      | (.ok (), log) =>
          let log := loaded :: log
          match findTable artifact object with
          | .error reason => (.error reason, log)
          | .ok table =>
              match host.machine.loadProgram object artifact.program with
              | .error refusal => (.error refusal.message, log)
              | .ok () =>
                  let log := log ++ [⟨.debug, "loaded program " ++ artifact.program⟩]
                  match hookProgram target artifact table host with
                  | .error reason => (.error reason, log)
                  | .ok installed =>
                      (.ok installed, log ++ [⟨.info, "attached " ++ artifact.program ++ " to "
                        ++ target.symbol⟩])

/-- Attaches a program. A failure leaves the host as it was. -/
def attach (paths : Paths) (target : Target) (artifact : Artifact) (host : Host) :
    Response Host Probe :=
  match install paths target artifact host with
  | (.error reason, log) =>
      ⟨.error (.attachment artifact.program target.symbol reason), host, log⟩
  | (.ok (probe, host), log) => ⟨.ok probe, host, log⟩

/-! ## Reading and detaching -/

/-- Checks that a map is a table of 64-bit counters under 64-bit keys. -/
def checkLayout (table : MapSpec) : Except Refusal Unit :=
  if !table.mapType.isPlainHash then .error (.tableType table.mapType.number)
  else if table.keySize ≠ 8 then .error (.keySize table.keySize)
  else if table.valueSize ≠ 8 then .error (.valueSize table.valueSize)
  else .ok ()

/-- Reads the table of an attached probe by walking it. -/
def readTable (probe : Probe) (host : Host) : Response Host Snapshot :=
  match probe.table with
  | none => ⟨.error (.tableRead probe.program "probe has no table"), host, []⟩
  | some (name, table) =>
      if !probe.attached then ⟨.error (.tableRead name "probe is detached"), host, []⟩
      else
        match checkLayout table with
        | .error refusal => ⟨.error (.tableRead name refusal.message), host, []⟩
        | .ok () =>
            match host.machine.walk probe.hook with
            | (.error refusal, machine) =>
                ⟨.error (.tableRead name refusal.message), { host with machine }, []⟩
            | (.ok entries, machine) =>
                ⟨.ok (Snapshot.ofList entries), { host with machine }, []⟩

/-- Detaches a probe. The second time nothing happens. -/
def detach (probe : Probe) (host : Host) : Probe × Response Host Unit :=
  if probe.attached then
    ({ probe with attached := false },
      ⟨.ok (), { host with machine := host.machine.unhook probe.hook },
        [⟨.info, "detached " ++ probe.program ++ " from " ++ probe.target.symbol⟩]⟩)
  else (probe, ⟨.ok (), host, []⟩)

def platform (paths : Paths) : Platform Host Probe where
  resolve := resolve paths
  ensurePrivileges := ensurePrivileges
  attach := attach paths
  readTable := readTable
  detach := detach
  program := Probe.program
  target := Probe.target
  isAttached := Probe.attached

theorem failsInOwnName (paths : Paths) : (platform paths).FailsInOwnName where
  resolve := by
    intro event host failure failed
    simp only [platform, resolve] at failed
    split at failed
    case h_1 => exact ⟨_, (Except.error.inj failed).symm⟩
    case h_2 => exact Symbols.resolve_fails_in_own_name failed
  ensurePrivileges := by
    intro target artifact host failure failed
    simp only [platform, ensurePrivileges] at failed
    split at failed
    case isTrue => cases failed
    case isFalse => exact ⟨_, (Except.error.inj failed).symm⟩
  attach := by
    intro target artifact host failure failed
    simp only [platform, attach] at failed
    split at failed
    case h_1 => exact ⟨_, (Except.error.inj failed).symm⟩
    case h_2 => cases failed
  readTable := by
    intro probe host failure failed
    simp only [platform, readTable] at failed
    split at failed
    case h_1 => exact ⟨_, _, (Except.error.inj failed).symm⟩
    case h_2 =>
      split at failed
      case isTrue => exact ⟨_, _, (Except.error.inj failed).symm⟩
      case isFalse =>
        split at failed
        case h_1 => exact ⟨_, _, (Except.error.inj failed).symm⟩
        case h_2 =>
          split at failed
          case h_1 => exact ⟨_, _, (Except.error.inj failed).symm⟩
          case h_2 => cases failed
  detach := by
    intro probe host failure failed
    simp only [platform, detach] at failed
    split at failed
    case isTrue => cases failed
    case isFalse => cases failed

end SyscallTally.Platform.Loaded
