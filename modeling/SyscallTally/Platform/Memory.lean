import SyscallTally.Platform.Basic

/-!
Contract: a platform in memory, with the same rule of counting as the kernel's program.

It has a list of symbols, one table for all its probes and the number of live counting probes. An
occurrence is counted once, however many counting probes are attached, and not at all while there
are none.
-/

set_option autoImplicit false

namespace SyscallTally.Platform.Memory

open SyscallTally.Counter SyscallTally.Kernel SyscallTally.Probe

/-- The state of the platform, and how it is set up to fail. -/
structure State where
  symbols : Symbols := ⟨["sys_bpf", "sys_execve", "sys_execveat"]⟩
  table : Table := Table.empty limit
  /-- The number of attached counting probes. -/
  attached : Int := 0
  privileged : Bool := true
  rejecting : Bool := false
  hasLogger : Bool := true
  hasTable : Bool := true

structure Probe where
  program : String
  target : Target
  table : Option String
  attached : Bool
deriving DecidableEq, Repr

/-- Resolves an event in the list of symbols. -/
def resolve (event : String) (state : State) : Response State Target :=
  ⟨state.symbols.resolve event, state, []⟩

/-- Checks privileges. -/
def ensurePrivileges (target : Target) (artifact : Artifact) (state : State) :
    Response State Unit :=
  if state.privileged then ⟨.ok (), state, []⟩
  else ⟨.error (.attachment artifact.program target.symbol "requires root privileges"), state, []⟩

/-- The reason why a program cannot be attached. -/
def refusal? (artifact : Artifact) (state : State) : Option String :=
  if state.rejecting then some "verifier rejected program"
  else if artifact.needsLogger && !state.hasLogger then some "failed to initialize eBPF logger"
  else
    match artifact.table with
    | some table =>
        if state.hasTable then none
        else some ("table " ++ table ++ " not found in probe object")
    | none => none

/-- Installs a program. Only a program with a table counts as live. -/
def attach (target : Target) (artifact : Artifact) (state : State) : Response State Probe :=
  match refusal? artifact state with
  | some reason => ⟨.error (.attachment artifact.program target.symbol reason), state, []⟩
  | none =>
      let attached := if artifact.table.isSome then state.attached + 1 else state.attached
      ⟨.ok ⟨artifact.program, target, artifact.table, true⟩, { state with attached }, []⟩

/-- Copies the table, for a probe that has one and is attached. -/
def readTable (probe : Probe) (state : State) : Response State Snapshot :=
  match probe.table with
  | none => ⟨.error (.tableRead probe.program "probe has no table"), state, []⟩
  | some table =>
      if probe.attached then ⟨.ok state.table.snapshot, state, []⟩
      else ⟨.error (.tableRead table "probe is detached"), state, []⟩

/-- Detaches a probe. The second time nothing happens. -/
def detach (probe : Probe) (state : State) : Probe × Response State Unit :=
  if probe.attached then
    let attached := if probe.table.isSome then state.attached - 1 else state.attached
    ({ probe with attached := false }, ⟨.ok (), { state with attached }, []⟩)
  else (probe, ⟨.ok (), state, []⟩)

def platform : Platform State Probe where
  resolve := resolve
  ensurePrivileges := ensurePrivileges
  attach := attach
  readTable := readTable
  detach := detach
  program := Probe.program
  target := Probe.target
  isAttached := Probe.attached

/-- One occurrence. It is counted while a counting probe is attached; the code is that of a table
which refuses it. -/
def trigger (credentials : UInt64) (state : State) : Option Int × State :=
  if 0 < state.attached then
    match record Table.counterMap (userKey credentials) state.table with
    | (.counted, table) => (none, { state with table })
    | (.dropped code, table) => (some code, { state with table })
  else (none, state)

/-- Repeated occurrences with credentials that grow by a stride, up to the first that is refused. -/
def triggerTimes (stride : UInt64) : Nat → UInt64 → State → Option Int × State
  | 0, _, state => (none, state)
  | times + 1, credentials, state =>
      match trigger credentials state with
      | (none, state) => triggerTimes stride times (credentials + stride) state
      | (some code, state) => (some code, state)

end SyscallTally.Platform.Memory
