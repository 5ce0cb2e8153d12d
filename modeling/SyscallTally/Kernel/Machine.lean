import SyscallTally.Kernel.Linking
import SyscallTally.Kernel.Program
import SyscallTally.Kernel.Refusal
import SyscallTally.Kernel.Verifier

/-!
Contract: a kernel with one processor, on whose symbols probes are hooked.

Owns:
- `Conduct`, the calls that this kernel refuses and what happens around the walks of a table;
- `WalkOrder`, the order in which a walk meets the entries of a table;
- `Hook`, a program on a symbol, with the table that was created for it alone;
- `Machine`, the kernel's state, and its steps: loading an object, starting the log, loading a
  program, hooking and unhooking it, calling a symbol, walking a table.

Does not own: the order of these steps when a probe is attached, which is the platform's.

Each loaded object has maps of its own, so no two hooks share a table. Unhooking disables a hook and
keeps its table; hooks are numbered in the order of their creation and never renumbered.
-/

set_option autoImplicit false

namespace SyscallTally.Kernel

open SyscallTally.Counter SyscallTally.Probe

/-- Calls of a symbol by one process. -/
structure Calls where
  symbol : String
  credentials : UInt64
  times : Nat
deriving DecidableEq, Repr

/-- The moment at which the process is told to stop. -/
inductive StopSignal where
  | never
  /-- As soon as a hook is enabled. -/
  | onEnable
  /-- At the start of the walk with this number, counted from one. -/
  | onWalk (number : Nat)
deriving DecidableEq, Repr

/-- The error number for a key or entry that does not exist. In a walk it is no failure. -/
def noEntry : Nat := 2

/-- How a kernel behaves towards the program that loads probes. -/
structure Conduct where
  /-- Maps that it does not create. -/
  refusedMaps : List String := []
  /-- Whether it refuses the log buffers. -/
  refusesLog : Bool := false
  /-- The verifier's answer, when it refuses every program. -/
  rejectsProgram : Option Rejection := none
  refusesOpen : Bool := false
  refusesBind : Bool := false
  refusesEnable : Bool := false
  /-- The error number with which asking for the next key fails. -/
  nextKeyError : Option Nat := none
  /-- The number of the first walk in which it fails. -/
  nextKeyFrom : Nat := 1
  /-- The error number with which looking up an entry fails. -/
  lookupError : Option Nat := none
  /-- Keys whose entries are gone when a walk comes to look them up. -/
  vanishing : List UInt64 := []
  /-- What happens just before each walk, the first walk first. -/
  beforeWalks : List (List Calls) := []
  stop : StopSignal := .never
deriving DecidableEq, Repr

/-- The order in which each walk, by its number, meets the entries of a table. Every entry is met
once. -/
structure WalkOrder where
  arrange : Nat → List (UInt64 × UInt64) → List (UInt64 × UInt64)
  perm : ∀ walk entries, (arrange walk entries).Perm entries

def WalkOrder.byKey : WalkOrder := ⟨fun _ entries => entries, fun _ entries => .refl entries⟩

/-- A program hooked on a symbol, with its own table. -/
structure Hook where
  symbol : String
  kind : Option Kind
  table : Table
  enabled : Bool

/-- The state of a kernel. -/
structure Machine where
  conduct : Conduct := {}
  order : WalkOrder := .byKey
  hooks : List Hook := []
  /-- The number of walks begun. -/
  walks : Nat := 0
  /-- Whether the process has been told to stop. -/
  stopped : Bool := false

namespace Hook

/-- A call of a symbol, as one hook sees it. -/
def call (symbol : String) (credentials : UInt64) (race : Race) (hook : Hook) :
    Option Run × Hook :=
  match hook.kind with
  | none => (none, hook)
  | some kind =>
      if hook.enabled ∧ hook.symbol = symbol then
        let (run, table) := run kind credentials race hook.table
        (some run, { hook with table })
      else (none, hook)

end Hook

namespace Machine

/-- The number of enabled hooks. -/
def enabledCount (machine : Machine) : Nat := machine.hooks.countP (·.enabled)

/-- One call of a symbol: each enabled hook on it runs, in the order of hooking. -/
def call (symbol : String) (credentials : UInt64) (race : Race) (machine : Machine) :
    List Run × Machine :=
  let results := machine.hooks.map (Hook.call symbol credentials race)
  (results.filterMap (·.1), { machine with hooks := results.map (·.2) })

/-- Repeated calls of a symbol, with the runs of the last one. -/
def callTimes (symbol : String) (credentials : UInt64) (race : Race) :
    Nat → Machine → List Run × Machine
  | 0, machine => ([], machine)
  | 1, machine => machine.call symbol credentials race
  | times + 2, machine =>
      callTimes symbol credentials race (times + 1) (machine.call symbol credentials race).2

/-- Calls that nobody else interferes with. -/
def occur (calls : Calls) (machine : Machine) : Machine :=
  (machine.callTimes calls.symbol calls.credentials .quiet calls.times).2

/-! ## Loading -/

/-- Creates a map. Maps that are to be kept under their names cannot be created at all. -/
def createMap (machine : Machine) (map : MapSpec) : Except Refusal Unit :=
  if !map.mapType.isKnown then .error (.unknownMapType map.mapType.number)
  else if machine.conduct.refusedMaps.contains map.name then .error (.mapCreation map.name)
  else if map.isPinned then .error (.pinning map.name)
  else .ok ()

/-- Loads an object: its maps are created, then its references are filled in, and last its maps are
checked for types that cannot be used. -/
def loadObject (object : Object) (machine : Machine) : Except Refusal Unit := do
  object.maps.forM fun map => machine.createMap map.spec
  object.link
  match object.maps.find? (fun map => !map.spec.mapType.isSupported) with
  | some map => throw (.unsupportedMapType map.spec.mapType.number)
  | none => return ()

/-- The name of the map through which programs log. -/
def logArray : String := "AYA_LOGS"

/-- Opens the log of a loaded object. -/
def startLog (object : Object) (machine : Machine) : Except Refusal Unit :=
  match object.map? logArray with
  | none => .error .noLogArray
  | some map =>
      if map.mapType ≠ .perfEventArray then .error .logArrayType
      else if machine.conduct.refusesLog then .error .logBuffer
      else .ok ()

/-- Finds a kernel probe in a loaded object and loads it. -/
def loadProgram (object : Object) (program : String) (machine : Machine) :
    Except Refusal Unit :=
  match object.program? program with
  | none => .error .noProgram
  | some found =>
      if found.programType ≠ .kernelProbe then .error .programType
      else
        match machine.conduct.rejectsProgram with
        | some rejection => .error (.programLoad rejection.seenLog)
        | none => .ok ()

/-- Hooks a loaded program on a symbol. The number of the hook is the number of hooks before it. -/
def hook (symbol program : String) (capacity : Nat) (machine : Machine) :
    Except Refusal (Nat × Machine) :=
  if machine.conduct.refusesOpen then .error .eventOpen
  else if machine.conduct.refusesBind then .error .programBind
  else if machine.conduct.refusesEnable then .error .eventEnable
  else
    let added : Hook := ⟨symbol, Kind.ofProgram? program, Table.empty capacity, true⟩
    .ok (machine.hooks.length,
      { machine with
        hooks := machine.hooks ++ [added]
        stopped := machine.stopped || machine.conduct.stop = .onEnable })

/-- Disables a hook. -/
def unhook (number : Nat) (machine : Machine) : Machine :=
  { machine with
    hooks := machine.hooks.modify number fun hook => { hook with enabled := false } }

/-! ## Walking a table -/

/-- The start of a walk: what the kernel lets happen just before it, then the signal if it is
due. -/
def beginWalk (machine : Machine) : Machine :=
  let before := machine.conduct.beforeWalks[machine.walks]?.getD []
  let machine := before.foldl (fun machine calls => machine.occur calls) machine
  let number := machine.walks + 1
  { machine with
    walks := number
    stopped := machine.stopped || machine.conduct.stop = .onWalk number }

/-- The entries that a walk reads, one look-up after the other. An entry that is gone is skipped. -/
def lookUpAll (conduct : Conduct) :
    List (UInt64 × UInt64) → Except Refusal (List (UInt64 × UInt64))
  | [] => .ok []
  | entry :: rest =>
      match conduct.lookupError with
      | some code => if code = noEntry then lookUpAll conduct rest else .error .lookup
      | none =>
          if conduct.vanishing.contains entry.1 then lookUpAll conduct rest
          else (lookUpAll conduct rest).map (entry :: ·)

/-- A walk over a hook's table. A failed walk gives no entries at all. -/
def walk (number : Nat) (machine : Machine) :
    Except Refusal (List (UInt64 × UInt64)) × Machine :=
  let machine := machine.beginWalk
  let entries := match machine.hooks[number]? with
    | some hook => machine.order.arrange machine.walks hook.table.counts.toList
    | none => []
  let failure := if machine.conduct.nextKeyFrom ≤ machine.walks
    then machine.conduct.nextKeyError else none
  match failure with
  | some code => (if code = noEntry then .ok [] else .error .nextKey, machine)
  | none => (lookUpAll machine.conduct entries, machine)

end Machine

end SyscallTally.Kernel
