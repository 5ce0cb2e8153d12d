import SyscallTally.Platform.Loaded
import SyscallTally.Proofs.Counter.Tallies
import SyscallTally.Proofs.Kernel.Machine
import SyscallTally.Proofs.Kernel.Symbols

/-!
Owns what the platform that loads an object does in a kernel that accepts it:

- attaching hooks the counting program on the symbol of the event, with an empty table
  (`attachProbe_of_accepts`);
- reading gives the entries of that table, in whatever order the kernel walks it
  (`readTable_of_walksAll`).

In any kernel, an event is resolved only if the file of symbols can be read and is a text
(`resolve_of_unreadable`).
-/

set_option autoImplicit false

namespace SyscallTally.Platform.Loaded

open SyscallTally.Counter SyscallTally.Kernel SyscallTally.Probe

/-- A host on which the object at a path can be loaded and attached, with its counting program and
its table of counters. -/
structure Host.Accepts (paths : Paths) (object : Object) (table : MapSpec) (host : Host) :
    Prop where
  root : host.effectiveUser = 0
  loads : loadObject paths host = .ok object
  hasTable : object.map? counterTable = some table
  layout : checkLayout table = .ok ()
  loadsProgram : host.machine.loadProgram object countProgram = .ok ()
  opens : host.machine.conduct.refusesOpen = false
  binds : host.machine.conduct.refusesBind = false
  enables : host.machine.conduct.refusesEnable = false

/-- The probe of the counting program with the next hook of a host. -/
def Host.nextProbe (host : Host) (target : Target) (table : MapSpec) : Probe :=
  ⟨countProgram, target, some (counterTable, table), host.machine.hooks.length, true⟩

/-- The host with the counting program hooked on a symbol. -/
def Host.hooked (host : Host) (symbol : String) (table : MapSpec) : Host :=
  { host with
    machine := { host.machine with
      hooks := host.machine.hooks ++ [⟨symbol, some .count, Table.empty table.capacity, true⟩]
      stopped := host.machine.stopped || host.machine.conduct.stop = .onEnable } }

variable {paths : Paths} {object : Object} {table : MapSpec} {host : Host} {event : String}
  {target : Target}

theorem Host.Accepts.hook (accepts : host.Accepts paths object table) (symbol : String) :
    host.machine.hook symbol countProgram table.capacity =
      .ok (host.machine.hooks.length, (host.hooked symbol table).machine) :=
  Machine.hook_of_hooks ⟨accepts.opens, accepts.binds, accepts.enables⟩ symbol countProgram
    table.capacity

/-- A log that cannot be started does not keep the counting program from being attached. -/
theorem startLog_count (object : Object) (host : Host) :
    ∃ log, startLog Kind.count.artifact object host = (.ok (), log) := by
  unfold startLog
  cases host.machine.startLog object with
  | ok _ => exact ⟨_, rfl⟩
  | error refusal => exact ⟨_, rfl⟩

theorem attach_of_accepts (accepts : host.Accepts paths object table) (target : Target) :
    ∃ log, (platform paths).attach target Kind.count.artifact host =
      ⟨.ok (host.nextProbe target table), host.hooked target.symbol table, log⟩ := by
  obtain ⟨startedLog, started⟩ := startLog_count object host
  have found : findTable Kind.count.artifact object = .ok (some (counterTable, table)) := by
    simp only [findTable, Kind.artifact, accepts.hasTable]
  have hooking : hookProgram target Kind.count.artifact (some (counterTable, table)) host =
      .ok (host.nextProbe target table, host.hooked target.symbol table) := by
    have hooks := accepts.hook target.symbol
    simp only [hookProgram, Kind.artifact, Option.map_some, Option.getD_some, hooks]
    rfl
  have loads : host.machine.loadProgram object Kind.count.artifact.program = .ok () :=
    accepts.loadsProgram
  show ∃ log, attach paths target Kind.count.artifact host = ⟨_, _, log⟩
  simp only [attach, install, accepts.loads, started, found, loads, hooking]
  exact ⟨_, rfl⟩

theorem attachProbe_of_accepts (accepts : host.Accepts paths object table)
    (resolving : (resolve paths event host).result = .ok target) :
    ∃ log, (platform paths).attachProbe event .count host =
      ⟨.ok (host.nextProbe target table), host.hooked target.symbol table, log⟩ := by
  have resolves : (platform paths).resolve event host = ⟨.ok target, host, []⟩ := by
    show resolve paths event host = _
    unfold resolve at resolving ⊢
    cases found : loadSymbols host.files paths.symbols with
    | error problem =>
        rw [found] at resolving
        cases resolving
    | ok symbols =>
        rw [found] at resolving
        simp only at resolving ⊢
        rw [resolving]
  have checks : (platform paths).ensurePrivileges target Kind.count.artifact host =
      ⟨.ok (), host, []⟩ := by
    show ensurePrivileges target Kind.count.artifact host = _
    rw [ensurePrivileges, if_pos accepts.root]
  obtain ⟨log, attaches⟩ := attach_of_accepts accepts target
  exact ⟨_, Platform.attachProbe_of_attached resolves checks attaches⟩

/-- Events are resolved only in a file of symbols that can be read and is a text. -/
theorem resolve_of_unreadable (paths : Paths) (host : Host)
    (unreadable : ∀ text, host.files.read paths.symbols ≠ .ok (.octets (Text.Utf8.encode text)))
    (event : String) :
    ∃ reason, ((platform paths).resolve event host).result = .error (.resolution event reason) := by
  show ∃ reason, (resolve paths event host).result = _
  unfold resolve
  cases found : loadSymbols host.files paths.symbols with
  | error problem => exact ⟨_, rfl⟩
  | ok symbols =>
      exfalso
      unfold loadSymbols at found
      rcases opened : host.files.openNode paths.symbols with fault | _ | listing | blueprint
      case error => simp only [opened, reduceCtorEq] at found
      case ok.directory => simp only [opened, reduceCtorEq] at found
      case ok.file.object => simp only [opened, reduceCtorEq] at found
      case ok.file.octets =>
        cases parsed : Symbols.parse? listing with
        | none => simp only [opened, parsed, reduceCtorEq] at found
        | some _ =>
            obtain ⟨text, rfl⟩ := Symbols.exists_text_of_parse? parsed
            apply unreadable text
            rw [Files.Store.read, opened]

/-- Reading the table of an attached probe gives its entries and changes no table. -/
theorem readTable_of_walksAll (paths : Paths) (probe : Probe) {name : String} {hook : Hook}
    (hasTable : probe.table = some (name, table)) (attached : probe.attached = true)
    (layout : checkLayout table = .ok ()) (walksAll : host.machine.conduct.WalksAll)
    (hooked : host.machine.hooks[probe.hook]? = some hook) :
    ∃ snapshot next, (platform paths).readTable probe host = ⟨.ok snapshot, next, []⟩ ∧
      snapshot.toList = hook.table.counts.toList ∧
      next.machine.hooks = host.machine.hooks ∧
      next.machine.conduct = host.machine.conduct := by
  obtain ⟨entries, machine, walked, same, hooks, conduct⟩ :=
    Machine.walk_of_walksAll walksAll hooked
  refine ⟨Snapshot.ofList entries, { host with machine }, ?_,
    Snapshot.toList_ofList_of_perm same, hooks, conduct⟩
  show readTable probe host = _
  simp only [readTable, hasTable, attached, layout, walked]
  rfl

end SyscallTally.Platform.Loaded
