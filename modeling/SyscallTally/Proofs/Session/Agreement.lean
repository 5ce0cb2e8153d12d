import SyscallTally.Proofs.Platform.Loaded
import SyscallTally.Proofs.Session.Alike
import SyscallTally.Proofs.Session.InMemory

/-!
Owns the agreement of the two platforms: a counting session in a kernel and one in memory that go
through the same timeline print the same lines at the same instants and end in the same way
(`platforms_agree`).

The hook of the session and the table in memory are kept in step (`Agree`). Both have room for all
users of the timeline, so neither ever refuses an occurrence; the kernel's walk may meet the entries
in any order.
-/

set_option autoImplicit false

namespace SyscallTally.Session.Timeline

open SyscallTally.Counter SyscallTally.Kernel SyscallTally.Probe SyscallTally.Platform

/-- A counting hook on a symbol in a kernel, and the platform in memory, that have counted the same
occurrences of few users. -/
structure Agree (ids : List UInt64) (number : Nat) (symbol : String) (host : Loaded.Host)
    (whole : InMemory) : Prop where
  walksAll : host.machine.conduct.WalksAll
  hooked : ∃ table, host.machine.hooks[number]? = some ⟨symbol, some .count, table, true⟩ ∧
    table.counts = whole.state.table.counts ∧ ids.dedup.length ≤ table.capacity
  counts : ∃ keys, InMemory.Counts ids keys whole

namespace Agree

variable {ids : List UInt64} {number : Nat} {symbol : String} {host : Loaded.Host}
  {whole : InMemory} {state : Memory.State} {credentials : UInt64}

/-! ### Occurrences -/

theorem call (agree : Agree ids number symbol host ⟨state, none⟩)
    (member : userKey credentials ∈ ids) :
    ∃ next, Memory.trigger credentials state = (none, next) ∧
      Agree ids number symbol
        { host with machine := (host.machine.call symbol credentials .quiet).2 } ⟨next, none⟩ := by
  obtain ⟨keys, counts⟩ := agree.counts
  obtain ⟨table, hooked, same, room⟩ := agree.hooked
  obtain ⟨next, counted, stored, countsNext⟩ := counts.trigger member
  refine ⟨next, counted, agree.walksAll, ?_, _, countsNext⟩
  have hasRoom : table.HasRoom (userKey credentials) := by
    apply Table.hasRoom_of_known _ room member
    intro other present
    rw [same] at present
    exact counts.known_of_mem present
  have called := Machine.getElem?_call credentials .quiet hooked
  rw [counterMap_quiet, Table.record_of_hasRoom hasRoom] at called
  refine ⟨_, called, ?_, room⟩
  rw [stored]
  show table.counts.insert _ (table.counts.getD _ 0 + 1) = state.table.counts.insert _ _
  rw [same]
  rfl

theorem callTimes (times : Nat) (agree : Agree ids number symbol host ⟨state, none⟩)
    (members : List.replicate times (userKey credentials) ⊆ ids) :
    ∃ next, Memory.triggerTimes 0 times credentials state = (none, next) ∧
      Agree ids number symbol
        { host with machine := (host.machine.callTimes symbol credentials .quiet times).2 }
        ⟨next, none⟩ := by
  induction times generalizing host state with
  | zero => exact ⟨state, rfl, agree⟩
  | succ times inductionHypothesis =>
      rw [List.replicate_succ, List.cons_subset] at members
      obtain ⟨after, counted, agreeAfter⟩ := agree.call members.1
      obtain ⟨next, countedAll, agreeNext⟩ := inductionHypothesis agreeAfter members.2
      refine ⟨next, ?_, ?_⟩
      · rw [Memory.triggerTimes, counted]
        simp only [UInt64.add_zero]
        exact countedAll
      · rw [Machine.callTimes_succ]
        exact agreeNext

theorem occur {trigger : Trigger} (agree : Agree ids number symbol host whole)
    (calls : trigger.symbol = symbol) (members : occurrences [trigger] ⊆ ids) :
    Agree ids number symbol (occurInKernel trigger host) (InMemory.occur trigger whole) := by
  rcases whole with ⟨state, refused⟩
  obtain rfl : refused = none := agree.counts.elim fun _ counts => counts.accepted
  have each : occurrences [trigger] =
      List.replicate trigger.times (userKey trigger.credentials) := List.append_nil _
  rw [each] at members
  obtain ⟨next, counted, agreeNext⟩ := agree.callTimes trigger.times members
  have inMemory : InMemory.occur trigger ⟨state, none⟩ = ⟨next, none⟩ := by
    simp only [InMemory.occur, counted, Option.or_none]
  have inKernel : occurInKernel trigger host = { host with
      machine := (host.machine.callTimes symbol trigger.credentials .quiet trigger.times).2 } := by
    rw [← calls]
    rfl
  rw [inMemory, inKernel]
  exact agreeNext

end Agree

/-! ### Steps of the sessions -/

variable {ids : List UInt64} {paths : Loaded.Paths} {object : Object} {table : MapSpec}
  {host : Loaded.Host} {target other : Target}

theorem agree_hooked {whole : InMemory} (walksAll : host.machine.conduct.WalksAll)
    (room : ids.dedup.length ≤ table.capacity) (unused : whole.state.table.counts = ∅)
    (counts : InMemory.Counts ids [] whole) :
    Agree ids host.machine.hooks.length target.symbol (host.hooked target.symbol table) whole := by
  refine ⟨walksAll, ⟨Table.empty table.capacity, ?_, ?_, room⟩, _, counts⟩
  · exact List.getElem?_concat_length
  · exact unused.symm

/-- Sessions on the two platforms are in lock step. -/
theorem platforms_lockstep (ids : List UInt64) (paths : Loaded.Paths) (host : Loaded.Host)
    (target other : Target) (layout : Loaded.checkLayout table = .ok ()) :
    Lockstep (World.Alike (Agree ids host.machine.hooks.length target.symbol)
        fun left right => left = right ∧ left.symbol = target.symbol ∧ occurrences [left] ⊆ ids)
      (inside (Loaded.platform paths)) (surroundings occurInKernel) (host.nextProbe target table)
      (inside InMemory.platform) (surroundings InMemory.occur)
      (Memory.Probe.attachedTo other .count) := by
  apply inside_lockstep
  · rintro trigger _ hosted whole ⟨rfl, calls, members⟩ agree
    exact agree.occur calls members
  · intro hosted whole agree
    obtain ⟨counters, hooked, same, room⟩ := agree.hooked
    obtain ⟨snapshot, next, reading, entries, hooks, conduct⟩ :=
      Loaded.readTable_of_walksAll paths (host.nextProbe target table) rfl rfl layout
        agree.walksAll hooked
    rw [reading, InMemory.readTable_attachedTo]
    refine ⟨?_, ?_, ?_, agree.counts⟩
    · show Except.ok snapshot.toList = Except.ok whole.state.table.counts.toList
      rw [entries, same]
    · rw [conduct]
      exact agree.walksAll
    · rw [hooks]
      exact ⟨counters, hooked, same, room⟩

/-! ### Whole sessions -/

/-- What can be seen of a session's ending from outside. -/
def observed {σ : Type} (ending : Ending (World σ)) : Except Problem Unit × Nat × List Line :=
  (ending.result, ending.world.now, ending.world.lines)

variable {settings : Settings} {start : World Loaded.Host} {symbols : Symbols}

theorem attached_alike (walksAll : start.platform.machine.conduct.WalksAll)
    (room : limit ≤ table.capacity) (few : (occurrences start.triggers).dedup.length ≤ limit)
    (calls : ∀ trigger ∈ start.triggers, trigger.symbol = target.symbol)
    (counts : InMemory.Counts (occurrences start.triggers) []
      ⟨({ symbols } : Memory.State).withProbe .count, none⟩) :
    World.Alike
      (Agree (occurrences start.triggers) start.platform.machine.hooks.length target.symbol)
      (fun left right => left = right ∧ left.symbol = target.symbol ∧
        occurrences [left] ⊆ occurrences start.triggers)
      (start.onto (start.platform.hooked target.symbol table))
      (start.onto ⟨({ symbols } : Memory.State).withProbe .count, none⟩) := by
  apply World.alike_onto
  · exact agree_hooked walksAll (Nat.le_trans few room) rfl counts
  · intro trigger listed
    refine ⟨rfl, calls trigger listed, ?_⟩
    exact occurrences_subset (List.cons_subset.mpr ⟨listed, List.nil_subset _⟩)

/-- The platform that loads an object into a kernel and the platform in memory give the same
counting session, if the kernel accepts the object, and every call in the timeline is of the symbol
that is counted. -/
theorem platforms_agree
    (counting : settings.probe = .count)
    (accepts : start.platform.Accepts ⟨settings.objectPath, settings.symbolsPath⟩ object table)
    (room : limit ≤ table.capacity) (walksAll : start.platform.machine.conduct.WalksAll)
    (resolving : (Loaded.resolve ⟨settings.objectPath, settings.symbolsPath⟩ settings.event
      start.platform).result = .ok target)
    (resolvingInMemory : symbols.resolve settings.event = .ok other)
    (calls : ∀ trigger ∈ start.triggers, trigger.symbol = target.symbol)
    (few : (occurrences start.triggers).dedup.length ≤ limit) :
    let loaded := Loaded.platform ⟨settings.objectPath, settings.symbolsPath⟩
    let inMemory := start.onto (InMemory.mk { symbols } none)
    (∀ rounds,
      (run (inside loaded) (surroundings occurInKernel) settings rounds start).map observed =
      (run (inside InMemory.platform) (surroundings InMemory.occur) settings rounds
        inMemory).map observed) ∧
    (∀ reports,
      (reached (inside loaded) (surroundings occurInKernel) settings reports start).map
        (fun world => (world.now, world.lines)) =
      (reached (inside InMemory.platform) (surroundings InMemory.occur) settings reports
        inMemory).map fun world => (world.now, world.lines)) ∧
    ∀ rounds ending, run (inside InMemory.platform) (surroundings InMemory.occur) settings rounds
      inMemory = some ending → ending.world.platform.refused = none := by
  intro loaded inMemory
  obtain ⟨log, hooks⟩ := Loaded.attachProbe_of_accepts accepts resolving
  obtain ⟨logInMemory, attaches⟩ := InMemory.attachProbe_of_resolved resolvingInMemory
  have counts : InMemory.Counts (occurrences start.triggers) []
      ⟨({ symbols } : Memory.State).withProbe .count, none⟩ :=
    (InMemory.counts_of_attached ⟨rfl, rfl, rfl⟩ few attaches).2
  have hooksInside : (inside loaded).attachProbe settings.event settings.probe start =
      ⟨.ok (start.platform.nextProbe target table),
        start.onto (start.platform.hooked target.symbol table), log⟩ := by
    rw [counting]
    exact attachProbe_inside hooks
  have attachesInside : (inside InMemory.platform).attachProbe settings.event settings.probe
      inMemory = ⟨.ok (Memory.Probe.attachedTo other .count),
        start.onto ⟨({ symbols } : Memory.State).withProbe .count, none⟩, logInMemory⟩ := by
    rw [counting]
    exact attachProbe_inside attaches
  have alike := attached_alike walksAll room few calls counts
  have lockstep := platforms_lockstep (occurrences start.triggers)
    ⟨settings.objectPath, settings.symbolsPath⟩ start.platform target other accepts.layout
  have both (rounds : Nat) : Option.Rel
      (Ending.Matching fun left right => left.now = right.now ∧ left.lines = right.lines ∧
        right.platform.refused = none)
      (run (inside loaded) (surroundings occurInKernel) settings rounds start)
      (run (inside InMemory.platform) (surroundings InMemory.occur) settings rounds inMemory) := by
    refine lockstep.run ?_ counting hooksInside attachesInside alike rounds
    intro left right agree
    obtain ⟨keys, sound⟩ := agree.platform.counts
    exact ⟨rfl, agree.now, agree.lines, sound.accepted⟩
  refine ⟨?_, ?_, ?_⟩
  · intro rounds
    apply map_eq_of_rel (both rounds)
    rintro left right ⟨result, now, lines, -⟩
    simp only [observed, result, now, lines]
  · intro reports
    apply map_eq_of_rel (lockstep.reached hooksInside attachesInside alike reports)
    intro left right alike
    rw [alike.now, alike.lines]
  · intro rounds ending ends
    have matching := both rounds
    rw [ends] at matching
    obtain ⟨_, _, -, -, -, accepted⟩ := exists_of_rel_some matching
    exact accepted

/-- The object of the counting program with its table, as small as it can be. -/
def countingObject : Blueprint :=
  ⟨[⟨countProgram, "kprobe"⟩], [⟨counterTable, .hash, 8, 8, limit, false⟩]⟩

/-- A host with that object and a listing of its symbols. -/
def countingHost : Loaded.Host where
  files := ⟨[], [(["object".toUTF8.toList], .file (.object countingObject)),
    (["symbols".toUTF8.toList], .file (.octets
      "0 T __x64_sys_bpf\n0 T __x64_sys_execve\n".toUTF8.toList))], []⟩
  machine := { order := ⟨fun _ => List.reverse, fun _ => List.reverse_perm⟩ }

/-- Calls of two users before a cancellation. -/
def twoCallers : World Loaded.Host where
  platform := countingHost
  upcoming := [⟨3, [⟨7, 2, "__x64_sys_execve"⟩, ⟨0x300000009, 1, "__x64_sys_execve"⟩], false⟩,
    ⟨12, [], true⟩]

/-- Settings with the paths of these files. -/
def countingSettings : Settings where
  interval := 5
  objectPath := "object".toUTF8.toList
  symbolsPath := "symbols".toUTF8.toList

/-- What the loader makes of the object. -/
def countingRead : Object where
  symbols := [⟨0, countProgram, .function, some 0, 0, 16⟩,
    ⟨1, counterTable, .other, some 1, 0, plainSize⟩]
  programs := [⟨countProgram, .kernelProbe, 0, 0⟩]
  routines := [⟨countProgram, 0, 0, 0, [⟨183, 0, (0, 0), 0⟩, ⟨149, 0, (0, 0), 0⟩]⟩]
  maps := [⟨⟨counterTable, .hash, 8, 8, limit, false⟩, 1, 1⟩]
  relocations := [(0, [])]

theorem countingHost_accepts :
    countingHost.Accepts ⟨countingSettings.objectPath, countingSettings.symbolsPath⟩ countingRead
      ⟨counterTable, .hash, 8, 8, limit, false⟩ where
  root := rfl
  loads := by
    have opened : countingHost.files.read countingSettings.objectPath =
        .ok (.object countingObject) := by
      decide +kernel
    have found : Loaded.readObjectFile countingHost.files countingSettings.objectPath =
        .ok countingObject.file := by
      rw [Loaded.readObjectFile, opened]
    have read : Object.ofFile countingObject.file = .ok countingRead := by decide +kernel
    have links : countingRead.link = .ok () := by
      apply Object.link_of_alone rfl
      intro program listed
      rw [List.mem_singleton.mp listed]
      exact ⟨_, rfl, rfl⟩
    have created : (countingRead.maps.forM fun map =>
        countingHost.machine.createMap map.spec) = .ok () := rfl
    have loaded : countingHost.machine.loadObject countingRead = .ok () := by
      unfold Machine.loadObject
      rw [created, links]
      rfl
    unfold Loaded.loadObject
    rw [found]
    simp only [bind, Except.bind, read, loaded]
    rfl
  hasTable := rfl
  layout := rfl
  loadsProgram := rfl
  opens := rfl
  binds := rfl
  enables := rfl

theorem platforms_agree_two_callers :
    (run (inside (Loaded.platform ⟨countingSettings.objectPath, countingSettings.symbolsPath⟩))
      (surroundings occurInKernel) countingSettings 3 twoCallers).map observed =
    some (.ok (), 12, [⟨5, "ID: 7, 2\tID: 9, 1\t\n"⟩, ⟨10, "ID: 7, 2\tID: 9, 1\t\n"⟩]) := by
  have counting : countingSettings.probe = .count := rfl
  have accepts : twoCallers.platform.Accepts
      ⟨countingSettings.objectPath, countingSettings.symbolsPath⟩ countingRead
      ⟨counterTable, .hash, 8, 8, limit, false⟩ := countingHost_accepts
  have resolving : (Loaded.resolve ⟨countingSettings.objectPath, countingSettings.symbolsPath⟩
      countingSettings.event twoCallers.platform).result =
      .ok ⟨"execve", "__x64_sys_execve"⟩ := by
    decide +kernel
  have resolvingInMemory : (⟨["sys_bpf", "sys_execve", "sys_execveat"]⟩ : Symbols).resolve
      countingSettings.event = .ok ⟨"execve", "sys_execve"⟩ := rfl
  have room : limit ≤ MapSpec.capacity ⟨counterTable, .hash, 8, 8, limit, false⟩ := by decide
  have session := platforms_agree counting accepts room ⟨rfl, rfl, rfl, rfl⟩ resolving
    resolvingInMemory (by decide) (by decide)
  apply (session.1 3).trans
  decide +kernel

end SyscallTally.Session.Timeline
