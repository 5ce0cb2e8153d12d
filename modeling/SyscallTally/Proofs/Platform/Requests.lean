import SyscallTally.Platform.Requests
import SyscallTally.Proofs.Kernel.Machine
import SyscallTally.Proofs.Platform.Bench

/-!
Owns attaching in any kernel, and what is asked of the kernel for it:

- what attaching takes, stage by stage (`Attachable`), and what it leaves (`attach_cases`);
- the list of requests is the whole list: a kernel has a say in an attachment only through its
  answers to them (`outcome_attach_of_answers`);
- the platform that keeps the list does what the one without it does (`recording_covers`).
-/

set_option autoImplicit false

namespace SyscallTally.Platform.Loaded

open SyscallTally.Counter SyscallTally.Kernel SyscallTally.Probe

variable {paths : Paths} {target : Target} {artifact : Artifact} {host : Host}

/-! ### The stages of attaching -/

/-- Loading is reading a file, which takes no kernel, and then asking the kernel. -/
theorem loadObject_eq (paths : Paths) (host : Host) :
    loadObject paths host =
      (readObject paths host.files >>= fun object =>
        host.machine.loadObject object >>= fun _ => pure object).mapError fun refusal =>
          "failed to load " ++ Files.Path.quoted paths.object ++ ": " ++ refusal.message := by
  unfold loadObject readObject
  rw [bind_assoc]

/-- What attaching takes, apart from a resolved event and privileges: an object that the kernel
loads, with a log if the program lives on it, with the program and its table, and a kernel that
loads the program and hooks it. -/
structure Attachable (paths : Paths) (artifact : Artifact) (host : Host) (object : Object) :
    Prop where
  loads : loadObject paths host = .ok object
  logs : artifact.needsLogger = true → host.machine.startLog object = .ok ()
  hasTable : ∀ name, artifact.table = some name → ∃ table, object.map? name = some table
  loadsProgram : host.machine.loadProgram object artifact.program = .ok ()
  hooks : host.machine.conduct.Hooks

/-- The number of entries that the table of a probe is created with. -/
def tableCapacity (table : Option (String × MapSpec)) : Nat :=
  (table.map fun found => found.2.capacity).getD 0

/-- The probe of a program that is hooked next. -/
def Host.newProbe (target : Target) (artifact : Artifact) (table : Option (String × MapSpec))
    (host : Host) : Probe :=
  ⟨artifact.program, target, table, host.machine.hooks.length, true⟩

/-- The host with one more program hooked. -/
def Host.withHook (target : Target) (artifact : Artifact) (table : Option (String × MapSpec))
    (host : Host) : Host :=
  { host with
    machine := host.machine.withHook target.symbol artifact.program (tableCapacity table) }

theorem hookProgram_of_hooks (hooks : host.machine.conduct.Hooks) (target : Target)
    (artifact : Artifact) (table : Option (String × MapSpec)) :
    hookProgram target artifact table host =
      .ok (host.newProbe target artifact table, host.withHook target artifact table) := by
  have hooking := Machine.hook_of_hooks hooks target.symbol artifact.program (tableCapacity table)
  unfold tableCapacity at hooking
  unfold hookProgram
  simp only [hooking]
  rfl

theorem hookProgram_of_not_hooks (refuses : ¬ host.machine.conduct.Hooks) (target : Target)
    (artifact : Artifact) (table : Option (String × MapSpec)) :
    ∃ reason, hookProgram target artifact table host = .error reason := by
  obtain ⟨refusal, hooking⟩ :=
    Machine.hook_of_not_hooks refuses target.symbol artifact.program (tableCapacity table)
  unfold tableCapacity at hooking
  exact ⟨refusal.message, by simp only [hookProgram, hooking]⟩

theorem findTable_cases (artifact : Artifact) (object : Object) :
    (∃ reason, findTable artifact object = .error reason ∧
        ∃ name, artifact.table = some name ∧ object.map? name = none) ∨
      ∃ table, findTable artifact object = .ok table ∧
        ∀ name, artifact.table = some name → ∃ spec, object.map? name = some spec := by
  unfold findTable
  cases owned : artifact.table with
  | none => exact .inr ⟨none, rfl, nofun⟩
  | some name =>
      cases found : object.map? name with
      | none => exact .inl ⟨(Refusal.noTable name).message, by simp only [found], name, rfl, found⟩
      | some spec =>
          refine .inr ⟨some (name, spec), by simp only [found], ?_⟩
          rintro _ ⟨⟩
          exact ⟨spec, found⟩

theorem startLog_cases (artifact : Artifact) (object : Object) (host : Host) :
    (∃ reason log, startLog artifact object host = (.error reason, log) ∧
        artifact.needsLogger = true ∧ host.machine.startLog object ≠ .ok ()) ∨
      ∃ log, startLog artifact object host = (.ok (), log) ∧
        (artifact.needsLogger = true → host.machine.startLog object = .ok ()) := by
  unfold startLog
  cases started : host.machine.startLog object with
  | ok => exact .inr ⟨_, rfl, fun _ => rfl⟩
  | error refusal =>
      cases needed : artifact.needsLogger with
      | true => exact .inl ⟨_, _, rfl, rfl, nofun⟩
      | false => exact .inr ⟨_, rfl, nofun⟩

/-- Attaching fails at one of its stages, or takes them all and hooks the program. -/
theorem install_cases (paths : Paths) (target : Target) (artifact : Artifact) (host : Host) :
    (∃ reason, (install paths target artifact host).1 = .error reason ∧
        ∀ object, ¬ Attachable paths artifact host object) ∨
      ∃ object table, Attachable paths artifact host object ∧
        (install paths target artifact host).1 =
          .ok (host.newProbe target artifact table, host.withHook target artifact table) := by
  cases loading : loadObject paths host with
  | error reason =>
      refine .inl ⟨reason, by simp only [install, loading], ?_⟩
      intro object attachable
      rw [attachable.loads] at loading
      cases loading
  | ok object =>
      have only {other : Object} (attachable : Attachable paths artifact host other) :
          other = object := by
        have loads := attachable.loads
        rw [loading] at loads
        exact (Except.ok.inj loads).symm
      rcases startLog_cases artifact object host with
        ⟨reason, log, starting, needed, refused⟩ | ⟨log, starting, started⟩
      · refine .inl ⟨reason, by simp only [install, loading, starting], ?_⟩
        intro other attachable
        obtain rfl := only attachable
        exact refused (attachable.logs needed)
      · rcases findTable_cases artifact object with
          ⟨reason, finding, name, owned, missing⟩ | ⟨table, finding, found⟩
        · refine .inl ⟨reason, by simp only [install, loading, starting, finding], ?_⟩
          intro other attachable
          obtain rfl := only attachable
          obtain ⟨spec, present⟩ := attachable.hasTable name owned
          rw [missing] at present
          cases present
        · cases programLoading : host.machine.loadProgram object artifact.program with
          | error refusal =>
              refine .inl ⟨refusal.message,
                by simp only [install, loading, starting, finding, programLoading], ?_⟩
              intro other attachable
              obtain rfl := only attachable
              rw [attachable.loadsProgram] at programLoading
              cases programLoading
          | ok =>
              by_cases hooks : host.machine.conduct.Hooks
              · have hooking := hookProgram_of_hooks hooks target artifact table
                exact .inr ⟨object, table, ⟨loading, started, found, programLoading, hooks⟩,
                  by simp only [install, loading, starting, finding, programLoading, hooking]⟩
              · obtain ⟨reason, hooking⟩ := hookProgram_of_not_hooks hooks target artifact table
                exact .inl ⟨reason,
                  by simp only [install, loading, starting, finding, programLoading, hooking],
                  fun _ attachable => hooks attachable.hooks⟩

/-- A failed attachment leaves the host as it was; one that succeeds leaves one more hook. -/
theorem attach_cases (paths : Paths) (target : Target) (artifact : Artifact) (host : Host) :
    (∃ reason log, attach paths target artifact host =
        ⟨.error (.attachment artifact.program target.symbol reason), host, log⟩ ∧
        ∀ object, ¬ Attachable paths artifact host object) ∨
      ∃ object table log, Attachable paths artifact host object ∧
        attach paths target artifact host =
          ⟨.ok (host.newProbe target artifact table),
            host.withHook target artifact table, log⟩ := by
  have stages := install_cases paths target artifact host
  unfold attach
  generalize install paths target artifact host = installed at stages ⊢
  obtain ⟨result, log⟩ := installed
  rcases stages with ⟨reason, rfl, unattachable⟩ | ⟨object, table, attachable, rfl⟩
  · exact .inl ⟨reason, log, rfl, unattachable⟩
  · exact .inr ⟨object, table, log, attachable, rfl⟩

theorem resolve_cases (paths : Paths) (event : String) (host : Host) :
    (∃ reason, (platform paths).resolve event host =
        ⟨.error (.resolution event reason), host, []⟩) ∨
      ∃ target, (platform paths).resolve event host = ⟨.ok target, host, []⟩ := by
  have named : ∀ failure, ((platform paths).resolve event host).result = .error failure →
      ∃ reason, failure = .resolution event reason := fun _ => (failsInOwnName paths).resolve
  have unchanged : ((platform paths).resolve event host).state = host ∧
      ((platform paths).resolve event host).log = [] := by
    show (resolve paths event host).state = host ∧ (resolve paths event host).log = []
    unfold resolve
    cases loadSymbols host.files paths.symbols <;> exact ⟨rfl, rfl⟩
  generalize (platform paths).resolve event host = resolved at named unchanged ⊢
  obtain ⟨failure | target, state, log⟩ := resolved
  · obtain ⟨reason, rfl⟩ := named failure rfl
    obtain ⟨rfl, rfl⟩ := unchanged
    exact .inl ⟨reason, rfl⟩
  · obtain ⟨rfl, rfl⟩ := unchanged
    exact .inr ⟨target, rfl⟩

/-- What attaching takes before the kernel has a say in it: a resolved event, and privileges. -/
structure Admitted (paths : Paths) (event : String) (host : Host) (target : Target) : Prop where
  resolves : ((platform paths).resolve event host).result = .ok target
  root : host.effectiveUser = 0

/-! ### Requests -/

theorem recording_covers (paths : Paths) :
    (recording paths).Covers (platform paths) Recorded.host where
  resolve _ _ := rfl
  ensurePrivileges _ _ _ := rfl
  attach _ _ _ := rfl
  readTable _ _ := rfl
  detach _ _ := rfl
  program := rfl
  target := rfl

/-- Without a resolved event and privileges the kernel is asked for nothing. With both it is asked,
and if a stage fails that is all that has happened. -/
theorem recording_attachProbe_cases (paths : Paths) (event : String) (kind : Kind)
    (recorded : Recorded) :
    (∃ failure log, (recording paths).attachProbe event kind recorded =
        ⟨.error failure, recorded, log⟩ ∧
        ∀ target, ¬ Admitted paths event recorded.host target) ∨
      ∃ target made, Admitted paths event recorded.host target ∧
        made = attachRequests paths target kind.artifact recorded.host ∧
        ((∃ failure log, (recording paths).attachProbe event kind recorded =
            ⟨.error failure, recorded.after made recorded.host, log⟩ ∧
            ∀ object, ¬ Attachable paths kind.artifact recorded.host object) ∨
          ∃ object table log, Attachable paths kind.artifact recorded.host object ∧
            (recording paths).attachProbe event kind recorded =
              ⟨.ok (recorded.host.newProbe target kind.artifact table),
                recorded.after made (recorded.host.withHook target kind.artifact table), log⟩) := by
  rcases resolve_cases paths event recorded.host with ⟨reason, resolved⟩ | ⟨target, resolved⟩
  · have resolving : (recording paths).resolve event recorded =
        ⟨.error (.resolution event reason), recorded, []⟩ :=
      congrArg (Response.onPart · (Recorded.withHost · recorded)) resolved
    refine .inl ⟨_, _, Platform.attachProbe_of_unresolved resolving, fun target admitted => ?_⟩
    have resolves := admitted.resolves
    rw [resolved] at resolves
    cases resolves
  · have resolving : (recording paths).resolve event recorded = ⟨.ok target, recorded, []⟩ :=
      congrArg (Response.onPart · (Recorded.withHost · recorded)) resolved
    by_cases root : recorded.host.effectiveUser = 0
    · have checking : (recording paths).ensurePrivileges target kind.artifact recorded =
          ⟨.ok (), recorded, []⟩ := by
        show (ensurePrivileges target kind.artifact recorded.host).onPart
          (Recorded.withHost · recorded) = _
        rw [ensurePrivileges, if_pos root]
        rfl
      have attaching (attached : Response Host Probe)
          (done : attach paths target kind.artifact recorded.host = attached) :
          (recording paths).attach target kind.artifact recorded = attached.onPart
            (recorded.after (attachRequests paths target kind.artifact recorded.host)) :=
        congrArg (Response.onPart · _) done
      refine .inr ⟨target, _, ⟨by rw [resolved], root⟩, rfl, ?_⟩
      rcases attach_cases paths target kind.artifact recorded.host with
        ⟨reason, log, attached, unattachable⟩ | ⟨object, table, log, attachable, attached⟩
      · exact .inl ⟨_, _, Platform.attachProbe_of_unattached resolving checking
          (attaching _ attached), unattachable⟩
      · exact .inr ⟨object, table, _, attachable,
          Platform.attachProbe_of_attached resolving checking (attaching _ attached)⟩
    · have checking : ∃ failure, (recording paths).ensurePrivileges target kind.artifact recorded =
          ⟨.error failure, recorded, []⟩ := by
        show ∃ failure, (ensurePrivileges target kind.artifact recorded.host).onPart
          (Recorded.withHost · recorded) = _
        rw [ensurePrivileges, if_neg root]
        exact ⟨_, rfl⟩
      obtain ⟨failure, checking⟩ := checking
      exact .inl ⟨_, _, Platform.attachProbe_of_unprivileged resolving checking,
        fun _ admitted => root admitted.root⟩

/-- The result of an attachment as far as the kernel's numbers are left out, with its records. -/
def outcome {σ α : Type} (response : Response σ α) : Except Failure Unit × List LogRecord :=
  (response.result.map fun _ => (), response.log)

/-- An object is loaded if its file can be read and the kernel does not refuse it. -/
theorem loadObject_isOk_iff {object : Object} :
    loadObject paths host = .ok object ↔
      readObject paths host.files = .ok object ∧ host.machine.loadObject object = .ok () := by
  rw [loadObject_eq]
  rcases readObject paths host.files with refusal | found
  case error => exact iff_of_false nofun fun both => nomatch both.1
  case ok =>
    rcases loading : host.machine.loadObject found with refusal | ⟨⟩
    case error =>
      have failed : (host.machine.loadObject found >>= fun _ => pure found) = .error refusal := by
        rw [loading]
        rfl
      refine iff_of_false ?_ ?_
      · show (host.machine.loadObject found >>= fun _ => pure found).mapError _ ≠ _
        rw [failed]
        exact nofun
      · rintro ⟨same, loads⟩
        rw [← Except.ok.inj same, loading] at loads
        cases loads
    case ok =>
      have loaded : (host.machine.loadObject found >>= fun _ => pure found) = .ok found := by
        rw [loading]
        rfl
      show (host.machine.loadObject found >>= fun _ => pure found).mapError _ = _ ↔ _
      rw [loaded]
      refine ⟨fun same => ?_, fun both => congrArg Except.ok (Except.ok.inj both.1)⟩
      obtain rfl : found = object := Except.ok.inj same
      exact ⟨rfl, loading⟩

theorem hookProgram_map (target : Target) (artifact : Artifact)
    (table : Option (String × MapSpec)) (host : Host) :
    (hookProgram target artifact table host).map (fun _ => ()) =
      (Request.answer host.machine
        (.hook target.symbol artifact.program (tableCapacity table))).mapError Refusal.message := by
  show _ = ((host.machine.hook target.symbol artifact.program (tableCapacity table)).map
    fun _ => ()).mapError Refusal.message
  rcases hooking : host.machine.hook target.symbol artifact.program (tableCapacity table) with
    refusal | ⟨number, machine⟩
  all_goals
    unfold tableCapacity at hooking
    simp only [hookProgram, hooking]
    rfl

/-- A kernel has a say in an attachment only through its answers to the requests. -/
theorem outcome_attach_of_answers {machine : Machine}
    (same : ∀ request ∈ attachRequests paths target artifact host,
      request.answer machine = request.answer host.machine) :
    outcome (attach paths target artifact { host with machine }) =
      outcome (attach paths target artifact host) := by
  have loads : loadObject paths { host with machine } = loadObject paths host := by
    rw [loadObject_eq, loadObject_eq]
    rcases reading : readObject paths host.files with refusal | object
    · rfl
    · have answered : machine.loadObject object = host.machine.loadObject object :=
        same (.loadObject object) (by simp [attachRequests, reading])
      simp only [bind, Except.bind, answered]
  rcases loading : loadObject paths host with reason | object
  · simp only [outcome, attach, install, loads, loading]
  · obtain ⟨reading, loaded⟩ := loadObject_isOk_iff.mp loading
    have starts : startLog artifact object { host with machine } =
        startLog artifact object host := by
      have answered : machine.startLog object = host.machine.startLog object :=
        same (.startLog object) (by simp [attachRequests, reading, loaded])
      simp only [startLog, answered]
    rcases starting : startLog artifact object host with ⟨reason | ⟨⟩, log⟩
    · simp only [outcome, attach, install, loads, loading, starts, starting]
    · rcases finding : findTable artifact object with reason | table
      · simp only [outcome, attach, install, loads, loading, starts, starting, finding]
      · have loadsProgram : machine.loadProgram object artifact.program =
            host.machine.loadProgram object artifact.program :=
          same (.loadProgram object artifact.program)
            (by simp [attachRequests, reading, loaded, starting, finding])
        rcases programLoading : host.machine.loadProgram object artifact.program with refusal | ⟨⟩
        · rw [programLoading] at loadsProgram
          simp only [outcome, attach, install, loads, loading, starts, starting, finding,
            loadsProgram, programLoading]
        · rw [programLoading] at loadsProgram
          have answered := same (.hook target.symbol artifact.program (tableCapacity table))
            (by simp [attachRequests, reading, loaded, starting, finding, programLoading,
              tableCapacity])
          have hooks : (hookProgram target artifact table { host with machine }).map (fun _ => ()) =
              (hookProgram target artifact table host).map fun _ => () := by
            rw [hookProgram_map, hookProgram_map, answered]
          simp only [outcome, attach, install, loads, loading, starts, starting, finding,
            loadsProgram, programLoading]
          generalize hookProgram target artifact table { host with machine } = theirs at hooks ⊢
          generalize hookProgram target artifact table host = ours at hooks ⊢
          rcases theirs with reason | installed <;> rcases ours with other | before
          case error.error =>
            obtain rfl : reason = other := Except.error.inj hooks
            rfl
          case ok.ok => rfl
          case error.ok => cases hooks
          case ok.error => cases hooks

end SyscallTally.Platform.Loaded
