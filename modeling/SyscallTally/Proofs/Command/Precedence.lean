import SyscallTally.Command.Run
import SyscallTally.Proofs.Session.Calls
import SyscallTally.Proofs.Settings.Sources

/-!
Owns the settings that a command works with: the options of the command line come first, then the
environment, then the file, then the defaults (`commands_follow_precedence`).

What it is to work with settings is said command by command (`WorksWith`): a session
(`HoldsSession`) and a look-up (`LooksUp`) are on the platform of these settings, and a setup ends
as the change to the settings does (`Saves`). The calls to the platform are those that are seen when
the command is executed on the tracing platform (`Comes`). Only sessions attach a probe, and one
that counts pauses between its reports.
-/

set_option autoImplicit false

namespace SyscallTally.Command

open SyscallTally.Platform SyscallTally.Settings

variable {ω π : Type}

/-! ### Commands on the tracing platform -/

/-- The facilities with a list of the calls to the platform. -/
def Facilities.traced (facilities : Facilities ω π) : Facilities (Traced ω) π where
  platform settings := Platform.traced (facilities.platform settings)
  around := facilities.around.traced
  listen whole :=
    ((facilities.listen whole.state).1, { whole with state := (facilities.listen whole.state).2 })
  world whole := facilities.world whole.state
  withWorld world whole := { whole with state := facilities.withWorld world whole.state }
  named settings :=
    { resolve := (facilities.named settings).resolve
      ensurePrivileges := (facilities.named settings).ensurePrivileges
      attach := (facilities.named settings).attach
      readTable := (facilities.named settings).readTable
      detach := (facilities.named settings).detach }

/-- A command that comes to an outcome with just these calls to the platform. -/
structure Comes (facilities : Facilities ω π) (rounds : Nat) (whole : ω) (command : Command)
    (calls : List Call) (outcome : Outcome ω) : Prop where
  plain : facilities.execute command rounds whole = some outcome
  traced : ∀ before, facilities.traced.execute command rounds ⟨whole, before⟩ =
    some ⟨outcome.result, ⟨outcome.world, before ++ calls⟩⟩

/-! ### Working with settings -/

/-- What the options of a command say. Commands that run a session say which kind of probe. -/
def options : Command → Changes
  | .hello event => { probe := some .hello, event }
  | .count event interval => { probe := some .count, event, interval }
  | .setup changes => changes
  | .resolve _ => {}
  | .info => {}

/-- What a session with settings comes to. It is held once the signal to stop is listened for, and
not at all if it could not be stopped. -/
inductive HoldsSession (facilities : Facilities ω π) (settings : Settings) (rounds : Nat)
    (whole : ω) : Option (Outcome ω) → Prop where
  | unstoppable {text : String} {left : ω} (fails : facilities.listen whole = (.error text, left)) :
      HoldsSession facilities settings rounds whole (some ⟨.error ⟨.other text, []⟩, left⟩)
  | session {listening : ω} (listens : facilities.listen whole = (.ok (), listening)) :
      HoldsSession facilities settings rounds whole
        ((Session.run (facilities.platform settings) facilities.around settings rounds
          listening).map fun ending => ⟨ending.result, ending.world⟩)

/-- What looking up an event with settings comes to. -/
inductive LooksUp (facilities : Facilities ω π) (settings : Settings) (event : String) (whole : ω) :
    Outcome ω → Prop where
  | unresolved {failure : Probe.Failure} {left : ω} {log : List LogRecord}
      (fails : (facilities.platform settings).resolve event whole = ⟨.error failure, left, log⟩) :
      LooksUp facilities settings event whole ⟨.error (.ofFailure failure), left⟩
  | resolved {target : Kernel.Target} {left : ω} {log : List LogRecord}
      (finds : (facilities.platform settings).resolve event whole = ⟨.ok target, left, log⟩) :
      LooksUp facilities settings event whole
        ⟨.ok (), facilities.inWorld (·.print (target.name ++ " -> " ++ target.symbol)) left⟩

/-- What a setup comes to with a change to the settings. It leaves the files as the change does, and
tells the settings if they are saved. -/
inductive Saves (facilities : Facilities ω π) (modified : Modified) (whole : ω) :
    Outcome ω → Prop where
  | failed {problem : Problem} (fails : modified.result = .error problem) :
      Saves facilities modified whole ⟨.error problem, facilities.inWorld
        (fun world => { world with host := { world.host with files := modified.store } }) whole⟩
  | saved {settings : Settings} (saves : modified.result = .ok settings) :
      Saves facilities modified whole ⟨.ok (), facilities.inWorld (printSettings settings)
        (facilities.inWorld
          (fun world => { world with host := { world.host with files := modified.store } }) whole)⟩

/-- What a command does with the settings that it works with. -/
inductive WorksWith (facilities : Facilities ω π) (rounds : Nat) (whole : ω)
    (settings : Settings) : Command → Prop where
  | hello {event : Option String} (kind : settings.probe = .hello)
      (traces : HoldsSession facilities settings rounds whole
        (facilities.execute (.hello event) rounds whole)) :
      WorksWith facilities rounds whole settings (.hello event)
  | count {event : Option String} {interval : Option UInt64} (kind : settings.probe = .count)
      (pauses : 1 ≤ settings.interval.toNat)
      (counts : HoldsSession facilities settings rounds whole
        (facilities.execute (.count event interval) rounds whole)) :
      WorksWith facilities rounds whole settings (.count event interval)
  | refused {event : Option String} {interval : Option UInt64} (kind : settings.probe = .count)
      (pauseless : settings.interval = 0)
      (refuses : Comes facilities rounds whole (.count event interval) []
        ⟨.error ⟨.zeroInterval, []⟩, whole⟩)
      (exits : ∀ arguments, parse arguments = .ok (.count event interval) →
        ∃ exit, facilities.run arguments rounds whole = some exit ∧ exit.code = 1 ∧
          exit.world = whole) :
      WorksWith facilities rounds whole settings (.count event interval)
  | resolve {event : String} {outcome : Outcome ω}
      (looksUp : LooksUp facilities settings event whole outcome)
      (resolves : Comes facilities rounds whole (.resolve event) [.resolve event] outcome) :
      WorksWith facilities rounds whole settings (.resolve event)
  | info
      (tells : Comes facilities rounds whole .info []
        ⟨.ok (), facilities.inWorld (printSettings settings) whole⟩) :
      WorksWith facilities rounds whole settings .info
  | setup {changes : Changes} {modified : Modified} {outcome : Outcome ω}
      (modifies : modify (facilities.world whole).environment changes
        (facilities.world whole).host.files = modified)
      (refuses : settings.interval = 0 → modified.result = .error ⟨.zeroInterval, []⟩ ∧
        modified.store = (facilities.world whole).host.files)
      (saves : 1 ≤ settings.interval.toNat →
        modified.result = (save (facilities.world whole).environment settings
          (facilities.world whole).host.files).1.map (fun _ => settings) ∧
        modified.store = (save (facilities.world whole).environment settings
          (facilities.world whole).host.files).2)
      (reloads : modified.log = (load (facilities.world whole).environment
        (facilities.world whole).host.files).2)
      (ends : Saves facilities modified whole outcome)
      (tells : Comes facilities rounds whole (.setup changes) [] outcome) :
      WorksWith facilities rounds whole settings (.setup changes)

variable {facilities : Facilities ω π} {rounds : Nat} {whole : ω} {settings : Settings}
  {changes : Changes} {event : Option String} {interval : Option UInt64}
  {environment : Environment} {store : Files.Store}

theorem validate_of_zero (pauseless : settings.interval = 0) :
    settings.validate = .error ⟨.zeroInterval, []⟩ := if_pos pauseless

theorem validate_of_pos (pauses : 1 ≤ settings.interval.toNat) : settings.validate = .ok () := by
  apply if_neg
  intro zero
  rw [zero] at pauses
  cases pauses

theorem interval_zero_or_pos (settings : Settings) :
    settings.interval = 0 ∨ 1 ≤ settings.interval.toNat := by
  by_cases zero : settings.interval.toNat = 0
  · exact .inl (UInt64.toNat_inj.mp zero)
  · exact .inr (Nat.one_le_iff_ne_zero.mpr zero)

/-! ### Command by command -/

theorem holdsSession_runSession (facilities : Facilities ω π) (settings : Settings) (rounds : Nat)
    (whole : ω) : HoldsSession facilities settings rounds whole
      (facilities.runSession settings rounds whole) := by
  unfold Facilities.runSession
  rcases listening : facilities.listen whole with ⟨text | ⟨⟩, left⟩
  · exact .unstoppable listening
  · exact .session listening

theorem looksUp_runResolve (facilities : Facilities ω π) (settings : Settings) (event : String)
    (whole : ω) :
    LooksUp facilities settings event whole (facilities.runResolve settings event whole) := by
  unfold Facilities.runResolve
  rcases resolving : (facilities.platform settings).resolve event whole with
    ⟨failure | target, left, log⟩
  · exact .unresolved resolving
  · exact .resolved resolving

theorem saves_runSetup (facilities : Facilities ω π) (changes : Changes) (whole : ω) :
    Saves facilities (modify (facilities.world whole).environment changes
      (facilities.world whole).host.files) whole (facilities.runSetup changes whole) := by
  unfold Facilities.runSetup
  rcases modified : (modify (facilities.world whole).environment changes
    (facilities.world whole).host.files).result with problem | settings
  · simp only [modified]
    exact .failed modified
  · simp only [modified]
    exact .saved modified

theorem comes_of_zero
    (inForce : effective (.count event interval) (load (facilities.world whole).environment
      (facilities.world whole).host.files).1 = settings)
    (pauseless : settings.interval = 0) :
    Comes facilities rounds whole (.count event interval) []
      ⟨.error ⟨.zeroInterval, []⟩, whole⟩ where
  plain := by
    simp only [Facilities.execute, Facilities.runCount, inForce, validate_of_zero pauseless]
  traced := by
    intro before
    rw [List.append_nil]
    simp only [Facilities.execute, Facilities.runCount, Facilities.traced, inForce,
      validate_of_zero pauseless]

theorem comes_of_resolve (event : String)
    (inForce : (load (facilities.world whole).environment
      (facilities.world whole).host.files).1 = settings) :
    Comes facilities rounds whole (.resolve event) [.resolve event]
      (facilities.runResolve settings event whole) where
  plain := by simp only [Facilities.execute, effective, inForce]
  traced := by
    intro before
    simp only [Facilities.execute, effective, Facilities.traced, inForce, Facilities.runResolve]
    rcases resolving : (facilities.platform settings).resolve event whole with
      ⟨failure | target, resolved, log⟩
    · rw [Session.resolve_traced resolving]
    · rw [Session.resolve_traced resolving]
      rfl

theorem comes_of_info
    (inForce : (load (facilities.world whole).environment
      (facilities.world whole).host.files).1 = settings) :
    Comes facilities rounds whole .info []
      ⟨.ok (), facilities.inWorld (printSettings settings) whole⟩ where
  plain := by simp only [Facilities.execute, effective, inForce]
  traced := by
    intro before
    rw [List.append_nil]
    simp only [Facilities.execute, effective, Facilities.traced, inForce]
    rfl

theorem comes_of_setup (facilities : Facilities ω π) (rounds : Nat) (whole : ω)
    (changes : Changes) :
    Comes facilities rounds whole (.setup changes) [] (facilities.runSetup changes whole) where
  plain := rfl
  traced := by
    intro before
    rw [List.append_nil]
    simp only [Facilities.execute, Facilities.runSetup, Facilities.traced]
    rcases (modify (facilities.world whole).environment changes
      (facilities.world whole).host.files).result with problem | saved <;> rfl

theorem modify_of_zero (environment : Environment) (store : Files.Store)
    (chosen : changes.apply (load environment store).1 = settings)
    (pauseless : settings.interval = 0) :
    (modify environment changes store).result = .error ⟨.zeroInterval, []⟩ ∧
      (modify environment changes store).store = store := by
  simp only [Settings.modify, chosen, validate_of_zero pauseless, true_and]

theorem modify_of_pos (environment : Environment) (store : Files.Store)
    (chosen : changes.apply (load environment store).1 = settings)
    (pauses : 1 ≤ settings.interval.toNat) :
    (modify environment changes store).result =
        (save environment settings store).1.map (fun _ => settings) ∧
      (modify environment changes store).store = (save environment settings store).2 := by
  simp only [Settings.modify, chosen, validate_of_pos pauses]
  rcases save environment settings store with ⟨problem | ⟨⟩, left⟩
  · exact ⟨rfl, rfl⟩
  · exact ⟨rfl, rfl⟩

theorem modify_log (environment : Environment) (changes : Changes) (store : Files.Store) :
    (Settings.modify environment changes store).log = (load environment store).2 := by
  simp only [Settings.modify]
  rcases (changes.apply (load environment store).1).validate with problem | ⟨⟩
  · rfl
  · simp only
    rcases save environment (changes.apply (load environment store).1) store with
      ⟨problem | ⟨⟩, left⟩
    · rfl
    · rfl

/-- Commands work with the settings that are heard from their options, the environment and the file,
in this order, and otherwise with the defaults. The file is heard as a whole or not at all. -/
theorem commands_follow_precedence (facilities : Facilities ω π) (command : Command)
    (rounds : Nat) (whole : ω) :
    ∃ given fields log,
      EnvironmentGives (facilities.world whole).environment given ∧
      FileGives (facilities.world whole).environment (facilities.world whole).host.files fields
        log ∧
      load (facilities.world whole).environment (facilities.world whole).host.files =
        (heard [given, fields], log) ∧
      WorksWith facilities rounds whole (heard [options command, given, fields]) command := by
  obtain ⟨given, fields, log, environmentGives, fileGives, loaded⟩ :=
    load_eq_heard (facilities.world whole).environment (facilities.world whole).host.files
  refine ⟨given, fields, log, environmentGives, fileGives, loaded, ?_⟩
  rw [heard_cons (options command)]
  have inForce := congrArg Prod.fst loaded
  cases command with
  | hello event =>
      refine .hello rfl ?_
      simp only [Facilities.execute, inForce]
      exact holdsSession_runSession facilities _ rounds whole
  | count event interval =>
      have chosen : effective (.count event interval) (load (facilities.world whole).environment
          (facilities.world whole).host.files).1 =
          (options (.count event interval)).apply (heard [given, fields]) := by
        rw [inForce]
        rfl
      rcases interval_zero_or_pos ((options (.count event interval)).apply
        (heard [given, fields])) with pauseless | pauses
      · refine .refused rfl pauseless (comes_of_zero chosen pauseless) ?_
        intro arguments parsed
        refine ⟨exitOfOutcome ⟨.error ⟨.zeroInterval, []⟩, whole⟩, ?_, rfl, rfl⟩
        rw [Facilities.run, parsed]
        exact congrArg (Option.map exitOfOutcome) (comes_of_zero chosen pauseless).plain
      · refine .count rfl pauses ?_
        simp only [Facilities.execute, Facilities.runCount, chosen, validate_of_pos pauses]
        exact holdsSession_runSession facilities _ rounds whole
  | resolve event =>
      exact .resolve (looksUp_runResolve facilities _ event whole) (comes_of_resolve event inForce)
  | info => exact .info (comes_of_info inForce)
  | setup changes =>
      have chosen : changes.apply (load (facilities.world whole).environment
          (facilities.world whole).host.files).1 =
          (options (.setup changes)).apply (heard [given, fields]) :=
        congrArg changes.apply inForce
      exact .setup rfl (modify_of_zero _ _ chosen) (modify_of_pos _ _ chosen) (modify_log _ _ _)
        (saves_runSetup facilities changes whole) (comes_of_setup facilities rounds whole changes)

end SyscallTally.Command
