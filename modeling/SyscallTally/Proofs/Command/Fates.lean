import SyscallTally.Proofs.Command.Precedence
import SyscallTally.Proofs.Platform.Loaded
import SyscallTally.Proofs.Session.Stops
import SyscallTally.Proofs.Settings.Saved

/-!
Owns how runs end, and that the exit code and the diagnostic tell which step has failed
(`exit_names_failed_step`).

- `Fate` is how a command ends, with its code and its diagnostic; `Conclusion` is how a run ends,
  which may have no command.
- `Attempts`, `Closes`, `SessionMeets`, `CommandMeets` and `Concludes` say what has to happen for an
  end, from the attachment of a probe up to a whole run. Each names the answers that decide it.
- Every run that ends has a conclusion (`concludes_of_run`), and no run has two
  (`Concludes.unique`).

Of two failures in one session, the one of its reports is told and the one of detaching is not.
-/

set_option autoImplicit false

namespace SyscallTally.Command

open SyscallTally.Platform SyscallTally.Probe SyscallTally.Session SyscallTally.Settings

variable {ω π : Type}

/-! ### The ends of commands and runs -/

inductive Fate where
  | completed
  | unresolved (event reason : String)
  | unprivileged (program symbol reason : String)
  | unattached (program symbol reason : String)
  | unread (table reason : String)
  /-- All went well but the probe could not be detached. -/
  | undetached (program reason : String)
  /-- There was no listening for the signal to stop. -/
  | deaf (text : String)
  | unwritten (text : String)
  | unflushed (text : String)
  | pauseless
  /-- The settings were not saved, for a reason that has nothing to do with a probe. -/
  | unsaved (problem : Problem) (probeless : problem.failure? = none)
deriving DecidableEq, Repr

def Fate.code : Fate → Nat
  | .completed => 0
  | .unresolved _ _ => 2
  | .unprivileged _ _ _ => 3
  | .unattached _ _ _ => 3
  | .unread _ _ => 4
  | .undetached _ _ => 5
  | .deaf _ => 1
  | .unwritten _ => 1
  | .unflushed _ => 1
  | .pauseless => 1
  | .unsaved _ _ => 1

def Fate.diagnostic : Fate → Diagnostic
  | .completed => .silent
  | .unresolved event reason =>
      .line ("Error during resolve: " ++ (Failure.resolution event reason).message)
  | .unprivileged program symbol reason =>
      .line ("Error during attach: " ++ (Failure.attachment program symbol reason).message)
  | .unattached program symbol reason =>
      .line ("Error during attach: " ++ (Failure.attachment program symbol reason).message)
  | .unread table reason =>
      .line ("Error during read table: " ++ (Failure.tableRead table reason).message)
  | .undetached program reason =>
      .line ("Error during detach: " ++ (Failure.detachment program reason).message)
  | .deaf text => .line ("Error: " ++ text)
  | .unwritten text => .line ("Error: Failed to write report: " ++ text)
  | .unflushed text => .line ("Error: Failed to flush report: " ++ text)
  | .pauseless => .line "Error: polling interval must be greater than zero"
  | .unsaved problem _ => .line ("Error: " ++ problem.chain)

def Fate.result : Fate → Except Problem Unit
  | .completed => .ok ()
  | .unresolved event reason => .error (.ofFailure (.resolution event reason))
  | .unprivileged program symbol reason => .error (.ofFailure (.attachment program symbol reason))
  | .unattached program symbol reason => .error (.ofFailure (.attachment program symbol reason))
  | .unread table reason => .error (.ofFailure (.tableRead table reason))
  | .undetached program reason => .error (.ofFailure (.detachment program reason))
  | .deaf text => .error ⟨.other text, []⟩
  | .unwritten text => .error ⟨.output text, ["Failed to write report"]⟩
  | .unflushed text => .error ⟨.output text, ["Failed to flush report"]⟩
  | .pauseless => .error ⟨.zeroInterval, []⟩
  | .unsaved problem _ => .error problem

inductive Conclusion where
  /-- The command line made no command. -/
  | unparsed (error : UsageError)
  | executed (fate : Fate)
deriving DecidableEq, Repr

def Conclusion.code : Conclusion → Nat
  | .unparsed .helpRequested => 0
  | .unparsed .versionRequested => 0
  | .unparsed _ => 2
  | .executed fate => fate.code

def Conclusion.diagnostic : Conclusion → Diagnostic
  | .unparsed .versionRequested => .silent
  | .unparsed _ => .usage
  | .executed fate => fate.diagnostic

/-! ### What has happened at an end -/

/-- What attaching a probe comes to: the fate that the session meets by it, or the probe and the
state that is left. -/
inductive Attempts (platform : Platform ω π) (settings : Settings) (world : ω) :
    Except Fate (π × ω) → Prop where
  | unresolved {reason : String} {left : ω} {log : List LogRecord}
      (resolving : platform.resolve settings.event world =
        ⟨.error (.resolution settings.event reason), left, log⟩) :
      Attempts platform settings world (.error (.unresolved settings.event reason))
  | unprivileged {target : Kernel.Target} {reason : String} {resolved left : ω}
      {resolveLog log : List LogRecord}
      (resolving : platform.resolve settings.event world = ⟨.ok target, resolved, resolveLog⟩)
      (checking : platform.ensurePrivileges target settings.probe.artifact resolved =
        ⟨.error (.attachment settings.probe.artifact.program target.symbol reason), left, log⟩) :
      Attempts platform settings world
        (.error (.unprivileged settings.probe.artifact.program target.symbol reason))
  | unattached {target : Kernel.Target} {reason : String} {resolved checked left : ω}
      {resolveLog checkLog log : List LogRecord}
      (resolving : platform.resolve settings.event world = ⟨.ok target, resolved, resolveLog⟩)
      (checking : platform.ensurePrivileges target settings.probe.artifact resolved =
        ⟨.ok (), checked, checkLog⟩)
      (attaching : platform.attach target settings.probe.artifact checked =
        ⟨.error (.attachment settings.probe.artifact.program target.symbol reason), left, log⟩) :
      Attempts platform settings world
        (.error (.unattached settings.probe.artifact.program target.symbol reason))
  | attached {target : Kernel.Target} {probe : π} {resolved checked attached : ω}
      {resolveLog checkLog log : List LogRecord}
      (resolving : platform.resolve settings.event world = ⟨.ok target, resolved, resolveLog⟩)
      (checking : platform.ensurePrivileges target settings.probe.artifact resolved =
        ⟨.ok (), checked, checkLog⟩)
      (attaching : platform.attach target settings.probe.artifact checked =
        ⟨.ok probe, attached, log⟩) :
      Attempts platform settings world (.ok (probe, attached))

/-- The fate of a session by what stopped it and by the answer to detaching its probe. Detaching
matters only for a session that was asked to stop. -/
inductive Closes : Stop → Except Failure Unit → Fate → Prop where
  | completed : Closes .asked (.ok ()) .completed
  | undetached (program reason : String) :
      Closes .asked (.error (.detachment program reason)) (.undetached program reason)
  | unread (table reason : String) (detached : Except Failure Unit) :
      Closes (.unread (.tableRead table reason)) detached (.unread table reason)
  | unwritten (text : String) (detached : Except Failure Unit) :
      Closes (.unwritten text) detached (.unwritten text)
  | unflushed (text : String) (detached : Except Failure Unit) :
      Closes (.unflushed text) detached (.unflushed text)

inductive SessionMeets (facilities : Facilities ω π) (settings : Settings) (whole : ω) :
    Fate → Prop where
  | deaf {text : String} {left : ω} (listening : facilities.listen whole = (.error text, left)) :
      SessionMeets facilities settings whole (.deaf text)
  | refused {ready : ω} {fate : Fate} (listening : facilities.listen whole = (.ok (), ready))
      (attempt : Attempts (facilities.platform settings) settings ready (.error fate)) :
      SessionMeets facilities settings whole fate
  | watched {ready attached after : ω} {probe : π} {stop : Stop} {fate : Fate}
      (listening : facilities.listen whole = (.ok (), ready))
      (attempt : Attempts (facilities.platform settings) settings ready (.ok (probe, attached)))
      (stops : StopsBy (facilities.platform settings) facilities.around settings probe attached
        stop after)
      (closes : Closes stop ((facilities.platform settings).detach probe after).2.result fate) :
      SessionMeets facilities settings whole fate

inductive CommandMeets (facilities : Facilities ω π) (settings : Settings) (whole : ω) :
    Command → Fate → Prop where
  | hello {event : Option String} {fate : Fate}
      (session : SessionMeets facilities settings whole fate) :
      CommandMeets facilities settings whole (.hello event) fate
  | count {event : Option String} {interval : Option UInt64} {fate : Fate}
      (pauses : 1 ≤ settings.interval.toNat)
      (session : SessionMeets facilities settings whole fate) :
      CommandMeets facilities settings whole (.count event interval) fate
  | uncounted {event : Option String} {interval : Option UInt64}
      (pauseless : settings.interval = 0) :
      CommandMeets facilities settings whole (.count event interval) .pauseless
  | resolved {event : String} {target : Kernel.Target} {left : ω} {log : List LogRecord}
      (resolving : (facilities.platform settings).resolve event whole = ⟨.ok target, left, log⟩) :
      CommandMeets facilities settings whole (.resolve event) .completed
  | unresolved {event reason : String} {left : ω} {log : List LogRecord}
      (resolving : (facilities.platform settings).resolve event whole =
        ⟨.error (.resolution event reason), left, log⟩) :
      CommandMeets facilities settings whole (.resolve event) (.unresolved event reason)
  | told : CommandMeets facilities settings whole .info .completed
  | saved {changes : Changes} (pauses : 1 ≤ settings.interval.toNat)
      (saving : (save (facilities.world whole).environment settings
        (facilities.world whole).host.files).1 = .ok ()) :
      CommandMeets facilities settings whole (.setup changes) .completed
  | unsaved {changes : Changes} {problem : Problem} (probeless : problem.failure? = none)
      (pauses : 1 ≤ settings.interval.toNat)
      (saving : (save (facilities.world whole).environment settings
        (facilities.world whole).host.files).1 = .error problem) :
      CommandMeets facilities settings whole (.setup changes) (.unsaved problem probeless)
  | unchanged {changes : Changes} (pauseless : settings.interval = 0) :
      CommandMeets facilities settings whole (.setup changes) .pauseless

/-- The conclusion of a run. A command works with the settings in force and its own options. -/
inductive Concludes (facilities : Facilities ω π) (arguments : List Text.Octets) (whole : ω) :
    Conclusion → Prop where
  | unparsed {error : UsageError} (refused : parse arguments = .error error) :
      Concludes facilities arguments whole (.unparsed error)
  | executed {command : Command} {fate : Fate} (parsed : parse arguments = .ok command)
      (meets : CommandMeets facilities ((options command).apply
        (load (facilities.world whole).environment (facilities.world whole).host.files).1)
        whole command fate) :
      Concludes facilities arguments whole (.executed fate)

variable {facilities : Facilities ω π} {platform : Platform ω π}
  {around : Session.Surroundings ω} {settings : Settings} {command : Command}
  {arguments : List Text.Octets} {rounds : Nat} {world whole : ω} {fate other : Fate}

/-! ### Codes and diagnostics -/

theorem exitOfOutcome_of_fate {outcome : Outcome ω} (result : outcome.result = fate.result) :
    (exitOfOutcome outcome).code = fate.code ∧
      (exitOfOutcome outcome).diagnostic = fate.diagnostic := by
  unfold exitOfOutcome
  rw [result]
  cases fate with
  | unsaved problem probeless =>
      simp only [Fate.result, Fate.code, Fate.diagnostic, Problem.exitCode, Problem.diagnostic,
        probeless, and_self]
  | _ => exact ⟨rfl, rfl⟩

/-! ### Every run that ends has a conclusion -/

theorem attempts_of_attachProbe (named : platform.FailsInOwnName) (settings : Settings) (world : ω) :
    (∃ fate failure left log,
      platform.attachProbe settings.event settings.probe world = ⟨.error failure, left, log⟩ ∧
      Attempts platform settings world (.error fate) ∧
      Except.error (.ofFailure failure) = fate.result) ∨
    (∃ probe attached log,
      platform.attachProbe settings.event settings.probe world = ⟨.ok probe, attached, log⟩ ∧
      Attempts platform settings world (.ok (probe, attached))) := by
  rcases resolving : platform.resolve settings.event world with
    ⟨failure | target, resolved, resolveLog⟩
  case error =>
    obtain ⟨reason, rfl⟩ := named.resolve (congrArg Response.result resolving)
    exact .inl ⟨_, _, _, _, attachProbe_of_unresolved resolving, .unresolved resolving, rfl⟩
  case ok =>
    rcases checking : platform.ensurePrivileges target settings.probe.artifact resolved with
      ⟨failure | ⟨⟩, checked, checkLog⟩
    case error =>
      obtain ⟨reason, rfl⟩ := named.ensurePrivileges (congrArg Response.result checking)
      exact .inl ⟨_, _, _, _, attachProbe_of_unprivileged resolving checking,
        .unprivileged resolving checking, rfl⟩
    case ok =>
      rcases attaching : platform.attach target settings.probe.artifact checked with
        ⟨failure | probe, attached, log⟩
      case error =>
        obtain ⟨reason, rfl⟩ := named.attach (congrArg Response.result attaching)
        exact .inl ⟨_, _, _, _, attachProbe_of_unattached resolving checking attaching,
          .unattached resolving checking attaching, rfl⟩
      case ok =>
        exact .inr ⟨_, _, _, attachProbe_of_attached resolving checking attaching,
          .attached resolving checking attaching⟩

theorem tableRead_of_unread (named : platform.FailsInOwnName) {probe : π} {attached after : ω}
    {failure : Failure}
    (stops : StopsBy platform around settings probe attached (.unread failure) after) :
    ∃ table reason, failure = .tableRead table reason := by
  cases stops with
  | counting _ _ stopping =>
      cases stopping with
      | unread _ reading => exact named.readTable (congrArg Response.result reading)

theorem closes_of_stopsBy (named : platform.FailsInOwnName) {probe : π} {attached after : ω}
    {stop : Stop} (stops : StopsBy platform around settings probe attached stop after) :
    ∃ fate, Closes stop (platform.detach probe after).2.result fate ∧
      combine stop.result (platform.detach probe after).2.result = fate.result := by
  cases stop with
  | asked =>
      rcases detaching : (platform.detach probe after).2.result with failure | ⟨⟩
      · obtain ⟨reason, rfl⟩ := named.detach detaching
        exact ⟨_, .undetached _ reason, rfl⟩
      · exact ⟨_, .completed, rfl⟩
  | unread failure =>
      obtain ⟨table, reason, rfl⟩ := tableRead_of_unread named stops
      exact ⟨_, .unread table reason _, rfl⟩
  | unwritten text => exact ⟨_, .unwritten text _, rfl⟩
  | unflushed text => exact ⟨_, .unflushed text _, rfl⟩

theorem sessionMeets_of_runSession {outcome : Outcome ω}
    (ends : facilities.runSession settings rounds whole = some outcome) :
    ∃ fate, SessionMeets facilities settings whole fate ∧ outcome.result = fate.result := by
  have named := facilities.named settings
  unfold Facilities.runSession at ends
  rcases listening : facilities.listen whole with ⟨text | ⟨⟩, ready⟩
  case error =>
    simp only [listening, Option.some.injEq] at ends
    rw [← ends]
    exact ⟨_, .deaf listening, rfl⟩
  case ok =>
    simp only [listening, Option.map_eq_some_iff] at ends
    obtain ⟨ending, running, rfl⟩ := ends
    rcases attempts_of_attachProbe named settings ready with
      ⟨fate, failure, left, log, attaching, attempt, result⟩ |
        ⟨probe, attached, log, attaching, attempt⟩
    · rw [run_of_unattached attaching] at running
      obtain rfl := Option.some.inj running
      exact ⟨fate, .refused listening attempt, result⟩
    · rw [run_of_attached attaching] at running
      obtain ⟨reports, watching, rfl⟩ := Option.map_eq_some_iff.mp running
      obtain ⟨stop, stops, stopped⟩ := stopsBy_of_watch watching
      obtain ⟨fate, closes, combined⟩ := closes_of_stopsBy named stops
      refine ⟨fate, .watched listening attempt stops closes, ?_⟩
      show combine reports.result _ = _
      rw [stopped]
      exact combined

theorem commandMeets_of_runCount {outcome : Outcome ω} (event : Option String)
    (interval : Option UInt64) (ends : facilities.runCount settings rounds whole = some outcome) :
    ∃ fate, CommandMeets facilities settings whole (.count event interval) fate ∧
      outcome.result = fate.result := by
  unfold Facilities.runCount at ends
  rcases interval_zero_or_pos settings with pauseless | pauses
  · rw [validate_of_zero pauseless] at ends
    obtain rfl := Option.some.inj ends
    exact ⟨_, .uncounted pauseless, rfl⟩
  · rw [validate_of_pos pauses] at ends
    obtain ⟨fate, session, result⟩ := sessionMeets_of_runSession ends
    exact ⟨fate, .count pauses session, result⟩

theorem commandMeets_of_runResolve (facilities : Facilities ω π) (settings : Settings)
    (event : String) (whole : ω) :
    ∃ fate, CommandMeets facilities settings whole (.resolve event) fate ∧
      (facilities.runResolve settings event whole).result = fate.result := by
  unfold Facilities.runResolve
  rcases resolving : (facilities.platform settings).resolve event whole with
    ⟨failure | target, left, log⟩
  · obtain ⟨reason, rfl⟩ :=
      (facilities.named settings).resolve (congrArg Response.result resolving)
    exact ⟨_, .unresolved resolving, rfl⟩
  · exact ⟨_, .resolved resolving, rfl⟩

theorem result_runSetup (facilities : Facilities ω π) (changes : Settings.Changes) (whole : ω) :
    (facilities.runSetup changes whole).result =
      (Settings.modify (facilities.world whole).environment changes
        (facilities.world whole).host.files).result.map fun _ => () := by
  simp only [Facilities.runSetup]
  cases (Settings.modify (facilities.world whole).environment changes
    (facilities.world whole).host.files).result <;> rfl

theorem commandMeets_of_runSetup (changes : Settings.Changes) (whole : ω)
    (chosen : changes.apply (load (facilities.world whole).environment
      (facilities.world whole).host.files).1 = settings) :
    ∃ fate, CommandMeets facilities settings whole (.setup changes) fate ∧
      (facilities.runSetup changes whole).result = fate.result := by
  rw [result_runSetup]
  rcases interval_zero_or_pos settings with pauseless | pauses
  · rw [(modify_of_zero _ _ chosen pauseless).1]
    exact ⟨_, .unchanged pauseless, rfl⟩
  · rw [(modify_of_pos _ _ chosen pauses).1]
    rcases saving : (save (facilities.world whole).environment settings
      (facilities.world whole).host.files).1 with problem | ⟨⟩
    · exact ⟨_, .unsaved (failure?_of_save saving) pauses saving, rfl⟩
    · exact ⟨_, .saved pauses saving, rfl⟩

theorem commandMeets_of_execute {outcome : Outcome ω}
    (ends : facilities.execute command rounds whole = some outcome) :
    ∃ fate, CommandMeets facilities ((options command).apply
        (load (facilities.world whole).environment (facilities.world whole).host.files).1)
        whole command fate ∧
      outcome.result = fate.result := by
  -- The loaded settings are named first: what a command does with them is all that counts here.
  rcases loaded : load (facilities.world whole).environment (facilities.world whole).host.files
    with ⟨inForce, log⟩
  simp only [Facilities.execute, loaded] at ends
  cases command with
  | hello event =>
      obtain ⟨fate, session, result⟩ := sessionMeets_of_runSession ends
      exact ⟨fate, .hello session, result⟩
  | count event interval => exact commandMeets_of_runCount event interval ends
  | resolve event =>
      obtain rfl := Option.some.inj ends
      exact commandMeets_of_runResolve facilities inForce event whole
  | info =>
      obtain rfl := Option.some.inj ends
      exact ⟨_, .told, rfl⟩
  | setup changes =>
      obtain rfl := Option.some.inj ends
      exact commandMeets_of_runSetup changes whole (congrArg (changes.apply ·.1) loaded)

theorem concludes_of_run {exit : Exit ω}
    (ends : facilities.run arguments rounds whole = some exit) :
    ∃ conclusion, Concludes facilities arguments whole conclusion ∧
      exit.code = conclusion.code ∧ exit.diagnostic = conclusion.diagnostic := by
  unfold Facilities.run at ends
  cases parsed : parse arguments with
  | error error =>
      simp only [parsed, Option.some.injEq] at ends
      rw [← ends]
      refine ⟨_, .unparsed parsed, ?_⟩
      cases error <;> exact ⟨rfl, rfl⟩
  | ok command =>
      simp only [parsed, Option.map_eq_some_iff] at ends
      obtain ⟨outcome, executing, rfl⟩ := ends
      obtain ⟨fate, meets, result⟩ := commandMeets_of_execute executing
      exact ⟨_, .executed parsed meets, exitOfOutcome_of_fate result⟩

/-! ### And only one -/

theorem Attempts.unique {first second : Except Fate (π × ω)}
    (one : Attempts platform settings world first) (two : Attempts platform settings world second) :
    first = second := by
  -- The steps are taken in one order, so two attempts differ in no answer.
  cases one <;> cases two <;> simp_all

theorem Closes.unique {stop : Stop} {detached : Except Failure Unit}
    (one : Closes stop detached fate) (two : Closes stop detached other) : fate = other := by
  cases one <;> cases two <;> rfl

theorem SessionMeets.unique (one : SessionMeets facilities settings whole fate)
    (two : SessionMeets facilities settings whole other) : fate = other := by
  cases one with
  | deaf listening =>
      cases two with
      | deaf listening' => cases listening.symm.trans listening'; rfl
      | refused listening' => cases listening.symm.trans listening'
      | watched listening' => cases listening.symm.trans listening'
  | refused listening attempt =>
      cases two with
      | deaf listening' => cases listening.symm.trans listening'
      | refused listening' attempt' =>
          cases listening.symm.trans listening'
          exact Except.error.inj (attempt.unique attempt')
      | watched listening' attempt' =>
          cases listening.symm.trans listening'
          cases attempt.unique attempt'
  | watched listening attempt stops closes =>
      cases two with
      | deaf listening' => cases listening.symm.trans listening'
      | refused listening' attempt' =>
          cases listening.symm.trans listening'
          cases attempt.unique attempt'
      | watched listening' attempt' stops' closes' =>
          cases listening.symm.trans listening'
          cases attempt.unique attempt'
          obtain ⟨rfl, rfl⟩ := stops.unique stops'
          exact closes.unique closes'

theorem CommandMeets.unique (one : CommandMeets facilities settings whole command fate)
    (two : CommandMeets facilities settings whole command other) : fate = other := by
  have exclusive (pauseless : settings.interval = 0) (pauses : 1 ≤ settings.interval.toNat) :
      False := by
    rw [pauseless] at pauses
    cases pauses
  cases one with
  | hello session =>
      cases two with
      | hello session' => exact session.unique session'
  | count pauses session =>
      cases two with
      | count _ session' => exact session.unique session'
      | uncounted pauseless => exact (exclusive pauseless pauses).elim
  | uncounted pauseless =>
      cases two with
      | count pauses => exact (exclusive pauseless pauses).elim
      | uncounted => rfl
  | resolved resolving =>
      cases two with
      | resolved => rfl
      | unresolved resolving' => cases resolving.symm.trans resolving'
  | unresolved resolving =>
      cases two with
      | resolved resolving' => cases resolving.symm.trans resolving'
      | unresolved resolving' => cases resolving.symm.trans resolving'; rfl
  | told =>
      cases two with
      | told => rfl
  | saved pauses saving =>
      cases two with
      | saved => rfl
      | unsaved _ _ saving' => cases saving.symm.trans saving'
      | unchanged pauseless => exact (exclusive pauseless pauses).elim
  | unsaved probeless pauses saving =>
      cases two with
      | saved _ saving' => cases saving.symm.trans saving'
      | unsaved _ _ saving' => cases saving.symm.trans saving'; rfl
      | unchanged pauseless => exact (exclusive pauseless pauses).elim
  | unchanged pauseless =>
      cases two with
      | saved pauses => exact (exclusive pauseless pauses).elim
      | unsaved _ pauses => exact (exclusive pauseless pauses).elim
      | unchanged => rfl

theorem Concludes.unique {first second : Conclusion}
    (one : Concludes facilities arguments whole first)
    (two : Concludes facilities arguments whole second) : first = second := by
  cases one with
  | unparsed refused =>
      cases two with
      | unparsed refused' => exact congrArg _ (Except.error.inj (refused.symm.trans refused'))
      | executed parsed => cases refused.symm.trans parsed
  | executed parsed meets =>
      cases two with
      | unparsed refused => cases refused.symm.trans parsed
      | executed parsed' meets' =>
          cases parsed.symm.trans parsed'
          exact congrArg Conclusion.executed (meets.unique meets')

/-- A run that ends has one conclusion, and its exit code and its diagnostic are those of the
conclusion. Contexts never change a code. In a process, an event is not resolved in a file of symbols
that cannot be read or is no text. -/
theorem exit_names_failed_step (facilities : Facilities ω π) (arguments : List Text.Octets)
    (rounds : Nat) (whole : ω) (exit : Exit ω)
    (ends : facilities.run arguments rounds whole = some exit) :
    (∃ conclusion, Concludes facilities arguments whole conclusion ∧
      (∀ other, Concludes facilities arguments whole other → other = conclusion) ∧
      exit.code = conclusion.code ∧ exit.diagnostic = conclusion.diagnostic) ∧
    (∀ (problem : Problem) (contexts : List String),
      (contexts.foldr Problem.within problem).exitCode = problem.exitCode) ∧
    (∀ (settings : Settings) (event : String) (world : World),
      (∀ text, world.host.files.read settings.symbolsPath ≠
        .ok (.octets (Text.Utf8.encode text))) →
      ∃ reason, ((Command.platform settings).resolve event world).result =
        .error (.resolution event reason)) := by
  refine ⟨?_, ?_, ?_⟩
  · obtain ⟨conclusion, concludes, code, diagnostic⟩ := concludes_of_run ends
    exact ⟨conclusion, concludes, fun _ also => also.unique concludes, code, diagnostic⟩
  · intro problem contexts
    induction contexts with
    | nil => rfl
    | cons context contexts inductionHypothesis =>
        rw [List.foldr_cons, Problem.exitCode_within, inductionHypothesis]
  · intro settings event world unreadable
    exact Loaded.resolve_of_unreadable ⟨settings.objectPath, settings.symbolsPath⟩ world.host
      unreadable event

/-- A process of a user without privileges, with a listing of the symbols of its kernel. -/
def unprivilegedWorld : World where
  host :=
    { files :=
        ⟨[], [([Text.Utf8.encode "proc"], .directory),
          ([Text.Utf8.encode "proc", Text.Utf8.encode "kallsyms"],
            .file (.octets (Text.Utf8.encode "0 T sys_bpf\n0 T sys_execve\n")))], []⟩
      effectiveUser := 7 }

theorem exit_names_failed_step_unprivileged :
    ∃ exit conclusion, run [Text.Utf8.encode "count"] 1 unprivilegedWorld = some exit ∧
      Concludes Command.facilities [Text.Utf8.encode "count"] unprivilegedWorld conclusion ∧
      exit.code = 3 ∧ conclusion.code = 3 ∧
      conclusion.diagnostic = .line ("Error during attach: failed to attach `count_execve` to "
        ++ "`sys_execve`: loading kernel probes requires root privileges (effective uid is 7)") := by
  have told : (run [Text.Utf8.encode "count"] 1 unprivilegedWorld).map
      (fun exit => (exit.code, exit.diagnostic)) =
      some (3, .line ("Error during attach: failed to attach `count_execve` to "
        ++ "`sys_execve`: loading kernel probes requires root privileges (effective uid is 7)")) := by
    decide +kernel
  obtain ⟨exit, ends, same⟩ := Option.map_eq_some_iff.mp told
  obtain ⟨codeEq, diagnosticEq⟩ := Prod.mk.inj same
  obtain ⟨⟨conclusion, concludes, -, code, diagnostic⟩, -⟩ :=
    exit_names_failed_step Command.facilities _ 1 unprivilegedWorld exit ends
  exact ⟨exit, conclusion, ends, concludes, codeEq, code.symm.trans codeEq,
    diagnostic.symm.trans diagnosticEq⟩

end SyscallTally.Command
