import SyscallTally.Platform.Scripted
import SyscallTally.Proofs.Session.Parts
import SyscallTally.Proofs.Session.Rounds

/-!
Owns the order of the calls that a session makes to its platform: whatever the platform answers, the
output takes or the clock brings, a session takes one of the courses of `Course`
(`calls_follow_course`). In each of them a probe that was attached is detached, once and last.

The calls are seen by running the session on the tracing platform, among surroundings that leave the
list of calls alone. A traced session is shown to be the session itself, so it is also shown that
tracing changes nothing.
-/

set_option autoImplicit false

namespace SyscallTally.Session

open SyscallTally.Platform SyscallTally.Probe SyscallTally.Kernel

variable {ω π : Type}

/-! ### Sessions that keep a list of their calls -/

/-- The surroundings, which call no platform. -/
def Surroundings.traced (around : Surroundings ω) : Surroundings (Traced ω) :=
  around.onPart Traced.state fun state traced => { traced with state }

/-- An ending with the calls that have led to it. -/
def Ending.traced (ending : Ending ω) (calls : List Call) : Ending (Traced ω) :=
  ⟨ending.result, ⟨ending.world, calls⟩, ending.log⟩

/-- The result of a session by those of its reports and of detaching its probe. An error of the
reports hides one of detaching. -/
inductive Closing : Except Problem Unit → Except Failure Unit → Except Problem Unit → Prop where
  | failed (problem : Problem) (detached : Except Failure Unit) :
      Closing (.error problem) detached (.error problem)
  | undetached (failure : Failure) :
      Closing (.ok ()) (.error failure) (.error (.ofFailure failure))
  | clean : Closing (.ok ()) (.ok ()) (.ok ())

/-- The courses of a session: the calls that it makes and its result. -/
inductive Course (platform : Platform ω π) (around : Surroundings ω) (settings : Settings)
    (rounds : Nat) (world : ω) : List Call → Except Problem Unit → Prop where
  | unresolved {failure : Failure} {left : ω} {log : List LogRecord}
      (resolving : platform.resolve settings.event world = ⟨.error failure, left, log⟩) :
      Course platform around settings rounds world
        [.resolve settings.event]
        (.error (.ofFailure failure))
  | unprivileged {target : Target} {failure : Failure} {resolved left : ω}
      {resolveLog log : List LogRecord}
      (resolving : platform.resolve settings.event world = ⟨.ok target, resolved, resolveLog⟩)
      (checking : platform.ensurePrivileges target settings.probe.artifact resolved =
        ⟨.error failure, left, log⟩) :
      Course platform around settings rounds world
        [.resolve settings.event, .ensurePrivileges target settings.probe.artifact]
        (.error (.ofFailure failure))
  | unattached {target : Target} {failure : Failure} {resolved checked left : ω}
      {resolveLog checkLog log : List LogRecord}
      (resolving : platform.resolve settings.event world = ⟨.ok target, resolved, resolveLog⟩)
      (checking : platform.ensurePrivileges target settings.probe.artifact resolved =
        ⟨.ok (), checked, checkLog⟩)
      (attaching : platform.attach target settings.probe.artifact checked =
        ⟨.error failure, left, log⟩) :
      Course platform around settings rounds world
        [.resolve settings.event, .ensurePrivileges target settings.probe.artifact,
          .attach target settings.probe.artifact]
        (.error (.ofFailure failure))
  | watched {target : Target} {probe : π} {resolved checked attached : ω}
      {resolveLog checkLog attachLog : List LogRecord} {reports : Ending ω} {reads : Nat}
      {result : Except Problem Unit}
      (resolving : platform.resolve settings.event world = ⟨.ok target, resolved, resolveLog⟩)
      (checking : platform.ensurePrivileges target settings.probe.artifact resolved =
        ⟨.ok (), checked, checkLog⟩)
      (attaching : platform.attach target settings.probe.artifact checked =
        ⟨.ok probe, attached, attachLog⟩)
      (watching : watch platform around settings probe rounds attached = some reports)
      (unread : settings.probe = .hello → reads = 0)
      (closing : Closing reports.result (platform.detach probe reports.world).2.result result) :
      Course platform around settings rounds world
        ([.resolve settings.event, .ensurePrivileges target settings.probe.artifact,
          .attach target settings.probe.artifact] ++
          List.replicate reads .readTable ++ [.detach])
        result

/-! ### Reports -/

theorem traced_isPart : IsPart (Traced.state (σ := ω)) fun state traced => { traced with state } :=
  ⟨fun _ _ => rfl, fun _ => rfl, fun _ _ _ => rfl⟩

/-- The surroundings do to a traced state what they do to the state itself. -/
theorem report_traced {around : Surroundings ω} {snapshot : Counter.Snapshot} {world after : ω}
    {result : Except Problem Unit} (reporting : report around snapshot world = (result, after))
    (calls : List Call) :
    report around.traced snapshot ⟨world, calls⟩ = (result, ⟨after, calls⟩) := by
  have reportingPart : report around.traced snapshot ⟨world, calls⟩ =
      ((report around snapshot world).1, ⟨(report around snapshot world).2, calls⟩) :=
    report_onPart traced_isPart around snapshot ⟨world, calls⟩
  rwa [reporting] at reportingPart

theorem pause_traced {around : Surroundings ω} {interval : Nat} {world after : ω}
    {cancelled : Bool} (pausing : around.pause interval world = (cancelled, after))
    (calls : List Call) :
    around.traced.pause interval ⟨world, calls⟩ = (cancelled, ⟨after, calls⟩) := by
  show ((around.pause interval world).1, Traced.mk (around.pause interval world).2 calls) = _
  rw [pausing]

theorem resolve_traced {platform : Platform ω π} {event : String} {world after : ω}
    {result : Except Failure Target} {log : List LogRecord}
    (resolving : platform.resolve event world = ⟨result, after, log⟩) (calls : List Call) :
    (Platform.traced platform).resolve event ⟨world, calls⟩ =
      ⟨result, ⟨after, calls ++ [.resolve event]⟩, log⟩ := by
  show (platform.resolve event world).onPart (Traced.after ⟨world, calls⟩ _) = _
  rw [resolving]
  rfl

theorem ensurePrivileges_traced {platform : Platform ω π} {target : Target} {artifact : Artifact}
    {world after : ω} {result : Except Failure Unit} {log : List LogRecord}
    (checking : platform.ensurePrivileges target artifact world = ⟨result, after, log⟩)
    (calls : List Call) :
    (Platform.traced platform).ensurePrivileges target artifact ⟨world, calls⟩ =
      ⟨result, ⟨after, calls ++ [.ensurePrivileges target artifact]⟩, log⟩ := by
  show (platform.ensurePrivileges target artifact world).onPart
    (Traced.after ⟨world, calls⟩ _) = _
  rw [checking]
  rfl

theorem attach_traced {platform : Platform ω π} {target : Target} {artifact : Artifact}
    {world after : ω} {result : Except Failure π} {log : List LogRecord}
    (attaching : platform.attach target artifact world = ⟨result, after, log⟩)
    (calls : List Call) :
    (Platform.traced platform).attach target artifact ⟨world, calls⟩ =
      ⟨result, ⟨after, calls ++ [.attach target artifact]⟩, log⟩ := by
  show (platform.attach target artifact world).onPart (Traced.after ⟨world, calls⟩ _) = _
  rw [attaching]
  rfl

theorem readTable_traced {platform : Platform ω π} {probe : π} {world after : ω}
    {result : Except Failure Counter.Snapshot} {log : List LogRecord}
    (reading : platform.readTable probe world = ⟨result, after, log⟩) (calls : List Call) :
    (Platform.traced platform).readTable probe ⟨world, calls⟩ =
      ⟨result, ⟨after, calls ++ [.readTable]⟩, log⟩ := by
  show (platform.readTable probe world).onPart (Traced.after ⟨world, calls⟩ .readTable) = _
  rw [reading]
  rfl

/-- The rounds of a loop are the rounds of the traced loop, and all their calls are reads. -/
theorem Rounds.traced {platform : Platform ω π} {around : Surroundings ω} {interval : Nat}
    {probe : π} {rounds : Nat} {world : ω} {ending : Ending ω}
    (going : Rounds platform around interval probe rounds world ending) (calls : List Call) :
    ∃ reads, Rounds (Platform.traced platform) around.traced interval probe rounds
      ⟨world, calls⟩ (ending.traced (calls ++ List.replicate reads .readTable)) := by
  induction going generalizing calls with
  | cancelled pausing =>
      refine ⟨0, ?_⟩
      rw [List.replicate_zero, List.append_nil]
      exact .cancelled (pause_traced pausing calls)
  | unread pausing reading =>
      exact ⟨1, .unread (pause_traced pausing calls) (readTable_traced reading calls)⟩
  | unreported pausing reading reporting =>
      exact ⟨1, .unreported (pause_traced pausing calls) (readTable_traced reading calls)
        (report_traced reporting _)⟩
  | reported pausing reading reporting goingOn inductionHypothesis =>
      obtain ⟨reads, goingOnTraced⟩ := inductionHypothesis (calls ++ [.readTable])
      refine ⟨reads + 1, ?_⟩
      rw [List.append_assoc, List.singleton_append, ← List.replicate_succ] at goingOnTraced
      exact .reported (pause_traced pausing calls) (readTable_traced reading calls)
        (report_traced reporting _) goingOnTraced

/-! ### Whole sessions -/

/-- A probe that is watched is read at most, and one without a table is not even read. -/
theorem watch_traced {platform : Platform ω π} {around : Surroundings ω} {settings : Settings}
    {probe : π} {rounds : Nat} {world : ω} {ending : Ending ω}
    (watching : watch platform around settings probe rounds world = some ending)
    (calls : List Call) :
    ∃ reads, (settings.probe = .hello → reads = 0) ∧
      watch (Platform.traced platform) around.traced settings probe rounds ⟨world, calls⟩ =
        some (ending.traced (calls ++ List.replicate reads .readTable)) := by
  unfold watch at watching ⊢
  cases kind : settings.probe with
  | count =>
      simp only [kind, Option.map_eq_some_iff] at watching
      obtain ⟨reports, reporting, rfl⟩ := watching
      obtain ⟨reads, going⟩ := (reportEach_iff_rounds.mp reporting).traced calls
      refine ⟨reads, nofun, ?_⟩
      simp only [going.ends, Option.map_some]
      rfl
  | hello =>
      simp only [kind, Option.map_eq_some_iff] at watching
      obtain ⟨after, cancelled, rfl⟩ := watching
      refine ⟨0, fun _ => rfl, ?_⟩
      have awaited : around.traced.awaitCancel ⟨world, calls⟩ =
          (around.awaitCancel world).map (⟨·, calls⟩) := rfl
      simp only [awaited, cancelled, Option.map_some, List.replicate_zero, List.append_nil]
      rfl

theorem closing_combine (reports : Except Problem Unit) (detached : Except Failure Unit) :
    Closing reports detached (combine reports detached) := by
  rcases reports with problem | ⟨⟩
  · exact .failed problem detached
  · rcases detached with failure | ⟨⟩
    · exact .undetached failure
    · exact .clean

theorem run_of_unattached {platform : Platform ω π} {around : Surroundings ω} {settings : Settings}
    {rounds : Nat} {world left : ω} {failure : Failure} {log : List LogRecord}
    (attaching : platform.attachProbe settings.event settings.probe world =
      ⟨.error failure, left, log⟩) :
    run platform around settings rounds world = some ⟨.error (.ofFailure failure), left, log⟩ := by
  simp only [run, attaching]

theorem run_of_attached {platform : Platform ω π} {around : Surroundings ω} {settings : Settings}
    {rounds : Nat} {world attached : ω} {probe : π} {log : List LogRecord}
    (attaching : platform.attachProbe settings.event settings.probe world =
      ⟨.ok probe, attached, log⟩) :
    run platform around settings rounds world =
      (watch platform around settings probe rounds attached).map fun ending =>
        (finish platform probe ending).following log := by
  simp only [run, attaching]

/-- A session that ends takes one of its courses. Tracing it changes nothing but that the calls
become known. -/
theorem calls_follow_course (platform : Platform ω π) (around : Surroundings ω)
    (settings : Settings) (rounds : Nat) (world : ω) (ending : Ending ω)
    (ends : run platform around settings rounds world = some ending) :
    ∃ calls, run (Platform.traced platform) around.traced settings rounds ⟨world, []⟩ =
        some (ending.traced calls) ∧
      Course platform around settings rounds world calls ending.result := by
  rcases resolving : platform.resolve settings.event world with
    ⟨failure | target, resolved, resolveLog⟩
  case error =>
    rw [run_of_unattached (attachProbe_of_unresolved resolving)] at ends
    obtain rfl := Option.some.inj ends
    exact ⟨_, run_of_unattached (attachProbe_of_unresolved (resolve_traced resolving [])),
      .unresolved resolving⟩
  case ok =>
    have resolvingTraced := resolve_traced resolving []
    rcases checking : platform.ensurePrivileges target settings.probe.artifact resolved with
      ⟨failure | ⟨⟩, checked, checkLog⟩
    case error =>
      rw [run_of_unattached (attachProbe_of_unprivileged resolving checking)] at ends
      obtain rfl := Option.some.inj ends
      exact ⟨_, run_of_unattached (attachProbe_of_unprivileged resolvingTraced
        (ensurePrivileges_traced checking _)), .unprivileged resolving checking⟩
    case ok =>
      have checkingTraced := ensurePrivileges_traced checking [.resolve settings.event]
      rcases attaching : platform.attach target settings.probe.artifact checked with
        ⟨failure | probe, attached, attachLog⟩
      case error =>
        rw [run_of_unattached (attachProbe_of_unattached resolving checking attaching)] at ends
        obtain rfl := Option.some.inj ends
        exact ⟨_, run_of_unattached (attachProbe_of_unattached resolvingTraced checkingTraced
          (attach_traced attaching _)), .unattached resolving checking attaching⟩
      case ok =>
        have attachingTraced : (Platform.traced platform).attach target settings.probe.artifact
              ⟨checked, [.resolve settings.event,
                .ensurePrivileges target settings.probe.artifact]⟩ =
            ⟨.ok probe, ⟨attached, [.resolve settings.event,
              .ensurePrivileges target settings.probe.artifact,
              .attach target settings.probe.artifact]⟩, attachLog⟩ := attach_traced attaching _
        rw [run_of_attached (attachProbe_of_attached resolving checking attaching)] at ends
        simp only [Option.map_eq_some_iff] at ends
        obtain ⟨reports, watching, rfl⟩ := ends
        obtain ⟨reads, unread, watchingTraced⟩ := watch_traced watching
          [.resolve settings.event, .ensurePrivileges target settings.probe.artifact,
            .attach target settings.probe.artifact]
        refine ⟨_, ?_, .watched resolving checking attaching watching unread
          (closing_combine reports.result _)⟩
        rw [run_of_attached (attachProbe_of_attached resolvingTraced checkingTraced
          attachingTraced)]
        simp only [watchingTraced, Option.map_some]
        rfl

/-- A script by which the first read fails, and detaching too. -/
def Timeline.failingTwice : Timeline.World Scripted.State where
  platform :=
    { symbols := ⟨["execve"]⟩, reads := [.error "no table"], detachError := some "no probe" }

theorem calls_follow_course_failing_twice :
    ∃ ending,
      run (Timeline.inside Scripted.platform) (Timeline.surroundings fun _ state => state) {} 1
          Timeline.failingTwice = some ending ∧
        Course (Timeline.inside Scripted.platform) (Timeline.surroundings fun _ state => state)
          {} 1 Timeline.failingTwice
          [.resolve "execve", .ensurePrivileges ⟨"execve", "execve"⟩ Kind.count.artifact,
            .attach ⟨"execve", "execve"⟩ Kind.count.artifact, .readTable, .detach]
          (.error (.ofFailure (.tableRead counterTable "no table"))) := by
  have ends : run (Timeline.inside Scripted.platform)
      (Timeline.surroundings fun _ state => state) {} 1 Timeline.failingTwice = some _ := rfl
  obtain ⟨calls, traced, course⟩ := calls_follow_course _ _ _ _ _ _ ends
  have callsEq : some [.resolve "execve",
      .ensurePrivileges ⟨"execve", "execve"⟩ Kind.count.artifact,
      .attach ⟨"execve", "execve"⟩ Kind.count.artifact, .readTable, .detach] = some calls :=
    congrArg (Option.map fun ending : Ending (Traced _) => ending.world.calls) traced
  obtain rfl := Option.some.inj callsEq
  exact ⟨_, ends, course⟩

end SyscallTally.Session
