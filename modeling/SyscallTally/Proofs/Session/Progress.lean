import SyscallTally.Proofs.Session.Calls

/-!
Owns how far a counting session has got.

- `round?` is one whole round of the loop of reports, and `afterReports` that many of them. They
  also tell what a session has printed that nobody ever cancels and that therefore has no ending.
- The loop goes on from there as a loop of its own (`reportEach_add`), and it ends only in a round
  that is not whole (`exists_last_round`).
- `reached` is the same for a session from its start, and `run_of_counting` ties a session that ends
  to its loop.
-/

set_option autoImplicit false

namespace SyscallTally.Session

open SyscallTally.Counter SyscallTally.Probe

variable {ω π : Type}

/-! ### Rounds -/

/-- The state after one whole round: the pause is over, the table is read, the report is flushed.
There is none if something ends the loop in this round. -/
def round? (platform : Platform ω π) (around : Surroundings ω) (interval : Nat) (probe : π)
    (world : ω) : Option ω :=
  match around.pause interval world with
  | (true, _) => none
  | (false, world) =>
      let read := platform.readTable probe world
      match read.result with
      | .error _ => none
      | .ok snapshot =>
          match report around snapshot read.state with
          | (.error _, _) => none
          | (.ok (), world) => some world

/-- The state after a number of whole rounds. -/
def afterReports (platform : Platform ω π) (around : Surroundings ω) (interval : Nat)
    (probe : π) : Nat → ω → Option ω
  | 0, world => some world
  | reports + 1, world =>
      (afterReports platform around interval probe reports world).bind
        (round? platform around interval probe)

/-- The state of a session just after its report with the given number, if it gets that far. -/
def reached (platform : Platform ω π) (around : Surroundings ω) (settings : Settings)
    (reports : Nat) (world : ω) : Option ω :=
  let attached := platform.attachProbe settings.event settings.probe world
  match attached.result with
  | .error _ => none
  | .ok probe =>
      afterReports platform around settings.interval.toNat probe reports attached.state

variable {platform : Platform ω π} {around : Surroundings ω} {interval : Nat} {probe : π}
  {world next : ω}

theorem round?_eq_some_iff :
    round? platform around interval probe world = some next ↔
      ∃ after snapshot left log, around.pause interval world = (false, after) ∧
        platform.readTable probe after = ⟨.ok snapshot, left, log⟩ ∧
        report around snapshot left = (.ok (), next) := by
  unfold round?
  rcases pausing : around.pause interval world with ⟨_ | _, after⟩
  case true => simp
  case false =>
    rcases reading : platform.readTable probe after with ⟨failure | snapshot, left, log⟩
    · simp [reading]
    · rcases reporting : report around snapshot left with ⟨problem | ⟨⟩, later⟩
      · simp [reading, reporting]
      · simp only [reading, reporting, Option.some.injEq]
        constructor
        · rintro rfl
          exact ⟨after, snapshot, left, log, rfl, reading, reporting⟩
        · rintro ⟨_, _, _, _, pausing', reading', reporting'⟩
          cases pausing'
          cases reading.symm.trans reading'
          cases reporting.symm.trans reporting'
          rfl

theorem afterReports_succ (reports : Nat) (world : ω) :
    afterReports platform around interval probe (reports + 1) world =
      (afterReports platform around interval probe reports world).bind
        (round? platform around interval probe) := rfl

theorem afterReports_succ_front (reports : Nat) (world : ω) :
    afterReports platform around interval probe (reports + 1) world =
      (round? platform around interval probe world).bind
        (afterReports platform around interval probe reports) := by
  induction reports with
  | zero =>
      rw [afterReports_succ]
      show round? platform around interval probe world = _
      cases round? platform around interval probe world <;> rfl
  | succ reports inductionHypothesis =>
      rw [afterReports_succ, inductionHypothesis]
      cases round? platform around interval probe world with
      | none => rfl
      | some next => rfl

/-! ### The loop of reports -/

theorem Ending.following_following (earlier later : List LogRecord) (ending : Ending ω) :
    (ending.following later).following earlier = ending.following (earlier ++ later) := by
  simp only [Ending.following, List.append_assoc]

theorem reportEach_of_round? (whole : round? platform around interval probe world = some next) :
    ∃ log, ∀ rounds, reportEach platform around interval probe (rounds + 1) world =
      (reportEach platform around interval probe rounds next).map (Ending.following log) := by
  obtain ⟨after, snapshot, left, log, pausing, reading, reporting⟩ := round?_eq_some_iff.mp whole
  refine ⟨log ++ [readRecord snapshot], fun rounds => ?_⟩
  rw [reportEach, pausing]
  simp only [reading, reporting]

/-- After a number of whole rounds the loop goes on as a loop of its own. -/
theorem reportEach_add {reports : Nat}
    (got : afterReports platform around interval probe reports world = some next) :
    ∃ log, ∀ rounds, reportEach platform around interval probe (reports + rounds) world =
      (reportEach platform around interval probe rounds next).map (Ending.following log) := by
  induction reports generalizing next with
  | zero =>
      obtain rfl := Option.some.inj got
      refine ⟨[], fun rounds => ?_⟩
      have nothing : Ending.following (ω := ω) [] = id := rfl
      rw [Nat.zero_add, nothing, Option.map_id, id]
  | succ reports inductionHypothesis =>
      obtain ⟨before, gotBefore, whole⟩ := Option.bind_eq_some_iff.mp got
      obtain ⟨log, loop⟩ := inductionHypothesis gotBefore
      obtain ⟨lastLog, round⟩ := reportEach_of_round? whole
      refine ⟨log ++ lastLog, fun rounds => ?_⟩
      rw [show reports + 1 + rounds = reports + (rounds + 1) by omega, loop, round, Option.map_map]
      congr 1
      funext ending
      exact Ending.following_following log lastLog ending

/-- A loop that ends does so in one round, after whole rounds only. -/
theorem exists_last_round {rounds : Nat} {ending : Ending ω}
    (going : Rounds platform around interval probe rounds world ending) :
    ∃ reports last log, afterReports platform around interval probe reports world = some last ∧
      round? platform around interval probe last = none ∧
      Rounds platform around interval probe 1 last ⟨ending.result, ending.world, log⟩ := by
  induction going with
  | cancelled pausing =>
      refine ⟨0, _, _, rfl, ?_, .cancelled pausing⟩
      simp only [round?, pausing]
  | unread pausing reading =>
      refine ⟨0, _, _, rfl, ?_, .unread pausing reading⟩
      simp only [round?, pausing, reading]
  | unreported pausing reading reporting =>
      refine ⟨0, _, _, rfl, ?_, .unreported pausing reading reporting⟩
      simp only [round?, pausing, reading, reporting]
  | reported pausing reading reporting goingOn inductionHypothesis =>
      obtain ⟨reports, last, log, got, notWhole, ends⟩ := inductionHypothesis
      have whole := round?_eq_some_iff.mpr ⟨_, _, _, _, pausing, reading, reporting⟩
      refine ⟨reports + 1, last, log, ?_, notWhole, ends⟩
      rw [afterReports_succ_front, whole]
      exact got

/-! ### Whole sessions -/

variable {settings : Settings} {attached : ω} {log : List LogRecord}

theorem reached_of_attached
    (attaching : platform.attachProbe settings.event settings.probe world =
      ⟨.ok probe, attached, log⟩) (reports : Nat) :
    reached platform around settings reports world =
      afterReports platform around settings.interval.toNat probe reports attached := by
  simp only [reached, attaching]

/-- A counting session is its loop of reports, and then the probe is detached. -/
theorem run_of_counting (around : Surroundings ω) (counting : settings.probe = .count)
    (attaching : platform.attachProbe settings.event settings.probe world =
      ⟨.ok probe, attached, log⟩) :
    ∃ started, ∀ rounds, run platform around settings rounds world =
      (reportEach platform around settings.interval.toNat probe rounds attached).map fun reports =>
        (finish platform probe (reports.following [started])).following log := by
  simp only [run_of_attached attaching, watch, counting, Option.map_map]
  exact ⟨_, fun rounds => rfl⟩

/-- A session whose loop ends in the round after some whole ones ends then, however many reports it
may make. -/
theorem run_of_lastRound {reports : Nat} {last : ω} {result : Except Problem Unit}
    {lastLog : List LogRecord} (counting : settings.probe = .count)
    (attaching : platform.attachProbe settings.event settings.probe world =
      ⟨.ok probe, attached, log⟩)
    (got : afterReports platform around settings.interval.toNat probe reports attached = some next)
    (ends : ∀ rounds, reportEach platform around settings.interval.toNat probe (rounds + 1) next =
      some ⟨result, last, lastLog⟩) :
    ∃ whole, ∀ rounds, reports < rounds → run platform around settings rounds world =
      some ⟨combine result (platform.detach probe last).2.result,
        (platform.detach probe last).2.state, whole⟩ := by
  obtain ⟨started, loop⟩ := run_of_counting around counting attaching
  obtain ⟨soFar, goesOn⟩ := reportEach_add got
  let reported : Ending ω := Ending.following soFar ⟨result, last, lastLog⟩
  refine ⟨((finish platform probe (reported.following [started])).following log).log,
    fun rounds enough => ?_⟩
  obtain ⟨more, rfl⟩ := Nat.exists_eq_add_of_lt enough
  rw [loop, Nat.add_assoc, goesOn, ends]
  rfl

/-- A session that gets beyond its reports has not ended with them. -/
theorem run_of_unended {rounds : Nat} (counting : settings.probe = .count)
    (attaching : platform.attachProbe settings.event settings.probe world =
      ⟨.ok probe, attached, log⟩)
    (got : afterReports platform around settings.interval.toNat probe (rounds + 1) attached =
      some next) : run platform around settings rounds world = none := by
  obtain ⟨started, loop⟩ := run_of_counting around counting attaching
  obtain ⟨last, gotLast, whole⟩ := Option.bind_eq_some_iff.mp got
  obtain ⟨_, _, _, _, pausing, -⟩ := round?_eq_some_iff.mp whole
  obtain ⟨soFar, goesOn⟩ := reportEach_add gotLast
  have unended :
      reportEach platform around settings.interval.toNat probe rounds attached = none := by
    rw [← Nat.add_zero rounds, goesOn, reportEach, pausing]
    rfl
  rw [loop, unended]
  rfl

end SyscallTally.Session
