import SyscallTally.Platform.Scripted
import SyscallTally.Proofs.Session.Reads
import SyscallTally.Proofs.Session.Schedule

/-!
Owns when a counting session in virtual time reports and how it ends (`reports_keep_time`), for any
platform and any timeline, as long as the output does not fail.

Three things compete for the end of a session: a cancellation from outside, a report that cancels,
and a read that fails (`Ends`). If none of them lies ahead the session goes on for ever.

A session is watched through notes on its reads, and its lines are compared with them.
-/

set_option autoImplicit false

namespace SyscallTally.Session.Timeline

open SyscallTally.Counter SyscallTally.Probe

variable {σ π : Type}

/-! ### Endings -/

/-- The time of the first cancellation from outside. One before the start is at time zero. -/
def World.FirstCancelled (start : World σ) (time : Nat) : Prop :=
  (start.cancelled = true ∧ time = 0) ∨
    (start.cancelled = false ∧ FirstCancels start.upcoming time)

/-- How a session ends, and when, by the snapshots that it has read and the failure of its last
read, if that failed. -/
inductive Ends (start : World σ) (interval : Nat) :
    List Snapshot → Option Failure → Nat → Prop where
  | cancelled {snapshots : List Snapshot} {time : Nat} (first : start.FirstCancelled time)
      (after : snapshots.length * interval < time ∨ snapshots = [] ∧ time = 0)
      (before : time < (snapshots.length + 1) * interval)
      (unasked : ∀ report < snapshots.length, (start.reactionTo report).cancels = false) :
      Ends start interval snapshots none time
  | cancelledByReport {snapshots : List Snapshot} {last : Snapshot}
      (uncancelled : ∀ time, start.FirstCancelled time → (snapshots.length + 1) * interval < time)
      (unasked : ∀ report < snapshots.length, (start.reactionTo report).cancels = false)
      (asked : (start.reactionTo snapshots.length).cancels = true) :
      Ends start interval (snapshots ++ [last]) none ((snapshots.length + 1) * interval)
  | unread {snapshots : List Snapshot} {failure : Failure}
      (uncancelled : ∀ time, start.FirstCancelled time → (snapshots.length + 1) * interval < time)
      (unasked : ∀ report < snapshots.length, (start.reactionTo report).cancels = false) :
      Ends start interval snapshots (some failure) ((snapshots.length + 1) * interval)

def outcome : Option Failure → Except Problem Unit
  | none => .ok ()
  | some failure => .error (.ofFailure failure)

/-- The lines of reports on the given snapshots, one after each interval. -/
def linesOf (interval : Nat) (snapshots : List Snapshot) : List Line :=
  snapshots.mapIdx fun report snapshot => ⟨(report + 1) * interval, snapshot.line⟩

/-- The notes on reads of the given snapshots, one after each interval, and perhaps on a read that
failed after one more. -/
def readsOf (interval : Nat) (snapshots : List Snapshot) (failure : Option Failure) :
    List (Nat × Except Failure Snapshot) :=
  snapshots.mapIdx (fun read snapshot => ((read + 1) * interval, .ok snapshot)) ++
    failure.toList.map fun failure => ((snapshots.length + 1) * interval, .error failure)

theorem linesOf_concat (interval : Nat) (snapshots : List Snapshot) (snapshot : Snapshot) :
    linesOf interval (snapshots ++ [snapshot]) =
      linesOf interval snapshots ++ [⟨(snapshots.length + 1) * interval, snapshot.line⟩] := by
  simp only [linesOf, List.mapIdx_concat]

theorem readsOf_concat (interval : Nat) (snapshots : List Snapshot) (snapshot : Snapshot) :
    readsOf interval (snapshots ++ [snapshot]) none =
      readsOf interval snapshots none ++ [((snapshots.length + 1) * interval, .ok snapshot)] := by
  simp only [readsOf, List.mapIdx_concat, Option.toList_none, List.map_nil, List.append_nil]

theorem readsOf_failure (interval : Nat) (snapshots : List Snapshot) (failure : Failure) :
    readsOf interval snapshots (some failure) =
      readsOf interval snapshots none ++ [((snapshots.length + 1) * interval, .error failure)] := by
  simp only [readsOf, Option.toList_none, Option.toList_some, List.map_nil, List.map_cons,
    List.append_nil]

/-- What a session that has ended leaves behind. -/
structure EndedOnTime (start : World σ) (interval : Nat) (snapshots : List Snapshot)
    (failure : Option Failure) (last : Noted (World σ)) : Prop where
  ends : Ends start interval snapshots failure last.state.now
  lines : last.state.lines = linesOf interval snapshots
  reads : last.reads = readsOf interval snapshots failure

/-- What a session that goes on has done so far. -/
structure OnTime (start : World σ) (interval : Nat) (snapshots : List Snapshot)
    (noted : Noted (World σ)) : Prop where
  onSchedule : OnSchedule start interval snapshots.length noted.state
  lines : noted.state.lines = linesOf interval snapshots
  reads : noted.reads = readsOf interval snapshots none
  undetached : noted.detachments = []

/-! ### Cancellations seen on schedule -/

variable {start world : World σ} {interval reports time : Nat}

/-- Whether the first cancellation from outside comes before the start or between two reports. -/
def World.CancelledApart (interval : Nat) (start : World σ) : Prop :=
  ∀ time, start.FirstCancelled time → time = 0 ∨ ¬ interval ∣ time

theorem OnSchedule.unasked (onSchedule : OnSchedule start interval reports world)
    (uncancelled : start.cancelledAfter reports = false) :
    ∀ report < reports, (start.reactionTo report).cancels = false := by
  intro report before
  rcases Nat.lt_or_eq_of_le (Nat.succ_le_of_lt before) with sooner | rfl
  · exact onSchedule.uncancelled (report + 1) sooner
  · exact uncancelled

theorem OnSchedule.start_uncancelled (onSchedule : OnSchedule start interval reports world)
    (uncancelled : start.cancelledAfter reports = false) : start.cancelled = false := by
  rcases Nat.eq_zero_or_pos reports with rfl | positive
  · exact uncancelled
  · exact onSchedule.uncancelled 0 positive

/-- A cancellation that is not due before a report is due after it. -/
theorem lt_of_firstCancelled (positive : 0 < interval) (apart : start.CancelledApart interval)
    (unstopped : start.cancelled = false)
    (ahead : ∀ event ∈ start.upcoming, event.cancels = true →
      (reports + 1) * interval ≤ event.time) (first : start.FirstCancelled time) :
    (reports + 1) * interval < time := by
  rcases first with ⟨stopped, -⟩ | ⟨-, found⟩
  · rw [unstopped] at stopped
    cases stopped
  · have due : (reports + 1) * interval ≤ time := by
      obtain ⟨⟨event, member, cancels, rfl⟩, -⟩ := found
      exact ahead event member cancels
    have notZero : time ≠ 0 := by
      have : interval ≤ (reports + 1) * interval := Nat.le_mul_of_pos_left _ (Nat.succ_pos _)
      omega
    refine Nat.lt_of_le_of_ne due fun same => ?_
    rcases apart time (.inr ⟨unstopped, found⟩) with zero | between
    · exact notZero zero
    · exact between ⟨reports + 1, by rw [← same, Nat.mul_comm]⟩

/-! ### Rounds -/

variable {platform : Platform σ π} {occur : Trigger → σ → σ} {probe : π}
  {snapshots : List Snapshot} {noted : Noted (World σ)}

theorem OnSchedule.ends_asked (positive : 0 < interval) (apart : start.CancelledApart interval)
    (onSchedule : OnSchedule start interval snapshots.length world)
    (cancelled : start.cancelledAfter snapshots.length = true) :
    Ends start interval snapshots none (snapshots.length * interval) := by
  rcases List.eq_nil_or_concat snapshots with rfl | ⟨sooner, last, rfl⟩
  · rw [List.length_nil, Nat.zero_mul]
    refine .cancelled (.inl ⟨cancelled, rfl⟩) (.inr ⟨rfl, rfl⟩) ?_ nofun
    rwa [List.length_nil, Nat.zero_add, Nat.one_mul]
  · rw [List.concat_eq_append] at *
    rw [List.length_append] at *
    have unasked : ∀ report < sooner.length, (start.reactionTo report).cancels = false :=
      fun report before => onSchedule.uncancelled (report + 1) (Nat.succ_lt_succ before)
    have unstopped := onSchedule.uncancelled 0 (Nat.succ_pos _)
    exact .cancelledByReport
      (fun _ => lt_of_firstCancelled positive apart unstopped onSchedule.ahead) unasked cancelled

theorem OnSchedule.ends_cancelled (positive : 0 < interval) (apart : start.CancelledApart interval)
    (onSchedule : OnSchedule start interval snapshots.length world)
    (uncancelled : start.cancelledAfter snapshots.length = false)
    (first : FirstCancels start.upcoming time) (atLeast : snapshots.length * interval ≤ time)
    (before : time < (snapshots.length + 1) * interval) :
    Ends start interval snapshots none time := by
  have firstCancelled : start.FirstCancelled time :=
    .inr ⟨onSchedule.start_uncancelled uncancelled, first⟩
  refine .cancelled firstCancelled ?_ before (onSchedule.unasked uncancelled)
  rcases apart time firstCancelled with rfl | between
  · right
    refine ⟨List.length_eq_zero_iff.mp ?_, rfl⟩
    exact (Nat.mul_eq_zero.mp (Nat.le_zero.mp atLeast)).resolve_right (by omega)
  · left
    exact Nat.lt_of_le_of_ne atLeast fun same =>
      between ⟨snapshots.length, by rw [← same, Nat.mul_comm]⟩

/-- Whether a session ends in its next round. -/
def EndsNext (platform : Platform σ π) (occur : Trigger → σ → σ) (probe : π) (start : World σ)
    (interval : Nat) (snapshots : List Snapshot) (noted : Noted (World σ)) : Prop :=
  ∃ failure last log, EndedOnTime start interval snapshots failure last ∧ last.detachments = [] ∧
    ∀ rounds, reportEach (noting World.now (inside platform)) (surroundings occur).noted interval
      probe (rounds + 1) noted = some ⟨outcome failure, last, log⟩

theorem OnTime.endsNext_of_cancelled (onTime : OnTime start interval snapshots noted)
    {after : World σ} (paused : (surroundings occur).pause interval noted.state = (true, after))
    (lines : after.lines = noted.state.lines)
    (ends : Ends start interval snapshots none after.now) :
    EndsNext platform occur probe start interval snapshots noted :=
  ⟨none, noted.withState after, _, ⟨ends, lines.trans onTime.lines, onTime.reads⟩,
    onTime.undetached, fun _ => (Rounds.cancelled (pause_noted paused)).ends⟩

variable {due left : σ} {log : List LogRecord}

theorem OnTime.endsNext_of_unread (onTime : OnTime start interval snapshots noted)
    {failure : Failure} (paused : (surroundings occur).pause interval noted.state =
      (false, start.paused interval snapshots.length due noted.state))
    (reading : platform.readTable probe due = ⟨.error failure, left, log⟩)
    (ends : Ends start interval snapshots (some failure) ((snapshots.length + 1) * interval)) :
    EndsNext platform occur probe start interval snapshots noted := by
  have readingInside := readTable_paused platform probe start interval snapshots.length due
    noted.state
  rw [reading] at readingInside
  refine ⟨some failure, _, _, ⟨?_, ?_, ?_⟩, ?_, fun _ =>
    (Rounds.unread (pause_noted paused) (readTable_noted readingInside)).ends⟩
  · exact ends
  · exact onTime.lines
  · show noted.reads ++ [_] = _
    rw [onTime.reads, readsOf_failure]
    rfl
  · exact onTime.undetached

/-- A session whose table is read in time is on time again after its report. -/
theorem OnTime.report (isStart : start.IsStart) (onTime : OnTime start interval snapshots noted)
    (uncancelled : start.cancelledAfter snapshots.length = false)
    (ahead : ∀ event ∈ start.upcoming, event.cancels = true →
      (snapshots.length + 1) * interval ≤ event.time)
    {snapshot : Snapshot} (paused : (surroundings occur).pause interval noted.state =
      (false, start.paused interval snapshots.length due noted.state))
    (reading : platform.readTable probe due = ⟨.ok snapshot, left, log⟩) :
    ∃ next, OnTime start interval (snapshots ++ [snapshot]) next ∧
      round? (noting World.now (inside platform)) (surroundings occur).noted interval probe noted =
        some next := by
  have readingInside := readTable_paused platform probe start interval snapshots.length due
    noted.state
  rw [reading] at readingInside
  obtain ⟨next, reporting, onSchedule, lines, -⟩ :=
    onTime.onSchedule.report occur isStart uncancelled ahead snapshot left
  refine ⟨_, ⟨?_, ?_, ?_, ?_⟩, round?_eq_some_iff.mpr ⟨_, _, _, _, pause_noted paused,
    readTable_noted readingInside, report_noted reporting⟩⟩
  · rw [List.length_append]
    exact onSchedule
  · rw [linesOf_concat, ← onTime.lines]
    exact lines
  · rw [readsOf_concat, ← onTime.reads]
    rfl
  · exact onTime.undetached

/-- A session on time ends in its next round, or is on time after it. -/
theorem OnTime.round_cases (platform : Platform σ π) (occur : Trigger → σ → σ) (probe : π)
    (positive : 0 < interval) (isStart : start.IsStart)
    (apart : start.CancelledApart interval) (onTime : OnTime start interval snapshots noted) :
    EndsNext platform occur probe start interval snapshots noted ∨
      ∃ snapshot next, OnTime start interval (snapshots ++ [snapshot]) next ∧
        round? (noting World.now (inside platform)) (surroundings occur).noted interval probe
          noted = some next := by
  have onSchedule := onTime.onSchedule
  rcases onSchedule.pause_cases occur isStart with ⟨cancelled, paused⟩ |
    ⟨uncancelled, time, state, upcoming, first, atLeast, before, paused⟩ |
    ⟨uncancelled, ahead, paused⟩
  · refine .inl (onTime.endsNext_of_cancelled paused rfl ?_)
    rw [onSchedule.now]
    exact onSchedule.ends_asked positive apart cancelled
  · refine .inl (onTime.endsNext_of_cancelled paused rfl ?_)
    exact onSchedule.ends_cancelled positive apart uncancelled first atLeast before
  · generalize happen occur (start.due _ _) noted.state.platform = due at paused
    rcases reading : platform.readTable probe due with ⟨failure | snapshot, left, log⟩
    · refine .inl (onTime.endsNext_of_unread paused reading (.unread ?_ ?_))
      · exact fun _ => lt_of_firstCancelled positive apart
          (onSchedule.start_uncancelled uncancelled) ahead
      · exact onSchedule.unasked uncancelled
    · exact .inr ⟨snapshot, onTime.report isStart uncancelled ahead paused reading⟩

/-! ### Whole sessions -/

theorem World.IsStart.onTime (isStart : start.IsStart) (interval : Nat) (attached : σ) :
    OnTime start interval [] { state := { start with platform := attached } } :=
  ⟨isStart.onSchedule interval attached, isStart.lines, rfl, rfl⟩

/-- A session ends in some round, or is on time after any number of reports. -/
theorem endsNext_or_onTime (platform : Platform σ π) (occur : Trigger → σ → σ) (probe : π)
    (positive : 0 < interval) (isStart : start.IsStart)
    (apart : start.CancelledApart interval) (attached : σ) :
    (∃ snapshots noted,
      afterReports (noting World.now (inside platform)) (surroundings occur).noted interval probe
        snapshots.length { state := { start with platform := attached } } = some noted ∧
      EndsNext platform occur probe start interval snapshots noted) ∨
    ∀ reports, ∃ snapshots noted, snapshots.length = reports ∧
      OnTime start interval snapshots noted ∧
      afterReports (noting World.now (inside platform)) (surroundings occur).noted interval probe
        reports { state := { start with platform := attached } } = some noted := by
  rw [or_iff_not_imp_left]
  intro goesOn reports
  induction reports with
  | zero => exact ⟨[], _, rfl, isStart.onTime interval attached, rfl⟩
  | succ reports inductionHypothesis =>
      obtain ⟨snapshots, noted, rfl, onTime, got⟩ := inductionHypothesis
      rcases onTime.round_cases platform occur probe positive isStart apart with
        ends | ⟨snapshot, next, nextOnTime, whole⟩
      · exact absurd ⟨snapshots, noted, got, ends⟩ goesOn
      · refine ⟨snapshots ++ [snapshot], next, List.length_append, nextOnTime, ?_⟩
        rw [afterReports_succ, got]
        exact whole

/-- A session that is always on time is cancelled by nothing. -/
theorem uncancelled_of_onSchedule (positive : 0 < interval)
    (always : ∀ reports, ∃ world, OnSchedule start interval reports world) :
    start.cancelled = false ∧ (∀ event ∈ start.upcoming, event.cancels = false) ∧
      ∀ reaction ∈ start.reactions, reaction.cancels = false := by
  have uncancelled (reports : Nat) : start.cancelledAfter reports = false := by
    obtain ⟨world, onSchedule⟩ := always (reports + 1)
    exact onSchedule.uncancelled reports (Nat.lt_succ_self reports)
  refine ⟨uncancelled 0, fun event member => ?_, fun reaction member => ?_⟩
  · obtain ⟨world, onSchedule⟩ := always (event.time + 1)
    refine eq_false_of_ne_true fun cancels => ?_
    have later := onSchedule.ahead event member cancels
    have : event.time + 1 ≤ (event.time + 1) * interval := Nat.le_mul_of_pos_right _ positive
    omega
  · obtain ⟨report, found⟩ := List.mem_iff_getElem?.mp member
    have unasked : (start.reactionTo report).cancels = false := uncancelled (report + 1)
    rwa [World.reactionTo, found] at unasked

/-- A session in virtual time that takes notes. -/
def notedRun (platform : Platform σ π) (occur : Trigger → σ → σ) (settings : Settings)
    (rounds : Nat) (start : World σ) : Option (Ending (Noted (World σ))) :=
  run (noting World.now (inside platform)) (surroundings occur).noted settings rounds
    { state := start }

/-- The state of such a session after a number of reports, if it gets that far. -/
def notedReached (platform : Platform σ π) (occur : Trigger → σ → σ) (settings : Settings)
    (reports : Nat) (start : World σ) : Option (Noted (World σ)) :=
  reached (noting World.now (inside platform)) (surroundings occur).noted settings reports
    { state := start }

/-- A counting session whose output never fails reads and reports once after every interval, and
either ends as it should, the first time that anything calls for it, or goes on for ever because
nothing does. The notes on its reads are no more than notes. -/
theorem reports_keep_time (platform : Platform σ π) (occur : Trigger → σ → σ)
    {settings : Settings} {start : World σ} {probe : π} {attached : σ} {log : List LogRecord}
    (counting : settings.probe = .count) (nonzero : settings.interval ≠ 0)
    (isStart : start.IsStart) (apart : start.CancelledApart settings.interval.toNat)
    (attaching : platform.attachProbe settings.event settings.probe start.platform =
      ⟨.ok probe, attached, log⟩) :
    (∀ rounds, (run (inside platform) (surroundings occur) settings rounds start).map
        (fun ending => (ending.result, ending.world)) =
      (notedRun platform occur settings rounds start).map
        fun ending => (ending.result, ending.world.state)) ∧
    ((∃ snapshots failure ending detached,
        EndedOnTime start settings.interval.toNat snapshots failure ending.world ∧
        ending.world.detachments = [detached] ∧
        (detached = .ok () → ending.result = outcome failure) ∧
        ∀ rounds, snapshots.length < rounds →
          notedRun platform occur settings rounds start = some ending) ∨
      (start.cancelled = false ∧ (∀ event ∈ start.upcoming, event.cancels = false) ∧
        (∀ reaction ∈ start.reactions, reaction.cancels = false) ∧
        ∀ reports, notedRun platform occur settings reports start = none ∧
          ∃ snapshots noted, snapshots.length = reports ∧
            OnTime start settings.interval.toNat snapshots noted ∧
            notedReached platform occur settings reports start = some noted)) := by
  have positive : 0 < settings.interval.toNat :=
    Nat.pos_of_ne_zero fun zero => nonzero (UInt64.toNat_inj.mp zero)
  have attachingInside := attachProbe_inside attaching
  have attachingNoted := attachProbe_noted World.now { state := start } attachingInside
  refine ⟨run_noting World.now (surroundings occur) { state := start } counting attachingInside, ?_⟩
  rcases endsNext_or_onTime platform occur probe positive isStart apart attached with
    ⟨snapshots, noted, got, failure, last, lastLog, ended, undetached, ends⟩ | always
  · left
    obtain ⟨whole, session⟩ := run_of_lastRound counting attachingNoted got ends
    refine ⟨snapshots, failure, _, (platform.detach probe last.state.platform).2.result,
      ⟨ended.ends, ended.lines, ended.reads⟩, ?_, ?_, session⟩
    · exact congrArg (· ++ [_]) undetached
    · intro detached
      show combine (outcome failure) (platform.detach probe last.state.platform).2.result = _
      rw [detached]
      cases failure <;> rfl
  · right
    obtain ⟨unstopped, noEvent, noReaction⟩ := uncancelled_of_onSchedule positive
      fun reports => by
        obtain ⟨snapshots, noted, rfl, onTime, -⟩ := always reports
        exact ⟨_, onTime.onSchedule⟩
    refine ⟨unstopped, noEvent, noReaction, fun reports => ⟨?_, ?_⟩⟩
    · obtain ⟨_, _, -, -, got⟩ := always (reports + 1)
      exact run_of_unended counting attachingNoted got
    · obtain ⟨snapshots, noted, length, onTime, got⟩ := always reports
      refine ⟨snapshots, noted, length, onTime, ?_⟩
      rw [notedReached, reached_of_attached attachingNoted]
      exact got

/-- A script by which the second read fails, two milliseconds before a cancellation. -/
def failingBeforeCancelled : World Platform.Scripted.State where
  platform := { symbols := ⟨["execve"]⟩, reads := [.ok (Snapshot.ofList [(7, 1)]), .error "gone"] }
  upcoming := [⟨3, [⟨7, 1, "execve"⟩], false⟩, ⟨12, [], true⟩]

theorem reports_keep_time_failing_before_cancelled :
    ∃ snapshots failure ending detached,
      EndedOnTime failingBeforeCancelled 5 snapshots failure ending.world ∧
      ending.world.detachments = [detached] ∧
      (detached = .ok () → ending.result = outcome failure) ∧
      ∀ rounds, snapshots.length < rounds →
        notedRun Platform.Scripted.platform (fun _ state => state) { interval := 5 } rounds
          failingBeforeCancelled = some ending := by
  have isStart : failingBeforeCancelled.IsStart :=
    ⟨rfl, rfl, rfl, by decide, fun _ member => absurd member List.not_mem_nil⟩
  have apart : failingBeforeCancelled.CancelledApart 5 := by
    rintro time (⟨stopped, -⟩ | ⟨-, ⟨event, member, cancels, rfl⟩, -⟩)
    · cases stopped
    · right
      rcases List.mem_pair.mp member with rfl | rfl
      · cases cancels
      · decide
  let settings : Settings := { interval := 5 }
  have counting : settings.probe = .count := rfl
  have attaching : Platform.Scripted.platform.attachProbe settings.event settings.probe
      failingBeforeCancelled.platform =
      ⟨.ok ⟨countProgram, ⟨"execve", "execve"⟩, true⟩, failingBeforeCancelled.platform, _⟩ := rfl
  have session := reports_keep_time Platform.Scripted.platform (fun _ state => state) counting
    (by decide) isStart apart attaching
  refine session.2.resolve_right fun ⟨_, noEvent, _⟩ => ?_
  exact absurd (noEvent ⟨12, [], true⟩ (List.mem_cons_of_mem _ List.mem_cons_self)) (by decide)

end SyscallTally.Session.Timeline
