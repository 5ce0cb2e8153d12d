import Mathlib.Data.List.Basic
import Mathlib.Order.WellFounded
import SyscallTally.Proofs.Session.Progress
import SyscallTally.Session.Timeline

/-!
Owns the course of a session in virtual time whose events stand in order and whose output never
fails (`World.IsStart`).

- A pause lets everything happen that is due before its end, or is cut short by the first event that
  cancels (`elapse_of_quiet`, `elapse_of_cancelled`).
- A report is written and flushed whole (`report_of_accepts`).
- After a number of whole rounds the clock stands at as many intervals, and nothing has cancelled
  the session before (`OnSchedule`). Of the next round the pause can be cut short
  (`OnSchedule.pause_cases`), but the report that follows it is on schedule again
  (`OnSchedule.report`, `OnSchedule.round`).
-/

set_option autoImplicit false

namespace SyscallTally.Session.Timeline

open SyscallTally.Counter SyscallTally.Probe

variable {σ π : Type}

/-! ### Starts -/

/-- Events in the order of their times. -/
def InOrder (events : List Event) : Prop :=
  events.Pairwise fun sooner later => sooner.time ≤ later.time

instance (events : List Event) : Decidable (InOrder events) :=
  inferInstanceAs (Decidable (events.Pairwise _))

/-- A report that is written and flushed without an error. A write that takes nothing is an error of
whoever wanted to write everything. -/
structure Reaction.Accepts (reaction : Reaction) : Prop where
  writeError : reaction.writeError = none
  flushError : reaction.flushError = none
  mostTaken : reaction.mostTaken ≠ some 0

/-- The start of a session in virtual time with an output that never fails. -/
structure World.IsStart (start : World σ) : Prop where
  now : start.now = 0
  lines : start.lines = []
  unflushed : start.unflushed = []
  inOrder : InOrder start.upcoming
  accepts : ∀ reaction ∈ start.reactions, reaction.Accepts

/-- The reaction to the report with the given number, counted from zero. -/
def World.reactionTo (report : Nat) (start : World σ) : Reaction :=
  start.reactions[report]?.getD {}

def FirstCancels (events : List Event) (time : Nat) : Prop :=
  (∃ event ∈ events, event.cancels = true ∧ event.time = time) ∧
    ∀ event ∈ events, event.cancels = true → time ≤ event.time

/-- The occurrences of the events from one instant on and before another. -/
def World.due (first last : Nat) (start : World σ) : List Trigger :=
  (start.upcoming.filter fun event => first ≤ event.time ∧ event.time < last).flatMap
    Event.triggers

theorem happen_append (occur : Trigger → σ → σ) (first second : List Trigger) (state : σ) :
    happen occur (first ++ second) state = happen occur second (happen occur first state) :=
  List.foldl_append

theorem World.IsStart.reactionTo_accepts {start : World σ} (isStart : start.IsStart)
    (report : Nat) : (start.reactionTo report).Accepts := by
  unfold World.reactionTo
  cases found : start.reactions[report]? with
  | none => exact ⟨rfl, rfl, nofun⟩
  | some reaction => exact isStart.accepts reaction (List.mem_of_getElem? found)

/-! ### Pauses -/

variable {occur : Trigger → σ → σ} {events : List Event} {deadline time : Nat} {world : World σ}

/-- If nothing cancels before the deadline, all that is due happens. -/
theorem elapse_of_quiet (inOrder : InOrder events)
    (quiet : ∀ event ∈ events, event.cancels = true → deadline ≤ event.time) :
    elapse occur (some deadline) events world =
      (false, { world with
        platform := happen occur
          ((events.filter (·.time < deadline)).flatMap Event.triggers) world.platform
        now := deadline
        upcoming := events.filter (deadline ≤ ·.time) }) := by
  induction events generalizing world with
  | nil => rfl
  | cons event rest inductionHypothesis =>
      obtain ⟨first, restInOrder⟩ := List.pairwise_cons.mp inOrder
      rw [elapse]
      by_cases sooner : event.time < deadline
      · have goesOn : event.cancels = false := by
          by_contra cancels
          have := quiet event List.mem_cons_self (eq_true_of_ne_false cancels)
          omega
        have restQuiet : ∀ event ∈ rest, event.cancels = true → deadline ≤ event.time :=
          fun event member => quiet event (List.mem_cons_of_mem _ member)
        simp only [isBefore, sooner, decide_true, goesOn, if_true, Bool.false_eq_true, if_false,
          List.filter_cons, Nat.not_le.mpr sooner, decide_false, List.flatMap_cons, happen_append]
        exact inductionHypothesis restInOrder restQuiet
      · have allLater : ∀ other ∈ event :: rest, deadline ≤ other.time := by
          intro other member
          rcases List.mem_cons.mp member with rfl | later
          · omega
          · have := first other later
            omega
        have kept : (event :: rest).filter (deadline ≤ ·.time) = event :: rest :=
          List.filter_eq_self.mpr fun other member => decide_eq_true (allLater other member)
        have none : (event :: rest).filter (·.time < deadline) = [] :=
          List.filter_eq_nil_iff.mpr fun other member => by
            have := allLater other member
            simp only [decide_eq_true_eq]
            omega
        simp only [isBefore, sooner, decide_false, Bool.false_eq_true, if_false, kept, none]
        rfl

/-- The first event that cancels cuts a pause short. -/
theorem elapse_of_cancelled (occur : Trigger → σ → σ) (world : World σ)
    (inOrder : InOrder events) (first : FirstCancels events time) (soon : time < deadline) :
    ∃ platform upcoming, elapse occur (some deadline) events world =
      (true, { world with platform, now := time, cancelled := true, upcoming }) := by
  induction events generalizing world with
  | nil =>
      obtain ⟨⟨_, member, _⟩, _⟩ := first
      exact absurd member List.not_mem_nil
  | cons event rest inductionHypothesis =>
      obtain ⟨sooner, restInOrder⟩ := List.pairwise_cons.mp inOrder
      obtain ⟨⟨canceller, member, cancels, atTime⟩, least⟩ := first
      have inTime : event.time ≤ time := by
        rcases List.mem_cons.mp member with rfl | later
        · omega
        · have := sooner canceller later
          omega
      have before : event.time < deadline := by omega
      rw [elapse]
      simp only [isBefore, before, decide_true, if_true]
      cases cancelling : event.cancels with
      | true =>
          have reached : event.time = time :=
            Nat.le_antisymm inTime (least event List.mem_cons_self cancelling)
          simp only [if_true, reached]
          exact ⟨_, _, rfl⟩
      | false =>
          have restFirst : FirstCancels rest time := by
            refine ⟨⟨canceller, ?_, cancels, atTime⟩, fun other later =>
              least other (List.mem_cons_of_mem _ later)⟩
            rcases List.mem_cons.mp member with rfl | later
            · rw [cancels] at cancelling
              cases cancelling
            · exact later
          simp only [Bool.false_eq_true, if_false]
          exact inductionHypothesis _ restInOrder restFirst

theorem exists_firstCancels {event : Event} (member : event ∈ events)
    (cancels : event.cancels = true) :
    ∃ time, FirstCancels events time ∧ time ≤ event.time := by
  obtain ⟨first, ⟨found, firstCancels⟩, least⟩ :=
    WellFounded.has_min (measure Event.time).wf {event | event ∈ events ∧ event.cancels = true}
      ⟨event, member, cancels⟩
  exact ⟨first.time, ⟨⟨first, found, firstCancels, rfl⟩, fun other otherMember otherCancels =>
    Nat.le_of_not_lt (least other ⟨otherMember, otherCancels⟩)⟩,
    Nat.le_of_not_lt (least event ⟨member, cancels⟩)⟩

/-! ### Reports -/

/-- An output that takes something of whatever it is offered takes everything in the end. -/
theorem writeAll_of_accepts (accepts : world.reaction.Accepts) (skipped : Nat)
    (text : List Char) :
    writeAll (surroundings occur) skipped text world =
      (.ok (), { world with unflushed := world.unflushed ++ text.drop skipped }) := by
  induction text generalizing skipped world with
  | nil => cases skipped <;> simp only [writeAll, List.drop_nil, List.append_nil]
  | cons char rest inductionHypothesis =>
      cases skipped with
      | succ skipped => exact inductionHypothesis accepts skipped
      | zero =>
          obtain ⟨taken, some_taken⟩ : ∃ taken,
              min (rest.length + 1) (world.reaction.mostTaken.getD (rest.length + 1)) =
                taken + 1 := by
            refine Nat.exists_eq_succ_of_ne_zero ?_
            have takes := accepts.mostTaken
            generalize world.reaction.mostTaken = mostTaken at takes ⊢
            rcases mostTaken with _ | _ | most
            · simp
            · exact absurd rfl takes
            · simp
          have written : (surroundings occur).write (char :: rest) world =
              (.ok (taken + 1), { world with
                unflushed := world.unflushed ++ (char :: rest).take (taken + 1) }) := by
            show write _ _ = _
            simp only [write, accepts.writeError, List.length_cons, some_taken]
          rw [writeAll, written]
          show writeAll _ taken rest _ = _
          rw [inductionHypothesis (by exact accepts)]
          simp only [List.take_succ_cons, List.append_assoc, List.cons_append,
            List.take_append_drop, List.drop_zero]

theorem report_of_accepts (accepts : world.reaction.Accepts) (unwritten : world.unflushed = [])
    (snapshot : Snapshot) :
    report (surroundings occur) snapshot world =
      (.ok (), { world with
        platform := happen occur world.reaction.triggers world.platform
        cancelled := world.cancelled || world.reaction.cancels
        lines := world.lines ++ [⟨world.now, snapshot.line⟩]
        unflushed := [] }) := by
  have flushed : (surroundings occur).flush { world with unflushed := snapshot.line.toList } =
      (.ok (), { world with
        platform := happen occur world.reaction.triggers world.platform
        cancelled := world.cancelled || world.reaction.cancels
        lines := world.lines ++ [⟨world.now, snapshot.line⟩]
        unflushed := [] }) := by
    have reaction : World.reaction { world with unflushed := snapshot.line.toList } =
      world.reaction := rfl
    show flush occur _ = _
    simp only [flush, reaction, accepts.flushError, String.ofList_toList]
    rfl
  rw [report, writeAll_of_accepts accepts, unwritten]
  simp only [List.drop_zero, List.nil_append, flushed]

/-! ### Rounds -/

/-- Whether a session is cancelled when it has just made a number of reports: from the start, or by
the last report. -/
def World.cancelledAfter (start : World σ) : Nat → Bool
  | 0 => start.cancelled
  | reports + 1 => (start.reactionTo reports).cancels

/-- A session that has made a number of reports, each in its time. -/
structure OnSchedule (start : World σ) (interval reports : Nat) (world : World σ) : Prop where
  now : world.now = reports * interval
  cancelled : world.cancelled = start.cancelledAfter reports
  upcoming : world.upcoming = start.upcoming.filter (reports * interval ≤ ·.time)
  reactions : world.reactions = start.reactions
  printed : world.lines.length = reports
  unflushed : world.unflushed = []
  /-- Nothing has cancelled the session before the last report. -/
  uncancelled : ∀ earlier < reports, start.cancelledAfter earlier = false
  /-- What cancels the session from outside is still to come. -/
  ahead : ∀ event ∈ start.upcoming, event.cancels = true → reports * interval ≤ event.time

/-- A world that has paused until the next report is due. -/
def World.paused (start : World σ) (interval reports : Nat) (state : σ) (world : World σ) :
    World σ :=
  { world with
    platform := state
    now := (reports + 1) * interval
    upcoming := start.upcoming.filter ((reports + 1) * interval ≤ ·.time) }

variable {start next : World σ} {interval reports : Nat}

theorem readTable_paused (platform : Platform σ π) (probe : π) (start : World σ)
    (interval reports : Nat) (state : σ) (world : World σ) :
    (inside platform).readTable probe (start.paused interval reports state world) =
      (platform.readTable probe state).onPart (start.paused interval reports · world) := rfl

theorem World.IsStart.onSchedule (isStart : start.IsStart) (interval : Nat) (attached : σ) :
    OnSchedule start interval 0 { start with platform := attached } where
  now := by rw [Nat.zero_mul]; exact isStart.now
  cancelled := rfl
  upcoming := by
    rw [Nat.zero_mul]
    exact (List.filter_eq_self.mpr fun _ _ => rfl).symm
  reactions := rfl
  printed := List.length_eq_zero_iff.mpr isStart.lines
  unflushed := isStart.unflushed
  uncancelled _ before := absurd before (Nat.not_lt_zero _)
  ahead event _ _ := by rw [Nat.zero_mul]; exact Nat.zero_le _

namespace OnSchedule

theorem reaction (onSchedule : OnSchedule start interval reports world) :
    world.reaction = start.reactionTo reports := by
  unfold World.reaction World.reactionTo
  rw [onSchedule.reactions, onSchedule.printed]

theorem pause (onSchedule : OnSchedule start interval reports world) :
    (surroundings occur).pause interval world =
      if start.cancelledAfter reports then (true, world)
      else elapse occur (some ((reports + 1) * interval))
        (start.upcoming.filter (reports * interval ≤ ·.time)) world := by
  show wait occur (some (world.now + interval)) world = _
  rw [wait, onSchedule.cancelled, onSchedule.upcoming, onSchedule.now, Nat.succ_mul]

/-- The ways in which the next pause can end. -/
theorem pause_cases (occur : Trigger → σ → σ) (isStart : start.IsStart)
    (onSchedule : OnSchedule start interval reports world) :
    (start.cancelledAfter reports = true ∧
      (surroundings occur).pause interval world = (true, world)) ∨
    (start.cancelledAfter reports = false ∧
      ∃ time platform upcoming, FirstCancels start.upcoming time ∧
        reports * interval ≤ time ∧ time < (reports + 1) * interval ∧
        (surroundings occur).pause interval world =
          (true, { world with platform, now := time, cancelled := true, upcoming })) ∨
    (start.cancelledAfter reports = false ∧
      (∀ event ∈ start.upcoming, event.cancels = true → (reports + 1) * interval ≤ event.time) ∧
      (surroundings occur).pause interval world =
        (false, start.paused interval reports (happen occur
          (start.due (reports * interval) ((reports + 1) * interval)) world.platform) world)) := by
  have inOrder : InOrder (start.upcoming.filter (reports * interval ≤ ·.time)) :=
    isStart.inOrder.filter _
  have member {event : Event} :
      event ∈ start.upcoming.filter (reports * interval ≤ ·.time) ↔
        event ∈ start.upcoming ∧ reports * interval ≤ event.time := by
    simp only [List.mem_filter, decide_eq_true_eq]
  rw [onSchedule.pause]
  cases start.cancelledAfter reports with
  | true => exact .inl ⟨rfl, rfl⟩
  | false =>
      right
      simp only [Bool.false_eq_true, if_false, true_and]
      by_cases quiet : ∀ event ∈ start.upcoming, event.cancels = true →
          (reports + 1) * interval ≤ event.time
      · right
        refine ⟨quiet, ?_⟩
        rw [elapse_of_quiet inOrder fun event found => quiet event (member.mp found).1]
        have due : (start.upcoming.filter (reports * interval ≤ ·.time)).filter
              (·.time < (reports + 1) * interval) =
            start.upcoming.filter fun event =>
              reports * interval ≤ event.time ∧ event.time < (reports + 1) * interval := by
          rw [List.filter_filter]
          refine List.filter_congr fun event _ => ?_
          rw [Bool.and_comm, Bool.decide_and]
        have later : (start.upcoming.filter (reports * interval ≤ ·.time)).filter
              ((reports + 1) * interval ≤ ·.time) =
            start.upcoming.filter ((reports + 1) * interval ≤ ·.time) := by
          rw [List.filter_filter]
          refine List.filter_congr fun event _ => ?_
          have : reports * interval ≤ (reports + 1) * interval :=
            Nat.mul_le_mul_right _ (Nat.le_succ _)
          rw [← Bool.decide_and]
          exact decide_eq_decide.mpr ⟨And.left, fun le => ⟨le, by omega⟩⟩
        rw [due, later]
        rfl
      · left
        simp only [not_forall, Nat.not_le] at quiet
        obtain ⟨event, found, cancels, soon⟩ := quiet
        obtain ⟨time, first, before⟩ := exists_firstCancels found cancels
        have atLeast : reports * interval ≤ time := by
          obtain ⟨⟨firstEvent, firstFound, firstCancels, rfl⟩, -⟩ := first
          exact onSchedule.ahead firstEvent firstFound firstCancels
        have firstLater : FirstCancels
            (start.upcoming.filter (reports * interval ≤ ·.time)) time := by
          obtain ⟨⟨firstEvent, firstFound, firstCancels, rfl⟩, least⟩ := first
          exact ⟨⟨firstEvent, member.mpr ⟨firstFound, atLeast⟩, firstCancels, rfl⟩,
            fun other otherFound => least other (member.mp otherFound).1⟩
        have soonest : time < (reports + 1) * interval := by omega
        obtain ⟨platform, upcoming, elapsed⟩ :=
          elapse_of_cancelled occur world inOrder firstLater soonest
        exact ⟨time, platform, upcoming, first, atLeast, soonest, elapsed⟩

/-- The report after a pause is made in its time. -/
theorem report (occur : Trigger → σ → σ) (isStart : start.IsStart)
    (onSchedule : OnSchedule start interval reports world)
    (uncancelled : start.cancelledAfter reports = false)
    (ahead : ∀ event ∈ start.upcoming, event.cancels = true →
      (reports + 1) * interval ≤ event.time) (snapshot : Snapshot) (state : σ) :
    ∃ next, report (surroundings occur) snapshot
        (start.paused interval reports state world) = (.ok (), next) ∧
      OnSchedule start interval (reports + 1) next ∧
      next.lines = world.lines ++ [⟨(reports + 1) * interval, snapshot.line⟩] ∧
      next.platform = happen occur (start.reactionTo reports).triggers state := by
  have reaction : (start.paused interval reports state world).reaction =
    start.reactionTo reports := onSchedule.reaction
  have accepts := isStart.reactionTo_accepts reports
  rw [← reaction] at accepts
  refine ⟨_, report_of_accepts accepts onSchedule.unflushed snapshot, ?_, rfl, ?_⟩
  · exact {
      now := rfl
      cancelled := by
        show (world.cancelled || (start.paused interval reports state world).reaction.cancels) = _
        rw [onSchedule.cancelled, uncancelled, Bool.false_or, reaction]
        rfl
      upcoming := rfl
      reactions := onSchedule.reactions
      printed := by
        show (world.lines ++ [_]).length = reports + 1
        rw [List.length_append, onSchedule.printed]
        rfl
      unflushed := rfl
      uncancelled := fun earlier before => by
        rcases Nat.lt_succ_iff_lt_or_eq.mp before with sooner | rfl
        · exact onSchedule.uncancelled earlier sooner
        · exact uncancelled
      ahead }
  · show happen occur _ _ = _
    rw [reaction]
    rfl

/-- What a whole round does to a session on schedule. -/
theorem round {platform : Platform σ π} {probe : π} (isStart : start.IsStart)
    (onSchedule : OnSchedule start interval reports world)
    (whole : round? (inside platform) (surroundings occur) interval probe world = some next) :
    ∃ snapshot left log,
      platform.readTable probe (happen occur
        (start.due (reports * interval) ((reports + 1) * interval)) world.platform) =
          ⟨.ok snapshot, left, log⟩ ∧
      next.platform = happen occur (start.reactionTo reports).triggers left ∧
      next.lines = world.lines ++ [⟨(reports + 1) * interval, snapshot.line⟩] ∧
      OnSchedule start interval (reports + 1) next := by
  obtain ⟨after, snapshot, left, log, pausing, reading, reporting⟩ := round?_eq_some_iff.mp whole
  rcases onSchedule.pause_cases occur isStart with ⟨-, cut⟩ |
    ⟨-, _, _, _, -, -, -, cut⟩ | ⟨uncancelled, ahead, paused⟩
  · cases pausing.symm.trans cut
  · cases pausing.symm.trans cut
  · cases pausing.symm.trans paused
    rw [readTable_paused] at reading
    generalize happen occur (start.due (reports * interval) ((reports + 1) * interval))
      world.platform = due at reading ⊢
    rcases readingPart : platform.readTable probe due with ⟨result, state, readLog⟩
    rw [readingPart] at reading
    cases reading
    obtain ⟨made, reportingMade, onSchedule, lines, happened⟩ :=
      onSchedule.report occur isStart uncancelled ahead snapshot state
    cases reporting.symm.trans reportingMade
    exact ⟨snapshot, state, readLog, rfl, happened, lines, onSchedule⟩

end OnSchedule

end SyscallTally.Session.Timeline
