import SyscallTally.Proofs.Session.Progress

/-!
Owns what can end the watch over an attached probe (`Stop`): the cancellation, a failed read, or an
output that refuses a line or its flush.

`StopsBy` says what has happened when one of them does: the rounds before were whole, and in the last
one every step but the last succeeded. A watch that ends is stopped by something
(`stopsBy_of_watch`), and by one thing only (`StopsBy.unique`).
-/

set_option autoImplicit false

namespace SyscallTally.Session

open SyscallTally.Counter SyscallTally.Probe

variable {ω π : Type}

/-- What ends the watch over a probe. -/
inductive Stop where
  /-- The session was cancelled. -/
  | asked
  | unread (failure : Failure)
  | unwritten (text : String)
  | unflushed (text : String)
deriving DecidableEq, Repr

/-- The result of a watch by what has ended it. -/
def Stop.result : Stop → Except Problem Unit
  | .asked => .ok ()
  | .unread failure => .error (.ofFailure failure)
  | .unwritten text => .error ⟨.output text, ["Failed to write report"]⟩
  | .unflushed text => .error ⟨.output text, ["Failed to flush report"]⟩

/-- The round in which a loop of reports is stopped: what stops it, and the state it leaves. -/
inductive LastRound (platform : Platform ω π) (around : Surroundings ω) (interval : Nat)
    (probe : π) (world : ω) : Stop → ω → Prop where
  | asked {after : ω} (pausing : around.pause interval world = (true, after)) :
      LastRound platform around interval probe world .asked after
  | unread {after left : ω} {failure : Failure} {log : List LogRecord}
      (pausing : around.pause interval world = (false, after))
      (reading : platform.readTable probe after = ⟨.error failure, left, log⟩) :
      LastRound platform around interval probe world (.unread failure) left
  | unwritten {after left last : ω} {snapshot : Snapshot} {log : List LogRecord} {text : String}
      (pausing : around.pause interval world = (false, after))
      (reading : platform.readTable probe after = ⟨.ok snapshot, left, log⟩)
      (writing : writeAll around 0 snapshot.line.toList left = (.error text, last)) :
      LastRound platform around interval probe world (.unwritten text) last
  | unflushed {after left written last : ω} {snapshot : Snapshot} {log : List LogRecord}
      {text : String} (pausing : around.pause interval world = (false, after))
      (reading : platform.readTable probe after = ⟨.ok snapshot, left, log⟩)
      (writing : writeAll around 0 snapshot.line.toList left = (.ok (), written))
      (flushing : around.flush written = (.error text, last)) :
      LastRound platform around interval probe world (.unflushed text) last

/-- What stops the watch over a probe, and the state it leaves. -/
inductive StopsBy (platform : Platform ω π) (around : Surroundings ω) (settings : Settings)
    (probe : π) (attached : ω) : Stop → ω → Prop where
  | counting {reports : Nat} {last after : ω} {stop : Stop} (counts : settings.probe = .count)
      (got : afterReports platform around settings.interval.toNat probe reports attached =
        some last)
      (stopping : LastRound platform around settings.interval.toNat probe last stop after) :
      StopsBy platform around settings probe attached stop after
  | tracing {after : ω} (traces : settings.probe = .hello)
      (awaiting : around.awaitCancel attached = some after) :
      StopsBy platform around settings probe attached .asked after

variable {platform : Platform ω π} {around : Surroundings ω} {interval : Nat} {probe : π}
  {world last after after' : ω} {stop stop' : Stop} {settings : Settings} {attached : ω}

/-! ### What a watch is stopped by -/

theorem report_failed {snapshot : Snapshot} {problem : Problem}
    (failed : report around snapshot world = (.error problem, last)) :
    (∃ text, writeAll around 0 snapshot.line.toList world = (.error text, last) ∧
      Stop.result (.unwritten text) = .error problem) ∨
    (∃ text written, writeAll around 0 snapshot.line.toList world = (.ok (), written) ∧
      around.flush written = (.error text, last) ∧
      Stop.result (.unflushed text) = .error problem) := by
  rw [report] at failed
  rcases writing : writeAll around 0 snapshot.line.toList world with ⟨text | ⟨⟩, written⟩
  case error =>
    simp only [writing, Prod.mk.injEq, Except.error.injEq] at failed
    obtain ⟨rfl, rfl⟩ := failed
    exact .inl ⟨text, rfl, rfl⟩
  case ok =>
    rcases flushing : around.flush written with ⟨text | ⟨⟩, flushed⟩
    · simp only [writing, flushing, Prod.mk.injEq, Except.error.injEq] at failed
      obtain ⟨rfl, rfl⟩ := failed
      exact .inr ⟨text, written, rfl, flushing, rfl⟩
    · simp only [writing, flushing, Prod.mk.injEq, reduceCtorEq, false_and] at failed

/-- A loop that ends within its next round is stopped in that round. -/
theorem lastRound_of_rounds {ending : Ending ω}
    (notWhole : round? platform around interval probe world = none)
    (going : Rounds platform around interval probe 1 world ending) :
    ∃ stop, LastRound platform around interval probe world stop ending.world ∧
      ending.result = stop.result := by
  cases going with
  | cancelled pausing => exact ⟨_, .asked pausing, rfl⟩
  | unread pausing reading => exact ⟨_, .unread pausing reading, rfl⟩
  | unreported pausing reading reporting =>
      rcases report_failed reporting with
        ⟨text, writing, result⟩ | ⟨text, _, writing, flushing, result⟩
      · exact ⟨_, .unwritten pausing reading writing, result.symm⟩
      · exact ⟨_, .unflushed pausing reading writing flushing, result.symm⟩
  | reported pausing reading reporting goingOn =>
      have whole := round?_eq_some_iff.mpr ⟨_, _, _, _, pausing, reading, reporting⟩
      rw [notWhole] at whole
      cases whole

theorem stopsBy_of_watch {rounds : Nat} {ending : Ending ω}
    (watching : watch platform around settings probe rounds attached = some ending) :
    ∃ stop, StopsBy platform around settings probe attached stop ending.world ∧
      ending.result = stop.result := by
  unfold watch at watching
  cases kind : settings.probe with
  | count =>
      simp only [kind, Option.map_eq_some_iff] at watching
      obtain ⟨reports, reporting, rfl⟩ := watching
      obtain ⟨number, last, log, got, notWhole, ends⟩ :=
        exists_last_round (Rounds.of_reportEach reporting)
      obtain ⟨stop, stopping, result⟩ := lastRound_of_rounds notWhole ends
      exact ⟨stop, .counting kind got stopping, result⟩
  | hello =>
      simp only [kind, Option.map_eq_some_iff] at watching
      obtain ⟨after, awaiting, rfl⟩ := watching
      exact ⟨.asked, .tracing kind awaiting, rfl⟩

/-! ### By one thing only -/

theorem LastRound.notWhole (stopping : LastRound platform around interval probe world stop after) :
    round? platform around interval probe world = none := by
  cases stopping with
  | asked pausing => simp only [round?, pausing]
  | unread pausing reading => simp only [round?, pausing, reading]
  | unwritten pausing reading writing => simp only [round?, pausing, reading, report, writing]
  | unflushed pausing reading writing flushing =>
      simp only [round?, pausing, reading, report, writing, flushing]

theorem LastRound.unique (first : LastRound platform around interval probe world stop after)
    (second : LastRound platform around interval probe world stop' after') :
    stop = stop' ∧ after = after' := by
  -- Every answer on the way to the stop is the answer of one call, so two stops part nowhere.
  cases first <;> cases second <;> simp_all

theorem afterReports_add (reports more : Nat) (world : ω) :
    afterReports platform around interval probe (reports + more) world =
      (afterReports platform around interval probe reports world).bind
        (afterReports platform around interval probe more) := by
  induction more with
  | zero => cases afterReports platform around interval probe reports world <;> rfl
  | succ more inductionHypothesis =>
      rw [← Nat.add_assoc, afterReports_succ, inductionHypothesis]
      cases afterReports platform around interval probe reports world <;> rfl

/-- The rounds before the last one have a number. -/
theorem le_of_notWhole {reports number : Nat} {last : ω}
    (got : afterReports platform around interval probe reports world = some last)
    (notWhole : round? platform around interval probe last = none)
    (further : (afterReports platform around interval probe number world).isSome) :
    number ≤ reports := by
  apply Nat.le_of_not_lt
  intro beyond
  obtain ⟨more, rfl⟩ := Nat.exists_eq_add_of_lt beyond
  rw [Nat.add_assoc, afterReports_add, got, Option.bind_some, afterReports_succ_front, notWhole]
    at further
  cases further

theorem StopsBy.unique (first : StopsBy platform around settings probe attached stop after)
    (second : StopsBy platform around settings probe attached stop' after') :
    stop = stop' ∧ after = after' := by
  cases first with
  | counting counts got stopping =>
      cases second with
      | counting _ got' stopping' =>
          have sameNumber := Nat.le_antisymm
            (le_of_notWhole got' stopping'.notWhole (by rw [got]; rfl))
            (le_of_notWhole got stopping.notWhole (by rw [got']; rfl))
          subst sameNumber
          obtain rfl := Option.some.inj (got.symm.trans got')
          exact stopping.unique stopping'
      | tracing traces =>
          rw [counts] at traces
          cases traces
  | tracing traces awaiting =>
      cases second with
      | counting counts =>
          rw [counts] at traces
          cases traces
      | tracing _ awaiting' => exact ⟨rfl, Option.some.inj (awaiting.symm.trans awaiting')⟩

end SyscallTally.Session
