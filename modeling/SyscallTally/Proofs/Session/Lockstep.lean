import SyscallTally.Proofs.Session.Progress

/-!
Owns what two sessions have in common whose states stay alike, step by step.

- `Lockstep` is what one step must do: from states that are alike both sessions are told the same
  and come to states that are alike. Of a table that is read only the entries count.
- Then they are alike after any number of reports (`Lockstep.reached`), and if one of them ends, so
  does the other, with the same result (`Lockstep.run`).

Records are not compared.
-/

set_option autoImplicit false

namespace SyscallTally.Session

open SyscallTally.Counter SyscallTally.Probe

variable {ω₁ ω₂ π₁ π₂ : Type}

/-- Two steps that answer the same and leave states that are alike. -/
def Matching {α : Type} (Alike : ω₁ → ω₂ → Prop) (left : α × ω₁) (right : α × ω₂) : Prop :=
  ∃ answer after₁ after₂, left = (answer, after₁) ∧ right = (answer, after₂) ∧ Alike after₁ after₂

/-- Two endings with the same result in states that are alike. -/
def Ending.Matching (Alike : ω₁ → ω₂ → Prop) (left : Ending ω₁) (right : Ending ω₂) : Prop :=
  left.result = right.result ∧ Alike left.world right.world

/-- What the steps of two sessions do to states that are alike. -/
structure Lockstep (Alike : ω₁ → ω₂ → Prop) (platform₁ : Platform ω₁ π₁)
    (around₁ : Surroundings ω₁) (probe₁ : π₁) (platform₂ : Platform ω₂ π₂)
    (around₂ : Surroundings ω₂) (probe₂ : π₂) : Prop where
  pause : ∀ {left right} interval, Alike left right →
    Matching Alike (around₁.pause interval left) (around₂.pause interval right)
  write : ∀ {left right} text, Alike left right →
    Matching Alike (around₁.write text left) (around₂.write text right)
  flush : ∀ {left right}, Alike left right →
    Matching Alike (around₁.flush left) (around₂.flush right)
  read : ∀ {left right}, Alike left right →
    (platform₁.readTable probe₁ left).result.map Snapshot.toList =
        (platform₂.readTable probe₂ right).result.map Snapshot.toList ∧
      Alike (platform₁.readTable probe₁ left).state (platform₂.readTable probe₂ right).state

section

variable {α₁ α₂ β₁ β₂ : Type} {R : α₁ → α₂ → Prop} {S : β₁ → β₂ → Prop} {left : Option α₁}
  {right : Option α₂} {next₁ : α₁ → Option β₁} {next₂ : α₂ → Option β₂} {change₁ : α₁ → β₁}
  {change₂ : α₂ → β₂}

theorem rel_bind (both : Option.Rel R left right)
    (next : ∀ {first second}, R first second → Option.Rel S (next₁ first) (next₂ second)) :
    Option.Rel S (left.bind next₁) (right.bind next₂) := by
  cases both with
  | none => exact .none
  | some related => exact next related

theorem rel_map (both : Option.Rel R left right)
    (change : ∀ {first second}, R first second → S (change₁ first) (change₂ second)) :
    Option.Rel S (left.map change₁) (right.map change₂) := by
  cases both with
  | none => exact .none
  | some related => exact .some (change related)

theorem exists_of_rel_some {second : α₂} (both : Option.Rel R left (some second)) :
    ∃ first, left = some first ∧ R first second := by
  cases both with
  | some related => exact ⟨_, rfl, related⟩

theorem map_eq_of_rel {β : Type} {observe₁ : α₁ → β} {observe₂ : α₂ → β}
    (both : Option.Rel R left right)
    (same : ∀ {first second}, R first second → observe₁ first = observe₂ second) :
    left.map observe₁ = right.map observe₂ := by
  cases both with
  | none => rfl
  | some related => exact congrArg some (same related)

end

namespace Lockstep

variable {Alike Parted : ω₁ → ω₂ → Prop} {platform₁ : Platform ω₁ π₁} {around₁ : Surroundings ω₁}
  {probe₁ : π₁} {platform₂ : Platform ω₂ π₂} {around₂ : Surroundings ω₂} {probe₂ : π₂}
  {left : ω₁} {right : ω₂}
  (lockstep : Lockstep Alike platform₁ around₁ probe₁ platform₂ around₂ probe₂)

include lockstep

/-! ### Reports -/

theorem writeAll (skipped : Nat) (text : List Char) (alike : Alike left right) :
    Matching Alike (writeAll around₁ skipped text left) (writeAll around₂ skipped text right) := by
  induction text generalizing skipped left right with
  | nil => cases skipped <;> exact ⟨_, _, _, rfl, rfl, alike⟩
  | cons char rest inductionHypothesis =>
      cases skipped with
      | succ skipped => exact inductionHypothesis skipped alike
      | zero =>
          obtain ⟨answer, after₁, after₂, writing₁, writing₂, after⟩ :=
            lockstep.write (char :: rest) alike
          rw [Session.writeAll, Session.writeAll, writing₁, writing₂]
          rcases answer with _ | _ | taken
          · exact ⟨_, _, _, rfl, rfl, after⟩
          · exact ⟨_, _, _, rfl, rfl, after⟩
          · exact inductionHypothesis taken after

theorem report {snapshot₁ snapshot₂ : Snapshot} (same : snapshot₁.toList = snapshot₂.toList)
    (alike : Alike left right) :
    Matching Alike (report around₁ snapshot₁ left) (report around₂ snapshot₂ right) := by
  have line : snapshot₂.line = snapshot₁.line := by
    rw [Snapshot.line, ← same, Snapshot.line]
  obtain ⟨answer, after₁, after₂, writing₁, writing₂, after⟩ :=
    lockstep.writeAll 0 snapshot₁.line.toList alike
  unfold Session.report
  rw [line, writing₁, writing₂]
  cases answer with
  | error text => exact ⟨_, _, _, rfl, rfl, after⟩
  | ok _ =>
      obtain ⟨answer, flushed₁, flushed₂, flushing₁, flushing₂, flushed⟩ := lockstep.flush after
      simp only [flushing₁, flushing₂]
      cases answer with
      | error text => exact ⟨_, _, _, rfl, rfl, flushed⟩
      | ok _ => exact ⟨_, _, _, rfl, rfl, flushed⟩

/-- The ways in which two reads can match. -/
theorem read_cases (alike : Alike left right) :
    ∃ state₁ state₂ log₁ log₂, Alike state₁ state₂ ∧
      ((∃ failure, platform₁.readTable probe₁ left = ⟨.error failure, state₁, log₁⟩ ∧
          platform₂.readTable probe₂ right = ⟨.error failure, state₂, log₂⟩) ∨
        ∃ snapshot₁ snapshot₂, snapshot₁.toList = snapshot₂.toList ∧
          platform₁.readTable probe₁ left = ⟨.ok snapshot₁, state₁, log₁⟩ ∧
          platform₂.readTable probe₂ right = ⟨.ok snapshot₂, state₂, log₂⟩) := by
  obtain ⟨same, after⟩ := lockstep.read alike
  rcases reading₁ : platform₁.readTable probe₁ left with ⟨result₁, state₁, log₁⟩
  rcases reading₂ : platform₂.readTable probe₂ right with ⟨result₂, state₂, log₂⟩
  rw [reading₁, reading₂] at same after
  refine ⟨state₁, state₂, log₁, log₂, after, ?_⟩
  match result₁, result₂, same with
  | .error failure, .error other, same =>
      obtain rfl : failure = other := Except.error.inj same
      exact .inl ⟨failure, rfl, rfl⟩
  | .ok snapshot₁, .ok snapshot₂, same =>
      exact .inr ⟨snapshot₁, snapshot₂, Except.ok.inj same, rfl, rfl⟩

/-! ### Rounds -/

theorem round? (interval : Nat) (alike : Alike left right) :
    Option.Rel Alike (round? platform₁ around₁ interval probe₁ left)
      (round? platform₂ around₂ interval probe₂ right) := by
  obtain ⟨answer, after₁, after₂, pausing₁, pausing₂, paused⟩ := lockstep.pause interval alike
  rw [Session.round?, Session.round?, pausing₁, pausing₂]
  cases answer with
  | true => exact .none
  | false =>
      obtain ⟨state₁, state₂, log₁, log₂, left, ⟨failure, reading₁, reading₂⟩ |
        ⟨snapshot₁, snapshot₂, same, reading₁, reading₂⟩⟩ := lockstep.read_cases paused
      · simp only [reading₁, reading₂]
        exact .none
      · obtain ⟨answer, next₁, next₂, reporting₁, reporting₂, next⟩ := lockstep.report same left
        simp only [reading₁, reading₂, reporting₁, reporting₂]
        cases answer with
        | error problem => exact .none
        | ok _ => exact .some next

theorem afterReports (interval reports : Nat) (alike : Alike left right) :
    Option.Rel Alike (afterReports platform₁ around₁ interval probe₁ reports left)
      (afterReports platform₂ around₂ interval probe₂ reports right) := by
  induction reports with
  | zero => exact .some alike
  | succ reports inductionHypothesis =>
      rw [afterReports_succ, afterReports_succ]
      exact rel_bind inductionHypothesis fun alike => lockstep.round? interval alike

theorem reportEach (interval rounds : Nat) (alike : Alike left right) :
    Option.Rel (Ending.Matching Alike) (reportEach platform₁ around₁ interval probe₁ rounds left)
      (reportEach platform₂ around₂ interval probe₂ rounds right) := by
  induction rounds generalizing left right with
  | zero =>
      obtain ⟨answer, after₁, after₂, pausing₁, pausing₂, paused⟩ := lockstep.pause interval alike
      rw [Session.reportEach, Session.reportEach, pausing₁, pausing₂]
      cases answer with
      | true => exact .some ⟨rfl, paused⟩
      | false => exact .none
  | succ rounds inductionHypothesis =>
      obtain ⟨answer, after₁, after₂, pausing₁, pausing₂, paused⟩ := lockstep.pause interval alike
      rw [Session.reportEach, Session.reportEach, pausing₁, pausing₂]
      cases answer with
      | true => exact .some ⟨rfl, paused⟩
      | false =>
          obtain ⟨state₁, state₂, log₁, log₂, left, ⟨failure, reading₁, reading₂⟩ |
            ⟨snapshot₁, snapshot₂, same, reading₁, reading₂⟩⟩ := lockstep.read_cases paused
          · simp only [reading₁, reading₂]
            exact .some ⟨rfl, left⟩
          · obtain ⟨answer, next₁, next₂, reporting₁, reporting₂, next⟩ := lockstep.report same left
            simp only [reading₁, reading₂, reporting₁, reporting₂]
            cases answer with
            | error problem => exact .some ⟨rfl, next⟩
            | ok _ => exact rel_map (inductionHypothesis next) id

/-! ### Whole sessions -/

variable {settings : Settings} {start₁ : ω₁} {start₂ : ω₂} {log₁ log₂ : List LogRecord}

theorem reached
    (attaching₁ : platform₁.attachProbe settings.event settings.probe start₁ =
      ⟨.ok probe₁, left, log₁⟩)
    (attaching₂ : platform₂.attachProbe settings.event settings.probe start₂ =
      ⟨.ok probe₂, right, log₂⟩) (alike : Alike left right) (reports : Nat) :
    Option.Rel Alike (reached platform₁ around₁ settings reports start₁)
      (reached platform₂ around₂ settings reports start₂) := by
  rw [reached_of_attached attaching₁, reached_of_attached attaching₂]
  exact lockstep.afterReports _ reports alike

/-- Counting sessions in lock step end alike if detaching their probes does the same. -/
theorem run
    (detach : ∀ {left right}, Alike left right →
      (platform₁.detach probe₁ left).2.result = (platform₂.detach probe₂ right).2.result ∧
        Parted (platform₁.detach probe₁ left).2.state (platform₂.detach probe₂ right).2.state)
    (counting : settings.probe = .count)
    (attaching₁ : platform₁.attachProbe settings.event settings.probe start₁ =
      ⟨.ok probe₁, left, log₁⟩)
    (attaching₂ : platform₂.attachProbe settings.event settings.probe start₂ =
      ⟨.ok probe₂, right, log₂⟩) (alike : Alike left right) (rounds : Nat) :
    Option.Rel (Ending.Matching Parted) (run platform₁ around₁ settings rounds start₁)
      (run platform₂ around₂ settings rounds start₂) := by
  obtain ⟨started₁, loop₁⟩ := run_of_counting around₁ counting attaching₁
  obtain ⟨started₂, loop₂⟩ := run_of_counting around₂ counting attaching₂
  rw [loop₁, loop₂]
  refine rel_map (lockstep.reportEach settings.interval.toNat rounds alike) ?_
  rintro ending₁ ending₂ ⟨result, world⟩
  obtain ⟨detached, parted⟩ := detach world
  refine ⟨?_, parted⟩
  show combine ending₁.result (platform₁.detach probe₁ ending₁.world).2.result =
    combine ending₂.result (platform₂.detach probe₂ ending₂.world).2.result
  rw [result, detached]

omit lockstep in
/-- A counting session on a larger state ends with the result of the session on a part of it, and
that part in the state that this one ends in. -/
theorem run_of_part {part : ω₁ → ω₂}
    (lockstep : Lockstep (fun whole state => part whole = state) platform₁ around₁ probe₁ platform₂
      around₂ probe₂)
    (detach : ∀ whole,
      (platform₁.detach probe₁ whole).2.result = (platform₂.detach probe₂ (part whole)).2.result ∧
        part (platform₁.detach probe₁ whole).2.state =
          (platform₂.detach probe₂ (part whole)).2.state)
    (counting : settings.probe = .count)
    (attaching₁ : platform₁.attachProbe settings.event settings.probe start₁ =
      ⟨.ok probe₁, left, log₁⟩)
    (attaching₂ : platform₂.attachProbe settings.event settings.probe start₂ =
      ⟨.ok probe₂, right, log₂⟩) (isPart : part left = right) (rounds : Nat) :
    (Session.run platform₂ around₂ settings rounds start₂).map
        (fun ending => (ending.result, ending.world)) =
      (Session.run platform₁ around₁ settings rounds start₁).map
        fun ending => (ending.result, part ending.world) := by
  have both : Option.Rel (Ending.Matching fun whole state => part whole = state)
      (Session.run platform₁ around₁ settings rounds start₁)
      (Session.run platform₂ around₂ settings rounds start₂) :=
    lockstep.run (fun same => same ▸ detach _) counting attaching₁ attaching₂ isPart rounds
  refine (map_eq_of_rel both ?_).symm
  rintro whole inner ⟨result, state⟩
  rw [result, state]

end Lockstep

end SyscallTally.Session
