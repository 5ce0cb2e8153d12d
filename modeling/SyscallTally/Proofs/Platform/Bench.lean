import SyscallTally.Platform.Bench

/-!
Owns what holds of any number of probes on whatever platform:

- a probe keeps its number, and one that is attached after some steps was attached all along
  (`probe?_of_run`), if detaching a probe leaves it detached (`Retires`);
- a platform that does on a larger state what another does on a part of it goes through the same
  steps with the same probes (`Covers.seen_run`).
-/

set_option autoImplicit false

namespace SyscallTally

open SyscallTally.Counter SyscallTally.Probe

variable {σ ω π ε : Type}

namespace Platform

/-! ### Probes by their numbers -/

/-- Whether a probe that has been detached is not attached. -/
def Retires (platform : Platform σ π) : Prop :=
  ∀ probe state, platform.isAttached (platform.detach probe state).1 = false

namespace Bench

variable {platform : Platform σ π} {occur : ε → σ → σ} {bench : Bench σ π}
  {step : Step ε} {number : Nat} {probe : π}

@[simp] theorem run_nil : bench.run platform occur [] = bench := rfl

@[simp] theorem run_cons (rest : List (Step ε)) :
    bench.run platform occur (step :: rest) =
      (bench.advance platform occur step).run platform occur rest := rfl

theorem run_append (early late : List (Step ε)) :
    bench.run platform occur (early ++ late) =
      (bench.run platform occur early).run platform occur late := List.foldl_append

/-- An invariant of every step is one of every run. -/
theorem run_preserves (Holds : Bench σ π → Prop)
    (advances : ∀ bench step, Holds bench → Holds (bench.advance platform occur step))
    (steps : List (Step ε)) (initially : Holds bench) :
    Holds (bench.run platform occur steps) := by
  induction steps generalizing bench with
  | nil => exact initially
  | cons step rest inductionHypothesis => exact inductionHypothesis (advances bench step initially)

theorem probe?_eq_some_iff :
    bench.probe? number = some probe ↔ bench.probes[number]? = some (some probe) :=
  Option.join_eq_some_iff

theorem mem_of_probe? (found : bench.probe? number = some probe) : some probe ∈ bench.probes :=
  List.mem_of_getElem? (probe?_eq_some_iff.mp found)

theorem lt_of_probe? (found : bench.probe? number = some probe) : number < bench.probes.length :=
  (List.getElem?_eq_some_iff.mp (probe?_eq_some_iff.mp found)).1

/-- A probe stands where it stood before, unless it has just been put in its place. -/
theorem probe?_of_set {place : Nat} {left : Option π} {other : π}
    (here : (bench.probes.set number left)[place]? = some (some other)) :
    number = place ∧ left = some other ∨ number ≠ place ∧ bench.probe? place = some other := by
  rw [List.getElem?_set] at here
  by_cases own : number = place
  · rw [if_pos own] at here
    split at here
    case isTrue => exact .inl ⟨own, Option.some.inj here⟩
    case isFalse => cases here
  · rw [if_neg own] at here
    exact .inr ⟨own, probe?_eq_some_iff.mpr here⟩

/-- What a step makes of the probes: it adds one, puts one that is not attached in the place of
another or takes it away, or leaves them alone. -/
theorem probes_advance_cases (occur : ε → σ → σ) (retires : platform.Retires)
    (bench : Bench σ π) (step : Step ε) :
    (bench.advance platform occur step).probes = bench.probes ∨
      (∃ added, (bench.advance platform occur step).probes = bench.probes ++ [some added]) ∨
      ∃ number left, left.any platform.isAttached = false ∧
        (bench.advance platform occur step).probes = bench.probes.set number left := by
  cases step with
  | attach event kind =>
      cases attached : (platform.attachProbe event kind bench.state).result with
      | error failure =>
          simp only [advance, attach, attached]
          exact .inl trivial
      | ok probe =>
          simp only [advance, attach, attached]
          exact .inr (.inl ⟨probe, rfl⟩)
  | detach number =>
      cases found : bench.probe? number with
      | none =>
          simp only [advance, found]
          exact .inl trivial
      | some probe =>
          simp only [advance, found]
          exact .inr (.inr ⟨number, some _, retires probe bench.state, rfl⟩)
  | release number =>
      cases found : bench.probe? number with
      | none =>
          simp only [advance, found]
          exact .inl trivial
      | some probe =>
          simp only [advance, found]
          exact .inr (.inr ⟨number, none, rfl, rfl⟩)
  | read number =>
      left
      cases found : bench.probe? number with
      | none => simp only [advance, found]
      | some probe =>
          simp only [advance, found, read]
          cases (platform.readTable probe bench.state).result with
          | error failure => rfl
          | ok snapshot => rfl
  | occur occurrence => exact .inl rfl

/-- A step gives up no number. -/
theorem length_probes_advance (retires : platform.Retires) (bench : Bench σ π) (step : Step ε) :
    bench.probes.length ≤ (bench.advance platform occur step).probes.length := by
  rcases probes_advance_cases occur retires bench step with
    same | ⟨added, appended⟩ | ⟨number, left, -, replaced⟩
  · exact same ▸ Nat.le_refl _
  · rw [appended, List.length_append]
    exact Nat.le_add_right _ _
  · exact Nat.le_of_eq (by rw [replaced, List.length_set])

/-- A probe that is attached after a step was attached before it, unless its number is new. -/
theorem probe?_of_advance (retires : platform.Retires) (old : number < bench.probes.length)
    (attached : platform.isAttached probe = true)
    (found : (bench.advance platform occur step).probe? number = some probe) :
    bench.probe? number = some probe := by
  rw [probe?_eq_some_iff] at found
  rcases probes_advance_cases occur retires bench step with
    same | ⟨added, appended⟩ | ⟨place, left, detached, replaced⟩
  · rw [same] at found
    exact probe?_eq_some_iff.mpr found
  · rw [appended, List.getElem?_append_left old] at found
    exact probe?_eq_some_iff.mpr found
  · rw [replaced] at found
    rcases probe?_of_set found with ⟨-, rfl⟩ | ⟨-, kept⟩
    · rw [Option.any_some, attached] at detached
      cases detached
    · exact kept

/-- A probe that is attached after some steps was attached before them, unless its number is
new. -/
theorem probe?_of_run (retires : platform.Retires) (steps : List (Step ε))
    (old : number < bench.probes.length) (attached : platform.isAttached probe = true)
    (found : (bench.run platform occur steps).probe? number = some probe) :
    bench.probe? number = some probe := by
  induction steps generalizing bench with
  | nil => exact found
  | cons step rest inductionHypothesis =>
      have known : number < (bench.advance platform occur step).probes.length :=
        Nat.lt_of_lt_of_le old (length_probes_advance retires bench step)
      exact probe?_of_advance retires old attached (inductionHypothesis known found)

/-- Whatever stands at the number of a probe after it has been detached is detached. -/
theorem not_attached_of_detached (retires : platform.Retires) {left : π}
    (found : bench.probe? number = some probe) (further : List (Step ε))
    (later : ((bench.advance platform occur (.detach number)).run platform occur further).probe?
      number = some left) : platform.isAttached left = false := by
  have advanced : (bench.advance platform occur (.detach number)).probes =
      bench.probes.set number (some (platform.detach probe bench.state).1) := by
    simp only [advance, found, detach]
  rw [← Bool.not_eq_true]
  intro still
  have before : (bench.advance platform occur (.detach number)).probe? number = some left :=
    probe?_of_run retires further (by
      rw [advanced, List.length_set]
      exact lt_of_probe? found) still later
  rw [probe?_eq_some_iff, advanced] at before
  rcases probe?_of_set before with ⟨-, detached⟩ | ⟨other, -⟩
  · rw [← Option.some.inj detached, retires probe bench.state] at still
    cases still
  · exact other rfl

end Bench

/-! ### Larger states -/

/-- A bench as it is seen by who sees only a part of the state. -/
def Bench.seen (part : ω → σ) (bench : Bench ω π) : Bench σ π :=
  { state := part bench.state, probes := bench.probes, kept := bench.kept }

/-- Whether a platform does on whole states what another does on their parts. -/
structure Covers (outer : Platform ω π) (inner : Platform σ π) (part : ω → σ) : Prop where
  resolve : ∀ event whole,
    (outer.resolve event whole).onPart part = inner.resolve event (part whole)
  ensurePrivileges : ∀ target artifact whole,
    (outer.ensurePrivileges target artifact whole).onPart part =
      inner.ensurePrivileges target artifact (part whole)
  attach : ∀ target artifact whole,
    (outer.attach target artifact whole).onPart part = inner.attach target artifact (part whole)
  readTable : ∀ probe whole,
    (outer.readTable probe whole).onPart part = inner.readTable probe (part whole)
  detach : ∀ probe whole,
    ((outer.detach probe whole).1, (outer.detach probe whole).2.onPart part) =
      inner.detach probe (part whole)
  program : outer.program = inner.program
  target : outer.target = inner.target

end Platform

/-- Steps that agree on a part go on to steps that agree on it. -/
theorem Response.andThen_onPart {α β : Type} (response : Response ω α) (part : ω → σ)
    {next : α → ω → Response ω β} {nextPart : α → σ → Response σ β}
    (step : ∀ value state, (next value state).onPart part = nextPart value (part state)) :
    (response.andThen next).onPart part = (response.onPart part).andThen nextPart := by
  rcases response with ⟨failure | value, state, log⟩
  · rfl
  · show _ = Response.mk (nextPart value (part state)).result (nextPart value (part state)).state
      (log ++ (nextPart value (part state)).log)
    rw [← step]
    rfl

namespace Platform.Covers

variable {outer : Platform ω π} {inner : Platform σ π} {part : ω → σ}
  {occurOuter : ε → ω → ω} {occurInner : ε → σ → σ}

theorem attachProbe (covers : outer.Covers inner part) (event : String) (kind : Kind) (whole : ω) :
    (outer.attachProbe event kind whole).onPart part =
      inner.attachProbe event kind (part whole) := by
  unfold Platform.attachProbe
  rw [← covers.resolve, ← covers.program, ← covers.target]
  apply Response.andThen_onPart
  intro target resolved
  apply Response.andThen_onPart (Response.noting _ _ resolved) part
  intro _ noted
  rw [← covers.ensurePrivileges]
  apply Response.andThen_onPart
  intro _ checked
  rw [← covers.attach]
  apply Response.andThen_onPart
  intro probe attached
  apply Response.andThen_onPart (Response.noting _ _ attached) part
  intro _ last
  rfl

theorem seen_advance (covers : outer.Covers inner part)
    (occurs : ∀ occurrence whole,
      part (occurOuter occurrence whole) = occurInner occurrence (part whole))
    (bench : Bench ω π) (step : Step ε) :
    (bench.advance outer occurOuter step).seen part =
      (bench.seen part).advance inner occurInner step := by
  cases step with
  | attach event kind =>
      have attaching := covers.attachProbe event kind bench.state
      simp only [Bench.advance, Bench.attach, Bench.seen, ← attaching, Response.onPart]
      cases (outer.attachProbe event kind bench.state).result <;> rfl
  | detach number =>
      have seen : (bench.seen part).probe? number = bench.probe? number := rfl
      cases found : bench.probe? number with
      | none => simp only [Bench.advance, seen, found]
      | some probe =>
          simp only [Bench.advance, seen, found]
          simp only [Bench.detach, Bench.seen, ← covers.detach]
          rfl
  | release number =>
      have seen : (bench.seen part).probe? number = bench.probe? number := rfl
      cases found : bench.probe? number with
      | none => simp only [Bench.advance, seen, found]
      | some probe =>
          simp only [Bench.advance, seen, found]
          simp only [Bench.release, Bench.seen, ← covers.detach]
          rfl
  | read number =>
      have seen : (bench.seen part).probe? number = bench.probe? number := rfl
      cases found : bench.probe? number with
      | none => simp only [Bench.advance, seen, found]
      | some probe =>
          simp only [Bench.advance, seen, found]
          simp only [Bench.read, Bench.seen, ← covers.readTable, Response.onPart]
          cases (outer.readTable probe bench.state).result <;> rfl
  | occur occurrence =>
      simp only [Bench.advance, Bench.seen, occurs]

/-- Whoever sees only the part sees the same probes go through the same steps. -/
theorem seen_run (covers : outer.Covers inner part)
    (occurs : ∀ occurrence whole,
      part (occurOuter occurrence whole) = occurInner occurrence (part whole))
    (bench : Bench ω π) (steps : List (Step ε)) :
    (bench.run outer occurOuter steps).seen part =
      (bench.seen part).run inner occurInner steps := by
  induction steps generalizing bench with
  | nil => rfl
  | cons step rest inductionHypothesis =>
      rw [Bench.run_cons, Bench.run_cons, inductionHypothesis, covers.seen_advance occurs]

end Platform.Covers

end SyscallTally
