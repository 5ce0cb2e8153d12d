import Mathlib.Data.List.Forall2
import SyscallTally.Proofs.Session.Lockstep
import SyscallTally.Session.Timeline

/-!
Owns sessions in virtual time that go through the same timeline with different occurrences, on
different platforms.

- `World.Alike` compares two worlds by a relation between the platforms' states and one between
  occurrences. All else is equal.
- Two such sessions are in lock step (`inside_lockstep`) if occurrences that are alike, and reads,
  keep the platforms' states alike.
-/

set_option autoImplicit false

namespace SyscallTally.Session.Timeline

open SyscallTally.Counter

variable {σ τ π ρ : Type} {R : σ → τ → Prop} {T : Trigger → Trigger → Prop}

/-! ### Worlds that are alike -/

/-- Two events that differ in their occurrences only. -/
structure Event.Alike (T : Trigger → Trigger → Prop) (left right : Event) : Prop where
  time : left.time = right.time
  triggers : List.Forall₂ T left.triggers right.triggers
  cancels : left.cancels = right.cancels

/-- Two reactions that differ in the occurrences that they set off only. -/
structure Reaction.Alike (T : Trigger → Trigger → Prop) (left right : Reaction) : Prop where
  writeError : left.writeError = right.writeError
  flushError : left.flushError = right.flushError
  mostTaken : left.mostTaken = right.mostTaken
  triggers : List.Forall₂ T left.triggers right.triggers
  cancels : left.cancels = right.cancels

/-- Two worlds that differ in their platforms and in the occurrences to come only. -/
structure World.Alike (R : σ → τ → Prop) (T : Trigger → Trigger → Prop) (left : World σ)
    (right : World τ) : Prop where
  platform : R left.platform right.platform
  now : left.now = right.now
  cancelled : left.cancelled = right.cancelled
  upcoming : List.Forall₂ (Event.Alike T) left.upcoming right.upcoming
  reactions : List.Forall₂ (Reaction.Alike T) left.reactions right.reactions
  lines : left.lines = right.lines
  unflushed : left.unflushed = right.unflushed

/-- All occurrences that a timeline can bring. -/
def World.triggers (start : World σ) : List Trigger :=
  start.upcoming.flatMap Event.triggers ++ start.reactions.flatMap Reaction.triggers

/-- The same timeline around another platform. -/
def World.onto (platform : τ) (start : World σ) : World τ :=
  ⟨platform, start.now, start.cancelled, start.upcoming, start.reactions, start.lines,
    start.unflushed⟩

/-- A timeline is alike around two platforms if each of its occurrences may happen on both. -/
theorem World.alike_onto {ρ : Type} {start : World ρ} {first : σ} {second : τ}
    (related : R first second) (same : ∀ trigger ∈ start.triggers, T trigger trigger) :
    World.Alike R T (start.onto first) (start.onto second) where
  platform := related
  now := rfl
  cancelled := rfl
  upcoming := by
    apply List.forall₂_same.mpr
    intro event listed
    refine ⟨rfl, List.forall₂_same.mpr fun trigger fired => same trigger ?_, rfl⟩
    exact List.mem_append_left _ (List.mem_flatMap.mpr ⟨event, listed, fired⟩)
  reactions := by
    apply List.forall₂_same.mpr
    intro reaction listed
    refine ⟨rfl, rfl, rfl, List.forall₂_same.mpr fun trigger fired => same trigger ?_, rfl⟩
    exact List.mem_append_right _ (List.mem_flatMap.mpr ⟨reaction, listed, fired⟩)
  lines := rfl
  unflushed := rfl

variable {left : World σ} {right : World τ}

theorem World.Alike.reaction (alike : World.Alike R T left right) :
    Reaction.Alike T left.reaction right.reaction := by
  unfold World.reaction
  rw [alike.lines]
  generalize right.lines.length = number
  have reactions := alike.reactions
  generalize left.reactions = reactions₁ at reactions ⊢
  generalize right.reactions = reactions₂ at reactions ⊢
  induction reactions generalizing number with
  | nil => exact ⟨rfl, rfl, rfl, .nil, rfl⟩
  | cons first rest inductionHypothesis =>
      cases number with
      | zero => exact first
      | succ number => exact inductionHypothesis number

/-! ### Steps of the surroundings -/

theorem write_matching (text : List Char) (alike : World.Alike R T left right) :
    Matching (World.Alike R T) (write text left) (write text right) := by
  have reaction := alike.reaction
  unfold write
  rw [reaction.writeError, reaction.mostTaken]
  cases right.reaction.writeError with
  | some error => exact ⟨_, _, _, rfl, rfl, alike⟩
  | none => exact ⟨_, _, _, rfl, rfl, { alike with unflushed := by rw [alike.unflushed] }⟩

variable {occur₁ : Trigger → σ → σ} {occur₂ : Trigger → τ → τ}
  (kept : ∀ {first second state₁ state₂}, T first second → R state₁ state₂ →
    R (occur₁ first state₁) (occur₂ second state₂))

include kept

theorem World.Alike.fire
    {triggers₁ triggers₂ : List Trigger} (same : List.Forall₂ T triggers₁ triggers₂)
    (alike : World.Alike R T left right) :
    World.Alike R T (left.fire occur₁ triggers₁) (right.fire occur₂ triggers₂) := by
  refine { alike with platform := ?_ }
  have related := alike.platform
  show R (triggers₁.foldl (fun state trigger => occur₁ trigger state) left.platform)
    (triggers₂.foldl (fun state trigger => occur₂ trigger state) right.platform)
  generalize left.platform = state₁ at related ⊢
  generalize right.platform = state₂ at related ⊢
  induction same generalizing state₁ state₂ with
  | nil => exact related
  | cons first _ inductionHypothesis => exact inductionHypothesis _ _ (kept first related)

theorem elapse_matching (deadline : Option Nat) {events₁ events₂ : List Event}
    (same : List.Forall₂ (Event.Alike T) events₁ events₂) (alike : World.Alike R T left right) :
    Matching (World.Alike R T) (elapse occur₁ deadline events₁ left)
      (elapse occur₂ deadline events₂ right) := by
  have later : deadline.getD left.now = deadline.getD right.now := by rw [alike.now]
  induction same generalizing left right with
  | nil => exact ⟨_, _, _, rfl, rfl, { alike with now := later, upcoming := .nil }⟩
  | @cons event₁ event₂ rest₁ rest₂ first rest inductionHypothesis =>
      unfold elapse
      rw [first.time, first.cancels]
      cases isBefore event₂.time deadline with
      | false =>
          exact ⟨_, _, _, rfl, rfl, { alike with now := later, upcoming := .cons first rest }⟩
      | true =>
          have fired := World.Alike.fire kept first.triggers
            { alike with now := rfl : World.Alike R T { left with now := event₂.time }
              { right with now := event₂.time } }
          simp only [if_true]
          cases event₂.cancels with
          | true => exact ⟨_, _, _, rfl, rfl, { fired with cancelled := rfl, upcoming := rest }⟩
          | false => exact inductionHypothesis fired rfl

theorem flush_matching (alike : World.Alike R T left right) :
    Matching (World.Alike R T) (flush occur₁ left) (flush occur₂ right) := by
  have reaction := alike.reaction
  simp only [flush, reaction.flushError]
  cases right.reaction.flushError with
  | some error => exact ⟨_, _, _, rfl, rfl, alike⟩
  | none =>
      have flushed : World.Alike R T
          { left with
            lines := left.lines ++ [⟨left.now, String.ofList left.unflushed⟩]
            unflushed := [] }
          { right with
            lines := right.lines ++ [⟨right.now, String.ofList right.unflushed⟩]
            unflushed := [] } :=
        { alike with
          lines := by rw [alike.lines, alike.now, alike.unflushed]
          unflushed := rfl }
      have fired := World.Alike.fire kept reaction.triggers flushed
      refine ⟨_, _, _, rfl, rfl, { fired with cancelled := ?_ }⟩
      show (left.cancelled || left.reaction.cancels) = (right.cancelled || right.reaction.cancels)
      rw [alike.cancelled, reaction.cancels]

/-- Sessions on two platforms go through alike timelines in lock step if occurrences and reads keep
the platforms' states alike. -/
theorem inside_lockstep {platform₁ : Platform σ π} {probe₁ : π} {platform₂ : Platform τ ρ}
    {probe₂ : ρ}
    (read : ∀ {state₁ state₂}, R state₁ state₂ →
      (platform₁.readTable probe₁ state₁).result.map Snapshot.toList =
          (platform₂.readTable probe₂ state₂).result.map Snapshot.toList ∧
        R (platform₁.readTable probe₁ state₁).state (platform₂.readTable probe₂ state₂).state) :
    Lockstep (World.Alike R T) (inside platform₁) (surroundings occur₁) probe₁
      (inside platform₂) (surroundings occur₂) probe₂ where
  pause {left right} interval alike := by
    show Matching _ (wait occur₁ (some (left.now + interval)) left)
      (wait occur₂ (some (right.now + interval)) right)
    unfold wait
    rw [alike.cancelled, alike.now]
    cases right.cancelled with
    | true => exact ⟨_, _, _, rfl, rfl, alike⟩
    | false => exact elapse_matching kept _ alike.upcoming alike
  write text alike := write_matching text alike
  flush alike := flush_matching kept alike
  read alike :=
    have ⟨same, after⟩ := read alike.platform
    ⟨same, { alike with platform := after }⟩

end SyscallTally.Session.Timeline
