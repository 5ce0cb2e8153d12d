import SyscallTally.Session.Timeline

/-!
Owns what it means to work on a part of a larger state: a platform or surroundings that are given
only a part do to that part what they do by themselves, and leave the rest alone
(`attachProbe_onPart`, `report_onPart`).
-/

set_option autoImplicit false

namespace SyscallTally

/-- A part of a larger state, with a way to put another in its place. -/
structure IsPart {σ ω : Type} (part : ω → σ) (replace : σ → ω → ω) : Prop where
  part_replace : ∀ state whole, part (replace state whole) = state
  replace_part : ∀ whole, replace (part whole) whole = whole
  replace_replace : ∀ first second whole,
    replace second (replace first whole) = replace second whole

variable {σ ω π : Type} {part : ω → σ} {replace : σ → ω → ω}

theorem Response.onPart_andThen {α β : Type} (response : Response σ α) (place : σ → ω)
    {next : α → σ → Response σ β} {nextWhole : α → ω → Response ω β}
    (step : ∀ value state, nextWhole value (place state) = (next value state).onPart place) :
    (response.onPart place).andThen nextWhole = (response.andThen next).onPart place := by
  rcases response with ⟨failure | value, state, log⟩
  · rfl
  · show Response.mk _ _ (log ++ (nextWhole value (place state)).log) = _
    simp only [Response.onPart, step]
    rfl

theorem Platform.attachProbe_onPart (lawful : IsPart part replace) (platform : Platform σ π)
    (event : String) (kind : Probe.Kind) (whole : ω) :
    (platform.onPart part replace).attachProbe event kind whole =
      (platform.attachProbe event kind (part whole)).onPart (replace · whole) := by
  have checks (target : Kernel.Target) (state : σ) :
      (platform.onPart part replace).ensurePrivileges target kind.artifact (replace state whole) =
        (platform.ensurePrivileges target kind.artifact state).onPart (replace · whole) := by
    simp only [Platform.onPart, Response.onPart, lawful.part_replace, lawful.replace_replace]
  have attaches (target : Kernel.Target) (state : σ) :
      (platform.onPart part replace).attach target kind.artifact (replace state whole) =
        (platform.attach target kind.artifact state).onPart (replace · whole) := by
    simp only [Platform.onPart, Response.onPart, lawful.part_replace, lawful.replace_replace]
  unfold attachProbe
  apply Response.onPart_andThen (platform.resolve event (part whole)) (replace · whole)
  intro target resolved
  apply Response.onPart_andThen (Response.noting _ _ resolved) (replace · whole)
  intro _ noted
  rw [checks]
  apply Response.onPart_andThen
  intro _ checked
  rw [attaches]
  apply Response.onPart_andThen
  intro probe attached
  apply Response.onPart_andThen (Response.noting _ _ attached) (replace · whole)
  intro _ last
  rfl

theorem Platform.attachProbe_of_part (lawful : IsPart part replace) {platform : Platform σ π}
    {event : String} {kind : Probe.Kind} {whole : ω} {result : Except Probe.Failure π}
    {attached : σ} {log : List LogRecord}
    (attaching : platform.attachProbe event kind (part whole) = ⟨result, attached, log⟩) :
    (platform.onPart part replace).attachProbe event kind whole =
      ⟨result, replace attached whole, log⟩ := by
  rw [attachProbe_onPart lawful, attaching]
  rfl

namespace Session

theorem writeAll_onPart (lawful : IsPart part replace) (around : Surroundings σ) (skipped : Nat)
    (text : List Char) (whole : ω) :
    writeAll (around.onPart part replace) skipped text whole =
      ((writeAll around skipped text (part whole)).1,
        replace (writeAll around skipped text (part whole)).2 whole) := by
  induction text generalizing skipped whole with
  | nil => cases skipped <;> simp only [writeAll, lawful.replace_part]
  | cons char rest inductionHypothesis =>
      cases skipped with
      | succ skipped =>
          simp only [writeAll]
          exact inductionHypothesis skipped whole
      | zero =>
          have offered : (around.onPart part replace).write (char :: rest) whole =
              ((around.write (char :: rest) (part whole)).1,
                replace (around.write (char :: rest) (part whole)).2 whole) := rfl
          rw [writeAll, writeAll, offered]
          rcases around.write (char :: rest) (part whole) with ⟨_ | _ | taken, after⟩
          · rfl
          · rfl
          · simp only [inductionHypothesis, lawful.part_replace, lawful.replace_replace]

theorem report_onPart (lawful : IsPart part replace) (around : Surroundings σ)
    (snapshot : Counter.Snapshot) (whole : ω) :
    report (around.onPart part replace) snapshot whole =
      ((report around snapshot (part whole)).1,
        replace (report around snapshot (part whole)).2 whole) := by
  have flushed (after : σ) : (around.onPart part replace).flush (replace after whole) =
      ((around.flush after).1, replace (around.flush after).2 whole) := by
    simp only [Surroundings.onPart, lawful.part_replace, lawful.replace_replace]
  unfold report
  rw [writeAll_onPart lawful]
  rcases writeAll around 0 snapshot.line.toList (part whole) with ⟨_ | _, after⟩
  · rfl
  · simp only [flushed]
    rcases around.flush after with ⟨_ | _, _⟩ <;> rfl

namespace Timeline

theorem inside_isPart : IsPart (World.platform (σ := σ)) fun state world =>
    { world with platform := state } :=
  ⟨fun _ _ => rfl, fun _ => rfl, fun _ _ _ => rfl⟩

theorem attachProbe_inside {platform : Platform σ π} {event : String} {kind : Probe.Kind}
    {world : World σ} {result : Except Probe.Failure π} {attached : σ} {log : List LogRecord}
    (attaching : platform.attachProbe event kind world.platform = ⟨result, attached, log⟩) :
    (inside platform).attachProbe event kind world =
      ⟨result, { world with platform := attached }, log⟩ :=
  Platform.attachProbe_of_part inside_isPart attaching

end Timeline

end Session

end SyscallTally
