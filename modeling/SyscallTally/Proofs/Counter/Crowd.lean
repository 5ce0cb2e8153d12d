import SyscallTally.Counter.Crowd

/-!
Owns what holds of every interleaving, whatever the members do in their turns:

- an invariant of single turns is one of every run (`run_preserves`), and so is what each member may
  rely on (`Upholds.forall_members_run`);
- what every turn conserves, a run conserves (`Upholds.balance_run`);
- a member that changes does so in a turn of its own (`exists_turn_of_change`), and one that gets
  closer to its end in each of its turns ends after enough of them (`rank_run_le`).

The members of any particular system are not owned here.
-/

set_option autoImplicit false

namespace SyscallTally.Counter.Crowd

variable {κ σ τ : Type} (rules : TurnRules κ σ τ) {crowd : Crowd σ τ} {turn : κ} {member : τ}

/-! ### One turn -/

theorem turn_of_none (nobody : crowd.members[rules.who turn]? = none) :
    crowd.turn rules turn = crowd := by
  simp only [Crowd.turn, nobody]

theorem turn_of_some (found : crowd.members[rules.who turn]? = some member) :
    crowd.turn rules turn =
      ⟨(rules.advance turn member crowd.shared).2,
        crowd.members.set (rules.who turn) (rules.advance turn member crowd.shared).1⟩ := by
  simp only [Crowd.turn, found]

@[simp] theorem length_members_turn :
    (crowd.turn rules turn).members.length = crowd.members.length := by
  cases found : crowd.members[rules.who turn]? with
  | none => rw [turn_of_none rules found]
  | some member => rw [turn_of_some rules found, List.length_set]

/-- A member is moved by its own turns and by no others. -/
theorem getElem?_members_turn (crowd : Crowd σ τ) (turn : κ) (number : Nat) :
    (crowd.turn rules turn).members[number]? =
      if rules.who turn = number then
        crowd.members[number]?.map fun member => (rules.advance turn member crowd.shared).1
      else crowd.members[number]? := by
  cases found : crowd.members[rules.who turn]? with
  | none =>
      rw [turn_of_none rules found]
      by_cases own : rules.who turn = number
      · rw [if_pos own, ← own, found, Option.map_none]
      · rw [if_neg own]
  | some member =>
      rw [turn_of_some rules found, List.getElem?_set]
      have below : rules.who turn < crowd.members.length :=
        (List.getElem?_eq_some_iff.mp found).1
      by_cases own : rules.who turn = number
      · rw [if_pos own, if_pos own, if_pos below, ← own, found, Option.map_some]
      · rw [if_neg own, if_neg own]

/-! ### Runs -/

@[simp] theorem run_nil : crowd.run rules [] = crowd := rfl

@[simp] theorem run_cons (rest : List κ) :
    crowd.run rules (turn :: rest) = (crowd.turn rules turn).run rules rest := rfl

theorem run_append (early late : List κ) :
    crowd.run rules (early ++ late) = (crowd.run rules early).run rules late :=
  List.foldl_append

theorem run_concat (schedule : List κ) :
    crowd.run rules (schedule ++ [turn]) = (crowd.run rules schedule).turn rules turn := by
  rw [run_append, run_cons, run_nil]

/-- An invariant of the turns that somebody takes is an invariant of every run. -/
theorem run_preserves (Holds : Crowd σ τ → Prop)
    (step : ∀ turn crowd member, crowd.members[rules.who turn]? = some member → Holds crowd →
      Holds ⟨(rules.advance turn member crowd.shared).2,
        crowd.members.set (rules.who turn) (rules.advance turn member crowd.shared).1⟩)
    (schedule : List κ) (initially : Holds crowd) : Holds (crowd.run rules schedule) := by
  induction schedule generalizing crowd with
  | nil => exact initially
  | cons turn rest inductionHypothesis =>
      apply inductionHypothesis
      cases found : crowd.members[rules.who turn]? with
      | none =>
          rw [turn_of_none rules found]
          exact initially
      | some member =>
          rw [turn_of_some rules found]
          exact step turn crowd member found initially

@[simp] theorem length_members_run (schedule : List κ) :
    (crowd.run rules schedule).members.length = crowd.members.length := by
  induction schedule generalizing crowd with
  | nil => rfl
  | cons turn rest inductionHypothesis =>
      rw [run_cons, inductionHypothesis, length_members_turn]

/-- A trait that no member changes in its turns is kept by all. -/
theorem map_members_run {α : Type} (trait : τ → α)
    (keeps : ∀ turn member shared, trait (rules.advance turn member shared).1 = trait member)
    (schedule : List κ) :
    (crowd.run rules schedule).members.map trait = crowd.members.map trait := by
  refine run_preserves rules
    (fun later => later.members.map trait = crowd.members.map trait) ?_ schedule rfl
  intro turn later member found kept
  obtain ⟨below, rfl⟩ := List.getElem?_eq_some_iff.mp found
  rw [List.map_set, keeps, ← List.map_set, List.set_getElem_self, kept]

/-- The member of a number has the same trait before and after a run. -/
theorem trait_eq_of_run {α : Type} (trait : τ → α)
    (keeps : ∀ turn member shared, trait (rules.advance turn member shared).1 = trait member)
    {schedule : List κ} {number : Nat} {last : τ} (found : crowd.members[number]? = some member)
    (foundLast : (crowd.run rules schedule).members[number]? = some last) :
    trait last = trait member := by
  have same : (crowd.run rules schedule).members.map trait = crowd.members.map trait :=
    map_members_run rules trait keeps schedule
  have kept := congrArg (·[number]?) same
  simp only [List.getElem?_map, found, foundLast, Option.map_some, Option.some.injEq] at kept
  exact kept

/-- What every turn does to the shared state, a run does, if it can be done repeatedly. -/
theorem shared_run (Leads : σ → σ → Prop) (same : ∀ shared, Leads shared shared)
    (chain : ∀ {first second third}, Leads first second → Leads second third →
      Leads first third)
    (step : ∀ turn member shared, Leads shared (rules.advance turn member shared).2)
    (schedule : List κ) : Leads crowd.shared (crowd.run rules schedule).shared :=
  run_preserves rules (fun later => Leads crowd.shared later.shared)
    (fun turn _ member _ led => chain led (step turn member _)) schedule (same _)

/-- What a member may rely on: its own turns establish it, and the turns of the others keep it. -/
structure Upholds (Fits : σ → τ → Prop) : Prop where
  own : ∀ turn member shared, Fits shared member →
    Fits (rules.advance turn member shared).2 (rules.advance turn member shared).1
  others : ∀ turn member shared bystander, Fits shared bystander →
    Fits (rules.advance turn member shared).2 bystander

variable {rules} in
theorem Upholds.forall_members_set {Fits : σ → τ → Prop} (upholds : Upholds rules Fits)
    (found : crowd.members[rules.who turn]? = some member)
    (fitting : ∀ member ∈ crowd.members, Fits crowd.shared member) :
    ∀ other ∈ crowd.members.set (rules.who turn) (rules.advance turn member crowd.shared).1,
      Fits (rules.advance turn member crowd.shared).2 other := by
  intro other membership
  rcases List.mem_or_eq_of_mem_set membership with bystander | moved
  · exact upholds.others turn member crowd.shared other (fitting other bystander)
  · rw [moved]
    exact upholds.own turn member crowd.shared (fitting member (List.mem_of_getElem? found))

variable {rules} in
/-- What members may rely on holds of every member throughout. -/
theorem Upholds.forall_members_run {Fits : σ → τ → Prop} (upholds : Upholds rules Fits)
    (schedule : List κ) (initially : ∀ member ∈ crowd.members, Fits crowd.shared member) :
    ∀ member ∈ (crowd.run rules schedule).members,
      Fits (crowd.run rules schedule).shared member :=
  run_preserves rules (fun crowd => ∀ member ∈ crowd.members, Fits crowd.shared member)
    (fun _ _ _ found fitting => upholds.forall_members_set found fitting) schedule initially

/-! ### Conserved quantities -/

/-- Replacing one member changes the number of members of a kind by that one alone. -/
theorem countP_set_add (kind : τ → Bool) {members : List τ} {number : Nat}
    (found : members[number]? = some member) (moved : τ) :
    (members.set number moved).countP kind + (kind member).toNat =
      members.countP kind + (kind moved).toNat := by
  obtain ⟨below, rfl⟩ := List.getElem?_eq_some_iff.mp found
  have included : (kind members[number]).toNat ≤ members.countP kind := by
    cases ofKind : kind members[number] with
    | false => exact Nat.zero_le _
    | true => exact List.countP_pos_iff.mpr ⟨_, List.getElem_mem below, ofKind⟩
  rw [List.countP_set below]
  cases ofKind : kind members[number] <;> cases kind moved <;>
    simp only [ofKind, Bool.toNat_true, Bool.toNat_false, if_true, Bool.false_eq_true,
      if_false] at included ⊢ <;> omega

/-- Of a kind that no member leaves there are never fewer later. -/
theorem countP_le_run (kind : τ → Bool)
    (keeps : ∀ turn member shared, kind member → kind (rules.advance turn member shared).1)
    (schedule : List κ) :
    crowd.members.countP kind ≤ (crowd.run rules schedule).members.countP kind := by
  refine run_preserves rules
    (fun later => crowd.members.countP kind ≤ later.members.countP kind) ?_ schedule (Nat.le_refl _)
  intro turn later member found sofar
  have changed := countP_set_add kind found (rules.advance turn member later.shared).1
  have kept : (kind member).toNat ≤ (kind (rules.advance turn member later.shared).1).toNat := by
    cases before : kind member with
    | false => exact Nat.zero_le _
    | true => exact Nat.le_of_eq (congrArg Bool.toNat (keeps turn member later.shared before).symm)
  exact Nat.le_trans sofar (Nat.le_of_add_le_add_right
    (Nat.le_trans (Nat.add_le_add_left kept _) (Nat.le_of_eq changed.symm)))

variable {rules} in
/-- A value of the shared state that moves only as the moving member enters or leaves a kind has
moved, at the end of a run, by the number of members of that kind, if there were none before. -/
theorem Upholds.balance_run {Fits : σ → τ → Prop} (upholds : Upholds rules Fits)
    (value : σ → UInt64) (kind : τ → Bool)
    (step : ∀ turn member shared, Fits shared member →
      value (rules.advance turn member shared).2 + UInt64.ofNat (kind member).toNat =
        value shared + UInt64.ofNat (kind (rules.advance turn member shared).1).toNat)
    (schedule : List κ)
    (initially : ∀ member ∈ crowd.members, Fits crowd.shared member ∧ ¬ kind member) :
    value (crowd.run rules schedule).shared =
      value crowd.shared + UInt64.ofNat ((crowd.run rules schedule).members.countP kind) := by
  refine (run_preserves rules
    (fun later => (∀ member ∈ later.members, Fits later.shared member) ∧
      value later.shared = value crowd.shared + UInt64.ofNat (later.members.countP kind))
    ?_ schedule ⟨fun member membership => (initially member membership).1, ?_⟩).2
  · intro turn later member found balanced
    refine ⟨upholds.forall_members_set found balanced.1, ?_⟩
    have moved := step turn member later.shared
      (balanced.1 member (List.mem_of_getElem? found))
    have counted := congrArg UInt64.ofNat
      (countP_set_add kind found (rules.advance turn member later.shared).1)
    simp only [UInt64.ofNat_add] at counted
    grind
  · rw [List.countP_eq_zero.mpr fun member membership => (initially member membership).2]
    exact (UInt64.add_zero _).symm

/-! ### The history of one member -/

/-- What a member keeps in its turns, it keeps for good. -/
theorem getElem?_run_of_kept (Kept : τ → Prop)
    (step : ∀ turn member shared, Kept member → Kept (rules.advance turn member shared).1)
    {number : Nat} (schedule : List κ) (found : crowd.members[number]? = some member)
    (kept : Kept member) :
    ∃ later, (crowd.run rules schedule).members[number]? = some later ∧ Kept later := by
  induction schedule generalizing crowd member with
  | nil => exact ⟨member, found, kept⟩
  | cons turn rest inductionHypothesis =>
      by_cases own : rules.who turn = number
      · apply inductionHypothesis
        · rw [getElem?_members_turn, if_pos own, found, Option.map_some]
        · exact step turn member crowd.shared kept
      · apply inductionHypothesis _ kept
        rw [getElem?_members_turn, if_neg own, found]

/-- A member that has come to be different has become so in one turn, which was its own. -/
theorem exists_turn_of_change (Reached : τ → Prop) {number : Nat} {last : τ}
    (schedule : List κ) (found : crowd.members[number]? = some member)
    (notYet : ¬ Reached member)
    (foundLast : (crowd.run rules schedule).members[number]? = some last)
    (reached : Reached last) :
    ∃ before turn after mover, schedule = before ++ turn :: after ∧ rules.who turn = number ∧
      (crowd.run rules before).members[number]? = some mover ∧ ¬ Reached mover ∧
      Reached (rules.advance turn mover (crowd.run rules before).shared).1 := by
  induction schedule generalizing crowd member with
  | nil =>
      have same : some last = some member := foundLast.symm.trans found
      cases same
      exact absurd reached notYet
  | cons turn rest inductionHypothesis =>
      have next := getElem?_members_turn rules crowd turn number
      by_cases own : rules.who turn = number
      · rw [if_pos own, found, Option.map_some] at next
        by_cases now : Reached (rules.advance turn member crowd.shared).1
        · exact ⟨[], turn, rest, member, rfl, own, found, notYet, now⟩
        · obtain ⟨before, later, after, mover, split, facts⟩ :=
            inductionHypothesis next now foundLast
          exact ⟨turn :: before, later, after, mover, by rw [split, List.cons_append], facts⟩
      · rw [if_neg own, found] at next
        obtain ⟨before, later, after, mover, split, facts⟩ :=
          inductionHypothesis next notYet foundLast
        exact ⟨turn :: before, later, after, mover, by rw [split, List.cons_append], facts⟩

/-- A member whose rank falls in each of its turns has fallen by their number. -/
theorem rank_run_le (rank : τ → Nat)
    (falls : ∀ turn member shared, rank (rules.advance turn member shared).1 ≤ rank member - 1)
    {number : Nat} {last : τ} (schedule : List κ) (found : crowd.members[number]? = some member)
    (foundLast : (crowd.run rules schedule).members[number]? = some last) :
    rank last ≤ rank member - schedule.countP (fun turn => rules.who turn = number) := by
  induction schedule generalizing crowd member with
  | nil =>
      have same : some last = some member := foundLast.symm.trans found
      cases same
      exact Nat.le_refl _
  | cons turn rest inductionHypothesis =>
      have next := getElem?_members_turn rules crowd turn number
      by_cases own : rules.who turn = number
      · rw [if_pos own, found, Option.map_some] at next
        have below := inductionHypothesis next foundLast
        have fallen := falls turn member crowd.shared
        rw [List.countP_cons_of_pos (by simpa using own)]
        omega
      · rw [if_neg own, found] at next
        rw [List.countP_cons_of_neg (by simpa using own)]
        exact inductionHypothesis next foundLast

/-- The member of a number after a run was a member before it. -/
theorem exists_member_of_run {number : Nat} {last : τ} {schedule : List κ}
    (foundLast : (crowd.run rules schedule).members[number]? = some last) :
    ∃ first, crowd.members[number]? = some first := by
  have below := (List.getElem?_eq_some_iff.mp foundLast).1
  rw [length_members_run] at below
  exact ⟨_, List.getElem?_eq_getElem below⟩

end SyscallTally.Counter.Crowd
