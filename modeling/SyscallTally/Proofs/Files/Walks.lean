import SyscallTally.Files.Store

/-!
Owns the walk along names: what one step can do (`Enters`), that walks can be cut in two, and that
they go through directories only (`grounded_of_walk`).
-/

set_option autoImplicit false

namespace SyscallTally.Files.Store

variable {store : Store}

/-! ### Steps of a walk -/

/-- Every place above this one is a directory. -/
def Grounded (store : Store) (place : Place) : Prop :=
  ∀ above, above <+: place → above ≠ place → store.isDirectory above = true

theorem isDirectory_of_within {place : Place} (within : place <+: store.workingDirectory) :
    store.isDirectory place = true := by
  rw [isDirectory, node?, if_pos (List.isPrefixOf_iff_prefix.mpr within)]
  rfl

theorem start_within (store : Store) (path : Path) :
    store.start path <+: store.workingDirectory := by
  rw [start]
  split
  · exact List.nil_prefix
  · exact List.prefix_rfl

theorem isDirectory_start (store : Store) (path : Path) :
    store.isDirectory (store.start path) = true :=
  isDirectory_of_within (store.start_within path)

theorem grounded_start (store : Store) (path : Path) : store.Grounded (store.start path) :=
  fun _ within _ => isDirectory_of_within (within.trans (store.start_within path))

/-- The steps that a walk can take by a name. -/
inductive Enters (store : Store) (here : Place) (name : Name) : Place → Prop where
  | stays (nameEq : name = dot) : Enters store here name here
  | ascends (nameEq : name = dotDot) : Enters store here name here.dropLast
  | descends (proper : isProper name = true) (short : name.length ≤ Path.nameLimit)
      (present : (store.node? (here ++ [name])).isSome = true) :
      Enters store here name (here ++ [name])

theorem enters_of_enter {here next : Place} {name : Name}
    (entered : store.enter here name = .ok next) :
    store.isDirectory here = true ∧ store.Enters here name next := by
  rw [enter] at entered
  cases directory : store.isDirectory here with
  | false =>
      rw [directory] at entered
      cases entered
  | true =>
      refine ⟨rfl, ?_⟩
      rw [directory] at entered
      simp only [Bool.not_true, Bool.false_eq_true, if_false] at entered
      split at entered
      case isTrue nameEq =>
        obtain rfl := Except.ok.inj entered
        exact .stays nameEq
      split at entered
      case isTrue nameEq =>
        obtain rfl := Except.ok.inj entered
        exact .ascends nameEq
      split at entered
      case isTrue => cases entered
      split at entered
      case isTrue noDot noDotDot short present =>
        obtain rfl := Except.ok.inj entered
        refine .descends ?_ (Nat.le_of_not_lt short) present
        simp [isProper, noDot, noDotDot]
      case isFalse => cases entered

theorem enter_of_enters {here next : Place} {name : Name}
    (directory : store.isDirectory here = true) (enters : store.Enters here name next) :
    store.enter here name = .ok next := by
  rw [enter, directory, if_neg (by decide)]
  cases enters with
  | stays nameEq => rw [if_pos nameEq]
  | ascends nameEq => rw [nameEq, if_neg (by decide), if_pos rfl]
  | descends proper short present =>
      have noDot : name ≠ dot := by
        rintro rfl
        cases proper
      have noDotDot : name ≠ dotDot := by
        rintro rfl
        cases proper
      rw [if_neg noDot, if_neg noDotDot, if_neg (Nat.not_lt.mpr short), if_pos present]

theorem grounded_of_enters {here next : Place} {name : Name} (grounded : store.Grounded here)
    (directory : store.isDirectory here = true) (enters : store.Enters here name next) :
    store.Grounded next := by
  have upTo (above : Place) (within : above <+: here) : store.isDirectory above = true := by
    by_cases same : above = here
    · rw [same, directory]
    · exact grounded above within same
  intro above within different
  cases enters with
  | stays => exact upTo above within
  | ascends => exact upTo above (within.trans (List.dropLast_prefix here))
  | descends =>
      rcases List.prefix_concat_iff.mp within with same | within
      · exact absurd same different
      · exact upTo above within

/-! ### Walks -/

theorem walk_append (here : Place) (front back : List Name) :
    store.walk here (front ++ back) =
      match store.walk here front with
      | .ok next => store.walk next back
      | .error fault => .error fault := by
  induction front generalizing here with
  | nil => rfl
  | cons name front inductionHypothesis =>
      rw [List.cons_append, walk, walk]
      cases store.enter here name with
      | error fault => rfl
      | ok next => exact inductionHypothesis next

theorem walk_singleton (here : Place) (name : Name) :
    store.walk here [name] = store.enter here name := by
  rw [walk]
  cases store.enter here name <;> rfl

theorem walk_split {here there : Place} {front back : List Name}
    (walked : store.walk here (front ++ back) = .ok there) :
    ∃ next, store.walk here front = .ok next ∧ store.walk next back = .ok there := by
  rw [walk_append] at walked
  cases first : store.walk here front with
  | error fault =>
      rw [first] at walked
      cases walked
  | ok next =>
      rw [first] at walked
      exact ⟨next, rfl, walked⟩

theorem grounded_of_walk {here there : Place} {names : List Name} (grounded : store.Grounded here)
    (walked : store.walk here names = .ok there) : store.Grounded there := by
  induction names generalizing here with
  | nil =>
      obtain rfl := Except.ok.inj walked
      exact grounded
  | cons name names inductionHypothesis =>
      rw [walk] at walked
      cases entered : store.enter here name with
      | error fault =>
          rw [entered] at walked
          cases walked
      | ok next =>
          rw [entered] at walked
          obtain ⟨directory, enters⟩ := enters_of_enter entered
          exact inductionHypothesis (grounded_of_enters grounded directory enters) walked

/-- A walk that never climbs ends below where it begins. -/
theorem within_of_walk {here there : Place} {names : List Name} (level : dotDot ∉ names)
    (walked : store.walk here names = .ok there) : here <+: there := by
  induction names generalizing here with
  | nil =>
      obtain rfl := Except.ok.inj walked
      exact List.prefix_rfl
  | cons name names inductionHypothesis =>
      obtain ⟨noClimb, level⟩ := List.ne_and_not_mem_of_not_mem_cons level
      rw [walk] at walked
      cases entered : store.enter here name with
      | error fault =>
          rw [entered] at walked
          cases walked
      | ok next =>
          rw [entered] at walked
          have below := inductionHypothesis level walked
          obtain ⟨-, enters⟩ := enters_of_enter entered
          cases enters with
          | stays => exact below
          | ascends nameEq => exact absurd nameEq.symm noClimb
          | descends => exact (List.prefix_append here [name]).trans below

/-- Dots lead nowhere. -/
theorem eq_of_walk_dots {here there : Place} {names : List Name}
    (dots : ∀ name ∈ names, name = dot) (walked : store.walk here names = .ok there) :
    there = here := by
  induction names with
  | nil => exact (Except.ok.inj walked).symm
  | cons name names inductionHypothesis =>
      rw [walk, dots name List.mem_cons_self, enter] at walked
      cases directory : store.isDirectory here with
      | false =>
          rw [directory] at walked
          cases walked
      | true =>
          rw [directory] at walked
          exact inductionHypothesis (fun other member => dots other (List.mem_cons_of_mem _ member))
            walked

end SyscallTally.Files.Store
