import SyscallTally.Proofs.Files.Creation
import SyscallTally.Proofs.Settings.Saved

/-!
Owns what a change of the saved settings comes to, if it succeeds.

- The result is what was in force with the chosen fields replaced. It is what the file holds from
  then on, and the same change again changes nothing (`modify_settles`).
- What was in force has the overrides of the environment in it, so they end up in the file
  (`modify_stores_overrides`).

Nothing is said here about changes that fail.
-/

set_option autoImplicit false

namespace SyscallTally.Settings

variable {environment : Environment} {changes : Changes} {store saved : Files.Store}
  {settings : Settings}

/-! ### Replacing fields -/

theorem getD_getD_getD_getD {α : Type} (first second : Option α) (value : α) :
    first.getD (second.getD (first.getD (second.getD value))) = first.getD (second.getD value) := by
  cases first <;> cases second <;> rfl

theorem getD_getD_eq_iff {α : Type} (first second : Option α) (value : α) :
    first.getD (second.getD value) = first.getD value ↔
      (first = none → ∀ other, second = some other → other = value) := by
  cases first <;> cases second <;> simp

/-- Fields that have been replaced are not replaced by others when all is done again. -/
theorem apply_apply_apply_apply (first second : Changes) (settings : Settings) :
    first.apply (second.apply (first.apply (second.apply settings))) =
      first.apply (second.apply settings) := by
  simp only [Changes.apply, getD_getD_getD_getD]

/-- Settings are the same with and without overrides, once fields have been replaced, if every
override of another field says what the field is anyway. -/
theorem apply_overrides_eq_iff (environment : Environment) (changes : Changes)
    (settings : Settings) :
    changes.apply ((overrides environment).apply settings) = changes.apply settings ↔
      (changes.event = none →
        ∀ event, environment.text? eventVariable = some event → event = settings.event) ∧
      (changes.objectPath = none →
        ∀ text, environment.text? objectVariable = some text →
          Files.Path.ofString text = settings.objectPath) := by
  have fields : changes.apply ((overrides environment).apply settings) = changes.apply settings ↔
      changes.event.getD ((environment.text? eventVariable).getD settings.event) =
          changes.event.getD settings.event ∧
        changes.objectPath.getD
            (((environment.text? objectVariable).map Files.Path.ofString).getD
              settings.objectPath) = changes.objectPath.getD settings.objectPath := by
    simp [Changes.apply, overrides]
  rw [fields, getD_getD_eq_iff, getD_getD_eq_iff]
  simp

/-! ### What has been saved -/

/-- Settings that have been saved are where they are kept, as the file that was just put there. It
may be written again. -/
theorem located_of_save (saving : save environment settings store = (.ok (), saved)) :
    ∃ (path : Files.Path) (text : String) (prepared : Files.Store) (above : Files.Place)
        (name : Files.Name),
      location? environment = some path ∧ document settings = .ok text ∧
      saved = prepared.put (above ++ [name]) (.file (.octets (Text.Utf8.encode text))) ∧
      saved.Located path above name (.octets (Text.Utf8.encode text)) ∧
      saved.guard? (above ++ [name]) = none := by
  rw [save] at saving
  cases place : location? environment with
  | none =>
      simp only [place, Prod.mk.injEq, reduceCtorEq, false_and] at saving
  | some path =>
      cases documented : document settings with
      | error problem =>
          simp only [place, documented, Prod.mk.injEq, reduceCtorEq, false_and] at saving
      | ok text =>
          rcases preparing : prepareParent store path with ⟨problem | ⟨⟩, prepared⟩
          · simp only [place, documented, preparing, Prod.mk.injEq, reduceCtorEq,
              false_and] at saving
          · cases writing : prepared.write path (.octets (Text.Utf8.encode text)) with
            | error fault =>
                simp only [place, documented, preparing, writing, Prod.mk.injEq, reduceCtorEq,
                  false_and] at saving
            | ok written =>
                simp only [place, documented, preparing, writing, Prod.mk.injEq, true_and] at saving
                obtain rfl := saving
                obtain ⟨above, name, putEq, located, unguarded⟩ :=
                  Files.Store.located_of_write writing
                exact ⟨path, text, prepared, above, name, rfl, rfl, putEq, located, unguarded⟩

theorem stored_of_save (saving : save environment settings store = (.ok (), saved)) :
    ∃ path octets, location? environment = some path ∧ saved.read path = .ok (.octets octets) ∧
      stored saved path = .ok settings := by
  obtain ⟨path, text, _, _, _, place, documented, -, located, -⟩ := located_of_save saving
  obtain ⟨same, sameDocument, complete⟩ :=
    document_of_documentable (documentable_of_document documented)
  obtain rfl := Except.ok.inj (documented.symm.trans sameDocument)
  exact ⟨path, _, place, located.read_eq, stored_of_read located.read_eq complete⟩

/-- Saving what has been saved changes nothing. -/
theorem save_of_save (saving : save environment settings store = (.ok (), saved)) :
    save environment settings saved = (.ok (), saved) := by
  obtain ⟨path, text, prepared, above, name, place, documented, putEq, located, unguarded⟩ :=
    located_of_save saving
  rw [save_of_located place located unguarded documented, putEq, Files.Store.put_put]

/-! ### What a change comes to -/

/-- A change that succeeds has saved what was in force with the chosen fields replaced. -/
theorem save_of_modify (succeeds : (modify environment changes store).result = .ok settings) :
    settings = changes.apply (load environment store).1 ∧ settings.validate = .ok () ∧
      save environment settings store = (.ok (), (modify environment changes store).store) := by
  rw [modify] at succeeds ⊢
  cases valid : (changes.apply (load environment store).1).validate with
  | error problem =>
      simp only [valid, reduceCtorEq] at succeeds
  | ok =>
      rcases saving : save environment (changes.apply (load environment store).1) store with
        ⟨problem | ⟨⟩, after⟩
      · simp only [valid, saving, reduceCtorEq] at succeeds
      · simp only [valid, saving, Except.ok.injEq] at succeeds ⊢
        obtain rfl := succeeds
        exact ⟨rfl, valid, saving⟩

theorem modify_of_save (inForce : changes.apply (load environment store).1 = settings)
    (valid : settings.validate = .ok ())
    (saving : save environment settings store = (.ok (), saved)) :
    modify environment changes store = ⟨.ok settings, saved, (load environment store).2⟩ := by
  simp only [modify, inForce, valid, saving]

theorem interval_pos_of_validate (valid : settings.validate = .ok ()) :
    1 ≤ settings.interval.toNat := by
  rw [validate] at valid
  split at valid
  case isTrue => cases valid
  case isFalse nonzero =>
    have positive : settings.interval.toNat ≠ 0 := fun zero =>
      nonzero (UInt64.toNat_inj.mp zero)
    exact Nat.one_le_iff_ne_zero.mpr positive

/-- A change that succeeds gives what was in force with the chosen fields replaced, with an interval
of at least 1. That is in force from then on, but for what the environment overrides, and the same
change again gives it again and leaves all files as they are. -/
theorem modify_settles (environment : Environment) (changes : Changes) (store : Files.Store)
    (settings : Settings) (succeeds : (modify environment changes store).result = .ok settings) :
    settings = changes.apply (load environment store).1 ∧
      1 ≤ settings.interval.toNat ∧
      load environment (modify environment changes store).store =
        ((overrides environment).apply settings, []) ∧
      (∃ path octets, location? environment = some path ∧
        (modify environment changes store).store.read path = .ok (.octets octets)) ∧
      modify environment changes (modify environment changes store).store =
        ⟨.ok settings, (modify environment changes store).store, []⟩ := by
  obtain ⟨settingsEq, valid, saving⟩ := save_of_modify succeeds
  obtain ⟨path, octets, place, read, isStored⟩ := stored_of_save saving
  have loaded := load_of_stored place isStored
  refine ⟨settingsEq, interval_pos_of_validate valid, loaded, ⟨path, octets, place, read⟩, ?_⟩
  have again : changes.apply (load environment (modify environment changes store).store).1 =
      settings := by
    rw [loaded, settingsEq, load]
    exact apply_apply_apply_apply changes (overrides environment) _
  rw [modify_of_save again valid (save_of_save saving), loaded]

/-- An environment with an override of the event. -/
def overriding : Environment where
  bindings := [(locationVariable, (Text.Utf8.encode "d/c")), (eventVariable, Text.Utf8.encode "open")]

/-- A tree with nothing in its working directory. -/
def bareTree : Files.Store := { workingDirectory := [Text.Utf8.encode "w"] }

/-- The event that was chosen is kept, though another is in force. -/
theorem modify_settles_overridden :
    ∃ saved octets,
      (modify overriding { event := some "exec", interval := some 9 } bareTree).result =
          .ok { event := "exec", interval := 9 } ∧
        saved = (modify overriding { event := some "exec", interval := some 9 } bareTree).store ∧
        saved.read (Text.Utf8.encode "d/c") = .ok (.octets octets) ∧
        load overriding saved = ({ event := "open", interval := 9 }, []) ∧
        modify overriding { event := some "exec", interval := some 9 } saved =
          ⟨.ok { event := "exec", interval := 9 }, saved, []⟩ := by
  have succeeds : (modify overriding { event := some "exec", interval := some 9 } bareTree).result =
      .ok { event := "exec", interval := 9 } := rfl
  obtain ⟨-, -, loaded, ⟨path, octets, place, read⟩, again⟩ := modify_settles _ _ _ _ succeeds
  obtain rfl := Option.some.inj (place.symm.trans (rfl : _ = some (Text.Utf8.encode "d/c")))
  exact ⟨_, octets, succeeds, rfl, read, loaded, again⟩

/-! ### What a change stores -/

/-- The overrides of the environment are stored with the chosen fields. So only the chosen fields
are replaced in the file if, and only if, every override of another field says what is stored
already. -/
theorem modify_stores_overrides (environment : Environment) (changes : Changes)
    (store : Files.Store) (path : Files.Path) (before settings : Settings)
    (place : location? environment = some path) (acceptable : stored store path = .ok before)
    (succeeds : (modify environment changes store).result = .ok settings) :
    stored (modify environment changes store).store path =
        .ok (changes.apply ((overrides environment).apply before)) ∧
      (stored (modify environment changes store).store path = .ok (changes.apply before) ↔
        (changes.event = none →
          ∀ event, environment.text? eventVariable = some event → event = before.event) ∧
        (changes.objectPath = none →
          ∀ text, environment.text? objectVariable = some text →
            Files.Path.ofString text = before.objectPath)) := by
  obtain ⟨settingsEq, -, saving⟩ := save_of_modify succeeds
  obtain ⟨samePath, -, samePlace, -, isStored⟩ := stored_of_save saving
  obtain rfl := Option.some.inj (place.symm.trans samePlace)
  rw [settingsEq, load_of_stored place acceptable] at isStored
  refine ⟨isStored, ?_⟩
  rw [isStored, Except.ok.injEq, apply_overrides_eq_iff]

/-- A tree with a file of settings in which only the event is given. -/
def eventTree : Files.Store where
  workingDirectory := []
  nodes := [([Text.Utf8.encode "d"], .directory),
    ([Text.Utf8.encode "d", Text.Utf8.encode "c"],
      .file (.octets (Text.Utf8.encode "event = \"exec\"")))]

/-- A change of the very field that is overridden stores what was chosen. -/
theorem modify_stores_overrides_chosen :
    stored eventTree (Text.Utf8.encode "d/c") = .ok { event := "exec" } ∧
      (modify overriding { event := some "stat" } eventTree).result = .ok { event := "stat" } ∧
      stored (modify overriding { event := some "stat" } eventTree).store
          (Text.Utf8.encode "d/c") = .ok (({ event := some "stat" } : Changes).apply
            { event := "exec" }) := by
  have succeeds : (modify overriding { event := some "stat" } eventTree).result =
      .ok { event := "stat" } := rfl
  obtain ⟨-, onlyChosen⟩ := modify_stores_overrides overriding { event := some "stat" } eventTree
    (Text.Utf8.encode "d/c") { event := "exec" } _ rfl rfl succeeds
  exact ⟨rfl, succeeds, onlyChosen.mpr ⟨nofun, fun _ _ unset => nomatch unset⟩⟩

/-- A change of the interval alone leaves another event in the file than it has found there. -/
theorem modify_replaces_unchosen_event :
    stored eventTree (Text.Utf8.encode "d/c") = .ok { event := "exec" } ∧
      (modify overriding { interval := some 9 } eventTree).result =
        .ok { event := "open", interval := 9 } ∧
      stored (modify overriding { interval := some 9 } eventTree).store (Text.Utf8.encode "d/c") ≠
        .ok (({ interval := some 9 } : Changes).apply { event := "exec" }) := by
  have succeeds : (modify overriding { interval := some 9 } eventTree).result =
      .ok { event := "open", interval := 9 } := rfl
  obtain ⟨-, -, saving⟩ := save_of_modify succeeds
  obtain ⟨path, -, place, -, isStored⟩ := stored_of_save saving
  obtain rfl := Option.some.inj (place.symm.trans (rfl : _ = some (Text.Utf8.encode "d/c")))
  refine ⟨rfl, succeeds, ?_⟩
  rw [isStored]
  decide

end SyscallTally.Settings
