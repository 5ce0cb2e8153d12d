import SyscallTally.Proofs.Files.Chains
import SyscallTally.Proofs.Settings.Saved

/-!
Owns what a change of the saved settings leaves behind if it fails (`failed_modify_keeps_files`).

- A failure has one of the reasons of `Unsavable`, and then nothing at all has been done, or the
  file system has refused a directory or the file.
- In the latter case there may be more directories than before. What is in force is the same, as
  long as the settings are not kept by way of a directory that was missing. Where they are, the new
  directory may bring a file within reach that can be read and has not been written (`Uncovers`).
-/

set_option autoImplicit false

namespace SyscallTally.Settings

variable {environment : Environment} {changes : Changes} {settings : Settings}
  {store later : Files.Store} {path : Files.Path} {problem : Problem}

/-! ### Reasons that are no fault of the files -/

/-- Why settings cannot be saved, whatever files there are. -/
inductive Unsavable (environment : Environment) (settings : Settings) : Cause → Prop where
  | zeroInterval (zero : settings.interval.toNat = 0) :
      Unsavable environment settings .zeroInterval
  | noHome (unplaced : location? environment = none) : Unsavable environment settings .noHome
  | intervalOutOfRange (large : Nat.pow 2 63 ≤ settings.interval.toNat) :
      Unsavable environment settings .intervalOutOfRange
  | objectPath (notText : ∀ text, Text.Utf8.encode text ≠ settings.objectPath) :
      Unsavable environment settings .pathNotText
  | symbolsPath (notText : ∀ text, Text.Utf8.encode text ≠ settings.symbolsPath) :
      Unsavable environment settings .pathNotText

theorem unsavable_of_validate (invalid : settings.validate = .error problem) :
    Unsavable environment settings problem.cause := by
  rw [validate] at invalid
  split at invalid
  case isTrue zero =>
    rw [← Except.error.inj invalid]
    exact .zeroInterval (congrArg UInt64.toNat zero)
  case isFalse => cases invalid

theorem unsavable_of_document (unwritable : document settings = .error problem) :
    Unsavable environment settings problem.cause := by
  have notText {octets : List UInt8} (undecoded : Text.Utf8.decode? octets = none)
      (text : String) : Text.Utf8.encode text ≠ octets := by
    rintro rfl
    rw [Text.Utf8.decode?_encode] at undecoded
    cases undecoded
  rw [document] at unwritable
  split at unwritable
  case isTrue large =>
    rw [← Except.error.inj unwritable]
    exact .intervalOutOfRange large
  case isFalse =>
    split at unwritable
    case h_1 => cases unwritable
    case h_2 undecoded =>
      rw [← Except.error.inj unwritable]
      cases object : Text.Utf8.decode? settings.objectPath with
      | none => exact .objectPath (notText object)
      | some objectPath =>
          cases symbols : Text.Utf8.decode? settings.symbolsPath with
          | none => exact .symbolsPath (notText symbols)
          | some symbolsPath => exact absurd symbols (undecoded objectPath symbolsPath object)

/-- Nothing but the files keeps valid settings from being saved that a document can hold. -/
theorem not_unsavable (valid : settings.validate = .ok ())
    (place : location? environment = some path) (documentable : settings.Documentable)
    (cause : Cause) : ¬ Unsavable environment settings cause := by
  rintro (zero | unplaced | large | notText | notText)
  case zeroInterval =>
    rw [validate, if_pos (UInt64.toNat_inj.mp zero)] at valid
    cases valid
  case noHome =>
    rw [place] at unplaced
    cases unplaced
  case intervalOutOfRange => exact absurd documentable.interval (Nat.not_le.mpr large)
  case objectPath =>
    obtain ⟨text, isText⟩ := documentable.objectPath
    exact notText text isText
  case symbolsPath =>
    obtain ⟨text, isText⟩ := documentable.symbolsPath
    exact notText text isText

/-! ### Faults of the files -/

/-- What an attempt to write a file leaves behind if it fails: there may be more directories, and
if there is a file that can be read, its guard is why it was not written. -/
structure Unwritten (store : Files.Store) (path : Files.Path) (later : Files.Store)
    (fault : Files.Fault) : Prop where
  grows : store.Grows later
  guarded : ∀ contents, later.read path = .ok contents → ∃ above name guard,
    later.Located path above name contents ∧ later.guard? (above ++ [name]) = some guard ∧
      guard.fault = fault

theorem prepareParent_cases (store : Files.Store) (path : Files.Path) :
    (∃ prepared, prepareParent store path = (.ok (), prepared) ∧ store.Grows prepared) ∨
      ∃ fault contexts later,
        prepareParent store path = (.error ⟨.file fault, contexts⟩, later) ∧
          Unwritten store path later fault := by
  unfold prepareParent
  cases isParent : Files.Path.parent? path with
  | none => exact .inl ⟨store, rfl, .refl store⟩
  | some parent =>
      have grows := (Files.Store.chain_createChain store parent).grows
      rcases creating : store.createChain parent with ⟨fault | ⟨⟩, after⟩
      · rw [creating] at grows
        simp only [creating]
        exact .inr ⟨fault, _, after, rfl, grows, fun _ read =>
          absurd read (Files.Store.read_ne_ok_of_failed isParent creating)⟩
      · rw [creating] at grows
        simp only [creating]
        exact .inl ⟨after, rfl, grows⟩

/-- The ways in which saving can fail. -/
theorem save_cases_of_failed (failed : save environment settings store = (.error problem, later)) :
    (Unsavable environment settings problem.cause ∧ later = store) ∨
      ∃ path fault, location? environment = some path ∧ settings.Documentable ∧
        problem.cause = .file fault ∧ Unwritten store path later fault := by
  rw [save] at failed
  cases place : location? environment with
  | none =>
      simp only [place, Prod.mk.injEq, Except.error.injEq] at failed
      obtain ⟨rfl, rfl⟩ := failed
      exact .inl ⟨.noHome place, rfl⟩
  | some path =>
      cases documented : document settings with
      | error reason =>
          simp only [place, documented, Prod.mk.injEq, Except.error.injEq] at failed
          obtain ⟨rfl, rfl⟩ := failed
          exact .inl ⟨unsavable_of_document documented, rfl⟩
      | ok text =>
          have documentable := documentable_of_document documented
          rcases prepareParent_cases store path with
            ⟨prepared, preparing, grows⟩ | ⟨fault, contexts, after, preparing, unwritten⟩
          · cases writing : prepared.write path (.octets (Text.Utf8.encode text)) with
            | ok written =>
                simp only [place, documented, preparing, writing, Prod.mk.injEq, reduceCtorEq,
                  false_and] at failed
            | error fault =>
                simp only [place, documented, preparing, writing, Prod.mk.injEq,
                  Except.error.injEq] at failed
                obtain ⟨rfl, rfl⟩ := failed
                refine .inr ⟨path, fault, rfl, documentable, rfl, grows, fun contents read => ?_⟩
                obtain ⟨above, name, located⟩ := Files.Store.located_of_read read
                obtain ⟨guard, guarded, isFault⟩ := located.guard?_of_unwritten writing
                exact ⟨above, name, guard, located, guarded, isFault⟩
          · simp only [place, documented, preparing, Prod.mk.injEq, Except.error.injEq] at failed
            obtain ⟨rfl, rfl⟩ := failed
            exact .inr ⟨path, fault, rfl, documentable, rfl, unwritten⟩

/-! ### What is in force -/

/-- Where no file can be read the defaults are in force, but for what the environment overrides. -/
theorem load_of_unreadable (place : location? environment = some path)
    (unreadable : ∀ contents, store.read path ≠ .ok contents) :
    (load environment store).1 = (overrides environment).apply default := by
  have unusable : ∃ reason, stored store path = .error reason := by
    cases read : store.read path with
    | ok contents => exact absurd read (unreadable contents)
    | error fault => exact ⟨.file fault, by rw [stored, read]⟩
  obtain ⟨reason, isUnusable⟩ := unusable
  have storedEq : (loadStored environment store).1 = default := by
    rw [loadStored, place]
    cases present : store.pathExists path <;> simp [present, isUnusable]
  rw [load, ← storedEq]

/-- What a path reads as is in force, but for what the environment overrides. -/
theorem load_of_read_eq (place : location? environment = some path) {contents : Files.Contents}
    (read : store.read path = .ok contents) (readLater : later.read path = .ok contents) :
    (load environment later).1 = (load environment store).1 := by
  have same : stored later path = stored store path := by rw [stored, stored, read, readLater]
  rw [load, load, loadStored, loadStored, place]
  simp only [Files.Store.pathExists_of_read read, Files.Store.pathExists_of_read readLater, same]

/-- A path has led nowhere, and now that a directory has been created it leads to a file. The file
was there before. It is not the one that was to be written, for its guard has refused that. Such a
path climbs out of the new directory. -/
structure Uncovers (store : Files.Store) (path : Files.Path) (later : Files.Store)
    (fault : Files.Fault) : Prop where
  nowhere : store.pathExists path = false
  created : ∃ place, store.node? place = none ∧ later.node? place = some .directory
  uncovered : ∃ place contents guard, later.read path = .ok contents ∧
    store.node? place = some (.file contents) ∧ later.node? place = some (.file contents) ∧
    store.guard? place = some guard ∧ guard.fault = fault
  climbs : store.Rooted → Files.dotDot ∈ Files.Path.names path

/-- What was in force still is, unless a file has been uncovered. -/
theorem Unwritten.load_eq_or_uncovers {fault : Files.Fault}
    (unwritten : Unwritten store path later fault) (place : location? environment = some path) :
    (load environment later).1 = (load environment store).1 ∨
      Uncovers store path later fault := by
  by_cases readable : ∃ contents, later.read path = .ok contents
  case neg =>
    left
    have unreadable (contents : Files.Contents) : later.read path ≠ .ok contents :=
      fun read => readable ⟨contents, read⟩
    rw [load_of_unreadable place unreadable, load_of_unreadable place]
    exact fun contents read => unreadable contents (unwritten.grows.read read)
  case pos =>
    obtain ⟨contents, readLater⟩ := readable
    by_cases read : store.read path = .ok contents
    · exact .inl (load_of_read_eq place read readLater)
    · right
      have grows := unwritten.grows
      obtain ⟨above, name, guard, located, guarded, isFault⟩ :=
        unwritten.guarded contents readLater
      refine ⟨?_, grows.exists_created read readLater, ?_, fun rooted => ?_⟩
      · exact Bool.eq_false_iff.mpr fun present =>
          read (grows.read_of_pathExists present readLater)
      · refine ⟨above ++ [name], contents, guard, readLater, ?_, located.file, ?_, isFault⟩
        · exact (grows.node?_eq_file_iff _ contents).mp located.file
        · rwa [Files.Store.guard?, ← grows.guards]
      · by_contra level
        exact read (grows.read_of_level rooted level readLater)

/-! ### Changes that fail -/

/-- The ways in which a change of the saved settings can fail. -/
theorem modify_cases_of_failed (inForce : changes.apply (load environment store).1 = settings)
    (fails : (modify environment changes store).result = .error problem) :
    (Unsavable environment settings problem.cause ∧
        (modify environment changes store).store = store) ∨
      ∃ path fault, location? environment = some path ∧ problem.cause = .file fault ∧
        Unwritten store path (modify environment changes store).store fault ∧
        ∀ cause, ¬ Unsavable environment settings cause := by
  cases valid : settings.validate with
  | error reason =>
      have modified : modify environment changes store =
          ⟨.error reason, store, (load environment store).2⟩ := by
        simp only [modify, inForce, valid]
      rw [modified] at fails ⊢
      obtain rfl := Except.error.inj fails
      exact .inl ⟨unsavable_of_validate valid, rfl⟩
  | ok =>
      rcases saving : save environment settings store with ⟨reason | ⟨⟩, after⟩
      · have modified : modify environment changes store =
            ⟨.error reason, after, (load environment store).2⟩ := by
          simp only [modify, inForce, valid, saving]
        rw [modified] at fails ⊢
        obtain rfl := Except.error.inj fails
        rcases save_cases_of_failed saving with
          unsavable | ⟨path, fault, place, documentable, isFault, unwritten⟩
        · exact .inl unsavable
        · exact .inr ⟨path, fault, place, isFault, unwritten,
            not_unsavable valid place documentable⟩
      · have modified : modify environment changes store =
            ⟨.ok settings, after, (load environment store).2⟩ := by
          simp only [modify, inForce, valid, saving]
        rw [modified] at fails
        cases fails

/-- A change that fails leaves all files as they were and creates none. What was in force still is,
unless the settings are kept behind a directory that was missing, and creating it has uncovered a
file that may not be written. A change fails because the new settings cannot be saved anywhere, and
then does nothing at all, or, where they could be, because the file system refuses to take them. -/
theorem failed_modify_keeps_files (environment : Environment) (changes : Changes)
    (store : Files.Store) (problem : Problem)
    (fails : (modify environment changes store).result = .error problem) :
    let settings := changes.apply (load environment store).1
    let later := (modify environment changes store).store
    (∀ place contents, later.node? place = some (.file contents) ↔
        store.node? place = some (.file contents)) ∧
      (∀ path contents, store.read path = .ok contents → later.read path = .ok contents) ∧
      ((load environment later).1 = (load environment store).1 ∨
        ∃ path fault, location? environment = some path ∧ problem.cause = .file fault ∧
          Uncovers store path later fault) ∧
      ((Unsavable environment settings problem.cause ∧ later = store) ∨
        (∃ fault, problem.cause = .file fault) ∧
          ∀ cause, ¬ Unsavable environment settings cause) := by
  intro settings later
  rcases modify_cases_of_failed rfl fails with
    ⟨unsavable, same⟩ | ⟨path, fault, place, isFault, unwritten, savable⟩
  · have laterEq : later = store := same
    rw [laterEq]
    exact ⟨fun _ _ => .rfl, fun _ _ read => read, .inl rfl, .inl ⟨unsavable, rfl⟩⟩
  · refine ⟨unwritten.grows.node?_eq_file_iff, fun _ _ => unwritten.grows.read, ?_,
      .inr ⟨⟨fault, isFault⟩, savable⟩⟩
    rcases unwritten.load_eq_or_uncovers place with same | uncovers
    · exact .inl same
    · exact .inr ⟨path, fault, place, isFault, uncovers⟩

/-- An environment in which the settings are kept in a file of the working directory. -/
def direct : Environment where
  bindings := [(locationVariable, Text.Utf8.encode "f")]

/-- An environment in which they are kept there by way of another directory. -/
def detour : Environment where
  bindings := [(locationVariable, Text.Utf8.encode "n/../f")]

/-- A tree with a file of settings that may not be written. -/
def guardedTree : Files.Store where
  workingDirectory := []
  nodes := [([Text.Utf8.encode "f"], .file (.octets (Text.Utf8.encode "event = \"x\"")))]
  guards := [([Text.Utf8.encode "f"], .denied)]

/-- The file is read before and after. -/
theorem failed_modify_keeps_files_direct :
    ∃ problem later, (modify direct { interval := some 9 } guardedTree).result = .error problem ∧
      problem.chain = "Failed to write \"f\": Permission denied (os error 13)" ∧
      later = (modify direct { interval := some 9 } guardedTree).store ∧
      later.node? [Text.Utf8.encode "f"] =
        some (.file (.octets (Text.Utf8.encode "event = \"x\""))) ∧
      (load direct guardedTree).1 = { event := "x" } ∧
      (load direct later).1 = { event := "x" } := by
  have fails : (modify direct { interval := some 9 } guardedTree).result =
      .error ⟨.file .denied, ["Failed to write \"f\""]⟩ := by rfl
  have before : (load direct guardedTree).1 = { event := "x" } := by rfl
  obtain ⟨files, -, inForce, -⟩ := failed_modify_keeps_files _ _ _ _ fails
  refine ⟨_, _, fails, by decide, rfl, (files _ _).mpr rfl, before, ?_⟩
  rcases inForce with same | ⟨path, _, place, -, uncovers⟩
  · exact same.trans before
  · obtain rfl := Option.some.inj (place.symm.trans (rfl : _ = some (Text.Utf8.encode "f")))
    cases uncovers.nowhere

/-- The file comes within reach with the directory that the change has created. -/
theorem failed_modify_uncovers_file :
    ∃ problem later, (modify detour { interval := some 9 } guardedTree).result = .error problem ∧
      problem.chain = "Failed to write \"n/../f\": Permission denied (os error 13)" ∧
      later = (modify detour { interval := some 9 } guardedTree).store ∧
      (load detour guardedTree).1 = {} ∧ (load detour later).1 = { event := "x" } ∧
      (load detour later).1 ≠ (load detour guardedTree).1 := by
  have before : (load detour guardedTree).1 = {} := by rfl
  have after : (load detour (modify detour { interval := some 9 } guardedTree).store).1 =
      { event := "x" } := by rfl
  have fails : (modify detour { interval := some 9 } guardedTree).result =
      .error ⟨.file .denied, ["Failed to write \"n/../f\""]⟩ := by rfl
  refine ⟨_, _, fails, by decide, rfl, before, after, ?_⟩
  rw [before, after]
  decide

end SyscallTally.Settings
