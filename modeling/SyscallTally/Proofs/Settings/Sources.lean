import SyscallTally.Proofs.Text.Utf8
import SyscallTally.Settings.Saved

/-!
Owns the sources of settings and their order.

- `heard` gives every field what the first source says that says anything about it.
- `EnvironmentGives` is what the environment says: only of two fields, and only in text.
- `FileGives` is what the file of the settings says. It is a source as a whole or not at all, and is
  warned about when it is there and no source.

The settings in force are heard from the environment and the file, in this order (`load_eq_heard`).
-/

set_option autoImplicit false

namespace SyscallTally.Settings

/-! ### Sources in an order -/

/-- The settings that some sources give, the most important one first: a field is what the first
source says that says anything about it, and otherwise the default. -/
def heard (sources : List Changes) : Settings where
  probe := (sources.findSome? Changes.probe).getD default.probe
  event := (sources.findSome? Changes.event).getD default.event
  interval := (sources.findSome? Changes.interval).getD default.interval
  objectPath := (sources.findSome? Changes.objectPath).getD default.objectPath
  symbolsPath := (sources.findSome? Changes.symbolsPath).getD default.symbolsPath

theorem getD_findSome?_cons {α β : Type} (field : α → Option β) (source : α) (sources : List α)
    (value : β) :
    ((source :: sources).findSome? field).getD value =
      (field source).getD ((sources.findSome? field).getD value) := by
  rw [List.findSome?_cons]
  cases field source <;> rfl

/-- A source that is more important than others replaces what they say. -/
theorem heard_cons (source : Changes) (sources : List Changes) :
    heard (source :: sources) = source.apply (heard sources) := by
  simp only [heard, Changes.apply, getD_findSome?_cons]

/-! ### The environment and the file -/

/-- What the environment says. A variable counts when its value is text. -/
structure EnvironmentGives (environment : Environment) (given : Changes) : Prop where
  probe : given.probe = none
  event : ∀ text, given.event = some text ↔
    environment.get? "EXECWATCH_EVENT" = some (Text.Utf8.encode text)
  interval : given.interval = none
  objectPath : ∀ path, given.objectPath = some path ↔
    environment.get? "EXECWATCH_OBJECT_PATH" = some path ∧ ∃ text, Text.Utf8.encode text = path
  symbolsPath : given.symbolsPath = none

/-- What the file of the settings says, and what is logged about it. -/
inductive FileGives (environment : Environment) (store : Files.Store) :
    Changes → List LogRecord → Prop where
  | nowhere (unplaced : location? environment = none) : FileGives environment store {} []
  | missing {path : Files.Path} (place : location? environment = some path)
      (absent : store.pathExists path = false) : FileGives environment store {} []
  | acceptable {path : Files.Path} {text : String} {fields : Changes}
      (place : location? environment = some path)
      (read : store.read path = .ok (.octets (Text.Utf8.encode text)))
      (accepted : ofDocument? text = some fields) : FileGives environment store fields []
  | unusable {path : Files.Path} {message : String} (place : location? environment = some path)
      (present : store.pathExists path = true)
      (unaccepted : ∀ text, store.read path = .ok (.octets (Text.Utf8.encode text)) →
        ofDocument? text = none) : FileGives environment store {} [⟨.warn, message⟩]

variable {environment : Environment} {store : Files.Store} {path : Files.Path}

theorem text?_eq_some_iff {name text : String} :
    environment.text? name = some text ↔ environment.get? name = some (Text.Utf8.encode text) := by
  unfold Environment.text?
  cases environment.get? name with
  | none => simp
  | some value =>
      rw [Option.bind_some, Text.Utf8.decode?_eq_some_iff, Option.some.injEq]
      exact eq_comm

theorem environmentGives_overrides (environment : Environment) :
    EnvironmentGives environment (overrides environment) where
  probe := rfl
  event _ := text?_eq_some_iff
  interval := rfl
  objectPath := by
    intro path
    simp only [overrides, Option.map_eq_some_iff, text?_eq_some_iff]
    constructor
    · rintro ⟨text, isValue, rfl⟩
      exact ⟨isValue, text, rfl⟩
    · rintro ⟨isValue, text, rfl⟩
      exact ⟨text, isValue, rfl⟩
  symbolsPath := rfl

theorem stored_cases (store : Files.Store) (path : Files.Path) :
    (∃ text fields, store.read path = .ok (.octets (Text.Utf8.encode text)) ∧
      ofDocument? text = some fields ∧ stored store path = .ok (fields.apply default)) ∨
    (∃ reason, stored store path = .error reason ∧
      ∀ text, store.read path = .ok (.octets (Text.Utf8.encode text)) →
        ofDocument? text = none) := by
  unfold stored
  rcases store.read path with fault | octets | blueprint
  case error => exact .inr ⟨_, rfl, nofun⟩
  case ok.object => exact .inr ⟨_, rfl, nofun⟩
  case ok.octets =>
    simp only
    cases decoded : Text.Utf8.decode? octets with
    | none =>
        refine .inr ⟨_, rfl, fun text isText => ?_⟩
        rw [Files.Contents.octets.inj (Except.ok.inj isText), Text.Utf8.decode?_encode] at decoded
        cases decoded
    | some text =>
        obtain rfl := Text.Utf8.encode_of_decode? decoded
        cases accepted : ofDocument? text with
        | none =>
            refine .inr ⟨.malformed, by simp only [accepted], fun other isText => ?_⟩
            have same := Files.Contents.octets.inj (Except.ok.inj isText)
            have sameText := (Text.Utf8.decode?_encode text).symm.trans
              (same ▸ Text.Utf8.decode?_encode other)
            rw [← Option.some.inj sameText, accepted]
        | some fields => exact .inl ⟨text, fields, rfl, accepted, by simp only [accepted]⟩

theorem loadStored_eq_heard (environment : Environment) (store : Files.Store) :
    ∃ fields log, FileGives environment store fields log ∧
      loadStored environment store = (heard [fields], log) := by
  unfold loadStored
  cases place : location? environment with
  | none => exact ⟨{}, [], .nowhere place, rfl⟩
  | some path =>
      cases present : store.pathExists path with
      | false => exact ⟨{}, [], .missing place present, by simp only [present]; rfl⟩
      | true =>
          rcases stored_cases store path with
            ⟨text, fields, read, accepted, isStored⟩ | ⟨reason, isUnusable, unaccepted⟩
          · refine ⟨fields, [], .acceptable place read accepted, ?_⟩
            simp only [present, if_true, isStored]
            exact congrArg (·, []) (heard_cons fields []).symm
          · refine ⟨{}, [unusableWarning path reason], .unusable place present unaccepted, ?_⟩
            simp only [present, if_true, isUnusable]
            rfl

theorem load_eq_heard (environment : Environment) (store : Files.Store) :
    ∃ given fields log, EnvironmentGives environment given ∧
      FileGives environment store fields log ∧
      load environment store = (heard [given, fields], log) := by
  obtain ⟨fields, log, gives, storedEq⟩ := loadStored_eq_heard environment store
  refine ⟨overrides environment, fields, log, environmentGives_overrides environment, gives, ?_⟩
  rw [load, storedEq, heard_cons (overrides environment)]

end SyscallTally.Settings
