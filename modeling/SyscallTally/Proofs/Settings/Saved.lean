import SyscallTally.Proofs.Files.Rewriting
import SyscallTally.Proofs.Text.Utf8
import SyscallTally.Proofs.Toml.Lines
import SyscallTally.Settings.Saved

/-!
Owns the law of saved settings: they are loaded as they were, and saving them again changes nothing
(`save_load_round_trip`). Saving to a file that is there and may be written succeeds for just those
settings that a document can hold.

The document is one of assignments (`means_textLine`, `means_intervalLine`); the file is rewritten
in place.
-/

set_option autoImplicit false

namespace SyscallTally.Settings

open SyscallTally.Toml SyscallTally.Text.Decimal

/-! ### The lines of the document -/

theorem isSpace_front_written (text : List Char) :
    ∃ first body, written text = first :: body ∧ isSpace first = false := by
  obtain ⟨first, body, writtenEq, mark⟩ := written_front text
  refine ⟨first, body, writtenEq, ?_⟩
  rcases mark with rfl | rfl <;> rfl

theorem means_textLine {name : String} (bare : name.toList.all isBare = true)
    (named : name.toList ≠ []) (content : String) :
    Means (textLine name content) (.assign [name.toList] (.text content.toList)) :=
  means_assignmentLine (List.all_eq_true.mp bare) named (isSpace_front_written content.toList)
    (value?_written content.toList)

theorem means_intervalLine {interval : UInt64} (small : interval.toNat ≤ integerLimit) :
    Means (intervalLine interval)
      (.assign [fieldNames.interval.toList] (.integer interval.toNat)) := by
  have bare : fieldNames.interval.toList.all isBare = true := by decide
  rw [intervalLine, Nat.toList_repr]
  refine means_assignmentLine (List.all_eq_true.mp bare) (by decide) ?_ (value?_toDigits small)
  obtain ⟨first, digits, digitsEq, digit⟩ := toDigits_front interval.toNat
  refine ⟨first, digits, digitsEq, ?_⟩
  have noSpace : first ≠ ' ' := ne_of_isDigit digit rfl
  have noTab : first ≠ '\t' := ne_of_isDigit digit rfl
  simp [isSpace, noSpace, noTab]

/-- The entries of the document of settings with paths that are text. -/
def entries (settings : Settings) (objectPath symbolsPath : String) : Entries :=
  [(fieldNames.probe.toList, .text settings.probe.name.toList),
    (fieldNames.event.toList, .text settings.event.toList),
    (fieldNames.interval.toList, .integer settings.interval.toNat),
    (fieldNames.objectPath.toList, .text objectPath.toList),
    (fieldNames.symbolsPath.toList, .text symbolsPath.toList)]

/-- The lines of the document of settings with paths that are text. -/
def documentLines (settings : Settings) (objectPath symbolsPath : String) : List (List Char) :=
  [textLine fieldNames.probe settings.probe.name, textLine fieldNames.event settings.event,
    intervalLine settings.interval, textLine fieldNames.objectPath objectPath,
    textLine fieldNames.symbolsPath symbolsPath]

theorem entries_distinct (settings : Settings) (objectPath symbolsPath : String) :
    ((entries settings objectPath symbolsPath).map Prod.fst).Nodup := by
  show List.Nodup [fieldNames.probe.toList, fieldNames.event.toList, fieldNames.interval.toList,
    fieldNames.objectPath.toList, fieldNames.symbolsPath.toList]
  decide

theorem document?_documentLines {settings : Settings} (objectPath symbolsPath : String)
    (small : settings.interval.toNat ≤ integerLimit) :
    document? (documentLines settings objectPath symbolsPath).flatten =
      some (entries settings objectPath symbolsPath) := by
  have meanings : List.Forall₂ Means (documentLines settings objectPath symbolsPath)
      (((entries settings objectPath symbolsPath).map some).map Statement.ofEntry) :=
    .cons (means_textLine (by decide) (by decide) settings.probe.name)
      (.cons (means_textLine (by decide) (by decide) settings.event)
        (.cons (means_intervalLine small)
          (.cons (means_textLine (by decide) (by decide) objectPath)
            (.cons (means_textLine (by decide) (by decide) symbolsPath) .nil))))
  have reduced : ((entries settings objectPath symbolsPath).map some).reduceOption =
      entries settings objectPath symbolsPath := rfl
  have front : (documentLines settings objectPath symbolsPath).flatten.head? = some 'p' := rfl
  have read := document?_flatten meanings (entries_distinct settings objectPath symbolsPath)
    (by rw [front]; decide)
  rw [read, reduced]

theorem field?_of_mem {α : Type} {read? : Item → Option α} {name : String} {entries : Entries}
    {item : Item} {value : α} (distinct : (entries.map Prod.fst).Nodup)
    (member : (name.toList, item) ∈ entries) (read : read? item = some value) :
    field? read? name entries = some (some value) := by
  rw [field?, Entries.lookup_of_mem distinct member]
  simp only [read, Option.map_some]

/-- The document of settings gives all of their fields. -/
theorem ofDocument?_documentLines {settings : Settings} {objectPath symbolsPath : String}
    (small : settings.interval.toNat ≤ integerLimit)
    (objectPathEq : Files.Path.ofString objectPath = settings.objectPath)
    (symbolsPathEq : Files.Path.ofString symbolsPath = settings.symbolsPath) :
    ofDocument? (String.ofList (documentLines settings objectPath symbolsPath).flatten) =
      some ⟨some settings.probe, some settings.event, some settings.interval,
        some settings.objectPath, some settings.symbolsPath⟩ := by
  have distinct := entries_distinct settings objectPath symbolsPath
  have probeRead : probeOf? (.text settings.probe.name.toList) = some settings.probe := by
    rw [probeOf?, String.ofList_toList, Probe.Kind.ofName?_name]
  have textRead (text : String) : textOf? (.text text.toList) = some text := by
    rw [textOf?, String.ofList_toList]
  have intervalRead : intervalOf? (.integer settings.interval.toNat) = some settings.interval := by
    rw [intervalOf?, if_pos (Int.natCast_nonneg _), Int.toNat_natCast, UInt64.ofNat_toNat]
  have objectRead : pathOf? (.text objectPath.toList) = some settings.objectPath := by
    rw [pathOf?, textRead, Option.map_some, objectPathEq]
  have symbolsRead : pathOf? (.text symbolsPath.toList) = some settings.symbolsPath := by
    rw [pathOf?, textRead, Option.map_some, symbolsPathEq]
  rw [ofDocument?, String.toList_ofList, document?_documentLines objectPath symbolsPath small,
    Option.bind_some, fields?, field?_of_mem distinct (by simp [entries]) probeRead,
    field?_of_mem distinct (by simp [entries]) (textRead settings.event),
    field?_of_mem distinct (by simp [entries]) intervalRead,
    field?_of_mem distinct (by simp [entries]) objectRead,
    field?_of_mem distinct (by simp [entries]) symbolsRead]
  rfl

/-! ### Saving -/

/-- The settings that a document can hold. -/
structure Documentable (settings : Settings) : Prop where
  interval : settings.interval.toNat ≤ integerLimit
  objectPath : ∃ text, Files.Path.ofString text = settings.objectPath
  symbolsPath : ∃ text, Files.Path.ofString text = settings.symbolsPath

theorem document_of_documentable {settings : Settings} (documentable : settings.Documentable) :
    ∃ text, document settings = .ok text ∧
      ofDocument? text = some ⟨some settings.probe, some settings.event, some settings.interval,
        some settings.objectPath, some settings.symbolsPath⟩ := by
  obtain ⟨objectPath, objectPathEq⟩ := documentable.objectPath
  obtain ⟨symbolsPath, symbolsPathEq⟩ := documentable.symbolsPath
  refine ⟨_, ?_, ofDocument?_documentLines documentable.interval objectPathEq symbolsPathEq⟩
  have objectRead := Text.Utf8.decode?_eq_some_iff.mpr objectPathEq
  have symbolsRead := Text.Utf8.decode?_eq_some_iff.mpr symbolsPathEq
  rw [document, if_neg (Nat.not_lt.mpr documentable.interval), objectRead, symbolsRead]
  simp [documentLines]

theorem documentable_of_document {settings : Settings} {text : String}
    (documented : document settings = .ok text) : settings.Documentable := by
  rw [document] at documented
  split at documented
  case isTrue => cases documented
  case isFalse small =>
    split at documented
    case h_1 objectPath symbolsPath objectRead symbolsRead =>
      exact ⟨Nat.le_of_not_lt small, ⟨objectPath, Text.Utf8.encode_of_decode? objectRead⟩,
        ⟨symbolsPath, Text.Utf8.encode_of_decode? symbolsRead⟩⟩
    case h_2 => cases documented

theorem failure?_of_document {settings : Settings} {problem : Problem}
    (unwritable : document settings = .error problem) : problem.failure? = none := by
  unfold document at unwritable
  split at unwritable
  case isTrue => rw [← Except.error.inj unwritable]; rfl
  case isFalse =>
    split at unwritable
    case h_1 => cases unwritable
    case h_2 => rw [← Except.error.inj unwritable]; rfl

theorem failure?_of_prepareParent {store prepared : Files.Store} {path : Files.Path}
    {problem : Problem} (unprepared : prepareParent store path = (.error problem, prepared)) :
    problem.failure? = none := by
  unfold prepareParent at unprepared
  split at unprepared
  case h_1 => cases unprepared
  case h_2 =>
    split at unprepared
    case h_1 => cases unprepared
    case h_2 => rw [← Except.error.inj (Prod.mk.inj unprepared).1]; rfl

/-- What keeps settings from being saved is no step of a probe's life. -/
theorem failure?_of_save {environment : Environment} {settings : Settings} {store : Files.Store}
    {problem : Problem} (failed : (save environment settings store).1 = .error problem) :
    problem.failure? = none := by
  unfold save at failed
  split at failed
  case h_1 => rw [← Except.error.inj failed]; rfl
  case h_2 =>
    split at failed
    case h_1 unwritable =>
      rw [← Except.error.inj failed]
      exact failure?_of_document unwritable
    case h_2 =>
      split at failed
      case h_1 unprepared =>
        rw [← Except.error.inj failed]
        exact failure?_of_prepareParent unprepared
      case h_2 =>
        split at failed
        case h_1 => cases failed
        case h_2 => rw [← Except.error.inj failed]; rfl

/-! ### Files of settings -/

section

variable {environment : Environment} {settings : Settings} {store : Files.Store}
  {path : Files.Path} {above : Files.Place} {name : Files.Name} {held : Files.Contents}
  {text : String}

/-- A file that is there is rewritten in place if it has no guard. -/
theorem save_of_located (isLocation : location? environment = some path)
    (located : store.Located path above name held)
    (unguarded : store.guard? (above ++ [name]) = none)
    (documented : document settings = .ok text) :
    save environment settings store =
      (.ok (), store.put (above ++ [name]) (.file (.octets (Text.Utf8.encode text)))) := by
  obtain ⟨parent, isParent, -⟩ := located.parent?
  have prepared : prepareParent store path = (.ok (), store) := by
    rw [prepareParent, isParent]
    simp only [located.createChain_parent isParent]
  rw [save, isLocation]
  simp only [documented, prepared, located.write_of_unguarded unguarded]

/-- A file that holds all fields gives them as they are. -/
theorem stored_of_read (read : store.read path = .ok (.octets (Text.Utf8.encode text)))
    (complete : ofDocument? text = some ⟨some settings.probe, some settings.event,
      some settings.interval, some settings.objectPath, some settings.symbolsPath⟩) :
    stored store path = .ok settings := by
  rw [stored, read]
  simp only [Text.Utf8.decode?_encode, complete]
  rfl

/-- Stored settings are in force, but for what the environment overrides. -/
theorem load_of_stored (isLocation : location? environment = some path)
    (isStored : stored store path = .ok settings) :
    load environment store = ((overrides environment).apply settings, []) := by
  have exists' : store.pathExists path = true := by
    cases read : store.read path with
    | error fault =>
        rw [stored, read] at isStored
        cases isStored
    | ok contents => exact Files.Store.pathExists_of_read read
  rw [load, loadStored, isLocation]
  simp only [exists', if_true, isStored]

/-- A file that holds all fields is loaded as they are, where nothing overrides them. -/
theorem load_of_read (isLocation : location? environment = some path)
    (noEvent : environment.text? eventVariable = none)
    (noObject : environment.text? objectVariable = none)
    (read : store.read path = .ok (.octets (Text.Utf8.encode text)))
    (complete : ofDocument? text = some ⟨some settings.probe, some settings.event,
      some settings.interval, some settings.objectPath, some settings.symbolsPath⟩) :
    load environment store = (settings, []) := by
  rw [load_of_stored isLocation (stored_of_read read complete), overrides, noEvent, noObject]
  rfl

end

/-- Saving to a file that is there and may be written succeeds for just the settings that a document
can hold. What has been saved is loaded as it was, without a warning, and saving it again changes
nothing. -/
theorem save_load_round_trip (settings : Settings) (saver loader : Environment)
    (store : Files.Store) (path : Files.Path) (held : Files.Contents)
    (saves : location? saver = some path) (loads : location? loader = some path)
    (noEvent : loader.text? eventVariable = none) (noObject : loader.text? objectVariable = none)
    (isFile : store.read path = .ok held)
    (isWritable : ∃ rewritten, store.write path held = .ok rewritten) :
    ((save saver settings store).1 = .ok () ↔ settings.Documentable) ∧
      ((save saver settings store).1 = .ok () →
        ∃ saved octets, save saver settings store = (.ok (), saved) ∧
          saved.read path = .ok (.octets octets) ∧
          load loader saved = (settings, []) ∧
          save saver (load loader saved).1 saved = (.ok (), saved)) := by
  obtain ⟨above, name, located⟩ := Files.Store.located_of_read isFile
  obtain ⟨_, rewriting⟩ := isWritable
  have unguarded := located.guard?_of_written rewriting
  have only : (save saver settings store).1 = .ok () → settings.Documentable := by
    intro succeeded
    cases documented : document settings with
    | error problem =>
        rw [save, saves] at succeeded
        simp only [documented, reduceCtorEq] at succeeded
    | ok text => exact documentable_of_document documented
  constructor
  · refine ⟨only, fun documentable => ?_⟩
    obtain ⟨text, documented, -⟩ := document_of_documentable documentable
    rw [save_of_located saves located unguarded documented]
  · intro succeeded
    obtain ⟨text, documented, complete⟩ := document_of_documentable (only succeeded)
    have relocated := located.put (.octets (Text.Utf8.encode text))
    have loaded := load_of_read loads noEvent noObject relocated.read_eq complete
    refine ⟨_, Text.Utf8.encode text, save_of_located saves located unguarded documented,
      relocated.read_eq, loaded, ?_⟩
    rw [loaded, save_of_located saves relocated unguarded documented, Files.Store.put_put]

theorem save_load_round_trip_two_lines :
    ∃ saved octets,
      save ⟨[("EXECWATCH_CONFIG_PATH", [0x2F, 0x63])], none⟩ { event := "exec\\ve\n" }
          ⟨[], [([[0x63]], .file (.octets []))], []⟩ = (.ok (), saved) ∧
        saved.read [0x2F, 0x63] = .ok (.octets octets) ∧
        load ⟨[("EXECWATCH_CONFIG_PATH", [0x2F, 0x63])], none⟩ saved =
          ({ event := "exec\\ve\n" }, []) ∧
        save ⟨[("EXECWATCH_CONFIG_PATH", [0x2F, 0x63])], none⟩
          (load ⟨[("EXECWATCH_CONFIG_PATH", [0x2F, 0x63])], none⟩ saved).1 saved =
            (.ok (), saved) := by
  obtain ⟨succeeds, saved⟩ := save_load_round_trip { event := "exec\\ve\n" }
    ⟨[("EXECWATCH_CONFIG_PATH", [0x2F, 0x63])], none⟩
    ⟨[("EXECWATCH_CONFIG_PATH", [0x2F, 0x63])], none⟩
    ⟨[], [([[0x63]], .file (.octets []))], []⟩ [0x2F, 0x63] (.octets []) rfl rfl rfl rfl rfl
    ⟨_, rfl⟩
  exact saved (succeeds.mpr ⟨by decide, ⟨_, rfl⟩, ⟨_, rfl⟩⟩)

end SyscallTally.Settings
