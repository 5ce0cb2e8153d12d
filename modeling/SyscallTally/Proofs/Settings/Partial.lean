import SyscallTally.Proofs.Settings.Modified
import SyscallTally.Proofs.Toml.Layout

/-!
Owns the law of files that hold only some of the fields (`load_some_fields`): in whatever order the
lines of the fields stand, and whatever blank lines and foreign assignments stand between them, each
field that is there is read as it was saved, and each other has its default.

The line of a field is the one that saving writes (`document_eq_lines`). Its text may itself look
like lines of other fields; that a reader goes past it is the law of `Means`.
-/

set_option autoImplicit false

namespace SyscallTally.Settings

open SyscallTally.Toml

/-! ### Fields and lines -/

/-- The fields of settings. -/
inductive Field where
  | probe
  | event
  | interval
  | objectPath
  | symbolsPath
deriving DecidableEq, Repr

namespace Field

/-- The fields in the order in which they are saved. -/
def all : List Field := [.probe, .event, .interval, .objectPath, .symbolsPath]

def name : Field → String
  | .probe => fieldNames.probe
  | .event => fieldNames.event
  | .interval => fieldNames.interval
  | .objectPath => fieldNames.objectPath
  | .symbolsPath => fieldNames.symbolsPath

def key (field : Field) : Key := field.name.toList

/-- The text of a path. Paths that can be saved are text. -/
def pathText (path : Files.Path) : String := (Text.Utf8.decode? path).getD ""

/-- The line in which a field is saved. -/
def line (settings : Settings) : Field → List Char
  | .probe => textLine fieldNames.probe settings.probe.name
  | .event => textLine fieldNames.event settings.event
  | .interval => intervalLine settings.interval
  | .objectPath => textLine fieldNames.objectPath (pathText settings.objectPath)
  | .symbolsPath => textLine fieldNames.symbolsPath (pathText settings.symbolsPath)

/-- What the line of a field assigns. -/
def item (settings : Settings) : Field → Item
  | .probe => .text settings.probe.name.toList
  | .event => .text settings.event.toList
  | .interval => .integer settings.interval.toNat
  | .objectPath => .text (pathText settings.objectPath).toList
  | .symbolsPath => .text (pathText settings.symbolsPath).toList

end Field

/-- Settings with the given fields, and the defaults for all others. -/
def only (fields : List Field) (settings : Settings) : Settings where
  probe := if .probe ∈ fields then settings.probe else default.probe
  event := if .event ∈ fields then settings.event else default.event
  interval := if .interval ∈ fields then settings.interval else default.interval
  objectPath := if .objectPath ∈ fields then settings.objectPath else default.objectPath
  symbolsPath := if .symbolsPath ∈ fields then settings.symbolsPath else default.symbolsPath

/-- A line of a file that holds some of the fields. -/
inductive FileLine where
  /-- A field, as it is saved. -/
  | saved (field : Field)
  | blank (gap : Gap) (newline : Newline)
  /-- An assignment of a string to a key that is none of the fields'. -/
  | foreign (line : TextLine) (other : ∀ field : Field, line.key ≠ field.key)

namespace FileLine

def field? : FileLine → Option Field
  | .saved field => some field
  | _ => none

def key? : FileLine → Option Key
  | .saved field => some field.key
  | .blank _ _ => none
  | .foreign line _ => some line.key

def chars (settings : Settings) : FileLine → List Char
  | .saved field => field.line settings
  | .blank gap newline => gap.chars ++ newline.chars
  | .foreign line _ => line.chars

/-- What a line assigns to which key. -/
def entry? (settings : Settings) : FileLine → Option (Key × Item)
  | .saved field => some (field.key, field.item settings)
  | .blank _ _ => none
  | .foreign line _ => some (line.key, .text line.content)

end FileLine

variable {settings : Settings} {lines : List FileLine}

theorem Field.key_injective : Function.Injective Field.key := by
  intro field other same
  cases field <;> cases other <;> first | rfl | exact absurd same (by decide)

/-! ### What the lines mean -/

theorem Field.means_line (small : settings.interval.toNat ≤ integerLimit) (field : Field) :
    Means (field.line settings) (.assign [field.key] (field.item settings)) := by
  cases field with
  | probe => exact means_textLine (by decide) (by decide) settings.probe.name
  | event => exact means_textLine (by decide) (by decide) settings.event
  | interval => exact means_intervalLine small
  | objectPath => exact means_textLine (by decide) (by decide) _
  | symbolsPath => exact means_textLine (by decide) (by decide) _

theorem FileLine.means (small : settings.interval.toNat ≤ integerLimit) (line : FileLine) :
    Means (line.chars settings) (Statement.ofEntry (line.entry? settings)) := by
  cases line with
  | saved field => exact field.means_line small
  | blank gap newline => exact means_blankLine gap newline
  | foreign line other => exact line.means

theorem map_fst_entries (settings : Settings) (lines : List FileLine) :
    (lines.filterMap (FileLine.entry? settings)).map Prod.fst = lines.filterMap FileLine.key? := by
  rw [List.map_filterMap]
  refine List.filterMap_congr fun line _ => ?_
  cases line <;> rfl

/-- The lines are read as what they assign. -/
theorem document?_lines (small : settings.interval.toNat ≤ integerLimit)
    (distinct : (lines.filterMap FileLine.key?).Nodup) :
    document? (lines.flatMap (FileLine.chars settings)) =
      some (lines.filterMap (FileLine.entry? settings)) := by
  have meanings : List.Forall₂ Means (lines.map (FileLine.chars settings))
      ((lines.map (FileLine.entry? settings)).map Statement.ofEntry) := by
    rw [List.map_map, List.forall₂_map_left_iff, List.forall₂_map_right_iff, List.forall₂_same]
    exact fun line _ => line.means small
  have reduced : (lines.map (FileLine.entry? settings)).reduceOption =
      lines.filterMap (FileLine.entry? settings) := by
    rw [List.reduceOption, List.filterMap_map]
    rfl
  have unmarked : (lines.map (FileLine.chars settings)).flatten.head? ≠ some '\uFEFF' := by
    cases lines with
    | nil => exact nofun
    | cons line rest =>
        have means := line.means small
        rw [List.map_cons, List.flatten_cons, List.head?_append_of_ne_nil _ means.nonempty]
        exact means.head?_ne
  rw [List.flatMap_def, ← reduced]
  exact document?_flatten meanings (by rwa [reduced, map_fst_entries]) unmarked

/-! ### What the fields are -/

/-- Among the entries of the lines a field stands for what its line assigns, if it has one. -/
theorem lookup_entries (settings : Settings) (distinct : (lines.filterMap FileLine.key?).Nodup)
    (field : Field) :
    (lines.filterMap (FileLine.entry? settings)).lookup field.key =
      if field ∈ lines.filterMap FileLine.field? then some (field.item settings) else none := by
  split
  case isTrue present =>
    obtain ⟨line, member, isField⟩ := List.mem_filterMap.mp present
    cases line with
    | saved other =>
        obtain rfl := Option.some.inj isField
        exact Entries.lookup_of_mem (by rwa [map_fst_entries])
          (List.mem_filterMap.mpr ⟨_, member, rfl⟩)
    | blank gap newline => cases isField
    | foreign line other => cases isField
  case isFalse absent =>
    rw [List.lookup_eq_none_iff]
    intro entry member
    obtain ⟨line, isLine, isEntry⟩ := List.mem_filterMap.mp member
    rw [bne_iff_ne]
    cases line with
    | saved other =>
        obtain rfl := Option.some.inj isEntry
        intro same
        obtain rfl := Field.key_injective same
        exact absent (List.mem_filterMap.mpr ⟨.saved field, isLine, rfl⟩)
    | blank gap newline => cases isEntry
    | foreign line other =>
        obtain rfl := Option.some.inj isEntry
        exact (other field).symm

/-- A field is read from its line, if it has one. -/
theorem field?_entries (distinct : (lines.filterMap FileLine.key?).Nodup) {α : Type}
    {read? : Item → Option α} {value : α} {field : Field}
    (reads : read? (field.item settings) = some value) :
    field? read? field.name (lines.filterMap (FileLine.entry? settings)) =
      some (if field ∈ lines.filterMap FileLine.field? then some value else none) := by
  have found := lookup_entries settings distinct field
  rw [Field.key] at found
  by_cases present : field ∈ lines.filterMap FileLine.field?
  · rw [if_pos present] at found ⊢
    rw [field?, found]
    simp only [reads, Option.map_some]
  · rw [if_neg present] at found ⊢
    rw [field?, found]

theorem ofString_pathText {path : Files.Path} (isText : ∃ text, Files.Path.ofString text = path) :
    Files.Path.ofString (Field.pathText path) = path := by
  obtain ⟨text, rfl⟩ := isText
  have read : Text.Utf8.decode? (Files.Path.ofString text) = some text :=
    Text.Utf8.decode?_eq_some_iff.mpr rfl
  rw [Field.pathText, read, Option.getD_some]

/-- The document of settings is made of the lines of all fields. -/
theorem document_eq_lines (documentable : settings.Documentable) :
    document settings = .ok (String.ofList (Field.all.flatMap (Field.line settings))) := by
  obtain ⟨objectPath, objectPathEq⟩ := documentable.objectPath
  obtain ⟨symbolsPath, symbolsPathEq⟩ := documentable.symbolsPath
  have objectRead := Text.Utf8.decode?_eq_some_iff.mpr objectPathEq
  have symbolsRead := Text.Utf8.decode?_eq_some_iff.mpr symbolsPathEq
  rw [document, if_neg (Nat.not_lt.mpr documentable.interval), objectRead, symbolsRead]
  simp [Field.all, Field.line, Field.pathText, objectRead, symbolsRead]

theorem getD_ite {α : Type} (chosen : Prop) [Decidable chosen] (value other : α) :
    (if chosen then some value else none).getD other = if chosen then value else other := by
  split <;> rfl

/-- The settings that a file with some of the fields gives. -/
theorem ofDocument?_lines (documentable : settings.Documentable)
    (distinct : (lines.filterMap FileLine.key?).Nodup) :
    ∃ fields, ofDocument? (String.ofList (lines.flatMap (FileLine.chars settings))) = some fields ∧
      fields.apply default = only (lines.filterMap FileLine.field?) settings := by
  have probeRead : probeOf? (Field.probe.item settings) = some settings.probe := by
    rw [Field.item, probeOf?, String.ofList_toList, Probe.Kind.ofName?_name]
  have textRead (text : String) : textOf? (.text text.toList) = some text := by
    rw [textOf?, String.ofList_toList]
  have intervalRead : intervalOf? (Field.interval.item settings) = some settings.interval := by
    rw [Field.item, intervalOf?, if_pos (Int.natCast_nonneg _), Int.toNat_natCast,
      UInt64.ofNat_toNat]
  have objectRead : pathOf? (Field.objectPath.item settings) = some settings.objectPath := by
    rw [Field.item, pathOf?, textRead, Option.map_some, ofString_pathText documentable.objectPath]
  have symbolsRead : pathOf? (Field.symbolsPath.item settings) = some settings.symbolsPath := by
    rw [Field.item, pathOf?, textRead, Option.map_some, ofString_pathText documentable.symbolsPath]
  have eventRead : textOf? (Field.event.item settings) = some settings.event :=
    textRead settings.event
  have probe : field? probeOf? fieldNames.probe _ = _ := field?_entries distinct probeRead
  have event : field? textOf? fieldNames.event _ = _ := field?_entries distinct eventRead
  have interval : field? intervalOf? fieldNames.interval _ = _ :=
    field?_entries distinct intervalRead
  have objectPath : field? pathOf? fieldNames.objectPath _ = _ :=
    field?_entries distinct objectRead
  have symbolsPath : field? pathOf? fieldNames.symbolsPath _ = _ :=
    field?_entries distinct symbolsRead
  rw [ofDocument?, String.toList_ofList, document?_lines documentable.interval distinct,
    Option.bind_some, fields?, probe, event, interval, objectPath, symbolsPath]
  refine ⟨_, rfl, ?_⟩
  simp only [Changes.apply, only, getD_ite]

/-! ### Files -/

/-- Settings that can be saved are those that a document can hold. -/
theorem documentable_of_save {environment : Environment} {store : Files.Store}
    (accepted : (save environment settings store).1 = .ok ()) : settings.Documentable := by
  have saving : save environment settings store =
      (.ok (), (save environment settings store).2) := Prod.ext accepted rfl
  obtain ⟨_, _, _, _, _, -, documented, -⟩ := located_of_save saving
  exact documentable_of_document documented

/-- A file may hold any of the fields in any order. Let settings be accepted for saving, and let a
file have lines for some of their fields, each as saving writes it, among any blank lines and any
assignments of strings to other bare keys, where no key is assigned to twice. What is loaded, where
the environment overrides nothing, is these fields and the defaults for all others, without a
warning. -/
theorem load_some_fields (settings : Settings) (saver loader : Environment)
    (before store : Files.Store) (path : Files.Path) (lines : List FileLine)
    (accepted : (save saver settings before).1 = .ok ())
    (distinct : (lines.filterMap FileLine.key?).Nodup)
    (place : location? loader = some path)
    (noEvent : loader.text? eventVariable = none) (noObject : loader.text? objectVariable = none)
    (isFile : store.read path = .ok (.octets
      (Text.Utf8.encode (String.ofList (lines.flatMap (FileLine.chars settings)))))) :
    document settings = .ok (String.ofList (Field.all.flatMap (Field.line settings))) ∧
      load loader store = (only (lines.filterMap FileLine.field?) settings, []) := by
  have documentable := documentable_of_save accepted
  obtain ⟨fields, given, applied⟩ := ofDocument?_lines documentable distinct
  have isStored : stored store path = .ok (only (lines.filterMap FileLine.field?) settings) := by
    rw [stored, isFile]
    simp only [Text.Utf8.decode?_encode, given, applied]
  refine ⟨document_eq_lines documentable, ?_⟩
  rw [load_of_stored place isStored, overrides, noEvent, noObject]
  rfl

/-- Settings whose event looks like the line of another field. -/
def misleading : Settings where
  event := "a\npolling_interval_ms = 7"
  interval := 9

/-- A line that assigns to another key what looks like the line of a field. -/
def foreignLine : TextLine where
  key := "x-1".toList
  literal := "\'object_path = 5 # \'".toList
  content := "object_path = 5 # ".toList
  bare := List.all_eq_true.mp (by decide)
  named := by decide
  reads := by decide
  trailing := ⟨['\t'], by decide⟩
  newline := .returnFeed

/-- An interval, a blank line, a foreign line and an event. -/
def someLines : List FileLine :=
  [.saved .interval, .blank {} .feed, .foreign foreignLine (by rintro ⟨⟩ <;> decide),
    .saved .event]

/-- The text of these lines. -/
def misleadingFile : String :=
  "polling_interval_ms = 9\n\nx-1='object_path = 5 # '\t\r\n"
    ++ "event = \"\"\"\na\npolling_interval_ms = 7\"\"\"\n"

theorem load_some_fields_misleading :
    load ⟨[("EXECWATCH_CONFIG_PATH", [0x2F, 0x63])], none⟩
        ⟨[], [([[0x63]], .file (.octets (Text.Utf8.encode misleadingFile)))], []⟩ =
      ({ event := "a\npolling_interval_ms = 7", interval := 9 }, []) := by
  have accepted : (save ⟨[("EXECWATCH_CONFIG_PATH", [0x2F, 0x63])], none⟩ misleading
      ⟨[], [([[0x63]], .file (.octets []))], []⟩).1 = .ok () := by
    decide +kernel
  have distinct : (someLines.filterMap FileLine.key?).Nodup := by decide
  have isText : String.ofList (someLines.flatMap (FileLine.chars misleading)) = misleadingFile := by
    decide +kernel
  rw [← isText]
  exact (load_some_fields misleading ⟨[("EXECWATCH_CONFIG_PATH", [0x2F, 0x63])], none⟩
    ⟨[("EXECWATCH_CONFIG_PATH", [0x2F, 0x63])], none⟩ ⟨[], [([[0x63]], .file (.octets []))], []⟩ _
    [0x2F, 0x63] someLines accepted distinct rfl rfl rfl rfl).2

end SyscallTally.Settings
