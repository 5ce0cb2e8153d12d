import Mathlib.Data.List.Nodup
import SyscallTally.Command.Line
import SyscallTally.Proofs.Text.Decimal
import SyscallTally.Proofs.Text.Utf8

/-!
Owns the law of command lines that are written out from a command: whatever the order of its options
and however each is spelled, the line is parsed as the command, and with one option more than once
it is refused for that (`written_line_parses`).

An option is settled later than it is read. For options that are written out this makes no
difference: adding their arguments comes to giving their values to the fields one after the other
(`addAll_arguments`), and `giveAll` is what is reasoned about from there on.
-/

set_option autoImplicit false

namespace SyscallTally.Command

open SyscallTally.Text SyscallTally.Settings

/-! ### Written lines -/

/-- The octet of an equals sign. -/
def equals : UInt8 := 0x3D

/-- The name of an option with its dashes. -/
def Field.flag (field : Field) : Octets := dash :: dash :: Utf8.encode field.name

/-- The written value of a field that has one. -/
def Field.value? (changes : Changes) : Field → Option Octets
  | .probe => changes.probe.map fun kind => Utf8.encode kind.name
  | .event => changes.event.map Utf8.encode
  | .interval => changes.interval.map fun interval => Utf8.encode (Nat.repr interval.toNat)
  | .objectPath => changes.objectPath

/-- An option with its value, and whether the value is an argument of its own. It is only if it does
not begin with a dash. -/
structure Given where
  field : Field
  value : Octets
  apart : Bool := false
  plain : apart = true → value.head? ≠ some dash := by decide

namespace Given

def arguments (given : Given) : List Octets :=
  if given.apart then [given.field.flag, given.value]
  else [given.field.flag ++ equals :: given.value]

/-- The option without its spelling. -/
def option (given : Given) : Field × Octets := (given.field, given.value)

/-- Whether the value is acceptable for the field. -/
def Accepted (given : Given) : Prop := ∃ changes, giveField given.field given.value {} = .ok changes

end Given

def verbOf : Command → Verb
  | .hello _ => .hello
  | .count _ _ => .count
  | .resolve _ => .resolve
  | .info => .info
  | .setup _ => .setup

/-- What the options of a command say. -/
def stated : Command → Changes
  | .hello event => { event }
  | .count event interval => { event, interval }
  | .resolve _ => {}
  | .info => {}
  | .setup changes => changes

def words : Command → List Octets
  | .resolve event => [Utf8.encode event]
  | _ => []

/-- The options of a command with their written values. -/
def spelled (command : Command) : List (Field × Octets) :=
  command.verbOf.fields.filterMap fun field =>
    (field.value? command.stated).map fun value => (field, value)

/-- Whether a command can be written out: its word does not look like an option, its path is not
empty, and it changes no field that has no option. -/
def Writable : Command → Prop
  | .resolve event => (Utf8.encode event).head? ≠ some dash
  | .setup changes => changes.objectPath ≠ some [] ∧ changes.symbolsPath = none
  | _ => True

/-- The line of a command with its options spelled as given. -/
def line (command : Command) (options : List Given) : List Octets :=
  Utf8.encode command.verbOf.name :: (command.words ++ options.flatMap Given.arguments)

/-! ### Shapes -/

variable {field : Field} {verb : Verb} {value : Octets}

theorem encode_name_all (field : Field) : (Utf8.encode field.name).all (· != 0x3D) = true := by
  cases field <;> decide

theorem shapeOf_dashes {rest : Octets} (filled : rest ≠ []) :
    shapeOf (dash :: dash :: rest) =
      .long (rest.takeWhile (· != 0x3D))
        ((rest.drop (rest.takeWhile (· != 0x3D)).length).tail?) := by
  obtain ⟨first, others, rfl⟩ := List.exists_cons_of_ne_nil filled
  rfl

theorem shapeOf_flag (field : Field) :
    shapeOf field.flag = .long (Utf8.encode field.name) none := by
  cases field <;> decide

theorem shapeOf_joined (field : Field) (value : Octets) :
    shapeOf (field.flag ++ equals :: value) = .long (Utf8.encode field.name) (some value) := by
  have name : (Utf8.encode field.name ++ equals :: value).takeWhile (· != 0x3D) =
      Utf8.encode field.name := by
    rw [List.takeWhile_append_of_pos (List.all_eq_true.mp (encode_name_all field)),
      List.takeWhile_cons_of_neg (by decide), List.append_nil]
  rw [Field.flag, List.cons_append, List.cons_append, shapeOf_dashes (by simp), name,
    List.drop_left]
  rfl

theorem shapeOf_word (plain : value.head? ≠ some dash) : shapeOf value = .word := by
  unfold shapeOf
  split
  · exact absurd rfl plain
  · exact absurd rfl plain
  · exact absurd rfl plain
  · rfl

/-! ### Arguments and values -/

/-- Gives values to their fields, one after the other. -/
def giveAll : List Given → Changes → Except UsageError Changes
  | [], changes => .ok changes
  | given :: rest, changes =>
      match giveField given.field given.value changes with
      | .error error => .error error
      | .ok changes => giveAll rest changes

section

variable {progress settled : Progress} (known : field ∈ verb.fields)

theorem settle_of_none (nothing : progress.pending = none) : progress.settle = .ok progress := by
  rw [Progress.settle, nothing]

theorem settle_of_value (waits : progress.pending = some (some field, some value)) :
    progress.settle =
      match giveField field value progress.given with
      | .error error => .error error
      | .ok given => .ok { progress with given, pending := none } := by
  cases gives : giveField field value progress.given <;>
    simp only [Progress.settle, waits, gives]

/-- Settling leaves nothing pending, and options are options as before. -/
theorem settled_of_settle (settles : progress.settle = .ok settled) :
    settled.pending = none ∧ settled.onlyWords = progress.onlyWords := by
  unfold Progress.settle at settles
  split at settles
  case h_1 nothing =>
    cases settles
    exact ⟨nothing, rfl⟩
  case h_2 => cases settles
  case h_3 =>
    split at settles
    · cases settles
    · cases settles
      exact ⟨rfl, rfl⟩
  case h_4 =>
    split at settles
    · cases settles
    · cases settles
      exact ⟨rfl, rfl⟩

theorem name_ne_help (field : Field) : Utf8.encode field.name ≠ Utf8.encode helpName := by
  cases field <;> decide

include known

theorem find?_name :
    verb.fields.find? (fun other => Utf8.encode other.name == Utf8.encode field.name) =
      some field := by
  cases verb <;> cases field <;> revert known <;> decide

theorem add_flag (options : progress.onlyWords = false) :
    progress.add verb field.flag =
      match progress.settle with
      | .error error => .error error
      | .ok settled => .ok { settled with pending := some (some field, none) } := by
  cases settles : progress.settle <;>
    simp only [Progress.add, options, Bool.false_eq_true, if_false, shapeOf_flag, Progress.addLong,
      if_neg (name_ne_help field), find?_name known, Option.isSome_none, settles]

theorem add_joined (options : progress.onlyWords = false) (value : Octets) :
    progress.add verb (field.flag ++ equals :: value) =
      match progress.settle with
      | .error error => .error error
      | .ok settled =>
          match giveField field value settled.given with
          | .error error => .error error
          | .ok changes => .ok { settled with given := changes, pending := none } := by
  have added : progress.add verb (field.flag ++ equals :: value) =
      match progress.settle with
      | .error error => .error error
      | .ok settled =>
          { settled with pending := some (some field, some value) : Progress }.settle := by
    cases settles : progress.settle <;>
      simp only [Progress.add, options, Bool.false_eq_true, if_false, shapeOf_joined,
        Progress.addLong, if_neg (name_ne_help field), find?_name known, Option.isSome_some,
        if_true, settles]
  rw [added]
  cases progress.settle with
  | error error => rfl
  | ok settled => exact settle_of_value rfl

end

theorem add_value {progress : Progress} (options : progress.onlyWords = false)
    (plain : value.head? ≠ some dash) (waits : progress.pending = some (some field, none)) :
    progress.add verb value = .ok { progress with pending := some (some field, some value) } := by
  simp only [Progress.add, options, Bool.false_eq_true, if_false, shapeOf_word plain, waits]

/-- Adding the arguments of options comes to settling what is pending and then giving the values. -/
theorem addAll_arguments {given : List Given}
    (known : ∀ option ∈ given, option.field ∈ verb.fields) {progress : Progress}
    (options : progress.onlyWords = false) :
    Progress.addAll verb (given.flatMap Given.arguments) progress =
      match progress.settle with
      | .error error => .error error
      | .ok settled =>
          match giveAll given settled.given with
          | .error error => .error error
          | .ok changes => .ok { settled with given := changes } := by
  induction given generalizing progress with
  | nil =>
      rw [List.flatMap_nil, Progress.addAll]
      cases progress.settle <;> rfl
  | cons option given inductionHypothesis =>
      obtain ⟨optionKnown, known⟩ := List.forall_mem_cons.mp known
      rw [List.flatMap_cons, Given.arguments]
      cases settles : progress.settle with
      | error error =>
          split
          · rw [List.cons_append, Progress.addAll, add_flag optionKnown options, settles]
          · rw [List.singleton_append, Progress.addAll, add_joined optionKnown options, settles]
      | ok settled =>
          obtain ⟨nothing, same⟩ := settled_of_settle settles
          have settledOptions : settled.onlyWords = false := same.trans options
          -- With a value of its own the option is still pending; joined to it, it is settled.
          split
          case isTrue apart =>
            have valueAdded : Progress.add verb option.value
                { settled with pending := some (some option.field, none) } =
                  .ok { settled with pending := some (some option.field, some option.value) } :=
              add_value settledOptions (option.plain apart) rfl
            rw [List.cons_append, Progress.addAll, add_flag optionKnown options, settles]
            simp only
            rw [List.singleton_append, Progress.addAll, valueAdded]
            simp only
            rw [@inductionHypothesis known { settled with pending := some _ } settledOptions,
              settle_of_value rfl]
            simp only [giveAll]
            cases giveField option.field option.value settled.given with
            | error error => rfl
            | ok changes => rw [nothing]
          case isFalse =>
            rw [List.singleton_append, Progress.addAll, add_joined optionKnown options, settles]
            simp only [giveAll]
            cases giveField option.field option.value settled.given with
            | error error => rfl
            | ok changes =>
                simp only
                rw [@inductionHypothesis known { settled with given := changes, pending := none }
                  settledOptions, settle_of_none rfl, nothing]

/-! ### Values that are given once -/

/-- Only the given fields of some changes. -/
def among (fields : List Field) (changes : Changes) : Changes where
  probe := if .probe ∈ fields then changes.probe else none
  event := if .event ∈ fields then changes.event else none
  interval := if .interval ∈ fields then changes.interval else none
  objectPath := if .objectPath ∈ fields then changes.objectPath else none

variable {changes : Changes} {given : List Given} {fields : List Field}

theorem among_congr {others : List Field} (same : ∀ field, field ∈ fields ↔ field ∈ others)
    (changes : Changes) : among fields changes = among others changes := by
  simp only [among, same]

theorem among_eq_self (all : ∀ field, field ∉ fields → field.value? changes = none)
    (noSymbols : changes.symbolsPath = none) : among fields changes = changes := by
  have probe : .probe ∉ fields → changes.probe = none := fun absent =>
    Option.map_eq_none_iff.mp (all .probe absent)
  have event : .event ∉ fields → changes.event = none := fun absent =>
    Option.map_eq_none_iff.mp (all .event absent)
  have interval : .interval ∉ fields → changes.interval = none := fun absent =>
    Option.map_eq_none_iff.mp (all .interval absent)
  have objectPath : .objectPath ∉ fields → changes.objectPath = none := all .objectPath
  obtain ⟨_, _, _, _, _⟩ := changes
  simp only [among, Changes.mk.injEq, ite_eq_left_iff]
  exact ⟨fun absent => (probe absent).symm, fun absent => (event absent).symm,
    fun absent => (interval absent).symm, fun absent => (objectPath absent).symm, noSymbols.symm⟩

/-- A written value gives its field what it was written from. -/
theorem giveField_among (isValue : field.value? changes = some value)
    (filled : changes.objectPath ≠ some []) (fresh : field ∉ fields) :
    giveField field value (among fields changes) = .ok (among (field :: fields) changes) := by
  cases field with
  | probe =>
      obtain ⟨kind, isKind, rfl⟩ := Option.map_eq_some_iff.mp isValue
      simp [giveField, among, fresh, textValue, Utf8.decode?_encode, Probe.Kind.ofName?_name,
        isKind]
  | event =>
      obtain ⟨event, isEvent, rfl⟩ := Option.map_eq_some_iff.mp isValue
      simp [giveField, among, fresh, textValue, Utf8.decode?_encode, isEvent]
  | interval =>
      obtain ⟨interval, isInterval, rfl⟩ := Option.map_eq_some_iff.mp isValue
      simp [giveField, among, fresh, textValue, Utf8.decode?_encode, Decimal.word?_repr, isInterval,
        -Nat.toList_repr]
  | objectPath =>
      have isPath : changes.objectPath = some value := isValue
      have notEmpty : value ≠ [] := by
        rintro rfl
        exact filled isPath
      simp [giveField, among, fresh, notEmpty, isPath]

theorem giveAll_among (values : ∀ option ∈ given, option.field.value? changes = some option.value)
    (filled : changes.objectPath ≠ some []) (distinct : (given.map Given.field ++ fields).Nodup) :
    giveAll given (among fields changes) =
      .ok (among (given.map Given.field ++ fields) changes) := by
  induction given generalizing fields with
  | nil => rfl
  | cons option given inductionHypothesis =>
      obtain ⟨isValue, values⟩ := List.forall_mem_cons.mp values
      have moved : (option.field :: (given.map Given.field ++ fields)).Perm
          (given.map Given.field ++ option.field :: fields) := List.perm_middle.symm
      have laterDistinct := moved.nodup_iff.mp distinct
      have fresh : option.field ∉ fields :=
        (List.nodup_cons.mp (List.nodup_append.mp laterDistinct).2.1).1
      rw [giveAll, giveField_among isValue filled fresh]
      simp only
      rw [inductionHypothesis values laterDistinct]
      exact congrArg Except.ok (among_congr (fun _ => moved.mem_iff.symm) changes)

/-! ### Values that are given again -/

/-- Whether a field has a value. -/
def Field.isGiven (changes : Changes) : Field → Bool
  | .probe => changes.probe.isSome
  | .event => changes.event.isSome
  | .interval => changes.interval.isSome
  | .objectPath => changes.objectPath.isSome

theorem giveField_of_isGiven (isGiven : field.isGiven changes = true) (value : Octets) :
    giveField field value changes = .error .optionRepeated := by
  cases field <;> exact if_pos isGiven

/-- An acceptable value is accepted while its field has none, and changes no other field. -/
theorem giveField_of_accepted {option : Given} (accepted : option.Accepted)
    (fresh : option.field.isGiven changes = false) :
    ∃ later, giveField option.field option.value changes = .ok later ∧
      ∀ other,
        other.isGiven later = true ↔ other = option.field ∨ other.isGiven changes = true := by
  obtain ⟨field, value, apart, plain⟩ := option
  obtain ⟨alone, accepted⟩ := accepted
  cases field with
  | probe =>
      have free : changes.probe.isSome = false := fresh
      cases read : textValue value with
      | error error => simp [giveField, read] at accepted
      | ok text =>
          cases named : Probe.Kind.ofName? text with
          | none => simp [giveField, read, named] at accepted
          | some kind =>
              refine ⟨{ changes with probe := some kind }, by simp [giveField, free, read, named],
                fun other => ?_⟩
              cases other <;> simp [Field.isGiven]
  | event =>
      have free : changes.event.isSome = false := fresh
      cases read : textValue value with
      | error error => simp [giveField, read] at accepted
      | ok text =>
          refine ⟨{ changes with event := some text }, by simp [giveField, free, read],
            fun other => ?_⟩
          cases other <;> simp [Field.isGiven]
  | interval =>
      have free : changes.interval.isSome = false := fresh
      cases read : textValue value with
      | error error => simp [giveField, read] at accepted
      | ok text =>
          cases number : Decimal.word? text.toList with
          | none => simp [giveField, read, number] at accepted
          | some interval =>
              refine ⟨{ changes with interval := some interval },
                by simp [giveField, free, read, number], fun other => ?_⟩
              cases other <;> simp [Field.isGiven]
  | objectPath =>
      have free : changes.objectPath.isSome = false := fresh
      cases value with
      | nil => simp [giveField] at accepted
      | cons first rest =>
          refine ⟨{ changes with objectPath := some (first :: rest) }, by simp [giveField, free],
            fun other => ?_⟩
          cases other <;> simp [Field.isGiven]

/-- An option that has been given is refused when it is given again, before its value is looked
at. -/
theorem giveAll_repeated {before after : List Given} {option : Given}
    (accepted : ∀ earlier ∈ before, earlier.Accepted)
    (again : option.field.isGiven changes = true ∨ option.field ∈ before.map Given.field) :
    giveAll (before ++ option :: after) changes = .error .optionRepeated := by
  induction before generalizing changes with
  | nil =>
      have isGiven := again.resolve_right List.not_mem_nil
      rw [List.nil_append, giveAll, giveField_of_isGiven isGiven]
  | cons earlier before inductionHypothesis =>
      obtain ⟨earlierAccepted, accepted⟩ := List.forall_mem_cons.mp accepted
      rw [List.cons_append, giveAll]
      cases isGiven : earlier.field.isGiven changes with
      | true => rw [giveField_of_isGiven isGiven]
      | false =>
          obtain ⟨later, gives, laterGiven⟩ := giveField_of_accepted earlierAccepted isGiven
          rw [gives]
          refine inductionHypothesis accepted ?_
          rw [List.map_cons, List.mem_cons] at again
          rw [laterGiven]
          tauto

/-! ### Whole lines -/

section

variable {command : Command} {options : List Given}

theorem parse_verb (verb : Verb) (arguments : List Octets) :
    parse (Utf8.encode verb.name :: arguments) = parseArguments verb arguments := by
  cases verb <;> rfl

theorem parse_line (noWords : command.words = [])
    (known : ∀ option ∈ options, option.field ∈ command.verbOf.fields) :
    parse (command.line options) =
      match giveAll options {} with
      | .error error => .error error
      | .ok changes => assemble command.verbOf { given := changes } := by
  rw [line, noWords, List.nil_append, parse_verb, parseArguments, addAll_arguments known rfl,
    settle_of_none rfl]
  simp only
  cases giveAll options {} <;> rfl

theorem parse_resolve {event : String} (plain : (Utf8.encode event).head? ≠ some dash) :
    parse ((Command.resolve event).line []) = .ok (.resolve event) := by
  have added : Progress.add .resolve (Utf8.encode event) {} =
      .ok { pending := some (none, some (Utf8.encode event)) } := by
    simp only [Progress.add, shapeOf_word plain]
    rfl
  have isLine : (Command.resolve event).line [] =
      [Utf8.encode Verb.resolve.name, Utf8.encode event] := rfl
  rw [isLine, parse_verb, parseArguments, Progress.addAll, added]
  simp only [Progress.addAll, Progress.settle, textValue, Utf8.decode?_encode, assemble]

/-! ### Options of a command -/

theorem mem_spelled {field : Field} {value : Octets} :
    (field, value) ∈ command.spelled ↔
      field ∈ command.verbOf.fields ∧ field.value? command.stated = some value := by
  simp only [spelled, List.mem_filterMap, Option.map_eq_some_iff, Prod.mk.injEq]
  constructor
  · rintro ⟨_, known, _, isValue, rfl, rfl⟩
    exact ⟨known, isValue⟩
  · rintro ⟨known, isValue⟩
    exact ⟨field, known, value, isValue, rfl, rfl⟩

/-- No option of a command is spelled twice. -/
theorem spelled_distinct (command : Command) : (command.spelled.map Prod.fst).Nodup := by
  rw [spelled, List.map_filterMap]
  refine List.Nodup.filterMap (fun first second field isFirst isSecond => ?_)
    (by cases command.verbOf <;> decide)
  simp only [Option.map_map, Option.mem_def, Option.map_eq_some_iff, Function.comp_apply] at *
  obtain ⟨_, -, rfl⟩ := isFirst
  obtain ⟨_, -, rfl⟩ := isSecond
  rfl

/-- What no option is for is not said. -/
theorem value?_eq_none {field : Field} (unknown : field ∉ command.verbOf.fields) :
    field.value? command.stated = none := by
  cases command <;> cases field <;>
    first | rfl | exact absurd (by simp [verbOf, Verb.fields]) unknown

theorem stated_of_writable (writable : command.Writable) :
    command.stated.objectPath ≠ some [] ∧ command.stated.symbolsPath = none := by
  cases command with
  | setup changes => exact writable
  | _ => exact ⟨nofun, rfl⟩

theorem assemble_stated (noWords : command.words = []) :
    assemble command.verbOf { given := command.stated } = .ok command := by
  cases command with
  | resolve event => cases noWords
  | _ => rfl

/-- Options that are spelled are those that are there, each once, with the written values. -/
structure Spells (command : Command) (options : List Given) : Prop where
  known : ∀ option ∈ options, option.field ∈ command.verbOf.fields
  values : ∀ option ∈ options, option.field.value? command.stated = some option.value
  distinct : (options.map Given.field).Nodup
  all : ∀ field, field ∉ options.map Given.field → field.value? command.stated = none

theorem spells_of_perm (same : (options.map Given.option).Perm command.spelled) :
    Spells command options := by
  have fields : (options.map Given.option).map Prod.fst = options.map Given.field := by
    rw [List.map_map]
    rfl
  have spelled : ∀ option ∈ options, (option.field, option.value) ∈ command.spelled :=
    fun option member => same.mem_iff.mp (List.mem_map_of_mem (f := Given.option) member)
  constructor
  case known => exact fun option member => (mem_spelled.mp (spelled option member)).1
  case values => exact fun option member => (mem_spelled.mp (spelled option member)).2
  case distinct =>
    rw [← fields, (same.map Prod.fst).nodup_iff]
    exact spelled_distinct command
  case all =>
    intro field absent
    by_cases known : field ∈ command.verbOf.fields
    · rw [← fields, (same.map Prod.fst).mem_iff] at absent
      cases isValue : field.value? command.stated with
      | none => rfl
      | some value =>
          exact absurd (List.mem_map_of_mem (mem_spelled.mpr ⟨known, isValue⟩)) absent
    · exact value?_eq_none known

/-- The written values of a command are acceptable. -/
theorem Spells.accepted (spells : Spells command options) (writable : command.Writable) :
    ∀ option ∈ options, option.Accepted :=
  fun option member => ⟨_, giveField_among (spells.values option member)
    (stated_of_writable writable).1 List.not_mem_nil⟩

theorem giveAll_of_spells (spells : Spells command options) (writable : command.Writable) :
    giveAll options {} = .ok command.stated := by
  obtain ⟨filled, noSymbols⟩ := stated_of_writable writable
  have gives := giveAll_among spells.values filled
    (by rw [List.append_nil]; exact spells.distinct)
  rw [List.append_nil, among_eq_self spells.all noSymbols] at gives
  exact gives

theorem parse_of_spells (spells : Spells command options) (writable : command.Writable)
    (noWords : command.words = []) : parse (command.line options) = .ok command := by
  rw [parse_line noWords spells.known, giveAll_of_spells spells writable]
  exact assemble_stated noWords

/-- A command with an option has no word. -/
theorem noWords_of_known {option : Given} (known : option.field ∈ command.verbOf.fields) :
    command.words = [] := by
  cases command with
  | resolve event => cases known
  | _ => rfl

/-- Whether an option comes before or after an occurrence that is put between the options, the later
of the two is refused. -/
theorem giveAll_inserted {before after : List Given} {again : Given}
    (accepted : ∀ option ∈ before ++ after, option.Accepted) (againAccepted : again.Accepted)
    (occurs : again.field ∈ (before ++ after).map Given.field) :
    giveAll (before ++ again :: after) {} = .error .optionRepeated := by
  obtain ⟨first, isFirst, sameField⟩ := List.mem_map.mp occurs
  rcases List.mem_append.mp isFirst with early | late
  · refine giveAll_repeated (fun option member => accepted option ?_) (.inr ?_)
    · exact List.mem_append_left after member
    · rw [← sameField]
      exact List.mem_map_of_mem early
  · obtain ⟨between, rest, rfl⟩ := List.append_of_mem late
    rw [← List.cons_append, ← List.append_assoc]
    refine giveAll_repeated (fun option member => ?_) (.inr ?_)
    · rcases List.mem_append.mp member with early | member
      · exact accepted option (List.mem_append_left _ early)
      · rcases List.mem_cons.mp member with rfl | member
        · exact againAccepted
        · exact accepted option (List.mem_append_right before (List.mem_append_left _ member))
    · rw [sameField, List.map_append, List.map_cons]
      exact List.mem_append_right _ List.mem_cons_self

end

/-- A command line that is written out from a command is parsed as this command, in whatever order
its options stand, and whether the value of each is joined to it or, where it does not begin with a
dash, an argument of its own. One more occurrence of an option that is there, with an acceptable
value, in whatever place and spelling, makes the line one with a repeated option. -/
theorem written_line_parses (command : Command) (writable : command.Writable) (given : List Given)
    (same : (given.map Given.option).Perm command.spelled) :
    parse (command.line given) = .ok command ∧
      ∀ before after again, given = before ++ after → again.field ∈ given.map Given.field →
        again.Accepted →
          parse (command.line (before ++ again :: after)) = .error .optionRepeated := by
  have spells := spells_of_perm same
  constructor
  · cases command with
    | resolve event =>
        obtain rfl : given = [] := List.map_eq_nil_iff.mp same.eq_nil
        exact parse_resolve writable
    | _ => exact parse_of_spells spells writable rfl
  · rintro before after again rfl occurs againAccepted
    obtain ⟨first, isFirst, sameField⟩ := List.mem_map.mp occurs
    have againKnown : again.field ∈ command.verbOf.fields := sameField ▸ spells.known first isFirst
    have known : ∀ option ∈ before ++ again :: after, option.field ∈ command.verbOf.fields := by
      intro option member
      rcases List.mem_append.mp member with early | late
      · exact spells.known option (List.mem_append_left after early)
      · rcases List.mem_cons.mp late with rfl | late
        · exact againKnown
        · exact spells.known option (List.mem_append_right before late)
    rw [parse_line (noWords_of_known againKnown) known,
      giveAll_inserted (spells.accepted writable) againAccepted occurs]

/-- A command whose event looks like an option of its own. -/
def misleading : Command := .count (some "--event=help") (some 7)

/-- Its options, the later one first. -/
def misleadingOptions : List Given :=
  [{ field := .interval, value := Utf8.encode "7", apart := true },
    { field := .event, value := Utf8.encode "--event=help" }]

theorem written_line_parses_misleading :
    parse (["count", "--interval-ms", "7", "--event=--event=help"].map Utf8.encode) =
        .ok misleading ∧
      parse (["count", "--interval-ms", "7", "--event", "", "--event=--event=help"].map
        Utf8.encode) = .error .optionRepeated := by
  have same : (misleadingOptions.map Given.option).Perm misleading.spelled := by decide
  obtain ⟨parses, repeated⟩ := written_line_parses misleading trivial misleadingOptions same
  have refused := repeated [{ field := .interval, value := Utf8.encode "7", apart := true }]
    [{ field := .event, value := Utf8.encode "--event=help" }]
    { field := .event, value := [], apart := true } rfl (by decide) ⟨_, rfl⟩
  exact ⟨parses, refused⟩

end SyscallTally.Command
