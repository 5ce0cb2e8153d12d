import SyscallTally.Settings.Basic
import SyscallTally.Text.Decimal

/-!
Contract: command lines and the commands that they stand for.

Owns:
- `Command`, the five commands with their options;
- `UsageError`, what a command line can end in instead, which includes requests for help;
- `Command.parse`, the reading of a command line.

## When an option is settled

An option may be given as `--name=value` or as `--name value`. In the second form its value is read
when something else shows that the option is over: the next option, a request for help, or the end.
Only then it matters whether the option was given before, and whether its value is acceptable. An
argument that is refused outright is refused without settling what came before it.

A value in the second form may not look like an option; a lone dash and the empty text do not. After
two dashes by themselves, nothing is an option any more.
-/

set_option autoImplicit false

namespace SyscallTally

open SyscallTally.Text

inductive Command where
  /-- Log every occurrence. -/
  | hello (event : Option String)
  /-- Count occurrences per user id. -/
  | count (event : Option String) (interval : Option UInt64)
  /-- Tell the symbol that an event stands for. -/
  | resolve (event : String)
  /-- Tell the settings in force. -/
  | info
  /-- Save changed settings. -/
  | setup (changes : Settings.Changes)
deriving DecidableEq, Repr

/-- What a command line can end in instead of a command. -/
inductive UsageError where
  | helpRequested
  | versionRequested
  /-- There is no command at all. -/
  | commandMissing
  | argumentMissing
  | unknownArgument
  | unknownCommand
  /-- An option without value, or with an empty one where that cannot be. -/
  | valueMissing
  | valueRejected
  | optionRepeated
  /-- A value for an option that takes none. -/
  | valueUnwanted
  | valueNotText
deriving DecidableEq, Repr

/-- Whether the user asked for what is shown. -/
def UsageError.isRequest : UsageError → Bool
  | .helpRequested => true
  | .versionRequested => true
  | _ => false

/-- The exit code: success for a request, 2 for every misuse. -/
def UsageError.exitCode (error : UsageError) : Nat := if error.isRequest then 0 else 2

/-- Whether the message goes to the diagnostic output. -/
def UsageError.isDiagnostic (error : UsageError) : Bool := !error.isRequest

namespace Command

/-! ## Options -/

/-- The options that commands take. -/
inductive Field where
  | probe
  | event
  | interval
  | objectPath
deriving DecidableEq, Repr

/-- The name of an option. -/
def Field.name : Field → String
  | .probe => "probe"
  | .event => "event"
  | .interval => "interval-ms"
  | .objectPath => "object-path"

/-- The names of the commands, apart from `help`. -/
inductive Verb where
  | hello
  | count
  | resolve
  | info
  | setup
deriving DecidableEq, Repr

def Verb.name : Verb → String
  | .hello => "hello"
  | .count => "count"
  | .resolve => "resolve"
  | .info => "info"
  | .setup => "setup"

def verbs : List Verb := [.hello, .count, .resolve, .info, .setup]

/-- The options that a command takes. -/
def Verb.fields : Verb → List Field
  | .hello => [.event]
  | .count => [.event, .interval]
  | .resolve => []
  | .info => []
  | .setup => [.probe, .event, .interval, .objectPath]

/-- Whether a command takes a word. -/
def Verb.takesWord : Verb → Bool
  | .resolve => true
  | _ => false

/-- The command of a name. -/
def verb? (argument : Octets) : Option Verb :=
  verbs.find? fun verb => Utf8.encode verb.name == argument

/-- The name of the command that shows help. -/
def helpName : String := "help"

/-- The octet of a dash. -/
def dash : UInt8 := 0x2D

/-- The argument after which nothing is an option. -/
def separator : Octets := [dash, dash]

/-- The shapes of an argument. -/
inductive Shape where
  /-- Two dashes by themselves. -/
  | separator
  /-- Two dashes and a name, perhaps with a value after an equals sign. -/
  | long (name : Octets) (value : Option Octets)
  /-- One dash and letters, of which only the first one ever matters. -/
  | short (first : UInt8)
  | word
deriving DecidableEq, Repr

/-- The shape of an argument. -/
def shapeOf : Octets → Shape
  | [0x2D, 0x2D] => .separator
  | 0x2D :: 0x2D :: rest =>
      let name := rest.takeWhile (· != 0x3D)
      .long name ((rest.drop name.length).tail?)
  | 0x2D :: first :: _ => .short first
  | _ => .word

/-! ## Settling -/

/-- What has been read of a command's arguments. -/
structure Progress where
  given : Settings.Changes := {}
  word : Option String := none
  /-- An option or a word that is not settled yet. -/
  pending : Option (Option Field × Option Octets) := none
  /-- Whether the separator has been read. -/
  onlyWords : Bool := false

def textValue (value : Octets) : Except UsageError String :=
  match Utf8.decode? value with
  | some text => .ok text
  | none => .error .valueNotText

/-- Puts a value into its field, unless the field has one. -/
def giveField (field : Field) (value : Octets) (given : Settings.Changes) :
    Except UsageError Settings.Changes :=
  match field with
  | .probe =>
      if given.probe.isSome then .error .optionRepeated
      else
        match textValue value with
        | .error error => .error error
        | .ok text =>
            match Probe.Kind.ofName? text with
            | some kind => .ok { given with probe := some kind }
            | none => .error .valueRejected
  | .event =>
      if given.event.isSome then .error .optionRepeated
      else
        match textValue value with
        | .error error => .error error
        | .ok text => .ok { given with event := some text }
  | .interval =>
      if given.interval.isSome then .error .optionRepeated
      else
        match textValue value with
        | .error error => .error error
        | .ok text =>
            match Decimal.word? text.toList with
            | some interval => .ok { given with interval := some interval }
            | none => .error .valueRejected
  | .objectPath =>
      if given.objectPath.isSome then .error .optionRepeated
      else if value.isEmpty then .error .valueMissing
      else .ok { given with objectPath := some value }

/-- Settles what is pending. -/
def Progress.settle (progress : Progress) : Except UsageError Progress :=
  match progress.pending with
  | none => .ok progress
  | some (_, none) => .error .valueMissing
  | some (some field, some value) =>
      match giveField field value progress.given with
      | .error error => .error error
      | .ok given => .ok { progress with given, pending := none }
  | some (none, some value) =>
      match textValue value with
      | .error error => .error error
      | .ok word => .ok { progress with word := some word, pending := none }

/-- Whether a word has been read, settled or not. -/
def Progress.hasWord (progress : Progress) : Bool :=
  progress.word.isSome ||
    match progress.pending with
    | some (none, _) => true
    | _ => false

/-! ## The arguments of a command -/

/-- A request for help, which comes only when what is pending is settled. -/
def Progress.help (progress : Progress) : Except UsageError Progress :=
  match progress.settle with
  | .error error => .error error
  | .ok _ => .error .helpRequested

def Progress.addLong (verb : Verb) (name : Octets) (value : Option Octets)
    (progress : Progress) : Except UsageError Progress :=
  if name = Utf8.encode helpName then
    if value.isSome then .error .valueUnwanted else progress.help
  else
    match verb.fields.find? fun field => Utf8.encode field.name == name with
    | none => .error .unknownArgument
    | some field =>
        match progress.settle with
        | .error error => .error error
        | .ok settled =>
            let pending := { settled with pending := some (some field, value) }
            if value.isSome then pending.settle else .ok pending

/-- A word, as far as it is not the value of an option. -/
def Progress.addWord (verb : Verb) (word : Octets) (progress : Progress) :
    Except UsageError Progress :=
  if verb.takesWord && !progress.hasWord then
    match progress.settle with
    | .error error => .error error
    | .ok settled => .ok { settled with pending := some (none, some word) }
  else .error .unknownArgument

def Progress.add (verb : Verb) (argument : Octets) (progress : Progress) :
    Except UsageError Progress :=
  if progress.onlyWords then progress.addWord verb argument
  else
    match shapeOf argument with
    | .separator => .ok { progress with onlyWords := true }
    | .long name value => progress.addLong verb name value
    | .short first =>
        if first = 0x68 then progress.help else .error .unknownArgument
    | .word =>
        match progress.pending with
        | some (some field, none) =>
            .ok { progress with pending := some (some field, some argument) }
        | _ => progress.addWord verb argument

/-- The arguments of a command, one after the other. -/
def Progress.addAll (verb : Verb) : List Octets → Progress → Except UsageError Progress
  | [], progress => progress.settle
  | argument :: rest, progress =>
      match progress.add verb argument with
      | .error error => .error error
      | .ok next => addAll verb rest next

/-- The command that settled arguments make. -/
def assemble (verb : Verb) (progress : Progress) : Except UsageError Command :=
  match verb with
  | .hello => .ok (.hello progress.given.event)
  | .count => .ok (.count progress.given.event progress.given.interval)
  | .resolve =>
      match progress.word with
      | some event => .ok (.resolve event)
      | none => .error .argumentMissing
  | .info => .ok .info
  | .setup => .ok (.setup progress.given)

def parseArguments (verb : Verb) (arguments : List Octets) : Except UsageError Command :=
  match Progress.addAll verb arguments {} with
  | .error error => .error error
  | .ok progress => assemble verb progress

/-! ## The whole line -/

/-- What the command `help` shows: help for the command that the words name, if they name one.
No command has commands below it, except that help can be asked for about `help` itself. -/
def parseHelp : List Octets → UsageError
  | [] => .helpRequested
  | [word] =>
      if word = Utf8.encode helpName ∨ (verb? word).isSome then .helpRequested
      else .unknownCommand
  | _ => .unknownCommand

/-- A word in the place of a command. After the separator it is never one. -/
def parseWord (onlyWords : Bool) (word : Octets) (rest : List Octets) :
    Except UsageError Command :=
  let isHelp := word = Utf8.encode helpName
  if onlyWords then
    .error (if isHelp ∨ (verb? word).isSome then .unknownArgument else .unknownCommand)
  else if isHelp then .error (parseHelp rest)
  else
    match verb? word with
    | some verb => parseArguments verb rest
    | none => .error .unknownCommand

/-- A long option before any command. -/
def topLong (name : Octets) (value : Option Octets) : UsageError :=
  if name = Utf8.encode helpName then
    if value.isSome then .valueUnwanted else .helpRequested
  else if name = Utf8.encode "version" then
    if value.isSome then .valueUnwanted else .versionRequested
  else .unknownArgument

/-- A short option before any command. -/
def topShort (first : UInt8) : UsageError :=
  if first = 0x68 then .helpRequested
  else if first = 0x56 then .versionRequested
  else .unknownArgument

/-- The command of a command line, which does not include the name of the program. -/
def parse : List Octets → Except UsageError Command
  | [] => .error .commandMissing
  | argument :: rest =>
      match shapeOf argument with
      | .separator =>
          match rest with
          | [] => .error .commandMissing
          | word :: rest => parseWord true word rest
      | .long name value => .error (topLong name value)
      | .short first => .error (topShort first)
      | .word => parseWord false argument rest

end Command

end SyscallTally
