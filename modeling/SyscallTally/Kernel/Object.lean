import SyscallTally.Kernel.MapDefinition
import SyscallTally.Kernel.ProgramType
import SyscallTally.Kernel.Routine

/-!
Contract: a probe object as it is read from its file.

Owns:
- `Object`, the programs, routines and maps of a file, with what is to be filled in;
- the checks of the notes on the whole object;
- `Object.ofFile`, the reading of a file.

Does not own: filling in references, which is done when the maps have been created.

## Which fault counts

The notes are looked up by their names before anything else, in a fixed order: the terms of use, the
kernel version, then, after the symbols, the types and what is added to them. Only then the sections
are read in the order of the file, and the first that is at fault ends the reading. So a fault in a
note wins over one in a section that stands before it.

## Which declaration counts

Of maps or programs with one name, and of routines at one place, the last one counts.
-/

set_option autoImplicit false

namespace SyscallTally.Kernel

open SyscallTally.Text

/-- A program, with the place of its code. -/
structure Program where
  name : String
  programType : ProgramType
  home : Nat
  address : Nat
deriving DecidableEq, Repr

/-- A probe object. -/
structure Object where
  symbols : List Symbol := []
  programs : List Program := []
  routines : List Routine := []
  maps : List MapDefinition := []
  /-- What is to be filled in, by the numbers of sections. -/
  relocations : List (Nat × List Relocation) := []
deriving DecidableEq, Repr

/-- The items with one more, which replaces those with the same key. -/
def replaceBy {α κ : Type} [BEq κ] (key : α → κ) (items : List α) (item : α) : List α :=
  items.filter (fun other => key other != key item) ++ [item]

namespace Object

def program? (object : Object) (name : String) : Option Program :=
  object.programs.find? (·.name == name)

def map? (object : Object) (name : String) : Option MapSpec :=
  (object.maps.map (·.spec)).find? (·.name == name)

/-- The routine at an address of a section. -/
def routine? (object : Object) (home address : Nat) : Option Routine :=
  object.routines.find? fun routine => routine.home == home && routine.address == address

/-- What is to be filled in in a section. -/
def relocationsOf (object : Object) (home : Nat) : List Relocation :=
  (object.relocations.lookup home).getD []

/-- The symbols that are defined in a section. -/
def symbolsIn (object : Object) (home : Nat) : List Symbol :=
  object.symbols.filter (·.home = some home)

/-! ## Notes -/

/-- The terms of use are a text of at least one octet and a zero octet, which is its only one. -/
def termsFault? (octets : Octets) : Option Refusal :=
  if octets.length < 2 then some (.terms octets)
  else if octets.getLast? ≠ some 0 then some (.unendedTerms octets)
  else if octets.count 0 ≠ 1 then some (.terms octets)
  else none

/-- The kernel version is a number of four octets. -/
def kernelVersionFault? (octets : Octets) : Option Refusal :=
  if octets.length = 4 then none else some (.kernelVersion octets)

def checkNote (file : ObjectFile) (name : String) (fault? : Octets → Option Refusal) :
    Except Refusal Unit := do
  match ← file.named? name with
  | none => return ()
  | some note =>
      match fault? note.octets with
      | some refusal => throw refusal
      | none => return ()

/-- The types of an object and what is added to them, which is looked at only if there are types. -/
def readTypes (file : ObjectFile) : Except Refusal (Option TypeInfo) := do
  match ← file.named? SectionKind.typesName with
  | none => return none
  | some note =>
      match TypeInfo.read? note.octets with
      | none => throw .types
      | some info =>
          match ← file.named? SectionKind.typeExtensionName with
          | none => return some info
          | some extension =>
              if extensionIsSound file.order extension.octets then return some info
              else throw .types

/-! ## Sections -/

/-- Adds what is to be filled in in a section. Of two entries for a place the last one counts. -/
def addRelocations (home : Section) (object : Object) : Object :=
  let relocations := home.relocations.foldl (replaceBy (·.place)) []
  { object with relocations := object.relocations ++ [(home.number, relocations)] }

def addRoutines (routines : List Routine) (object : Object) : Object :=
  { object with
    routines := routines.foldl (replaceBy fun routine => (routine.home, routine.address))
      object.routines }

def addMaps (maps : List MapDefinition) (object : Object) : Object :=
  { object with maps := maps.foldl (replaceBy (·.spec.name)) object.maps }

/-- Adds the program of a symbol. Symbols for other things, and those without a name, are passed
over. -/
def addProgram (home : Section) (programType : ProgramType) (object : Object) (symbol : Symbol) :
    Except Refusal Object :=
  if symbol.kind.isCode ∧ symbol.name ≠ "" then do
    let routine ← programRoutine home symbol
    let program : Program := ⟨symbol.name, programType, home.number, symbol.address⟩
    let object := { object with programs := replaceBy (·.name) object.programs program }
    return object.addRoutines [routine]
  else .ok object

def addPrograms (home : Section) (object : Object) : Except Refusal Object :=
  match ProgramType.ofSectionName? home.name with
  | none => .error (.invalidSection home.name)
  | some programType =>
      let symbols := object.symbolsIn home.number
      if symbols.isEmpty then .error (.noSymbols home.name)
      else
        (symbols.foldlM (addProgram home programType) object).map (addRelocations home)

/-- Adds what a section holds. -/
def addContents (types : Option TypeInfo) (home : Section) (object : Object) :
    Except Refusal Object :=
  let symbols := object.symbolsIn home.number
  match SectionKind.ofName? home.name with
  | some .note => .ok object
  | some .data => .ok object
  | some .routines =>
      (sharedRoutines home symbols).map fun routines =>
        (object.addRoutines routines).addRelocations home
  | some .maps => (plainDefinitions home symbols).map (addMaps · object)
  | some .typedMaps => (typedDefinitions types home symbols).map (addMaps · object)
  | none => if home.isCode ∧ home.octets ≠ [] then object.addPrograms home else .ok object

/-- Adds the section of an entry. The sections of types have been read before, if they matter. -/
def addSection (types : Option TypeInfo) (object : Object) (entry : SectionEntry) :
    Except Refusal Object :=
  if entry.name = some SectionKind.typesName
    ∨ entry.name = some SectionKind.typeExtensionName then .ok object
  else do
    let home ← entry.contents
    addContents types home object

def ofFile (file : ObjectFile) : Except Refusal Object := do
  checkNote file SectionKind.termsName termsFault?
  checkNote file SectionKind.versionName kernelVersionFault?
  let symbols ← file.namedSymbols
  let types ← readTypes file
  file.sections.foldlM (addSection types) { symbols }

end Object

end SyscallTally.Kernel
