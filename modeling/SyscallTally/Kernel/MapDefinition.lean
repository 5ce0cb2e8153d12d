import SyscallTally.Kernel.MapSpec
import SyscallTally.Kernel.ObjectFile
import SyscallTally.Kernel.TypeInfo

/-!
Contract: the definitions of maps in an object file.

Owns:
- `MapDefinition`, a map with the symbol that stands for it;
- `plainDefinitions`, the maps of a section of definitions with their layouts;
- `typedDefinitions`, the maps of a section whose layouts are told by types.

A plain definition is a row of numbers: the type, the sizes of keys and values, the number of
entries, flags, and last whether the map is pinned, where a shorter row stands for one that ends in
zeros.

A typed definition is a variable of a record type. A number is told by the length of an array behind
a pointer; a size may also be told by a pointer to a type of that size.
-/

set_option autoImplicit false

namespace SyscallTally.Kernel

open SyscallTally.Text

/-- A map, with the section and the symbol that references to it name. -/
structure MapDefinition where
  spec : MapSpec
  home : Nat
  symbol : Nat
deriving DecidableEq, Repr

/-! ## Plain definitions -/

/-- The least size of a definition: everything up to the flags. -/
def plainSize : Nat := 20

def wholePlainSize : Nat := 28

/-- The number that asks for pinning under the name of the map. -/
def pinByName : Nat := 1

/-- The map of a row of numbers. -/
def MapSpec.ofOctets? (name : String) (octets : Octets) : Option MapSpec :=
  if octets.length < plainSize then none
  else do
    let whole := octets ++ List.replicate (wholePlainSize - octets.length) 0
    let mapType ← native32? whole 0
    let keySize ← native32? whole 4
    let valueSize ← native32? whole 8
    let maxEntries ← native32? whole 12
    let pinning ← native32? whole 24
    return ⟨name, ⟨mapType⟩, keySize, valueSize, maxEntries, pinning = pinByName⟩

def plainDefinition (home : Section) (symbol : Symbol) : Except Refusal MapDefinition :=
  let octets := part? home.octets (symbol.address - home.address) symbol.size
  match octets.bind (MapSpec.ofOctets? symbol.name) with
  | none => .error (.mapDefinition symbol.name)
  | some spec => .ok ⟨spec, home.number, symbol.number⟩

/-- The maps of a section of plain definitions. Each symbol in it stands for one. -/
def plainDefinitions (home : Section) (symbols : List Symbol) :
    Except Refusal (List MapDefinition) :=
  if symbols.isEmpty then .error (.noSymbols home.name)
  else symbols.mapM (plainDefinition home)

/-! ## Typed definitions -/

namespace TypeInfo

/-- The number that a member tells: its type is a pointer to an array of that length. -/
def told? (info : TypeInfo) (typeNumber : Nat) : Option Nat :=
  match info.shape? typeNumber with
  | some (.pointer target) =>
      match info.shape? target with
      | some (.array _ length) => some length
      | _ => none
  | _ => none

/-- The size that a member tells: its type is a pointer to a type of that size. -/
def pointedSize? (info : TypeInfo) (typeNumber : Nat) : Option Nat :=
  match info.shape? typeNumber with
  | some (.pointer target) => info.size? target
  | _ => none

/-- What one member adds to the description of a map. Members of other names add nothing. -/
def addMember? (info : TypeInfo) (spec : MapSpec) (member : TypeMember) : Option MapSpec := do
  match ← info.name? member.nameStart with
  | "type" => return { spec with mapType := ⟨← info.told? member.typeNumber⟩ }
  | "key" => return { spec with keySize := ← info.pointedSize? member.typeNumber }
  | "key_size" => return { spec with keySize := ← info.told? member.typeNumber }
  | "value" => return { spec with valueSize := ← info.pointedSize? member.typeNumber }
  | "value_size" => return { spec with valueSize := ← info.told? member.typeNumber }
  | "max_entries" => return { spec with maxEntries := ← info.told? member.typeNumber }
  | "map_flags" =>
      let _ ← info.told? member.typeNumber
      return spec
  | "pinning" => return { spec with isPinned := (← info.told? member.typeNumber) = pinByName }
  | _ => return spec

/-- The map that a variable describes. -/
def mapOfVariable? (info : TypeInfo) (number : Nat) : Option MapSpec := do
  let variableType ← info.types[number]?
  match variableType.shape with
  | .variableOf described =>
      let name ← info.name? variableType.nameStart
      match ← info.behindAliases? depthLimit described with
      | .record _ members => members.foldlM info.addMember? ⟨name, ⟨0⟩, 0, 0, 0, false⟩
      | _ => none
  | _ => none

def variablesOf (info : TypeInfo) (sectionName : String) : List Nat :=
  info.types.flatMap fun entry =>
    match entry.shape with
    | .sectionOf _ contents =>
        if info.name? entry.nameStart = some sectionName then contents else []
    | _ => []

end TypeInfo

/-- The typed definition of a variable. Its symbol has the same name. -/
def typedDefinition (info : TypeInfo) (home : Section) (symbols : List Symbol) (number : Nat) :
    Except Refusal MapDefinition :=
  match info.mapOfVariable? number with
  | none => .error .types
  | some spec =>
      match symbols.reverse.find? (·.name == spec.name) with
      | none => .error (.noSymbol spec.name)
      | some symbol => .ok ⟨spec, home.number, symbol.number⟩

def typedDefinitions (types : Option TypeInfo) (home : Section) (symbols : List Symbol) :
    Except Refusal (List MapDefinition) :=
  match types with
  | none => .error .noTypes
  | some info =>
      if symbols.isEmpty then .error (.noSymbols home.name)
      else (info.variablesOf home.name).mapM (typedDefinition info home symbols)

end SyscallTally.Kernel
