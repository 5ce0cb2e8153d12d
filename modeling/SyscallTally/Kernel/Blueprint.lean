import SyscallTally.Kernel.MapDefinition

/-!
Contract: an object that is given by its programs and maps, and the file that is made of it.

Owns:
- `Blueprint`, programs with the sections they are put into, and maps with their layout;
- `Blueprint.file`, the sections and symbols of such an object.

Each program has a section of its own, in the order of the blueprint, and does nothing. The maps
follow in one section, if there are any.
-/

set_option autoImplicit false

namespace SyscallTally.Kernel

open SyscallTally.Text

/-- A program, with the name of the section it is put into. -/
structure ProgramBlueprint where
  name : String
  sectionName : String
deriving DecidableEq, Repr

/-- An object by its programs and maps. -/
structure Blueprint where
  programs : List ProgramBlueprint
  maps : List MapSpec
deriving DecidableEq, Repr

/-- Code that does nothing: the result is set to zero and returned. -/
def idleCode : Octets := [183, 0, 0, 0, 0, 0, 0, 0, 149, 0, 0, 0, 0, 0, 0, 0]

/-- The plain definition of a map. -/
def MapSpec.octets (map : MapSpec) : Octets :=
  [map.mapType.number, map.keySize, map.valueSize, map.maxEntries, 0].flatMap (nativeOctets 4)

namespace Blueprint

/-- The name of the section of maps. -/
def mapsName : String := "maps"

/-- A section of a file, under its number. -/
def toSection (number : Nat) (name : String) (isCode : Bool) (octets : Octets) : SectionEntry :=
  ⟨some name, .ok ⟨number, name, isCode, 0, octets, []⟩⟩

def programSections (blueprint : Blueprint) : List SectionEntry :=
  blueprint.programs.zipIdx.map fun (program, number) =>
    toSection number program.sectionName true idleCode

def mapSections (blueprint : Blueprint) : List SectionEntry :=
  if blueprint.maps.isEmpty then []
  else [toSection blueprint.programs.length mapsName false (blueprint.maps.flatMap (·.octets))]

def programSymbols (blueprint : Blueprint) : List Symbol :=
  blueprint.programs.zipIdx.map fun (program, number) =>
    ⟨number, program.name, .function, some number, 0, idleCode.length⟩

def mapSymbols (blueprint : Blueprint) : List Symbol :=
  let home := blueprint.programs.length
  blueprint.maps.zipIdx.map fun (map, index) =>
    ⟨home + index, map.name, .other, some home, plainSize * index, plainSize⟩

def file (blueprint : Blueprint) : ObjectFile where
  order := .native
  sections := blueprint.programSections ++ blueprint.mapSections
  symbols := (blueprint.programSymbols ++ blueprint.mapSymbols).map some

end Blueprint

end SyscallTally.Kernel
