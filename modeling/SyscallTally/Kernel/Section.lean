/-!
Contract: the sections whose names are reserved.

Owns:
- `SectionKind`, what a section is for when its name says so;
- the reserved names, most of them by how they begin;
- `SectionKind.ofName?`, what a name is reserved for.

A section with a reserved name holds no programs, whatever it is filled with. Any other section
holds programs if it is code, and nothing that matters otherwise.
-/

set_option autoImplicit false

namespace SyscallTally.Kernel

/-- What a section with a reserved name is for. -/
inductive SectionKind where
  /-- Code that programs call. -/
  | routines
  /-- Data that programs share. -/
  | data
  /-- A note on the object as a whole: its terms of use, the kernel version that it is meant for, or
  what it says of its types. -/
  | note
  /-- Definitions of maps, each with its layout. -/
  | maps
  /-- Definitions of maps whose layout is told by the types of the object. -/
  | typedMaps
deriving DecidableEq, Repr

namespace SectionKind

/-- The name of the terms of use. -/
def termsName : String := "license"

def versionName : String := "version"

def typesName : String := ".BTF"

/-- The name of what is added to the types. -/
def typeExtensionName : String := ".BTF.ext"

/-- The beginnings of reserved names. -/
def reservedBeginnings : List (String × SectionKind) :=
  [(termsName, .note), (versionName, .note), ("maps", .maps), (".maps", .typedMaps),
    (".text", .routines), (".bss", .data), (".data", .data), (".rodata", .data)]

/-- What a name is reserved for. The names of types are reserved as they are, and not what begins
with them. -/
def ofName? (name : String) : Option SectionKind :=
  if name = typesName ∨ name = typeExtensionName then some .note
  else (reservedBeginnings.find? fun entry => entry.1.toList.isPrefixOf name.toList).map (·.2)

end SectionKind

end SyscallTally.Kernel
