/-!
Contract: the maps that an object declares, as the kernel is asked for them.

Owns:
- `MapType`, a type of map by its number, and what the loader makes of it;
- `MapSpec`, a map with its layout and the number of entries that it is created with.
-/

set_option autoImplicit false

namespace SyscallTally.Kernel

/-- A type of map. Object files give it by its number. -/
structure MapType where
  number : Nat
deriving DecidableEq, Repr

namespace MapType

def hash : MapType := ⟨1⟩
def array : MapType := ⟨2⟩
def perfEventArray : MapType := ⟨4⟩
def percpuHash : MapType := ⟨5⟩
def lruHash : MapType := ⟨9⟩
def ringBuffer : MapType := ⟨27⟩

/-- The numbers up to this one stand for types. -/
def lastNumber : Nat := 32

/-- Whether the number stands for a type. -/
def isKnown (mapType : MapType) : Bool := mapType.number ≤ lastNumber

/-- The numbers of types that the loader creates and then cannot represent. -/
def unsupportedNumbers : List Nat := [0, 8, 12, 13, 19, 20, 21, 24, 26, 28, 29, 31, 32]

/-- Whether the loader represents maps of this type. -/
def isSupported (mapType : MapType) : Bool := !unsupportedNumbers.contains mapType.number

/-- Whether a map of this type can be read as a plain hash table. -/
def isPlainHash (mapType : MapType) : Bool := mapType = hash || mapType = lruHash

end MapType

/-- A map that an object declares. Sizes are in octets. -/
structure MapSpec where
  name : String
  mapType : MapType
  keySize : Nat
  valueSize : Nat
  maxEntries : Nat
  /-- Whether the map is to be kept under its name for other processes. -/
  isPinned : Bool := false
deriving DecidableEq, Repr

/-- The number of processors of the kernel. -/
def processorCount : Nat := 1

/-- The size of a page of memory in octets. -/
def pageSize : Nat := 4096

/-- A size in whole pages, as many as the least power of two that suffices. Nothing stays
nothing. -/
def wholePages (octets : Nat) : Nat :=
  if octets = 0 then 0
  else pageSize * ((octets + pageSize - 1) / pageSize).nextPowerOfTwo

/-- The number of entries that a map is created with. An event array that states none has one per
processor, and a ring buffer is a whole number of pages. -/
def MapSpec.capacity (map : MapSpec) : Nat :=
  if map.mapType = .perfEventArray ∧ map.maxEntries = 0 then processorCount
  else if map.mapType = .ringBuffer then wholePages map.maxEntries
  else map.maxEntries

end SyscallTally.Kernel
