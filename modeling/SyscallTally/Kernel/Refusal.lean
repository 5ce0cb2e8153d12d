import SyscallTally.Text.Decimal
import SyscallTally.Text.Quoted

/-!
Contract: the ways in which loading, attaching and reading fail below the platform, and their texts.
-/

set_option autoImplicit false

namespace SyscallTally.Kernel

open SyscallTally.Text

/-- Why the loader or the kernel refused a step. -/
inductive Refusal where
  /-- The object file cannot be read. -/
  | unreadable (path : Octets)
  /-- The object file is no object. -/
  | malformed
  /-- The section with this number has no name or no contents that can be read. -/
  | unreadableSection (number : Nat)
  /-- The terms of use are no text that ends with a zero octet and has no other. -/
  | terms (octets : Octets)
  /-- The terms of use do not end with a zero octet. -/
  | unendedTerms (octets : Octets)
  /-- The kernel version is no number of four octets. -/
  | kernelVersion (octets : Octets)
  /-- The types of the object or the names of its symbols cannot be read. -/
  | types
  /-- The layout of maps is told by types, and the object has none. -/
  | noTypes
  /-- The definition of a map is too short. -/
  | mapDefinition (map : String)
  /-- Nothing is declared in a section of programs or maps. -/
  | noSymbols (sectionName : String)
  /-- A map that is described by types has no symbol. -/
  | noSymbol (map : String)
  /-- No function begins at an address of shared code. -/
  | unknownSymbol (home address : Nat)
  /-- A function has no size. -/
  | emptySymbol (number : Nat) (name : String)
  /-- Two functions begin at an address of shared code. -/
  | symbolConflict (home address : Nat)
  /-- Code does not consist of whole instructions inside its section. -/
  | programCode
  /-- A place is to be filled in with something that is no symbol. -/
  | relocationTarget
  /-- A program lives in a section of no known type. -/
  | invalidSection (sectionName : String)
  /-- The kernel does not create a map of the object. -/
  | mapCreation (map : String)
  /-- The type of a map has no such number. -/
  | unknownMapType (number : Nat)
  /-- Maps of the type can be created and not be used. -/
  | unsupportedMapType (number : Nat)
  /-- A map cannot be kept for other processes. -/
  | pinning (map : String)
  /-- A reference in the code leads nowhere. -/
  | linking
  /-- The object has no log event array. -/
  | noLogArray
  /-- The log event array is a map of another type. -/
  | logArrayType
  /-- The log buffers cannot be set up. -/
  | logBuffer
  | noTable (table : String)
  | noProgram
  /-- The program is no kernel probe. -/
  | programType
  | programLoad (verifierLog : String)
  | eventOpen
  | programBind
  | eventEnable
  /-- The table has a type that is not read as a hash table. -/
  | tableType (number : Nat)
  | keySize (size : Nat)
  | valueSize (size : Nat)
  | nextKey
  | lookup
deriving DecidableEq, Repr

/-- The text of a fault in the contents of an object file. -/
def parseFailure (fault : String) : String := "error parsing BPF object: " ++ fault

/-- The text of a refusal. -/
def Refusal.message : Refusal → String
  | .unreadable path => "error loading " ++ Utf8.lossy path
  | .malformed => parseFailure "error parsing ELF data"
  | .unreadableSection number =>
      parseFailure ("error parsing section with index " ++ Nat.repr number)
  | .terms octets =>
      parseFailure ("invalid license `" ++ Decimal.listed (octets.map (·.toNat)) ++ "`")
  | .unendedTerms octets =>
      parseFailure ("invalid license `" ++ Decimal.listed (octets.map (·.toNat))
        ++ "`: missing NULL terminator")
  | .kernelVersion octets =>
      parseFailure ("invalid kernel version `" ++ Decimal.listed (octets.map (·.toNat)) ++ "`")
  | .types => parseFailure "BTF error"
  | .noTypes => parseFailure "no BTF parsed for object"
  | .mapDefinition map => parseFailure ("error parsing map `" ++ map ++ "`")
  | .noSymbols sectionName => parseFailure ("no symbols found in the " ++ sectionName ++ " section")
  | .noSymbol map =>
      parseFailure ("symbol with name " ++ map ++ " not found in the symbols table")
  | .unknownSymbol home address =>
      parseFailure ("unknown symbol in section `" ++ Nat.repr home ++ "` at address "
        ++ Quoted.hexUpper address)
  | .emptySymbol number name =>
      parseFailure ("invalid symbol, index `" ++ Nat.repr number ++ "` name: " ++ name)
  | .symbolConflict home address =>
      parseFailure ("two or more symbols in section `" ++ Nat.repr home
        ++ "` have the same address " ++ Quoted.hexUpper address)
  | .programCode => parseFailure "invalid program code"
  | .relocationTarget => parseFailure "unsupported relocation target"
  | .invalidSection sectionName =>
      parseFailure ("invalid program section `" ++ sectionName ++ "`")
  | .mapCreation map => "map error: failed to create map `" ++ map ++ "` with code -1"
  | .unknownMapType number => "map error: invalid map type " ++ Nat.repr number
  | .unsupportedMapType number => "map error: Unsupported map type found " ++ Nat.repr number
  | .pinning map =>
      "map error: map `Some(" ++ Quoted.quote (Utf8.encode map)
        ++ ")` requested pinning. pinning failed"
  | .linking => "error relocating function"
  | .noLogArray => "log event array AYA_LOGS doesn't exist"
  | .logArrayType => "error opening log event array"
  | .logBuffer => "error opening log buffer"
  | .noTable table => "table " ++ table ++ " not found in probe object"
  | .noProgram => "program not found in probe object"
  | .programType => "unexpected program type"
  | .programLoad verifierLog =>
      "the BPF_PROG_LOAD syscall failed. Verifier output: " ++ verifierLog
  | .eventOpen => "`perf_event_open` failed"
  | .programBind => "`PERF_EVENT_IOC_SET_BPF` failed"
  | .eventEnable => "`PERF_EVENT_IOC_ENABLE` failed"
  | .tableType number => "invalid map type " ++ Nat.repr number
  | .keySize size => "invalid key size 8, expected " ++ Nat.repr size
  | .valueSize size => "invalid value size 8, expected " ++ Nat.repr size
  | .nextKey => "`bpf_map_get_next_key` failed"
  | .lookup => "`bpf_map_lookup_elem` failed"

end SyscallTally.Kernel
