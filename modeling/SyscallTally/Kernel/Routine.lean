import SyscallTally.Kernel.ObjectFile

/-!
Contract: the code of an object: instructions, and the routines that they form.

Owns:
- `Instruction` and the reading of code;
- `Routine`, code that is called or run as a whole;
- `programRoutine`, the code of a program, and `sharedRoutines`, the routines of a section that
  programs share.

A section of shared code is covered by its functions: where one ends, the next begins, up to the end
of the section. A section of programs need not be.
-/

set_option autoImplicit false

namespace SyscallTally.Kernel

open SyscallTally.Text

/-- An instruction. Its registers and its offset are only compared. -/
structure Instruction where
  code : UInt8
  registers : UInt8
  offset : UInt8 × UInt8
  /-- The number that is part of the instruction. -/
  value : Int
deriving DecidableEq, Repr

namespace Instruction

/-- The size of an instruction in octets. -/
def size : Nat := 8

/-- The number that four octets stand for, in two's complement. -/
def signed (octets : Octets) : Int :=
  Int.bmod (ByteOrder.native.value octets) UInt32.size

def all? : Octets → Option (List Instruction)
  | [] => some []
  | code :: registers :: low :: high :: a :: b :: c :: d :: rest =>
      (all? rest).map (⟨code, registers, (low, high), signed [a, b, c, d]⟩ :: ·)
  | _ => none

/-- Whether an instruction calls another routine of the object. -/
def isCall (instruction : Instruction) : Bool :=
  instruction.code = 0x85 && instruction.registers = 0x10 && instruction.offset = (0, 0)

/-- Whether an instruction becomes a call of a routine when a map is filled in. A map is marked in
the register in which calls of routines are. -/
def becomesCall (instruction : Instruction) : Bool :=
  instruction.code = 0x85 && instruction.registers &&& 0x0f = 0 && instruction.offset = (0, 0)

end Instruction

/-- A routine. It is known by its home, the number of its section, and its address. -/
structure Routine where
  name : String
  home : Nat
  address : Nat
  /-- Where it begins in its section. -/
  place : Nat
  instructions : List Instruction
deriving DecidableEq, Repr

/-- The instructions of a part of a section. -/
def Section.instructions? (home : Section) (place size : Nat) : Option (List Instruction) :=
  (part? home.octets place size).bind Instruction.all?

/-- The code of a program. -/
def programRoutine (home : Section) (symbol : Symbol) : Except Refusal Routine :=
  match home.instructions? symbol.address symbol.size with
  | none => .error .programCode
  | some instructions =>
      .ok ⟨symbol.name, home.number, symbol.address, symbol.address, instructions⟩

/-- The first address that two of the symbols share. -/
def sharedAddress? : List Symbol → Option Nat
  | [] => none
  | symbol :: rest =>
      if rest.any (·.address == symbol.address) then some symbol.address else sharedAddress? rest

def routinesFrom (home : Section) (functions : List Symbol) (place : Nat) :
    Except Refusal (List Routine) :=
  if place < home.octets.length then
    match functions.find? (·.address == home.address + place) with
    | none => .error (.unknownSymbol home.number (home.address + place))
    | some symbol =>
        if symbol.size = 0 then .error (.emptySymbol symbol.number symbol.name)
        else
          match home.instructions? place symbol.size with
          | none => .error .programCode
          | some instructions =>
              (routinesFrom home functions (place + symbol.size)).map
                (⟨symbol.name, home.number, symbol.address, place, instructions⟩ :: ·)
  else .ok []
termination_by home.octets.length - place
decreasing_by omega

/-- The routines of a section of shared code. -/
def sharedRoutines (home : Section) (symbols : List Symbol) : Except Refusal (List Routine) :=
  let functions := symbols.filter (·.kind = .function)
  match sharedAddress? functions with
  | some address => .error (.symbolConflict home.number address)
  | none => routinesFrom home functions 0

end SyscallTally.Kernel
