import SyscallTally.Kernel.Object

/-!
Contract: filling in the references of an object after its maps have been created.

Owns:
- references to maps, `Object.mapsAreFound`;
- calls of routines, `Object.callsAreFound`;
- `Object.link`, the refusal if a reference leads nowhere.

Does not own: what is filled in. The loader puts together one piece of code for each program;
whether that succeeds is all that shows here.

A call names its routine by a symbol, or by its distance. A program is linked with the routines that
it calls, directly or through others. A routine that is linked is not looked at again, and it counts
as linked by its address alone, in whatever section it is.
-/

set_option autoImplicit false

namespace SyscallTally.Kernel

namespace Object

def symbolOf? (object : Object) (relocation : Relocation) : Option Symbol :=
  object.symbols.find? (·.number == relocation.symbol)

/-- Whether there is a routine in the section with a number. -/
def hasCode (object : Object) (home : Nat) : Bool := object.routines.any (·.home == home)

/-! ## Maps -/

/-- Whether a symbol stands for a map, or its section holds maps. -/
def isMap (object : Object) (symbol home : Nat) : Bool :=
  object.maps.any fun map => map.symbol == symbol || map.home == home

/-- Whether a reference in a routine can be filled in, as far as it is one to a map. It has to be at
the beginning of an instruction. Calls and references to code are not for maps. -/
def mapIsFound (object : Object) (routine : Routine) (relocation : Relocation) : Bool :=
  if relocation.place < routine.place
    ∨ routine.place + Instruction.size * routine.instructions.length ≤ relocation.place then true
  else
    let distance := relocation.place - routine.place
    match object.symbolOf? relocation, routine.instructions[distance / Instruction.size]? with
    | some symbol, some instruction =>
        distance % Instruction.size = 0
          && symbol.home.all fun home =>
            instruction.isCall || object.hasCode home || object.isMap symbol.number home
    | _, _ => false

/-- Whether all references to maps can be filled in. -/
def mapsAreFound (object : Object) : Bool :=
  object.routines.all fun routine =>
    (object.relocationsOf routine.home).all (object.mapIsFound routine)

/-! ## Calls -/

/-- The relocation at an instruction of a routine, with its symbol, if it is a reference to code. -/
def codeReference? (object : Object) (routine : Routine) (index : Nat) :
    Option (Relocation × Symbol) := do
  let place := routine.place + Instruction.size * index
  let relocation ← (object.relocationsOf routine.home).find? (·.place == place)
  let symbol ← object.symbolOf? relocation
  if symbol.kind.isCode || symbol.home.any object.hasCode then some (relocation, symbol) else none

/-- A signed distance from an address, among the 64-bit addresses. -/
def addressAt (base : Nat) (distance : Int) : Nat := ((base + distance) % (UInt64.size : Int)).toNat

/-- The address in a reference to code. A symbol for a whole section leaves the distance to the
instruction: in instructions for a call, in octets for an address. -/
def referredAddress? (relocation : Relocation) (symbol : Symbol) (value : Int) : Option Nat :=
  if symbol.kind.isCode then some symbol.address
  else if symbol.kind = .wholeSection ∧ relocation.bits = 32 then
    some (addressAt symbol.address ((value + 1) * Instruction.size))
  else if symbol.kind = .wholeSection ∧ relocation.bits = 64 then
    some (addressAt symbol.address value)
  else none

/-- Whether a place in the code of a routine is filled in with a symbol of some section. -/
def refersToSection (object : Object) (routine : Routine) (index : Nat) : Bool :=
  let place := routine.place + Instruction.size * index
  (object.relocationsOf routine.home).any fun relocation =>
    relocation.place == place && (object.symbolOf? relocation).any (·.home.isSome)

/-- The routine that an instruction refers to: `none` if it refers to none, and an inner `none` if
there is no such routine. The number that a map is filled in with is no distance to a routine. -/
def callee (object : Object) (routine : Routine) (index : Nat) (instruction : Instruction) :
    Option (Option Routine) :=
  match object.codeReference? routine index with
  | some (relocation, symbol) =>
      some do
        let home ← symbol.home
        let address ← referredAddress? relocation symbol instruction.value
        object.routine? home address
  | none =>
      if instruction.isCall then
        some (object.routine? routine.home
          (addressAt routine.place ((index + 1 + instruction.value) * Instruction.size)))
      else if instruction.becomesCall && object.refersToSection routine index then some none
      else none

/-- The routines that a routine refers to, in the order of its instructions. -/
def callees (object : Object) (routine : Routine) : List (Option Routine) :=
  (routine.instructions.zipIdx.map fun (instruction, index) =>
    object.callee routine index instruction).filterMap id

def otherAddresses (address : Nat) (addresses : List Nat) : List Nat :=
  addresses.filter (· ≠ address)

theorem length_otherAddresses_lt {address : Nat} {addresses : List Nat}
    (member : address ∈ addresses) :
    (otherAddresses address addresses).length < addresses.length := by
  unfold otherAddresses
  rw [List.length_filter_lt_length_iff_exists]
  exact ⟨address, member, by simp⟩

/-- Whether the routines in the list can be linked, and those that they refer to, given the
addresses that have not been linked yet. -/
def linksFrom (object : Object) (unlinked : List Nat) : List (Option Routine) → Bool
  | [] => true
  | none :: _ => false
  | some routine :: rest =>
      if _isNew : routine.address ∈ unlinked then
        object.linksFrom (otherAddresses routine.address unlinked)
          (object.callees routine ++ rest)
      else object.linksFrom unlinked rest
termination_by todo => (unlinked.length, todo.length)
decreasing_by
  · exact Prod.Lex.left _ _ (length_otherAddresses_lt _isNew)
  · exact Prod.Lex.right _ (by simp)

/-- Whether a program can be linked with all that it calls. -/
def programLinks (object : Object) (program : Program) : Bool :=
  match object.routine? program.home program.address with
  | none => false
  | some routine =>
      object.linksFrom (object.routines.map (·.address)) (object.callees routine)

/-- Whether all calls can be filled in. -/
def callsAreFound (object : Object) : Bool := object.programs.all object.programLinks

/-- Refuses an object in which a reference leads nowhere. -/
def link (object : Object) : Except Refusal Unit :=
  if object.mapsAreFound && object.callsAreFound then .ok () else .error .linking

end Object

end SyscallTally.Kernel
