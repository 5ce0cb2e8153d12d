import SyscallTally.Kernel.ByteOrder

/-!
Contract: what an object says of its types.

Owns:
- `TypeShape` and `TypeInfo`, types that refer to each other by number, and their names;
- `TypeInfo.read?`, the reading of the section of types;
- names, aliases and sizes of types;
- `extensionIsSound`, the check of what is added to the types.

Does not own: what types mean for maps; and the use of the additions, which matters only to programs
that depend on the layout of the kernel's own data.

All numbers are in the order of the machine, whatever the order of the file, apart from the counts
in the additions. The type with number zero is nothing at all, and is not written.
-/

set_option autoImplicit false

namespace SyscallTally.Kernel

open SyscallTally.Text

/-- A member of a record: where its name is among the names, and the number of its type. -/
structure TypeMember where
  nameStart : Nat
  typeNumber : Nat
deriving DecidableEq, Repr

/-- What a type is made of, as far as maps are described by it. -/
inductive TypeShape where
  /-- Nothing, or something that is only announced. -/
  | bare
  /-- Something of the given size. -/
  | sized (size : Nat)
  | record (size : Nat) (members : List TypeMember)
  | array (element length : Nat)
  | pointer (target : Nat)
  /-- Another name or another manner of use for a type. -/
  | alias (target : Nat)
  | variableOf (typeNumber : Nat)
  /-- Something that refers to a type in a way of its own. -/
  | reference (target : Nat)
  /-- The variables of a section, by their numbers. -/
  | sectionOf (size : Nat) (contents : List Nat)
deriving DecidableEq, Repr

/-- A type, and where its name is among the names. -/
structure TypeEntry where
  nameStart : Nat
  shape : TypeShape
deriving DecidableEq, Repr

/-- The types of an object. Places of names below the limit are allowed, though it is more than the
length of the names. -/
structure TypeInfo where
  names : Octets
  nameLimit : Nat
  types : List TypeEntry
deriving DecidableEq, Repr

/-- The number in the four octets at a place, in the order of the machine. -/
def native32? (octets : Octets) (start : Nat) : Option Nat :=
  ByteOrder.native.number? octets start 4

/-- The first numbers of the rows of a table in octets. -/
def rowNumbers? (octets : Octets) (rowSize count field : Nat) : Option (List Nat) :=
  (List.range count).mapM fun row => native32? octets (row * rowSize + field)

namespace TypeEntry

def headSize : Nat := 12

/-- The number of octets that follow the head of a type of the given kind. -/
def bodySize? (kind count : Nat) : Option Nat :=
  match kind with
  | 0 => some 0
  | 1 => some 4
  | 2 => some 0
  | 3 => some 12
  | 4 => some (12 * count)
  | 5 => some (12 * count)
  | 6 => some (8 * count)
  | 7 => some 0
  | 8 => some 0
  | 9 => some 0
  | 10 => some 0
  | 11 => some 0
  | 12 => some 0
  | 13 => some (8 * count)
  | 14 => some 4
  | 15 => some (12 * count)
  | 16 => some 0
  | 17 => some 4
  | 18 => some 0
  | 19 => some (12 * count)
  | _ => none

/-- The shape of a type. The third number of its head is a size or another type. -/
def shape? (kind count third : Nat) (body : Octets) : Option TypeShape :=
  match kind with
  | 1 => some (.sized third)
  | 2 => some (.pointer third)
  | 3 => do return .array (← native32? body 0) (← native32? body 8)
  | 4 => do
      let names ← rowNumbers? body 12 count 0
      let types ← rowNumbers? body 12 count 4
      return .record third (List.zipWith TypeMember.mk names types)
  | 5 => some (.sized third)
  | 6 => some (.sized third)
  | 8 => some (.alias third)
  | 9 => some (.alias third)
  | 10 => some (.alias third)
  | 11 => some (.alias third)
  | 13 => some (.reference third)
  | 14 => some (.variableOf third)
  | 15 => (rowNumbers? body 12 count 0).map (.sectionOf third)
  | 16 => some (.sized third)
  | 17 => some (.reference third)
  | 18 => some (.alias third)
  | 19 => some (.sized third)
  | _ => some .bare

/-- The first type in octets, and the number of octets after its head. -/
def first? (octets : Octets) : Option (TypeEntry × Nat) := do
  let nameStart ← native32? octets 0
  let description ← native32? octets 4
  let third ← native32? octets 8
  let kind := description / Nat.pow 2 24 % 32
  let count := description % Nat.pow 2 16
  let size ← bodySize? kind count
  let shape ← shape? kind count third (← part? octets headSize size)
  return (⟨nameStart, shape⟩, size)

def all? (octets : Octets) : Option (List TypeEntry) :=
  if octets.length = 0 then some []
  else
    match first? octets with
    | none => none
    | some (entry, size) => (all? (octets.drop (headSize + size))).map (entry :: ·)
termination_by octets.length
decreasing_by
  simp only [List.length_drop, headSize]
  omega

end TypeEntry

namespace TypeInfo

/-- The size of the head of a section of types. -/
def headSize : Nat := 24

/-- The types in a section. Where they and their names begin is counted from the end of the head. -/
def read? (octets : Octets) : Option TypeInfo := do
  let _ ← part? octets 0 headSize
  let head ← native32? octets 4
  let typeStart ← native32? octets 8
  let typeSize ← native32? octets 12
  let nameStart ← native32? octets 16
  let nameSize ← native32? octets 20
  let names ← part? octets (head + nameStart) nameSize
  let types ← TypeEntry.all? (← part? octets (head + typeStart) typeSize)
  return ⟨names, head + nameStart + nameSize, ⟨0, .bare⟩ :: types⟩

/-- The name at a place. It ends before a zero octet, which has to be there. -/
def name? (info : TypeInfo) (start : Nat) : Option String :=
  let rest := info.names.drop start
  if start < info.nameLimit ∧ rest.contains 0 then
    some (Utf8.lossy (rest.takeWhile (· != 0)))
  else none

def shape? (info : TypeInfo) (number : Nat) : Option TypeShape :=
  info.types[number]?.map (·.shape)

/-- The number of steps from type to type that the loader is ready to take. -/
def depthLimit : Nat := 32

/-- The type behind aliases, in a number of steps. -/
def behindAliases? (info : TypeInfo) : Nat → Nat → Option TypeShape
  | 0, _ => none
  | steps + 1, number =>
      match info.shape? number with
      | some (.alias target) => info.behindAliases? steps target
      | other => other

/-- The size of a type, in a number of steps. An array counts with the number of its elements, and
of arrays of arrays only the innermost does. -/
def sizeWithin? (info : TypeInfo) (factor : Nat) : Nat → Nat → Option Nat
  | 0, _ => none
  | steps + 1, number =>
      match info.shape? number with
      | none => none
      | some .bare => none
      | some (.sized size) => some (size * factor % UInt32.size)
      | some (.record size _) => some (size * factor % UInt32.size)
      | some (.sectionOf size _) => some (size * factor % UInt32.size)
      | some (.pointer _) => some (8 * factor % UInt32.size)
      | some (.array element length) => info.sizeWithin? length steps element
      | some (.alias target) => info.sizeWithin? factor steps target
      | some (.variableOf target) => info.sizeWithin? factor steps target
      | some (.reference target) => info.sizeWithin? factor steps target

def size? (info : TypeInfo) (number : Nat) : Option Nat := info.sizeWithin? 1 depthLimit number

end TypeInfo

/-! ## Additions -/

/-- The size of the whole head of the additions. A shorter head stands for one that ends in
zeros. -/
def extensionHeadSize : Nat := 32

/-- The least size of a correction: a place, a type, a name and a kind. -/
def correctionSize : Nat := 16

/-- The number of kinds of correction. -/
def correctionKinds : Nat := 12

/-- Whether corrections of the given size are known ones. -/
def correctionsAreSound (size count : Nat) (octets : Octets) : Bool :=
  count = 0 || (correctionSize ≤ size
    && (List.range count).all fun number =>
      (native32? octets (number * size + 12)).any (· < correctionKinds))

/-- Whether the corrections of all sections are sound. A section is a name, a count and that many
corrections. -/
def correctionTableIsSound (order : ByteOrder) (size : Nat) (octets : Octets) : Bool :=
  if octets.length ≤ 8 then true
  else
    match order.number? octets 4 4 with
    | none => false
    | some count =>
        match part? octets 8 (size * count) with
        | none => false
        | some corrections =>
            correctionsAreSound size count corrections
              && correctionTableIsSound order size (octets.drop (8 + size * count))
termination_by octets.length
decreasing_by
  simp only [List.length_drop]
  omega

/-- The contents of a table of the additions after the size of its rows, with that size. An empty
table states none. -/
def extensionTable? (order : ByteOrder) (octets : Octets) (start size : Nat) :
    Option (Nat × Octets) := do
  let table ← part? octets start size
  if size = 0 then return (0, [])
  let rowSize ← order.number? table 0 4
  return (rowSize, table.drop 4)

/-- Whether the additions can be read: three tables, of which the last holds corrections. -/
def extensionIsSound (order : ByteOrder) (octets : Octets) : Bool :=
  let sound := do
    let _ ← part? octets 0 8
    let stated ← native32? octets 4
    let head ← part? octets 0 stated
    let head := head.take extensionHeadSize
    let head := head ++ List.replicate (extensionHeadSize - head.length) 0
    let start ← native32? head 4
    let _ ← extensionTable? order octets (start + (← native32? head 8)) (← native32? head 12)
    let _ ← extensionTable? order octets (start + (← native32? head 16)) (← native32? head 20)
    let (size, corrections) ←
      extensionTable? order octets (start + (← native32? head 24)) (← native32? head 28)
    return correctionTableIsSound order size corrections
  sound.getD false

end SyscallTally.Kernel
