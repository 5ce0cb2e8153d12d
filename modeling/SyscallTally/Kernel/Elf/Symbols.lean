import SyscallTally.Kernel.Elf.Header
import SyscallTally.Kernel.ObjectFile

/-!
Contract: the symbols of a file in the Executable and Linkable Format.

Owns:
- `SymbolRow`, a row of a table of symbols, with the places of its fields in either width;
- `symbolTable?`, the table of symbols of a type, with the names that it is linked to;
- `symbols`, the symbols of a table.

A symbol whose section has too large a number for its row has the number in a table beside it.
-/

set_option autoImplicit false

namespace SyscallTally.Kernel.Elf

open SyscallTally.Text

/-- A row of a table of symbols. -/
structure SymbolRow where
  nameStart : Nat
  typeNumber : Nat
  homeNumber : Nat
  address : Nat
  size : Nat
deriving DecidableEq, Repr

namespace SymbolRow

/-- The size of a row of a table of symbols. -/
def rowSize (layout : Layout) : Nat := 8 + 2 * layout.width

/-- The symbol of a row. The order of the fields depends on the width. -/
def read? (layout : Layout) (row : Octets) : Option SymbolRow := do
  let nameStart ← layout.number? row 0 4
  let small := if layout.width = 8 then 4 else 4 + 2 * layout.width
  let large := if layout.width = 8 then 8 else 4
  let description ← layout.number? row small 1
  let homeNumber ← layout.number? row (small + 2) 2
  let address ← layout.word? row large
  let size ← layout.word? row (large + layout.width)
  return ⟨nameStart, description % 16, homeNumber, address, size⟩

/-- The kind that the type of a symbol stands for. -/
def kind (row : SymbolRow) : SymbolKind :=
  if row.typeNumber = 2 then .function
  else if row.typeNumber = 10 then .chosenFunction
  else if row.typeNumber = 3 then .wholeSection
  else .other

/-- The first number that stands for no section. -/
def reservedNumber : Nat := 0xff00

/-- The number that stands for one in the table beside the symbols. -/
def besideNumber : Nat := 0xffff

/-- The number of the section in which a symbol is defined, given the one beside it. -/
def home? (row : SymbolRow) (beside : Option Nat) : Option Nat :=
  if row.homeNumber = besideNumber then beside
  else if row.homeNumber = 0 ∨ reservedNumber ≤ row.homeNumber then none
  else some row.homeNumber

end SymbolRow

structure SymbolTable where
  /-- The number of its section, or zero if there is none. -/
  number : Nat := 0
  rows : List SymbolRow := []
  names : Option SectionHeader := none
  /-- Large numbers of sections, by the numbers of symbols. -/
  homes : List Nat := []
deriving DecidableEq, Repr

/-- The type of the table of symbols. -/
def symbolsType : Nat := 2

/-- The type of the table of symbols for programs that are linked when they run. -/
def sharedSymbolsType : Nat := 11

/-- The type of a section of names. -/
def namesType : Nat := 3

/-- The type of the table of numbers beside a table of symbols. -/
def homesType : Nat := 18

/-- The numbers in the tables beside the table of symbols with a number. The last table counts. -/
def homes? (layout : Layout) (file : Octets) (headers : List SectionHeader) (number : Nat) :
    Option (List Nat) :=
  let beside := headers.filter fun header => header.typeNumber = homesType ∧ header.link = number
  beside.foldlM
    (fun _ header => do (← header.rows? file 4 4).mapM fun row => layout.number? row 0 4) []

/-- The first table of symbols of a type. A file without one has an empty table. -/
def symbolTable? (layout : Layout) (file : Octets) (headers : List SectionHeader)
    (typeNumber : Nat) : Option SymbolTable :=
  match headers.zipIdx.find? (·.1.typeNumber = typeNumber) with
  | none => some {}
  | some (header, number) => do
      let rows ← header.rows? file layout.width (SymbolRow.rowSize layout)
      let rows ← rows.mapM (SymbolRow.read? layout)
      let names ← headers[header.link]?
      guard (names.typeNumber = namesType && names.hasEnd)
      let homes ← homes? layout file headers number
      return ⟨number, rows, some names, homes⟩

def SymbolTable.symbols (file : Octets) (table : SymbolTable) : List (Option Symbol) :=
  table.rows.zipIdx.map fun (row, number) => do
    let names ← table.names
    let name ← names.nameAt? file row.nameStart
    return ⟨number, name, row.kind, row.home? table.homes[number]?, row.address, row.size⟩

end SyscallTally.Kernel.Elf
