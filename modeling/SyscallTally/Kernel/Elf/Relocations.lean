import SyscallTally.Kernel.Elf.Header
import SyscallTally.Kernel.ObjectFile

/-!
Contract: the relocations of a file in the Executable and Linkable Format.

Owns:
- `relocationChains?`, which tables of relocations belong to which section;
- `relocationsFrom`, the relocations of a section.

A table of relocations names the table of symbols that it refers to and the section that it belongs
to. Tables for one section form a chain, in the order of the file. The chains share one list of
links, in which each section has the number of the next table, or zero; so a table that belongs to a
table may take the link of another.
-/

set_option autoImplicit false

namespace SyscallTally.Kernel.Elf

open SyscallTally.Text

/-- The type of a table of relocations whose addends are in the places that they fill. -/
def plainRelocationsType : Nat := 9

/-- The type of a table of relocations with addends. -/
def addendRelocationsType : Nat := 4

/-- Whether a section is a table of relocations. -/
def SectionHeader.isRelocations (header : SectionHeader) : Bool :=
  header.typeNumber = plainRelocationsType || header.typeNumber = addendRelocationsType

/-- The links after one more table in front. -/
def addTable (symbolsNumber : Nat) (entry : SectionHeader × Nat) (links : List Nat) :
    Option (List Nat) :=
  let (header, number) := entry
  if !header.isRelocations || header.link ≠ symbolsNumber || header.info = 0 then some links
  else
    match links[header.info]? with
    | none => none
    | some next => some ((links.set header.info number).set number next)

/-- The links from each section to its first table, and from each table to the next one. -/
def relocationChains? (headers : List SectionHeader) (symbolsNumber : Nat) : Option (List Nat) :=
  headers.zipIdx.foldrM (addTable symbolsNumber) (List.replicate headers.length 0)

/-- The size of a row of a table of relocations. -/
def SectionHeader.relocationSize (layout : Layout) (header : SectionHeader) : Nat :=
  if header.typeNumber = addendRelocationsType then 3 * layout.width else 2 * layout.width

/-- The number of bits that are filled in for a type of relocation. -/
def relocationBits (typeNumber : Nat) : Nat :=
  if typeNumber = 1 then 64 else if typeNumber = 10 then 32 else 0

/-- The relocation of a row. The symbol and the type share a word. -/
def readRelocation? (layout : Layout) (row : Octets) : Option Relocation := do
  let place ← layout.word? row 0
  let description ← layout.word? row layout.width
  let radix := if layout.width = 8 then Nat.pow 2 32 else Nat.pow 2 8
  return ⟨place, description / radix, relocationBits (description % radix)⟩

/-- The relocations of a table. A table that cannot be read has none. -/
def SectionHeader.relocations (layout : Layout) (file : Octets) (header : SectionHeader) :
    List Relocation :=
  let rows := header.rows? file layout.width (header.relocationSize layout)
  (rows.getD []).filterMap (readRelocation? layout)

/-- The relocations of the tables that are linked from a section, of which there are no more than
sections. -/
def relocationsFrom (layout : Layout) (file : Octets) (headers : List SectionHeader)
    (links : List Nat) : Nat → Nat → List Relocation
  | 0, _ => []
  | steps + 1, number =>
      match links[number]? with
      | none => []
      | some 0 => []
      | some next =>
          ((headers[next]?.map (SectionHeader.relocations layout file)).getD [])
            ++ relocationsFrom layout file headers links steps next

end SyscallTally.Kernel.Elf
