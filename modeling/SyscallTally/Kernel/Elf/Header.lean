import SyscallTally.Kernel.ByteOrder

/-!
Contract: the header and the table of sections of a file in the Executable and Linkable Format.

Owns:
- `Layout`, the width and the order of octets in which a file writes its numbers;
- `Header` and `SectionHeader`, with the places of their fields in either width;
- `rows?`, the rows of a table of numbers;
- `sectionHeaders?`, the table of sections.

Does not own: names, symbols and relocations.

A file names its width and order in its first octets. Everything in it that is counted in words is
then four or eight octets wide, and the places of all fields follow from that. Tables have to be
inside the file and to begin at a multiple of the width.
-/

set_option autoImplicit false

namespace SyscallTally.Kernel.Elf

open SyscallTally.Text

/-! ## Numbers -/

/-- How a file writes its numbers. -/
structure Layout where
  /-- The number of octets of a word. -/
  width : Nat
  order : ByteOrder
deriving DecidableEq, Repr

/-- The number at a place of a file. -/
def Layout.number? (layout : Layout) (file : Octets) (start size : Nat) : Option Nat :=
  layout.order.number? file start size

/-- The word at a place of a file. -/
def Layout.word? (layout : Layout) (file : Octets) (start : Nat) : Option Nat :=
  layout.number? file start layout.width

/-- The width that the fifth octet of a file stands for. -/
def widthOf? : UInt8 → Option Nat
  | 1 => some 4
  | 2 => some 8
  | _ => none

/-- The order that the sixth octet of a file stands for. -/
def orderOf? : UInt8 → Option ByteOrder
  | 1 => some .little
  | 2 => some .big
  | _ => none

/-- The layout of a file, from its first octets: a mark, the width, the order, the version. -/
def Layout.of? : Octets → Option Layout
  | 0x7f :: 0x45 :: 0x4c :: 0x46 :: width :: order :: 1 :: _ => do
      let width ← widthOf? width
      let order ← orderOf? order
      return ⟨width, order⟩
  | _ => none

/-! ## Tables -/

/-- A table in a file: where it begins, and the size and the number of its rows. -/
structure Table where
  start : Nat
  rowSize : Nat
  rows : Nat
deriving DecidableEq, Repr

/-- Whether a table with a number of rows is sound: of the expected row size, at a multiple of the
width, and inside the file. A table without rows is. -/
def Table.isSound (layout : Layout) (file : Octets) (expected rows : Nat) (table : Table) : Bool :=
  rows = 0
    || (table.rowSize = expected && table.start % layout.width = 0
      && table.start + rows * expected ≤ file.length)

/-! ## The header -/

/-- What the header of a file says of its tables. -/
structure Header where
  segments : Table
  sections : Table
  /-- The number of the section that holds the names of the sections. -/
  namesNumber : Nat
deriving DecidableEq, Repr

/-- The header of a file. Its size is 40 octets and three words. -/
def Header.read? (layout : Layout) (file : Octets) : Option Header := do
  let words := 3 * layout.width
  let _ ← part? file 0 (40 + words)
  let segments : Table :=
    { start := ← layout.word? file (24 + layout.width)
      rowSize := ← layout.number? file (30 + words) 2
      rows := ← layout.number? file (32 + words) 2 }
  let sections : Table :=
    { start := ← layout.word? file (24 + 2 * layout.width)
      rowSize := ← layout.number? file (34 + words) 2
      rows := ← layout.number? file (36 + words) 2 }
  return ⟨segments, sections, ← layout.number? file (38 + words) 2⟩

/-- What the table of sections says of one. -/
structure SectionHeader where
  /-- Where its name is among the names. -/
  nameStart : Nat
  typeNumber : Nat
  flags : Nat
  address : Nat
  start : Nat
  size : Nat
  link : Nat
  info : Nat
deriving DecidableEq, Repr

/-- The size of a row of the table of sections. -/
def SectionHeader.rowSize (layout : Layout) : Nat := 16 + 6 * layout.width

/-- The size of a row of the table of segments. -/
def segmentRowSize (layout : Layout) : Nat := 8 + 6 * layout.width

/-- The row of the table of sections at a place of a file. -/
def SectionHeader.read? (layout : Layout) (file : Octets) (place : Nat) : Option SectionHeader := do
  let row ← part? file place (SectionHeader.rowSize layout)
  let nameStart ← layout.number? row 0 4
  let typeNumber ← layout.number? row 4 4
  let flags ← layout.word? row 8
  let address ← layout.word? row (8 + layout.width)
  let start ← layout.word? row (8 + 2 * layout.width)
  let size ← layout.word? row (8 + 3 * layout.width)
  let link ← layout.number? row (8 + 4 * layout.width) 4
  let info ← layout.number? row (12 + 4 * layout.width) 4
  return ⟨nameStart, typeNumber, flags, address, start, size, link, info⟩

namespace Header

/-- The first row of the table of sections. It holds the counts that are too large for the header.
A file without the table has none. -/
def firstSection? (layout : Layout) (file : Octets) (header : Header) : Option SectionHeader :=
  if header.sections.start = 0 ∨ header.sections.rowSize ≠ SectionHeader.rowSize layout
    ∨ header.sections.start % layout.width ≠ 0 then none
  else SectionHeader.read? layout file header.sections.start

/-- The number that stands in the header for one that is too large for it. -/
def tooLarge : Nat := 0xffff

/-- The number of rows of the table of sections. Zero stands for a number too large as well. -/
def sectionCount? (layout : Layout) (file : Octets) (header : Header) : Option Nat :=
  if header.sections.start = 0 then some 0
  else if header.sections.rows ≠ 0 then some header.sections.rows
  else (header.firstSection? layout file).map (·.size)

/-- The number of rows of the table of segments. -/
def segmentCount? (layout : Layout) (file : Octets) (header : Header) : Option Nat :=
  if header.segments.start = 0 then some 0
  else if header.segments.rows ≠ tooLarge then some header.segments.rows
  else (header.firstSection? layout file).map (·.info)

/-- The number of the section that holds the names. No names are in the section with number zero. -/
def namesNumber? (layout : Layout) (file : Octets) (header : Header) : Option Nat := do
  let number ← if header.namesNumber ≠ tooLarge then some header.namesNumber
    else (header.firstSection? layout file).map (·.link)
  if number = 0 then none else some number

end Header

/-! ## Sections -/

namespace SectionHeader

/-- The type of a section that has contents of its own kind. -/
def ownContents : Nat := 1

/-- The type of a section that takes no room in the file. -/
def noContents : Nat := 8

/-- Whether a section is code: it is put into memory and executed. -/
def isCode (header : SectionHeader) : Bool :=
  header.typeNumber = ownContents && header.flags.testBit 1 && header.flags.testBit 2

def contents? (header : SectionHeader) (file : Octets) : Option Octets :=
  if header.typeNumber = noContents then some [] else part? file header.start header.size

/-- The rows of a section that is a table of numbers of the given width. What is left over after the
last whole row is not looked at. -/
def rows? (header : SectionHeader) (file : Octets) (width rowSize : Nat) :
    Option (List Octets) := do
  let contents ← header.contents? file
  if header.start % width ≠ 0 then none
  else (List.range (contents.length / rowSize)).mapM fun row =>
    part? contents (row * rowSize) rowSize

/-- Whether the end of a section of names is a place: places are words of at most eight octets. -/
def hasEnd (names : SectionHeader) : Bool :=
  names.typeNumber = noContents || names.start + names.size < UInt64.size

/-- The name at a place of a section of names: the octets up to a zero octet, which has to be
there. -/
def nameAt? (names : SectionHeader) (file : Octets) (start : Nat) : Option String :=
  if names.typeNumber = noContents ∨ names.size < start then none
  else
    match part? file (names.start + start) (names.size - start) with
    | none => none
    | some rest => if rest.contains 0 then Utf8.decode? (rest.takeWhile (· != 0)) else none

end SectionHeader

/-- The table of sections, if all tables that the header names are sound. -/
def sectionHeaders? (layout : Layout) (file : Octets) (header : Header) :
    Option (List SectionHeader) := do
  let segmentCount ← header.segmentCount? layout file
  guard (header.segments.isSound layout file (segmentRowSize layout) segmentCount)
  let count ← header.sectionCount? layout file
  guard (header.sections.isSound layout file (SectionHeader.rowSize layout) count)
  (List.range count).mapM fun number =>
    SectionHeader.read? layout file
      (header.sections.start + number * SectionHeader.rowSize layout)

/-- The section that holds the names of the sections. A file without sections has none. -/
def namesHeader? (layout : Layout) (file : Octets) (header : Header)
    (headers : List SectionHeader) : Option (Option SectionHeader) := do
  if headers.isEmpty then return none
  let names ← headers[← header.namesNumber? layout file]?
  guard names.hasEnd
  return some names

end SyscallTally.Kernel.Elf
