import SyscallTally.Kernel.ByteOrder
import SyscallTally.Kernel.Refusal
import SyscallTally.Kernel.Section

/-!
Contract: an object file as its sections and its symbols.

Owns:
- `Symbol`, a name for a place in a section;
- `Relocation`, a place that is filled in once it is known what a symbol stands for;
- `Section` and `ObjectFile`.

Does not own: how these are laid out in octets, and what the sections are for.

Sections and symbols are known by their numbers, which are their places in the lists. A section may
turn out to be unreadable, and a symbol to have no name: that is a fault only when one comes to it.
-/

set_option autoImplicit false

namespace SyscallTally.Kernel

open SyscallTally.Text

/-- What a symbol stands for, as far as the loader tells apart. -/
inductive SymbolKind where
  | function
  /-- A function that is chosen when the object is loaded. -/
  | chosenFunction
  /-- A whole section. -/
  | wholeSection
  | other
deriving DecidableEq, Repr

/-- Whether a symbol stands for code. -/
def SymbolKind.isCode : SymbolKind → Bool
  | .function => true
  | .chosenFunction => true
  | .wholeSection => false
  | .other => false

/-- A symbol. Its home is the number of the section in which it is defined, if it is in one. -/
structure Symbol where
  number : Nat
  name : String
  kind : SymbolKind
  home : Option Nat
  address : Nat
  size : Nat
deriving DecidableEq, Repr

/-- A place in a section that depends on a symbol, with the number of bits that are filled in. -/
structure Relocation where
  place : Nat
  symbol : Nat
  bits : Nat
deriving DecidableEq, Repr

structure Section where
  number : Nat
  name : String
  /-- Whether it is marked as code that is executed. -/
  isCode : Bool
  address : Nat
  octets : Octets
  relocations : List Relocation
deriving DecidableEq, Repr

/-- An entry of the table of sections. The name can be readable when the section is not. -/
structure SectionEntry where
  name : Option String
  contents : Except Refusal Section

/-- An object file. Symbols without a readable name are `none`. -/
structure ObjectFile where
  order : ByteOrder
  sections : List SectionEntry
  symbols : List (Option Symbol)

namespace ObjectFile

/-- The first section of a name, if there is one. -/
def named? (file : ObjectFile) (name : String) : Except Refusal (Option Section) :=
  match file.sections.find? (·.name == some name) with
  | none => .ok none
  | some entry => entry.contents.map some

/-- The symbols of a file. The loader reads them together with the types, and its refusal does not
tell the two apart. -/
def namedSymbols (file : ObjectFile) : Except Refusal (List Symbol) :=
  match file.symbols.mapM id with
  | none => .error .types
  | some symbols => .ok symbols

end ObjectFile

end SyscallTally.Kernel
