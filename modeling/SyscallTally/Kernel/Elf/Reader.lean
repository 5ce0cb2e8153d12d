import SyscallTally.Kernel.Elf.Relocations
import SyscallTally.Kernel.Elf.Symbols

/-!
Contract: the reading of object files in the Executable and Linkable Format.

Owns:
- `sectionOf`, a section with its name, its contents and its relocations;
- `objectFile?`, the object file in octets, or nothing if they are none.

The tables that the header leads to have to be sound, or the octets are no object file. A single
section may be unreadable: its name, its contents or a relocation of it. A relocation has to refer
to a symbol; the symbol with number zero is none.
-/

set_option autoImplicit false

namespace SyscallTally.Kernel.Elf

open SyscallTally.Text

def sectionOf (file : Octets) (header : SectionHeader) (number : Nat) (name : Option String)
    (relocations : List Relocation) : Except Refusal Section :=
  match name, header.contents? file with
  | some name, some octets =>
      if relocations.any (·.symbol = 0) then .error .relocationTarget
      else .ok ⟨number, name, header.isCode, header.address, octets, relocations⟩
  | _, _ => .error (.unreadableSection number)

def objectFile? (file : Octets) : Option ObjectFile := do
  let layout ← Layout.of? file
  let header ← Header.read? layout file
  let headers ← sectionHeaders? layout file header
  let names ← namesHeader? layout file header headers
  let symbols ← symbolTable? layout file headers symbolsType
  let _ ← symbolTable? layout file headers sharedSymbolsType
  let links ← relocationChains? headers symbols.number
  let sections := headers.zipIdx.map fun (header, number) =>
    let name := names.bind fun names => names.nameAt? file header.nameStart
    let relocations := relocationsFrom layout file headers links headers.length number
    ⟨name, sectionOf file header number name relocations⟩
  return ⟨layout.order, sections, symbols.symbols file⟩

end SyscallTally.Kernel.Elf
