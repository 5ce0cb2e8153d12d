import SyscallTally.Probe.Failure
import SyscallTally.Text.Blank
import SyscallTally.Text.Segments
import SyscallTally.Text.Utf8

/-!
Contract: the symbols that the kernel exports, and the entry symbol of a system call.

Owns:
- `Symbols.parse?`, the names in a listing of lines `address type name [module]`;
- `Symbols.resolve`, the symbol that an event stands for.

## Lines and columns

A line ends at a newline octet or with the listing. Its name is the third column, columns being
separated by any white space; a line with fewer columns has no name. A carriage return before the
newline is white space and so never part of a name. Each line must be well-formed text by itself,
which is the same as the whole listing being so, since a newline octet is no part of a longer
sequence.
-/

set_option autoImplicit false

namespace SyscallTally.Kernel

open SyscallTally.Text SyscallTally.Probe

/-- An event and the kernel symbol that it stands for. -/
structure Target where
  name : String
  symbol : String
deriving DecidableEq, Repr

/-- The names that a kernel exports. -/
structure Symbols where
  names : List String
deriving DecidableEq, Repr

namespace Symbols

/-- The octet that ends a line. -/
def newline : UInt8 := 0x0A

/-- The name in a line: its third column. -/
def nameOfLine? (line : List Char) : Option String :=
  (tokens isBlank line)[2]?.map String.ofList

/-- The names in a listing. A listing with an ill-formed line has none. -/
def parse? (listing : Octets) : Option Symbols :=
  ((segments (· == newline) listing).mapM Utf8.chars?).map fun lines =>
    ⟨lines.filterMap nameOfLine?⟩

/-- Whether a symbol is exported. -/
def contains (symbols : Symbols) (symbol : String) : Bool := symbols.names.contains symbol

/-- The stems that kernels put in front of the entry points of system calls, the old one first. -/
def stems : List String := ["sys_", "__x64_sys_", "__ia32_sys_"]

/-- The system call that every kernel with probes exports; its entry point shows the stem. -/
def witnessCall : String := "bpf"

/-- The stem of this kernel: the first with which the witness call is exported. -/
def stem? (symbols : Symbols) : Option String :=
  stems.find? fun stem => symbols.contains (stem ++ witnessCall)

/-- The target of an event. An event that already is a symbol stands for itself. -/
def resolve (symbols : Symbols) (event : String) : Except Failure Target :=
  if event = "" then .error (.resolution event "empty event name")
  else if symbols.contains event then .ok ⟨event, event⟩
  else
    match symbols.stem? with
    | none => .error (.resolution event "no syscall entry points found in kernel symbols")
    | some stem =>
        let symbol := stem ++ event
        if symbols.contains symbol then .ok ⟨event, symbol⟩
        else .error (.resolution event ("kernel symbol `" ++ symbol ++ "` not found"))

theorem resolve_fails_in_own_name {symbols : Symbols} {event : String} {failure : Failure}
    (failed : symbols.resolve event = .error failure) :
    ∃ reason, failure = .resolution event reason := by
  rw [resolve] at failed
  split at failed
  case isTrue => exact ⟨_, (Except.error.inj failed).symm⟩
  case isFalse =>
    split at failed
    case isTrue => cases failed
    case isFalse =>
      split at failed
      case h_1 => exact ⟨_, (Except.error.inj failed).symm⟩
      case h_2 =>
        simp only at failed
        split at failed
        case isTrue => cases failed
        case isFalse => exact ⟨_, (Except.error.inj failed).symm⟩

end Symbols

end SyscallTally.Kernel
