import SyscallTally.Text.Utf8

/-!
Contract: numbers that are written in octets.

Owns:
- `part?`, the octets from one place to another;
- `ByteOrder`, with the value of octets in either order;
- `nativeOctets`, the octets of a number on the machine that objects are loaded on.

Does not own: which numbers of a file are written in which order. An object file states the order of
its tables; what its sections hold for the loader is in the order of the loader's machine.
-/

set_option autoImplicit false

namespace SyscallTally.Kernel

open SyscallTally.Text

/-- The octets from a place on, if there are that many. -/
def part? (octets : Octets) (start size : Nat) : Option Octets :=
  if start + size ≤ octets.length then some ((octets.drop start).take size) else none

/-- The order in which the octets of a number are written. -/
inductive ByteOrder where
  /-- The octet of least weight comes first. -/
  | little
  /-- The octet of most weight comes first. -/
  | big
deriving DecidableEq, Repr

namespace ByteOrder

/-- The order of the machine that objects are loaded on. -/
def native : ByteOrder := .little

/-- The number that octets stand for. -/
def value (order : ByteOrder) (octets : Octets) : Nat :=
  match order with
  | .little => octets.foldr (fun octet value => value * 256 + octet.toNat) 0
  | .big => octets.foldl (fun value octet => value * 256 + octet.toNat) 0

/-- The number at a place of octets. -/
def number? (order : ByteOrder) (octets : Octets) (start size : Nat) : Option Nat :=
  (part? octets start size).map order.value

end ByteOrder

/-- The octets of a number in the order of the machine. What does not fit is lost. -/
def nativeOctets (size number : Nat) : Octets :=
  (List.range size).map fun place => UInt8.ofNat (number / Nat.pow 256 place)

end SyscallTally.Kernel
