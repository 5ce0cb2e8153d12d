/-!
Contract: the verifier's refusal of a program, and how much of its log the loader gets to see.

The kernel writes the log into a buffer of the loader's and ends it with a zero character, so the
loader reads it up to the first zero character. A log that is too long for the buffer is cut. The
loader asks again with larger buffers only if the refusal says that space was lacking.
-/

set_option autoImplicit false

namespace SyscallTally.Kernel

/-- A refused program: the error number and the whole log. -/
structure Rejection where
  code : Nat
  log : String
deriving DecidableEq, Repr

namespace Rejection

/-- The error number for lack of space. -/
def noSpace : Nat := 28

/-- The size in octets of the first buffer that is offered. -/
def firstBuffer : Nat := 10240

/-- The size in octets of the largest buffer that is offered. -/
def largestBuffer : Nat := 16777215

/-- The first characters that fit into a room of octets, up to a zero character. -/
def fitting : Nat → List Char → List Char
  | _, [] => []
  | room, char :: rest =>
      if char = '\x00' ∨ room < char.utf8Size then []
      else char :: fitting (room - char.utf8Size) rest

/-- The size of the buffer that the log ends up in. -/
def buffer (rejection : Rejection) : Nat :=
  if rejection.code = noSpace then largestBuffer else firstBuffer

/-- The log as the loader sees it. One octet of the buffer is left for the zero character. -/
def seenLog (rejection : Rejection) : String :=
  String.ofList (fitting (rejection.buffer - 1) rejection.log.toList)

end Rejection

end SyscallTally.Kernel
