/-!
Contract: the ways in which the file system refuses an operation, and their texts.
-/

set_option autoImplicit false

namespace SyscallTally.Files

/-- Why a file operation was refused. -/
inductive Fault where
  | missing
  | alreadyExists
  | notDirectory
  | isDirectory
  | nameTooLong
  | denied
  | readOnly
  /-- The path holds a zero octet, which no path can. -/
  | zeroOctet
deriving DecidableEq, Repr

/-- The text of a refusal, with the number that the operating system gives it. -/
def Fault.message : Fault → String
  | .missing => "No such file or directory (os error 2)"
  | .alreadyExists => "File exists (os error 17)"
  | .notDirectory => "Not a directory (os error 20)"
  | .isDirectory => "Is a directory (os error 21)"
  | .nameTooLong => "File name too long (os error 36)"
  | .denied => "Permission denied (os error 13)"
  | .readOnly => "Read-only file system (os error 30)"
  | .zeroOctet => "file name contained an unexpected NUL byte"

end SyscallTally.Files
