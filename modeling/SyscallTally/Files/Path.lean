import SyscallTally.Files.Fault
import SyscallTally.Text.Quoted
import SyscallTally.Text.Segments

/-!
Contract: paths as octets: their names, their parents, their joins.

Two readings of a path are kept apart.

- The operating system walks the names between slashes one by one; `names` lists them.
- A parent is taken from the text alone: the last significant name is cut off, where a lone dot
  counts only at the start of a relative path. The parent of a name by itself is the empty path.
-/

set_option autoImplicit false

namespace SyscallTally.Files

open SyscallTally.Text

/-- A path: octets, of which only the slash and the zero octet are special. -/
abbrev Path := Octets

/-- A name between slashes. -/
abbrev Name := Octets

/-- The octet between names. -/
def slash : UInt8 := 0x2F

/-- The name of the directory that is being walked. -/
def dot : Name := [0x2E]

/-- The name of the directory above. -/
def dotDot : Name := [0x2E, 0x2E]

namespace Path

def ofString (text : String) : Path := Utf8.encode text

/-- Whether the walk starts at the root. -/
def isAbsolute (path : Path) : Bool := path.head? == some slash

/-- Whether the path insists on naming a directory. -/
def endsInSlash (path : Path) : Bool := path.getLast? == some slash

/-- The names that the operating system walks. -/
def names (path : Path) : List Name := tokens (· == slash) path

/-- The longest name that a directory can hold. -/
def nameLimit : Nat := 255

/-- The length from which on a path is refused unseen. -/
def lengthLimit : Nat := 4096

/-- A refusal of the path as such, before any walk. -/
def fault? (path : Path) : Option Fault :=
  if path.contains 0 then some .zeroOctet
  else if path.isEmpty then some .missing
  else if lengthLimit ≤ path.length then some .nameTooLong
  else none

/-- The quoted form in messages. -/
def quoted (path : Path) : String := Quoted.quote path

/-- A path below another: a relative path is appended after a slash, an absolute one replaces. -/
def join (base rest : Path) : Path :=
  if isAbsolute rest then rest
  else if base.isEmpty || endsInSlash base then base ++ rest
  else base ++ slash :: rest

/-! ## Parents -/

/-- Whether a part between slashes counts as a name of the path, at its start or later. -/
def isSignificant (atStart : Bool) (part : Name) : Bool :=
  !part.isEmpty && (atStart || part != dot)

/-- Drops the insignificant parts at the end. -/
def trimParts (relative : Bool) (parts : List Name) : List Name :=
  match parts with
  | [] => []
  | part :: rest =>
      match trimParts false rest with
      | [] => if isSignificant relative part then [part] else []
      | kept => part :: kept

/-- The parts of a path joined by slashes. -/
def ofParts (parts : List Name) : Path := [slash].intercalate parts

/-- The parent of a path, unless it is empty or a root. -/
def parent? (path : Path) : Option Path :=
  let absolute := isAbsolute path
  let parts := segments (· == slash) (if absolute then path.tail else path)
  match trimParts (!absolute) parts with
  | [] => none
  | kept =>
      let parent := ofParts (trimParts (!absolute) kept.dropLast)
      some (if absolute then slash :: parent else parent)

end Path

end SyscallTally.Files
