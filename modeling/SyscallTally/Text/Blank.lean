/-!
Contract: the white space of Unicode, the property White_Space.

It separates the columns of a symbol listing. The twenty-five characters of the property are listed
here; core's `Char.isWhitespace` knows ASCII only and leaves out the vertical tab and form feed.
-/

set_option autoImplicit false

namespace SyscallTally.Text

/-- Whether a character has the property White_Space. -/
def isBlank (char : Char) : Bool :=
  let code := char.toNat
  (0x09 ≤ code && code ≤ 0x0D) || code == 0x20 || code == 0x85 || code == 0xA0
    || code == 0x1680 || (0x2000 ≤ code && code ≤ 0x200A) || code == 0x2028 || code == 0x2029
    || code == 0x202F || code == 0x205F || code == 0x3000

end SyscallTally.Text
