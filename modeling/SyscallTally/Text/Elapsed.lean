import SyscallTally.Text.Decimal

/-!
Contract: the short text of a span of milliseconds.

A span of a second or more is given in seconds, with up to three decimals and no trailing zero; a
shorter one in milliseconds; an empty one in nanoseconds, the unit of last resort.
-/

set_option autoImplicit false

namespace SyscallTally.Text

/-- The decimals of a count of thousandths, without trailing zeros and with the point. -/
def thousandths (count : Nat) : String :=
  if count = 0 then ""
  else if count % 100 = 0 then "." ++ Decimal.padded 1 (count / 100)
  else if count % 10 = 0 then "." ++ Decimal.padded 2 (count / 10)
  else "." ++ Decimal.padded 3 count

/-- The text of a span of milliseconds: `0ns`, `5ms`, `1.5s`, `2s`. -/
def elapsed (milliseconds : Nat) : String :=
  if milliseconds = 0 then "0ns"
  else if milliseconds < 1000 then Nat.repr milliseconds ++ "ms"
  else Nat.repr (milliseconds / 1000) ++ thousandths (milliseconds % 1000) ++ "s"

end SyscallTally.Text
