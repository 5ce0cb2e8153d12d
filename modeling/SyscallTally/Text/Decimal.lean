/-!
Contract: whole numbers in decimal.

Owns:
- `digit?`, the value of one decimal digit;
- `ofDigits?`, the number a non-empty run of digits denotes;
- `word?`, the 64-bit numbers as a command line gives them;
- `padded` and `listed`, numbers of a fixed width and rows of numbers.

Writing is `Nat.repr`, which has no sign and no leading zeros.
-/

set_option autoImplicit false

namespace SyscallTally.Text.Decimal

/-- The value of a decimal digit. -/
def digit? (char : Char) : Option Nat :=
  if '0' ≤ char ∧ char ≤ '9' then some (char.toNat - '0'.toNat) else none

/-- Continues a number by further digits; any other character refuses the whole. -/
def continueDigits? (value : Nat) : List Char → Option Nat
  | [] => some value
  | char :: rest =>
      match digit? char with
      | some digit => continueDigits? (value * 10 + digit) rest
      | none => none

/-- The number of a non-empty run of digits. Leading zeros are allowed. -/
def ofDigits? : List Char → Option Nat
  | [] => none
  | digits@(_ :: _) => continueDigits? 0 digits

/-- A number below 2^64, with an optional plus sign. -/
def word? (chars : List Char) : Option UInt64 :=
  let digits := match chars with
    | '+' :: rest => rest
    | _ => chars
  match ofDigits? digits with
  | some value => if value < UInt64.size then some (UInt64.ofNat value) else none
  | none => none

/-- A number with at least the given number of digits, zeros in front. -/
def padded (width value : Nat) : String :=
  let digits := Nat.repr value
  "".pushn '0' (width - digits.length) ++ digits

/-- A row of numbers: commas between them and brackets around. -/
def listed (values : List Nat) : String :=
  "[" ++ ", ".intercalate (values.map Nat.repr) ++ "]"

end SyscallTally.Text.Decimal
