import SyscallTally.Text.Printable
import SyscallTally.Text.Utf8

/-!
Contract: the quoted form of octets, in which messages show a path.

The quoted form is readable and loses nothing: a quotation mark and a backslash are escaped by a
backslash, four common controls have letters, any other character that is not plain is written by
its code, and an octet outside well-formed text by its two hexadecimal digits. An apostrophe stands
for itself.
-/

set_option autoImplicit false

namespace SyscallTally.Text.Quoted

/-- Hexadecimal digits in lower case, without leading zeros. -/
def hexLower (code : Nat) : String := String.ofList (Nat.toDigits 16 code)

/-- A hexadecimal digit in upper case. -/
def hexUpperDigit (digit : Nat) : Char :=
  if digit < 10 then Char.ofNat (0x30 + digit) else Char.ofNat (0x41 + (digit - 10))

/-- A number in hexadecimal with its mark and upper-case digits. -/
def hexUpper (number : Nat) : String :=
  "0x" ++ String.ofList ((Nat.toDigits 16 number).map Char.toUpper)

/-- The escape of one character, or the character itself. -/
def escapeChar (char : Char) : String :=
  if char = '\x22' then "\\\""
  else if char = '\\' then "\\\\"
  else if char = '\n' then "\\n"
  else if char = '\r' then "\\r"
  else if char = '\t' then "\\t"
  else if char = '\x00' then "\\0"
  else if isPlain char then String.singleton char
  else "\\u\x7b" ++ hexLower char.toNat ++ "\x7d"

/-- The escape of an octet outside well-formed text. -/
def escapeOctet (octet : UInt8) : String :=
  String.ofList
    ['\\', 'x', hexUpperDigit (octet.toNat / 16), hexUpperDigit (octet.toNat % 16)]

/-- The quoted form of a piece: each octet of an ill-formed stretch is written separately. -/
def escapePiece : Utf8.Piece → String
  | .scalar char => escapeChar char
  | .broken octets => String.join (octets.map escapeOctet)

/-- The quoted form of octets, quotation marks included. -/
def quote (octets : Octets) : String :=
  "\"" ++ String.join ((Utf8.pieces octets).map escapePiece) ++ "\""

end SyscallTally.Text.Quoted
