import SyscallTally.Toml.Strings

/-!
Contract: integers and floats.

Owns:
- integers in four bases, within 64 bits and a sign;
- floats, of which only the form and the range are checked.

Single underscores may stand between digits. A decimal number has no superfluous leading zero, and
only a decimal one has a sign.
-/

set_option autoImplicit false

namespace SyscallTally.Toml

/-- The digits after a first one, underscores removed, and what is left after them. -/
def moreDigits (isDigit : Char → Bool) : List Char → List Char × List Char
  | [] => ([], [])
  | [char] => if isDigit char then ([char], []) else ([], [char])
  | char :: next :: rest =>
      if isDigit char then consRead char (moreDigits isDigit (next :: rest))
      else if char = '_' ∧ isDigit next then consRead next (moreDigits isDigit rest)
      else ([], char :: next :: rest)

/-- One digit or more. -/
def digits? (isDigit : Char → Bool) : Reader (List Char)
  | [] => none
  | char :: rest =>
      if isDigit char then some (consRead char (moreDigits isDigit rest)) else none

/-- Whether a character is a digit of a base, which is at most sixteen. -/
def isDigitOf (base : Nat) (char : Char) : Bool :=
  match hexDigit? char with
  | some digit => digit < base
  | none => false

/-- The number that digits denote in a base. -/
def valueOf (base : Nat) (digits : List Char) : Nat :=
  digits.foldl (fun value char => value * base + (hexDigit? char).getD 0) 0

/-- A sign, if there is one: whether it is a minus. -/
def sign : List Char → Bool × List Char
  | '+' :: rest => (false, rest)
  | '-' :: rest => (true, rest)
  | chars => (false, chars)

/-- The digits of a decimal whole number: a lone zero, or digits of which the first is no zero. -/
def wholeDigits? : Reader (List Char)
  | '0' :: rest => some (['0'], rest)
  | chars => digits? (isDigitOf 10) chars

/-- A decimal whole number with an optional sign, as its sign and its digits. -/
def signedDigits? (chars : List Char) : Option ((Bool × List Char) × List Char) :=
  let (negative, unsigned) := sign chars
  (wholeDigits? unsigned).map fun (digits, rest) => ((negative, digits), rest)

/-! ## Integers -/

/-- The largest integer. -/
def integerLimit : Nat := Nat.pow 2 63 - 1

/-- An integer in a base other than ten, after its two leading characters. -/
def basedInteger? (base : Nat) (chars : List Char) : Option (Int × List Char) :=
  match digits? (isDigitOf base) chars with
  | none => none
  | some (digits, rest) =>
      let value := valueOf base digits
      if value ≤ integerLimit then some ((value : Int), rest) else none

/-- A decimal integer. There is one more negative integer than there are positive ones. -/
def decimalInteger? (chars : List Char) : Option (Int × List Char) :=
  match signedDigits? chars with
  | none => none
  | some ((negative, digits), rest) =>
      let value := valueOf 10 digits
      if negative then
        if value ≤ integerLimit + 1 then some (-(value : Int), rest) else none
      else if value ≤ integerLimit then some ((value : Int), rest)
      else none

def integer? : Reader Int
  | '0' :: 'x' :: rest => basedInteger? 16 rest
  | '0' :: 'o' :: rest => basedInteger? 8 rest
  | '0' :: 'b' :: rest => basedInteger? 2 rest
  | chars => decimalInteger? chars

/-! ## Floats -/

/-- The least number that is rounded to infinity: half-way between the largest float and the next
power of two. -/
def infinityBound : Nat := (Nat.pow 2 54 - 1) * Nat.pow 2 970

/-- Whether `digits · 10 ^ exponent` is rounded to infinity. The number of digits decides unless it
is that of the bound, which has 309. -/
def overflows (digits : Nat) (exponent : Int) : Bool :=
  let magnitude := ((Nat.toDigits 10 digits).length : Int) + exponent
  if digits = 0 then false
  else if magnitude < 309 then false
  else if 309 < magnitude then true
  else if 0 ≤ exponent then infinityBound ≤ digits * Nat.pow 10 exponent.toNat
  else infinityBound * Nat.pow 10 (-exponent).toNat ≤ digits

/-- The decimals of a float, after its whole part. -/
def fraction? : Reader (List Char)
  | '.' :: rest => digits? (isDigitOf 10) rest
  | _ => none

/-- The exponent of a float. -/
def exponent? : Reader Int
  | char :: rest =>
      if char = 'e' ∨ char = 'E' then
        let (negative, unsigned) := sign rest
        (digits? (isDigitOf 10) unsigned).map fun (digits, rest) =>
          ((if negative then -(valueOf 10 digits : Int) else valueOf 10 digits), rest)
      else none
  | [] => none

/-- What is left after a float whose value is finite or, when it is negative, also where it is not:
only a literal that is rounded to positive infinity is refused. -/
def decimalFloat? (chars : List Char) : Option (List Char) :=
  match signedDigits? chars with
  | none => none
  | some ((negative, whole), afterWhole) =>
      let accept (decimals : List Char) (exponent : Int) (rest : List Char) :=
        if !negative && overflows (valueOf 10 (whole ++ decimals)) (exponent - decimals.length)
        then none else some rest
      match fraction? afterWhole with
      | some (decimals, afterFraction) =>
          match exponent? afterFraction with
          | some (exponent, rest) => accept decimals exponent rest
          | none => accept decimals 0 afterFraction
      | none =>
          match exponent? afterWhole with
          | some (exponent, rest) => accept [] exponent rest
          | none => none

/-- What is left after one of the two special floats, with an optional sign. -/
def specialFloat? (chars : List Char) : Option (List Char) :=
  match (sign chars).2 with
  | 'i' :: 'n' :: 'f' :: rest => some rest
  | 'n' :: 'a' :: 'n' :: rest => some rest
  | _ => none

/-- What is left after a float. -/
def float? (chars : List Char) : Option (List Char) :=
  match decimalFloat? chars with
  | some rest => some rest
  | none => specialFloat? chars

end SyscallTally.Toml
