/-!
Contract: the character classes of a settings document, and the white space between its parts.

Readers here and in the modules above take the characters that are left and return what they read
with the characters after it.
-/

set_option autoImplicit false

namespace SyscallTally.Toml

/-- A reader of one construct. -/
abbrev Reader (α : Type) := List Char → Option (α × List Char)

/-- Space and tab, the white space within a line. -/
def isSpace (char : Char) : Bool := char = ' ' || char = '\t'

/-- Whether a character is outside ASCII. -/
def isWide (char : Char) : Bool := 0x80 ≤ char.toNat

/-- Tab, the visible characters of ASCII with the space, and everything outside ASCII: what
comments and strings may hold, as far as a delimiter does not end them. -/
def isPrintable (char : Char) : Bool :=
  char = '\t' || (0x20 ≤ char.toNat && char.toNat ≤ 0x7E) || isWide char

/-- The characters of bare keys. -/
def isBare (char : Char) : Bool :=
  ('A' ≤ char && char ≤ 'Z') || ('a' ≤ char && char ≤ 'z') || ('0' ≤ char && char ≤ '9')
    || char = '_' || char = '-'

/-- What is left after spaces and tabs. -/
def skipSpaces (chars : List Char) : List Char := chars.dropWhile isSpace

/-- What is left after a newline, which is a line feed with or without a carriage return. -/
def newline? : List Char → Option (List Char)
  | '\n' :: rest => some rest
  | '\r' :: '\n' :: rest => some rest
  | _ => none

/-- What is left after a comment, if one starts here. It ends before the first character that it
cannot hold. -/
def skipComment : List Char → List Char
  | '#' :: rest => rest.dropWhile isPrintable
  | chars => chars

/-- What is left after the end of a line: an optional comment, then a newline or nothing more. -/
def lineEnd? (chars : List Char) : Option (List Char) :=
  match skipComment (skipSpaces chars) with
  | [] => some []
  | rest => newline? rest

/-- The number of leading characters that are spaces, tabs or parts of newlines. -/
def blankCount : List Char → Nat
  | ' ' :: rest => blankCount rest + 1
  | '\t' :: rest => blankCount rest + 1
  | '\n' :: rest => blankCount rest + 1
  | '\r' :: '\n' :: rest => blankCount rest + 2
  | _ => 0

/-- What is left after spaces, newlines and comments, as they may stand between the items of an
array. At most the given number of comments is skipped. -/
def skipTriviaWithin : Nat → List Char → List Char
  | 0, chars => chars
  | limit + 1, chars =>
      match chars.drop (blankCount chars) with
      | '#' :: rest =>
          match newline? (rest.dropWhile isPrintable) with
          | some after => skipTriviaWithin limit after
          | none => '#' :: rest
      | rest => rest

/-- What is left after spaces, newlines and comments. A comment takes a character, so their number
is no greater than that of the characters. -/
def skipTrivia (chars : List Char) : List Char := skipTriviaWithin (chars.length + 1) chars

end SyscallTally.Toml
