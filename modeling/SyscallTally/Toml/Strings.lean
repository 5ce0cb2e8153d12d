import SyscallTally.Toml.Characters

/-!
Contract: the four kinds of string.

Owns: reading basic and literal strings, on one line or on several, with their escapes.

Does not own: which kind a value is written in; see the writer.

## The end of a string on several lines

Three quotation marks in a row end it. Up to two further ones directly before the end belong to the
text, so a run of three to five marks leaves none, one or two in it.
-/

set_option autoImplicit false

namespace SyscallTally.Toml

/-- The value of a hexadecimal digit. -/
def hexDigit? (char : Char) : Option Nat :=
  if '0' ≤ char ∧ char ≤ '9' then some (char.toNat - '0'.toNat)
  else if 'a' ≤ char ∧ char ≤ 'f' then some (char.toNat - 'a'.toNat + 10)
  else if 'A' ≤ char ∧ char ≤ 'F' then some (char.toNat - 'A'.toNat + 10)
  else none

/-- The number that the given count of hexadecimal digits denotes. -/
def hexNumber? : Nat → Nat → List Char → Option Nat
  | 0, value, _ => some value
  | _ + 1, _, [] => none
  | count + 1, value, char :: rest =>
      match hexDigit? char with
      | some digit => hexNumber? count (value * 16 + digit) rest
      | none => none

/-- The character of a code, unless it is a surrogate or past the last character. -/
def scalar? (code : Nat) : Option Char :=
  if code < 0xD800 ∨ (0xDFFF < code ∧ code < 0x110000) then some (Char.ofNat code) else none

/-- The character that an escape stands for, and how many characters it takes after the
backslash. -/
def escape? : List Char → Option (Char × Nat)
  | 'b' :: _ => some ('\x08', 1)
  | 't' :: _ => some ('\t', 1)
  | 'n' :: _ => some ('\n', 1)
  | 'f' :: _ => some ('\x0C', 1)
  | 'r' :: _ => some ('\r', 1)
  | '"' :: _ => some ('"', 1)
  | '\\' :: _ => some ('\\', 1)
  | 'u' :: rest => ((hexNumber? 4 0 rest).bind scalar?).map fun char => (char, 5)
  | 'U' :: rest => ((hexNumber? 8 0 rest).bind scalar?).map fun char => (char, 9)
  | _ => none

/-- How many characters a line continuation takes after the backslash: spaces, a newline, and all
spaces and newlines after it. -/
def continuation? (chars : List Char) : Option Nat :=
  let spaces := (chars.takeWhile isSpace).length
  match newline? (chars.drop spaces) with
  | some _ => some (blankCount chars)
  | none => none

/-- Puts a character in front of a string that has been read. -/
def consRead (char : Char) (read : List Char × List Char) : List Char × List Char :=
  (char :: read.1, read.2)

/-- The rest of a basic string on one line, after skipping characters that an escape has taken. -/
def basicBody : Nat → Reader (List Char)
  | _, [] => none
  | skipped + 1, _ :: rest => basicBody skipped rest
  | 0, char :: rest =>
      if char = '"' then some ([], rest)
      else if char = '\\' then
        match escape? rest with
        | some (escaped, taken) => (basicBody taken rest).map (consRead escaped)
        | none => none
      else if isPrintable char then (basicBody 0 rest).map (consRead char)
      else none

/-- The rest of a literal string on one line. -/
def literalBody : Reader (List Char)
  | [] => none
  | char :: rest =>
      if char = '\'' then some ([], rest)
      else if isPrintable char then (literalBody rest).map (consRead char)
      else none

/-- The length of the run of a mark at the front. -/
def runLength (mark : Char) (chars : List Char) : Nat := (chars.takeWhile (· = mark)).length

/-- The end of a string on several lines at a run of marks of the given length, which is at least
three: the marks that belong to the text, and what is left. -/
def closeRun (mark : Char) (length : Nat) (chars : List Char) : List Char × List Char :=
  let kept := min 2 (length - 3)
  (List.replicate kept mark, chars.drop (kept + 3))

/-- The rest of a basic string on several lines, after skipping characters that an escape or a
newline has taken. A newline of two characters counts as a line feed. -/
def basicLines : Nat → Reader (List Char)
  | _, [] => none
  | skipped + 1, _ :: rest => basicLines skipped rest
  | 0, char :: rest =>
      if char = '"' then
        let length := runLength '"' (char :: rest)
        if 3 ≤ length then some (closeRun '"' length (char :: rest))
        else (basicLines 0 rest).map (consRead '"')
      else if char = '\\' then
        match escape? rest with
        | some (escaped, taken) => (basicLines taken rest).map (consRead escaped)
        | none =>
            match continuation? rest with
            | some taken => basicLines taken rest
            | none => none
      else if char = '\n' then (basicLines 0 rest).map (consRead '\n')
      else if char = '\r' then
        if rest.head? = some '\n' then (basicLines 1 rest).map (consRead '\n') else none
      else if isPrintable char then (basicLines 0 rest).map (consRead char)
      else none

/-- The rest of a literal string on several lines. -/
def literalLines : Nat → Reader (List Char)
  | _, [] => none
  | skipped + 1, _ :: rest => literalLines skipped rest
  | 0, char :: rest =>
      if char = '\'' then
        let length := runLength '\'' (char :: rest)
        if 3 ≤ length then some (closeRun '\'' length (char :: rest))
        else (literalLines 0 rest).map (consRead '\'')
      else if char = '\n' then (literalLines 0 rest).map (consRead '\n')
      else if char = '\r' then
        if rest.head? = some '\n' then (literalLines 1 rest).map (consRead '\n') else none
      else if isPrintable char then (literalLines 0 rest).map (consRead char)
      else none

/-- What is left after the newline that may follow the opening of a string on several lines. -/
def trimFirstLine (chars : List Char) : List Char := (newline? chars).getD chars

/-- A string of any kind. -/
def string? : Reader (List Char)
  | '"' :: '"' :: '"' :: rest => basicLines 0 (trimFirstLine rest)
  | '"' :: rest => basicBody 0 rest
  | '\'' :: '\'' :: '\'' :: rest => literalLines 0 (trimFirstLine rest)
  | '\'' :: rest => literalBody rest
  | _ => none

/-- A key: bare characters, or a string on one line. -/
def key? : Reader (List Char)
  | '"' :: rest => basicBody 0 rest
  | '\'' :: rest => literalBody rest
  | chars =>
      let bare := chars.takeWhile isBare
      if bare.isEmpty then none else some (bare, chars.drop bare.length)

end SyscallTally.Toml
