import SyscallTally.Text.Quoted

/-!
Contract: the written form of a text, and of an assignment.

Owns:
- `Style`, the five forms, and `styleOf`, the choice among them;
- `written`, the text in its form.

## The choice

The plainest form that holds the text without escapes is taken: basic, then literal, then basic on
several lines, then literal on several lines. A text that none of them holds is escaped. Control
characters, of which tab and newline are none here, always need escapes.

In a form on several lines a newline stands for itself, and one follows the opening if the text has
any. In the basic form on several lines a quotation mark needs an escape only where it would be the
third in a row.
-/

set_option autoImplicit false

namespace SyscallTally.Toml

/-- Whether a character needs an escape wherever it stands. Tab and newline do not count. -/
def isControl (char : Char) : Bool :=
  (char.toNat < 0x20 && char != '\t' && char != '\n') || char.toNat == 0x7F

/-- Whether a mark occurs three times in a row. -/
def hasTriple (mark : Char) : List Char → Bool
  | first :: second :: third :: rest =>
      (first == mark && second == mark && third == mark)
        || hasTriple mark (second :: third :: rest)
  | _ => false

/-- The forms of a written text. -/
inductive Style where
  | basic
  | literal
  | basicLines
  | literalLines
deriving DecidableEq, Repr

/-- The form of a text: the first that holds it without escapes, else a basic one. -/
def styleOf (text : List Char) : Style :=
  let control := text.any isControl
  let newline := text.contains '\n'
  if !control && !text.contains '\\' && !text.contains '"' && !newline then .basic
  else if !control && !text.contains '\'' && !newline then .literal
  else if !control && !text.contains '\\' && !hasTriple '"' text then .basicLines
  else if !control && !hasTriple '\'' text then .literalLines
  else if newline then .basicLines
  else .basic

/-- The four digits of a code below 65536. -/
def fourHex (code : Nat) : List Char :=
  [code / 4096 % 16, code / 256 % 16, code / 16 % 16, code % 16].map Text.Quoted.hexUpperDigit

/-- The escape of a character other than a quotation mark, or the character itself. -/
def escaped (char : Char) : List Char :=
  if char = '\\' then ['\\', '\\']
  else if char = '\x08' then ['\\', 'b']
  else if char = '\t' then ['\\', 't']
  else if char = '\x0C' then ['\\', 'f']
  else if char = '\r' then ['\\', 'r']
  else if isControl char then '\\' :: 'u' :: fourHex char.toNat
  else [char]

/-- The inside of a basic string on one line. -/
def basicInside : List Char → List Char
  | [] => []
  | char :: rest =>
      if char = '"' then '\\' :: '"' :: basicInside rest
      else if char = '\n' then '\\' :: 'n' :: basicInside rest
      else escaped char ++ basicInside rest

/-- The inside of a basic string on several lines, after a run of the given number of quotation
marks. An escape ends a run. -/
def basicLinesInside : Nat → List Char → List Char
  | _, [] => []
  | run, char :: rest =>
      if char = '"' then
        if run < 2 then '"' :: basicLinesInside (run + 1) rest
        else '\\' :: '"' :: basicLinesInside 0 rest
      else if char = '\n' then '\n' :: basicLinesInside 0 rest
      else escaped char ++ basicLinesInside 0 rest

/-- The newline after the opening of a form on several lines. -/
def opening (text : List Char) : List Char := if text.contains '\n' then ['\n'] else []

/-- A text in a given form. -/
def writtenAs (style : Style) (text : List Char) : List Char :=
  match style with
  | .basic => '"' :: basicInside text ++ ['"']
  | .literal => '\'' :: text ++ ['\'']
  | .basicLines =>
      ['"', '"', '"'] ++ opening text ++ basicLinesInside 0 text ++ ['"', '"', '"']
  | .literalLines => ['\'', '\'', '\''] ++ opening text ++ text ++ ['\'', '\'', '\'']

/-- The written form of a text. -/
def written (text : List Char) : List Char := writtenAs (styleOf text) text

/-- A line that assigns a written value to a bare key. -/
def assignmentLine (key value : List Char) : List Char :=
  key ++ [' ', '=', ' '] ++ value ++ ['\n']

end SyscallTally.Toml
