import SyscallTally.Toml.Values

/-!
Contract: a settings document: its lines, and the table that they build.

Owns:
- `Statement`, what one line says, and the reader of a line;
- `document?`, the table of a whole text.

A line is blank, assigns a value, or is the header of a table; a comment may end any of them. Values
may themselves hold newlines. A document with one bad line, or two that do not agree, is refused as
a whole.
-/

set_option autoImplicit false

namespace SyscallTally.Toml

/-- What one line says. -/
inductive Statement where
  | blank
  | assign (keys : List Key) (item : Item)
  /-- The header of a table. -/
  | table (keys : List Key)
  /-- The header of a further element of an array of tables. -/
  | element (keys : List Key)

/-- A header after its opening bracket or brackets. -/
def header? : Reader Statement
  | '[' :: rest =>
      match keys? rest with
      | some (keys, ']' :: ']' :: rest) => some (.element keys, rest)
      | _ => none
  | chars =>
      match keys? chars with
      | some (keys, ']' :: rest) => some (.table keys, rest)
      | _ => none

/-- What a line says, without its end. -/
def lineBody? (chars : List Char) : Option (Statement × List Char) :=
  match skipSpaces chars with
  | '[' :: rest => header? rest
  | [] => some (.blank, [])
  | char :: rest =>
      if char = '#' ∨ char = '\n' ∨ char = '\r' then some (.blank, char :: rest)
      else
        (assignment? value? (char :: rest)).map fun ((keys, item), rest) =>
          (.assign keys item, rest)

/-- A line with its end. -/
def line? (chars : List Char) : Option (Statement × List Char) :=
  match lineBody? chars with
  | none => none
  | some (statement, rest) => (lineEnd? rest).map fun rest => (statement, rest)

/-- The lines of a text, at most as many as given. -/
def linesWithin : Nat → List Char → Option (List Statement)
  | 0, _ => none
  | _ + 1, [] => some []
  | limit + 1, chars =>
      match line? chars with
      | none => none
      | some (statement, rest) => (linesWithin limit rest).map (statement :: ·)

/-- The lines of a text. Each but the last ends with a newline, so there are no more of them than
characters. -/
def lines? (chars : List Char) : Option (List Statement) :=
  linesWithin (chars.length + 1) chars

/-- A document in the making: its table, and the keys of the header that is in force. -/
structure Draft where
  root : Entries := []
  current : List Key := []

/-- Adds a line to a document. -/
def Draft.add (draft : Draft) : Statement → Option Draft
  | .blank => some draft
  | .assign keys item =>
      (Entries.within (Entries.assign item keys) draft.current draft.root).map fun root =>
        { draft with root }
  | .table keys =>
      (Entries.atLast Entries.openTable keys draft.root).map fun root => ⟨root, keys⟩
  | .element keys =>
      (Entries.atLast Entries.openElement keys draft.root).map fun root => ⟨root, keys⟩

/-- Adds the lines one after the other. -/
def Draft.addAll : List Statement → Draft → Option Draft
  | [], draft => some draft
  | statement :: rest, draft =>
      match draft.add statement with
      | some next => addAll rest next
      | none => none

/-- The characters of a text without the mark that may precede them. -/
def withoutByteOrderMark : List Char → List Char
  | char :: rest => if char = '\uFEFF' then rest else char :: rest
  | [] => []

/-- The table of a document. -/
def document? (text : List Char) : Option Entries :=
  match lines? (withoutByteOrderMark text) with
  | none => none
  | some statements => (Draft.addAll statements {}).map Draft.root

end SyscallTally.Toml
