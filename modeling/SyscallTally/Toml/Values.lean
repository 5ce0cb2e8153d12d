import SyscallTally.Toml.Item
import SyscallTally.Toml.Moments
import SyscallTally.Toml.Numbers

/-!
Contract: values, and the assignments that hold them.

Owns:
- keys in dotted form;
- values of every kind, arrays and inline tables included.

Arrays and inline tables nest to a bounded depth; the depth that is left is what the recursion of
`value?` is on. The readers of one array or table are given the reader of the values in it.
-/

set_option autoImplicit false

namespace SyscallTally.Toml

/-- The depth from which on arrays and inline tables are refused, and the number of dotted keys
likewise. -/
def depthLimit : Nat := 80

/-! ## Dotted keys -/

/-- A dotted key whose first key is read next; at most the given number of keys is read. -/
def keysWithin : Nat → Reader (List Key)
  | 0, _ => none
  | limit + 1, chars =>
      match key? (skipSpaces chars) with
      | none => none
      | some (key, rest) =>
          match skipSpaces rest with
          | '.' :: rest => (keysWithin limit rest).map fun (keys, rest) => (key :: keys, rest)
          | rest => some ([key], rest)

/-- A dotted key, with the spaces around it and around its dots. -/
def keys? : Reader (List Key) := keysWithin (depthLimit - 1)

/-! ## Arrays and inline tables -/

/-- The items of an array up to its closing bracket. A comma may follow the last. -/
def arrayItems (item? : Reader Item) : Nat → Reader (List Item)
  | 0, _ => none
  | limit + 1, chars =>
      match skipTrivia chars with
      | ']' :: rest => some ([], rest)
      | start =>
          match item? start with
          | none => none
          | some (item, rest) =>
              match skipTrivia rest with
              | ',' :: rest =>
                  (arrayItems item? limit rest).map fun (items, rest) => (item :: items, rest)
              | ']' :: rest => some ([item], rest)
              | _ => none

/-- An assignment: a dotted key, an equals sign, a value. -/
def assignment? (item? : Reader Item) (chars : List Char) :
    Option ((List Key × Item) × List Char) :=
  match keys? chars with
  | some (keys, '=' :: rest) =>
      (item? (skipSpaces rest)).map fun (item, rest) => ((keys, item), rest)
  | _ => none

/-- The assignments of an inline table up to its closing brace, added to the given entries. There is
at least one, and no comma after the last. -/
def inlineEntries (item? : Reader Item) : Nat → Entries → Reader Entries
  | 0, _, _ => none
  | limit + 1, entries, chars =>
      match assignment? item? chars with
      | none => none
      | some ((keys, item), rest) =>
          match Entries.assign item keys entries with
          | none => none
          | some entries =>
              match skipSpaces rest with
              | ',' :: rest => inlineEntries item? limit entries rest
              | '\x7d' :: rest => some (entries, rest)
              | _ => none

/-- An inline table after its opening brace. -/
def inlineTable? (item? : Reader Item) (chars : List Char) : Option (Item × List Char) :=
  match skipSpaces chars with
  | '\x7d' :: rest => some (.table .inline [], rest)
  | start =>
      (inlineEntries item? start.length [] start).map fun (entries, rest) =>
        (.table .inline entries, rest)

/-! ## Values -/

/-- A truth value. -/
def boolean? : Reader Bool
  | 't' :: 'r' :: 'u' :: 'e' :: rest => some (true, rest)
  | 'f' :: 'a' :: 'l' :: 's' :: 'e' :: rest => some (false, rest)
  | _ => none

/-- A moment, a float or an integer. The longer forms are tried first, since a date and a float
start like an integer. -/
def number? (chars : List Char) : Option (Item × List Char) :=
  match moment? chars with
  | some rest => some (.moment, rest)
  | none =>
      match float? chars with
      | some rest => some (.float, rest)
      | none => (integer? chars).map fun (value, rest) => (.integer value, rest)

/-- A value without parts. -/
def scalarValue? (chars : List Char) : Option (Item × List Char) :=
  match string? chars with
  | some (content, rest) => some (.text content, rest)
  | none =>
      match boolean? chars with
      | some (value, rest) => some (.boolean value, rest)
      | none => number? chars

/-- A value in which arrays and inline tables nest no deeper than given. -/
def valueWithin : Nat → Reader Item
  | 0, chars => scalarValue? chars
  | depth + 1, chars =>
      match chars with
      | '[' :: rest =>
          (arrayItems (valueWithin depth) chars.length rest).map fun (items, rest) =>
            (.array items, rest)
      | '\x7b' :: rest => inlineTable? (valueWithin depth) rest
      | _ => scalarValue? chars

def value? : Reader Item := valueWithin (depthLimit - 1)

end SyscallTally.Toml
