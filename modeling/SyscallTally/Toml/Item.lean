/-!
Contract: the values of a settings document, and the rules by which its lines build tables.

Owns:
- `Item`, a value or a table, where floats and moments keep no content because no setting uses them;
- the three ways in which a line changes a table: an assignment under dotted keys, the header of a
  table, the header of an array of tables.

Does not own: how a line is read.

## Who may define a table

A table is defined once. What may be added to it later depends on how it came to be:

- one that its own header or the document has opened takes no second header;
- one that a longer header has passed through may still be opened by its own header;
- one that dotted keys have made takes further dotted keys and no header;
- an inline table takes nothing.

Dotted keys go only through passed and dotted tables and end in a dotted one. Headers go through any
table, and in an array of tables through its last element.
-/

set_option autoImplicit false

namespace SyscallTally.Toml

/-- A key, after its quotes and escapes are removed. -/
abbrev Key := List Char

/-- How a table came to be. -/
inductive Origin where
  | opened
  | passed
  | dotted
  | inline
deriving DecidableEq, Repr

/-- Whether dotted keys may go through a table, and end in it if it is the last of them. -/
def Origin.admitsDotted (origin : Origin) (isLast : Bool) : Bool :=
  match origin with
  | .dotted => true
  | .passed => !isLast
  | _ => false

/-- What a key can stand for. -/
inductive Item where
  | text (content : List Char)
  | integer (value : Int)
  | boolean (value : Bool)
  | float
  | moment
  | array (items : List Item)
  | table (origin : Origin) (entries : List (Key × Item))
  /-- An array of tables that headers have opened; never empty. -/
  | tables (elements : List (List (Key × Item)))
deriving Repr

/-- The contents of a table, in the order of definition. No key occurs twice. -/
abbrev Entries := List (Key × Item)

namespace Entries

/-- Replaces what a key stands for. -/
def replace (key : Key) (item : Item) (entries : Entries) : Entries :=
  entries.map fun entry => if entry.1 = key then (key, item) else entry

/-- Changes the last element of an array of tables. -/
def changeLast (change : Entries → Option Entries) (elements : List Entries) :
    Option (List Entries) :=
  match elements.getLast? with
  | none => none
  | some last => (change last).map fun changed => elements.dropLast ++ [changed]

/-- Assigns an item under dotted keys. -/
def assign (item : Item) : List Key → Entries → Option Entries
  | [], _ => none
  | [key], entries =>
      if (entries.lookup key).isSome then none else some (entries ++ [(key, item)])
  | key :: next :: rest, entries =>
      match entries.lookup key with
      | none =>
          (assign item (next :: rest) []).map fun inner =>
            entries ++ [(key, .table .dotted inner)]
      | some (.table origin inner) =>
          if origin.admitsDotted rest.isEmpty then
            (assign item (next :: rest) inner).map fun changed =>
              replace key (.table origin changed) entries
          else none
      | some (.tables elements) =>
          if rest.isEmpty then none
          else
            (changeLast (assign item (next :: rest)) elements).map fun changed =>
              replace key (.tables changed) entries
      | some _ => none

/-- Changes the table that a header names, passing through those on the way. -/
def within (change : Entries → Option Entries) : List Key → Entries → Option Entries
  | [], entries => change entries
  | key :: rest, entries =>
      match entries.lookup key with
      | none =>
          (within change rest []).map fun inner => entries ++ [(key, .table .passed inner)]
      | some (.table .inline _) => none
      | some (.table origin inner) =>
          (within change rest inner).map fun changed =>
            replace key (.table origin changed) entries
      | some (.tables elements) =>
          (changeLast (within change rest) elements).map fun changed =>
            replace key (.tables changed) entries
      | some _ => none

/-- Opens the table of a header in the table above it. -/
def openTable (key : Key) (entries : Entries) : Option Entries :=
  match entries.lookup key with
  | none => some (entries ++ [(key, .table .opened [])])
  | some (.table .passed inner) => some (replace key (.table .opened inner) entries)
  | some _ => none

/-- Opens a further element of an array of tables in the table above it. -/
def openElement (key : Key) (entries : Entries) : Option Entries :=
  match entries.lookup key with
  | none => some (entries ++ [(key, .tables [[]])])
  | some (.tables elements) => some (replace key (.tables (elements ++ [[]])) entries)
  | some _ => none

/-- Applies a change of the table above to the last of the given keys. -/
def atLast (change : Key → Entries → Option Entries) (keys : List Key) (entries : Entries) :
    Option Entries :=
  match keys.getLast? with
  | none => none
  | some key => within (change key) keys.dropLast entries

end Entries

end SyscallTally.Toml
