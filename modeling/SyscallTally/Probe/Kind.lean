/-!
Contract: the two kinds of probe and the programs behind them.

A probe of kind `hello` logs a fixed message on every occurrence, so its only output is the kernel
log. One of kind `count` counts occurrences per user id in a table and needs no log.
-/

set_option autoImplicit false

namespace SyscallTally.Probe

inductive Kind where
  | hello
  | count
deriving DecidableEq, Repr

/-- The name of the program that logs a fixed message. -/
def helloProgram : String := "hello"

/-- The name of the program that counts per user id. -/
def countProgram : String := "count_execve"

/-- The name of the table that the counting program owns. -/
def counterTable : String := "COUNTER_TABLE"

/-- The program selected for a run and the table it owns, if any. -/
structure Artifact where
  program : String
  table : Option String
  /-- The kernel log is the program's only output. -/
  needsLogger : Bool
deriving DecidableEq, Repr

namespace Kind

/-- The name of a kind, as settings and command lines give it. -/
def name : Kind → String
  | .hello => "hello"
  | .count => "count"

def ofName? (name : String) : Option Kind :=
  if name = "hello" then some .hello
  else if name = "count" then some .count
  else none

/-- Every kind is found under its name. -/
theorem ofName?_name (kind : Kind) : ofName? kind.name = some kind := by
  cases kind <;> decide

/-- The message about a name that names no kind. -/
def unknownMessage (name : String) : String :=
  "unknown probe kind `" ++ name ++ "`, expected `hello` or `count`"

/-- The program and table of a kind. -/
def artifact : Kind → Artifact
  | .hello => ⟨helloProgram, none, true⟩
  | .count => ⟨countProgram, some counterTable, false⟩

/-- The kind whose program has the given name. -/
def ofProgram? (program : String) : Option Kind :=
  if program = helloProgram then some .hello
  else if program = countProgram then some .count
  else none

end Kind

end SyscallTally.Probe
