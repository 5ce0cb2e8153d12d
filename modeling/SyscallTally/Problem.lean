import SyscallTally.Files.Fault
import SyscallTally.Probe.Failure

/-!
Contract: what a command can end with instead of success.

Owns:
- `Cause`, the first thing that went wrong;
- `Problem`, a cause with the contexts added on its way out;
- the diagnostic and the exit code of a problem.

Contexts explain; they never change the exit code, which is that of the cause.
-/

set_option autoImplicit false

namespace SyscallTally

/-- The first thing that went wrong. -/
inductive Cause where
  /-- A step of a probe's life failed. -/
  | probe (failure : Probe.Failure)
  /-- The polling interval of a session or of saved settings is zero. -/
  | zeroInterval
  /-- There is no home directory and no other place for the settings. -/
  | noHome
  /-- The polling interval does not fit a signed 64-bit number. -/
  | intervalOutOfRange
  /-- A path to be saved is not text. -/
  | pathNotText
  /-- A file operation was refused. -/
  | file (fault : Files.Fault)
  /-- The contents of a file are not text. -/
  | notText
  /-- The output refused a report. -/
  | output (text : String)
  /-- Any other cause, by its text. -/
  | other (text : String)
deriving DecidableEq, Repr

/-- The text of a cause. -/
def Cause.message : Cause → String
  | .probe failure => failure.message
  | .zeroInterval => "polling interval must be greater than zero"
  | .noHome => "Failed to locate home directory"
  | .intervalOutOfRange => "out-of-range value for u64 type"
  | .pathNotText => "path contains invalid UTF-8 characters"
  | .file fault => fault.message
  | .notText => "stream did not contain valid UTF-8"
  | .output text => text
  | .other text => text

/-- A cause and the contexts added to it, the outermost first. -/
structure Problem where
  cause : Cause
  contexts : List String := []
deriving DecidableEq, Repr

namespace Problem

/-- A failed step of a probe, without context. -/
def ofFailure (failure : Probe.Failure) : Problem := ⟨.probe failure, []⟩

/-- Adds an outermost context. -/
def within (context : String) (problem : Problem) : Problem :=
  { problem with contexts := context :: problem.contexts }

/-- The outermost message alone. -/
def headline (problem : Problem) : String :=
  problem.contexts.headD problem.cause.message

/-- All messages, outermost first. -/
def chain (problem : Problem) : String :=
  ": ".intercalate (problem.contexts ++ [problem.cause.message])

/-- The failed step at the bottom, if that is what went wrong. -/
def failure? (problem : Problem) : Option Probe.Failure :=
  match problem.cause with
  | .probe failure => some failure
  | _ => none

/-- The exit code: that of the failed step, and 1 for every other cause. -/
def exitCode (problem : Problem) : Nat :=
  match problem.failure? with
  | some failure => failure.exitCode
  | none => 1

@[simp] theorem exitCode_within (context : String) (problem : Problem) :
    (problem.within context).exitCode = problem.exitCode := rfl

/-- The line that the program leaves behind. A failed step is named and its contexts are left out;
any other problem is told with all its contexts. -/
def diagnostic (problem : Problem) : String :=
  match problem.failure? with
  | some failure => "Error during " ++ failure.step ++ ": " ++ failure.message
  | none => "Error: " ++ problem.chain

end Problem

end SyscallTally
