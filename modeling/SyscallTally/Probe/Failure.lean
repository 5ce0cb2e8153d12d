/-!
Contract: the four steps of a probe's life at which it can fail, and what a failure says.

Every failure points at the environment (kernel, privileges, settings) and ends the program. The
exit code names the step.
-/

set_option autoImplicit false

namespace SyscallTally.Probe

/-- A failed step, with the names it concerns and the reason. -/
inductive Failure where
  | resolution (event reason : String)
  | attachment (program target reason : String)
  | tableRead (table reason : String)
  | detachment (program reason : String)
deriving DecidableEq, Repr

namespace Failure

/-- The text of a failure. -/
def message : Failure → String
  | .resolution event reason => "failed to resolve event `" ++ event ++ "`: " ++ reason
  | .attachment program target reason =>
      "failed to attach `" ++ program ++ "` to `" ++ target ++ "`: " ++ reason
  | .tableRead table reason => "failed to read table `" ++ table ++ "`: " ++ reason
  | .detachment program reason => "failed to detach `" ++ program ++ "`: " ++ reason

/-- The name of the step that failed. -/
def step : Failure → String
  | .resolution _ _ => "resolve"
  | .attachment _ _ _ => "attach"
  | .tableRead _ _ => "read table"
  | .detachment _ _ => "detach"

/-- The exit code of the step that failed. Code 1 is left for every other failure. -/
def exitCode : Failure → Nat
  | .resolution _ _ => 2
  | .attachment _ _ _ => 3
  | .tableRead _ _ => 4
  | .detachment _ _ => 5

end Failure

end SyscallTally.Probe
