/-!
Contract: the records that the program logs about its own work.
-/

set_option autoImplicit false

namespace SyscallTally

/-- The importance of a record. -/
inductive LogLevel where
  | debug
  | info
  | warn
deriving DecidableEq, Repr

def LogLevel.name : LogLevel → String
  | .debug => "debug"
  | .info => "info"
  | .warn => "warn"

structure LogRecord where
  level : LogLevel
  message : String
deriving DecidableEq, Repr

/-- The record as one line: level, colon, message. -/
def LogRecord.render (entry : LogRecord) : String :=
  entry.level.name ++ ": " ++ entry.message

end SyscallTally
