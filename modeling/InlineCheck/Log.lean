/-! # Log records

What the library tells about its own working, by source, level and message.
-/

namespace InlineCheck

/-- How serious a log record is. -/
inductive Level where
  | debug
  | info
  | warning
  | error
  deriving DecidableEq, Repr

namespace Level

def rank : Level → Nat
  | .debug => 10
  | .info => 20
  | .warning => 30
  | .error => 40

def name : Level → String
  | .debug => "DEBUG"
  | .info => "INFO"
  | .warning => "WARNING"
  | .error => "ERROR"

end Level

structure LogRecord where
  source : String
  level : Level
  message : String
  deriving DecidableEq, Repr

/-- A value together with the log records made on the way to it. -/
structure Logged (α : Type) where
  value : α
  log : List LogRecord := []
  deriving Repr

end InlineCheck
