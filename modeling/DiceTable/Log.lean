/-! # Log entries -/

namespace DiceTable

inductive LogLevel where
  | debug
  | info
  | warning
  | error
  | critical
  deriving DecidableEq, Repr

def LogLevel.name : LogLevel → String
  | .debug => "DEBUG"
  | .info => "INFO"
  | .warning => "WARNING"
  | .error => "ERROR"
  | .critical => "CRITICAL"

/-- The weight of a level: an entry is kept where the threshold is at most its weight. -/
def LogLevel.weight : LogLevel → Nat
  | .debug => 10
  | .info => 20
  | .warning => 30
  | .error => 40
  | .critical => 50

/-- One entry of the log; `channel` is the part of the program that wrote it. -/
structure LogEntry where
  level : LogLevel
  channel : String
  message : String
  deriving DecidableEq, Repr

end DiceTable
