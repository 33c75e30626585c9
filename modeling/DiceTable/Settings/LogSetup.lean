import DiceTable.Json.Display
import DiceTable.Log
import DiceTable.Settings.Section
import DiceTable.Text.Uppercase

/-! # Setting up the log

The configuration gives the log a threshold by name, and a file or none. Names are compared in
upper case, and one that names no level stands for the usual threshold.
-/

namespace DiceTable.Settings

structure LogSetup where
  threshold : Nat
  toFile : Bool
  deriving DecidableEq, Repr

def usualThreshold : Nat := LogLevel.info.weight

def thresholdOf (name : String) : Except ConfigError Nat :=
  match Text.upper name with
  | "NOTSET" => .ok 0
  | "DEBUG" => .ok LogLevel.debug.weight
  | "INFO" => .ok LogLevel.info.weight
  | "WARN" | "WARNING" => .ok LogLevel.warning.weight
  | "ERROR" => .ok LogLevel.error.weight
  | "CRITICAL" | "FATAL" => .ok LogLevel.critical.weight
  | "BASIC_FORMAT" => .error .formatAsLevel
  | "_STYLES" => .error .stylesAsLevel
  | _ => .ok usualThreshold

namespace LogSetup

def namesFile (setting : Option Json) : Except ConfigError Bool :=
  match setting with
  | none => .ok false
  | some value =>
    if value.isVoid then .ok false
    else
      match value with
      | .str _ => .ok true
      | value => .error (.unusable .path value.typeName)

def ofConfig (config : Members) : Except ConfigError LogSetup := do
  let logging ← optionalSection config "logging"
  let toFile ← namesFile (logging.get? "file")
  let threshold ← thresholdOf (((logging.get? "level").getD (.str "INFO")).display)
  .ok { threshold, toFile }

def handlers (setup : LogSetup) : List String :=
  "StreamHandler" :: if setup.toFile then ["FileHandler"] else []

/-- The lines that entries leave in the file, each without the time in front of it. -/
def fileLines (setup : LogSetup) (entries : List LogEntry) : List String :=
  (entries.filter fun entry => setup.threshold ≤ entry.level.weight).map fun entry =>
    "[" ++ entry.level.name ++ "] " ++ entry.channel ++ ": " ++ entry.message

end LogSetup

end DiceTable.Settings
