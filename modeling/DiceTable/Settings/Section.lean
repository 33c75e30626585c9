import DiceTable.Limit
import DiceTable.Settings.Config

/-! # Looking into a configuration

Sections and keys that may be missing have defaults; those that must not be missing are errors.
`ServiceSettings.ofConfig` takes from a configuration what a roll service is built from. Limits on
dice and characters may be of any type there, whereas a limit on the memory has to be a number.
-/

namespace DiceTable

namespace Settings

def optionalSection (config : Members) (key : String) : Except ConfigError Members :=
  match config.get? key with
  | none => .ok []
  | some (.obj members) => .ok members
  | some value => .error (.noSection value.typeName)

/-- A section that must not be missing, and whose keys may be. -/
def requiredSection (config : Members) (key : String) : Except ConfigError Members :=
  match config.get? key with
  | none => .error (.missing key)
  | some (.obj members) => .ok members
  | some value => .error (.noSection value.typeName)

/-- A value that must not be missing, of a section that must not be missing. -/
def required (config : Members) (sectionKey key : String) : Except ConfigError Json :=
  match config.get? sectionKey with
  | none => .error (.missing sectionKey)
  | some (.obj members) =>
    match Members.get? members key with
    | none => .error (.missing key)
    | some value => .ok value
  | some value => .error (.noKeys value.typeName)

def limitOr (members : Members) (key : String) (default : Limit) : Limit :=
  match members.get? key with
  | none => default
  | some value => ⟨value⟩

/-- A URL, which is empty where the value is void or missing. -/
def optionalUrl (members : Members) (key : String) : Except ConfigError String :=
  match members.get? key with
  | none => .ok ""
  | some (.str text) => .ok text
  | some value => if value.isVoid then .ok "" else .error (.unusable .url value.typeName)

/-- A limit as the log shows it, without a fraction. The log has no entry for one that it cannot
show. -/
def loggedNumber? (limit : Limit) : Option Int :=
  match limit.setting with
  | .float x => if x.isFinite then some x.truncated else none
  | _ => limit.whole?.filter (Decimal.isShort Decimal.digitLimit)

def limitFromOne (limit : Limit) : Except ConfigError Limit :=
  match limit.atLeastOne? with
  | none => .error (.unusable .limit limit.setting.typeName)
  | some limit => .ok limit

end Settings

structure ServiceSettings where
  diceLimit : Limit := 1000
  lengthLimit : Limit := 200
  memoryLimit : Limit := 1000
  webhookUrl : String := ""
  deriving Repr

namespace ServiceSettings

open Settings

def ofConfig (config : Members) : Except ConfigError ServiceSettings := do
  let dice ← optionalSection config "dice"
  let diceLimit := limitOr dice "max_dice" 1000
  let memory ← optionalSection config "memory"
  let memoryLimit ← limitFromOne (limitOr memory "max_entries" 1000)
  let notifier ← optionalSection config "notifier"
  let webhookUrl ← optionalUrl notifier "webhook_url"
  .ok { diceLimit
        lengthLimit := limitOr dice "max_expression_length" 200
        memoryLimit
        webhookUrl }

end ServiceSettings

end DiceTable
