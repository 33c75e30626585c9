import DiceTable.Settings.Error
import DiceTable.Settings.File
import DiceTable.Settings.Merge
import DiceTable.Settings.Placeholder

/-! # The configuration

The configuration is the default one with the resolved content of the configuration file laid over
it. It is kept once it is loaded, and only a load from a given path or a reset looks at the file
and the environment again. A load that fails leaves what is kept as it was.
-/

namespace DiceTable.Settings

/-- What the configuration says where the file says nothing. -/
def defaults : Members :=
  [("server", .obj [("host", .str "127.0.0.1"), ("port", .int 8040)]),
    ("dice", .obj [("max_expression_length", .int 200), ("max_dice", .int 1000)]),
    ("memory", .obj [("max_entries", .int 1000)]),
    ("notifier", .obj [("webhook_url", .str "")]),
    ("logging", .obj [("level", .str "INFO"), ("file", .str "")])]

/-- The configuration that a file makes, where there is one. A void file counts as an empty
mapping. -/
def ofFile (environment : Environment) (file : Option Json) : Except ConfigError Members :=
  match file with
  | none => .ok defaults
  | some content =>
    if content.isVoid then .ok defaults
    else
      match resolve environment content with
      | .obj members => .ok (merge defaults members)
      | value => .error (.notMapping value.typeName)

/-- What loading the configuration depends on, and the configuration that is kept. -/
structure Loader where
  environment : Environment := []
  /-- What the file holds, where there is one. -/
  file : Option Json := none
  kept : Option Members := none
  deriving Repr

namespace Loader

/-- Reads a file and keeps the configuration it makes. -/
def read (loader : Loader) (file : Option Json) : Except ConfigError Members × Loader :=
  match ofFile loader.environment file with
  | .ok config => (.ok config, { loader with kept := some config })
  | .error error => (.error error, loader)

/-- Loads the configuration of a path, whatever is kept. -/
def loadPath (loader : Loader) : Except ConfigError Members × Loader :=
  loader.read loader.file

/-- The configuration that is kept, or else that of the file. -/
def load (loader : Loader) : Except ConfigError Members × Loader :=
  match loader.kept with
  | some config => (.ok config, loader)
  | none => loader.read loader.file

/-- The configuration that is kept, which is loaded first where there is none. -/
def get (loader : Loader) : Except ConfigError Members × Loader :=
  match loader.kept with
  | some config => (.ok config, loader)
  | none => loader.load

def reset (loader : Loader) : Loader :=
  { loader with kept := none }

def setVariable (loader : Loader) (name value : String) : Loader :=
  { loader with environment := (name, value) :: loader.environment }

def setFile (loader : Loader) (written : Option Json) : Loader :=
  { loader with file := written.map fileValue }

end Loader

end DiceTable.Settings
