import DiceTable.Settings.LogFormat

/-! # What can be wrong with a configuration

A configuration may hold values of any type. `ConfigError` has one constructor for each way in which
a value turns out to be of no use, and `ConfigError.message` puts it in words.
-/

namespace DiceTable.Settings

inductive ValueUse where
  /-- A limit that has to be at least one. -/
  | limit
  | url
  /-- A text that another one goes on with. -/
  | appendedText
  | path
  deriving DecidableEq, Repr

inductive ConfigError where
  /-- The file holds neither a mapping nor a void value. -/
  | notMapping (typeName : String)
  /-- Something that is no mapping stands where a section is looked into. -/
  | noSection (typeName : String)
  /-- Something that is no mapping stands where a key is required of a section. -/
  | noKeys (typeName : String)
  /-- A key that has to be there is missing. -/
  | missing (key : String)
  /-- A value has a type that is of no use. -/
  | unusable (use : ValueUse) (typeName : String)
  /-- The name of the format of entries stands in the place of a level of the log. -/
  | formatAsLevel
  /-- The name of the table of styles stands in the place of a level of the log. -/
  | stylesAsLevel
  deriving DecidableEq, Repr

def ConfigError.message : ConfigError → String
  | .notMapping typeName => "'" ++ typeName ++ "' object has no attribute 'items'"
  | .noSection typeName => "'" ++ typeName ++ "' object has no attribute 'get'"
  | .noKeys "list" => "list indices must be integers or slices, not str"
  | .noKeys "str" => "string indices must be integers, not 'str'"
  | .noKeys typeName => "'" ++ typeName ++ "' object is not subscriptable"
  | .missing key => "'" ++ key ++ "'"
  | .unusable .limit typeName =>
    "'>' not supported between instances of '" ++ typeName ++ "' and 'int'"
  | .unusable .url typeName => "'" ++ typeName ++ "' object has no attribute 'rstrip'"
  | .unusable .appendedText typeName =>
    "can only concatenate str (not \"" ++ typeName ++ "\") to str"
  | .unusable .path typeName => "expected str, bytes or os.PathLike object, not " ++ typeName
  | .formatAsLevel => "Unknown level: '" ++ usualFormat ++ "'"
  | .stylesAsLevel => "Level not an integer or a valid string: " ++ stylesText

end DiceTable.Settings
