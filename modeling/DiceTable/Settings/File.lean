import DiceTable.Decimal.Shortest
import DiceTable.Json.Writer

/-! # The configuration file

The file is written in the notation of JSON and read in a wider one that has rules of its own for
numbers: only a number with a point is a fraction. So a text comes back where a number has an
exponent and no point, or is not finite. Everything else comes back as it was written.
-/

namespace DiceTable.Settings

/-- What comes back of a number that is no integer. -/
def fileNumber (x : Decimal.Binary64) : Json :=
  let written := Json.floatChars x
  if written.contains '.' then .float x else .str (String.ofList written)

mutual

/-- What comes back of a value that is written to the file. -/
def fileValue : Json → Json
  | .float x => fileNumber x
  | .arr items => .arr (fileItems items)
  | .obj members => .obj (fileMembers members)
  | value => value
termination_by structural value => value

def fileItems : List Json → List Json
  | [] => []
  | item :: rest => fileValue item :: fileItems rest
termination_by structural items => items

def fileMembers : List (String × Json) → List (String × Json)
  | [] => []
  | (key, value) :: rest => (key, fileValue value) :: fileMembers rest
termination_by structural members => members

end

end DiceTable.Settings
