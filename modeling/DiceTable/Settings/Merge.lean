import DiceTable.Json.Basic

/-! # Merging mappings

An overriding mapping is laid over a base: where both have a mapping under a key, the two are
merged in turn, elsewhere the overriding value wins. Keys of the base keep their places.
-/

namespace DiceTable.Settings

mutual

/-- What an overriding value makes of the value below it. -/
def overrideValue (below : Option Json) : Json → Json
  | .obj members =>
    match below with
    | some (.obj base) => .obj (merge base members)
    | _ => .obj members
  | value => value
termination_by structural value => value

/-- Lays the members of one mapping over another. -/
def merge (base : Members) : List (String × Json) → Members
  | [] => base
  | (key, value) :: rest =>
    merge (Members.put key (overrideValue (Members.get? base key) value) base) rest
termination_by structural members => members

end

end DiceTable.Settings
