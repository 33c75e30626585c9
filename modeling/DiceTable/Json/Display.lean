import DiceTable.Decimal.Shortest
import DiceTable.Json.Basic
import DiceTable.Text.Quoted

/-! # Showing values in messages

A text is shown as it is, every other value in the notation of messages: `None`, `True`, numbers,
lists in brackets and mappings in braces, with the texts inside them quoted.
-/

namespace DiceTable.Json

variable {τ : Type} [Spelled τ]

/-- A text within a list or a mapping. -/
def quoted (text : τ) : List Char :=
  Text.quoted (Spelled.points text)

mutual

def shownChars : Json τ → List Char
  | .null => "None".toList
  | .bool true => "True".toList
  | .bool false => "False".toList
  | .int value => Decimal.chars value
  | .float value => (Decimal.floatText value).toList
  | .str text => quoted text
  | .arr items => '[' :: itemsShown items ++ [']']
  | .obj members => '\x7b' :: membersShown members ++ ['\x7d']

def itemsShown : List (Json τ) → List Char
  | [] => []
  | [item] => shownChars item
  | item :: next :: rest => shownChars item ++ ',' :: ' ' :: itemsShown (next :: rest)

def membersShown : List (τ × Json τ) → List Char
  | [] => []
  | [(key, value)] => quoted key ++ ':' :: ' ' :: shownChars value
  | (key, value) :: next :: rest =>
    quoted key ++ ':' :: ' ' :: shownChars value ++
      ',' :: ' ' :: membersShown (next :: rest)

end

/-- A value as a message shows it. -/
def display : Json → String
  | .str text => text
  | value => String.ofList value.shownChars

end DiceTable.Json
