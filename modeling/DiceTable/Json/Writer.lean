import DiceTable.Decimal.Shortest
import DiceTable.Json.Basic
import DiceTable.Text.Quoted

/-! # Writing JSON

A value is written on one line, with a space after each comma and colon, or over several lines with
two spaces of indentation per level. In a string only quotes, backslashes and characters below
U+0020 are escaped; everything else stands for itself.
-/

namespace DiceTable.Json

def escapeChar (c : Char) : List Char :=
  if c == '"' then ['\\', '"']
  else if c == '\\' then ['\\', '\\']
  else if c == '\n' then ['\\', 'n']
  else if c == '\r' then ['\\', 'r']
  else if c == '\t' then ['\\', 't']
  else if c == '\x0C' then ['\\', 'f']
  else if c == '\x08' then ['\\', 'b']
  else if c.toNat < 0x20 then '\\' :: 'u' :: Text.hexDigits 4 c.toNat
  else [c]

def stringChars (s : String) : List Char :=
  '"' :: s.toList.flatMap escapeChar ++ ['"']

/-- A binary number; those that are no number have names. -/
def floatChars (x : Decimal.Binary64) : List Char :=
  if x.isNaN then "NaN".toList
  else if !x.isFinite then (if x.isNegative then "-Infinity" else "Infinity").toList
  else (Decimal.floatText x).toList

mutual

def lineChars : Json → List Char
  | .null => "null".toList
  | .bool true => "true".toList
  | .bool false => "false".toList
  | .int value => Decimal.chars value
  | .float value => floatChars value
  | .str text => stringChars text
  | .arr items => '[' :: itemsLine items ++ [']']
  | .obj members => '\x7b' :: membersLine members ++ ['\x7d']

def itemsLine : List Json → List Char
  | [] => []
  | [item] => lineChars item
  | item :: next :: rest => lineChars item ++ ',' :: ' ' :: itemsLine (next :: rest)

def membersLine : List (String × Json) → List Char
  | [] => []
  | [(key, value)] => stringChars key ++ ':' :: ' ' :: lineChars value
  | (key, value) :: next :: rest =>
    stringChars key ++ ':' :: ' ' :: lineChars value ++ ',' :: ' ' :: membersLine (next :: rest)

end

/-- A line break and the indentation of a level. -/
def newLine (level : Nat) : List Char :=
  '\n' :: List.replicate (2 * level) ' '

mutual

/-- A value over several lines, where its first line stands at a level of indentation. -/
def indentedChars (level : Nat) : Json → List Char
  | .arr (item :: items) =>
    '[' :: itemsIndented (level + 1) (item :: items) ++ newLine level ++ [']']
  | .obj (member :: members) =>
    '\x7b' :: membersIndented (level + 1) (member :: members) ++ newLine level ++ ['\x7d']
  | .arr [] => ['[', ']']
  | .obj [] => ['\x7b', '\x7d']
  | .null => "null".toList
  | .bool true => "true".toList
  | .bool false => "false".toList
  | .int value => Decimal.chars value
  | .float value => floatChars value
  | .str text => stringChars text

def itemsIndented (level : Nat) : List Json → List Char
  | [] => []
  | [item] => newLine level ++ indentedChars level item
  | item :: next :: rest =>
    newLine level ++ indentedChars level item ++ ',' :: itemsIndented level (next :: rest)

def membersIndented (level : Nat) : List (String × Json) → List Char
  | [] => []
  | [(key, value)] =>
    newLine level ++ stringChars key ++ ':' :: ' ' :: indentedChars level value
  | (key, value) :: next :: rest =>
    newLine level ++ stringChars key ++ ':' :: ' ' :: indentedChars level value ++
      ',' :: membersIndented level (next :: rest)

end

def line (value : Json) : String :=
  String.ofList value.lineChars

def indented (value : Json) : String :=
  String.ofList (value.indentedChars 0)

end DiceTable.Json
