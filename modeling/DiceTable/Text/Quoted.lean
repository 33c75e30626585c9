import DiceTable.Text.CodePoint
import DiceTable.Text.Printable

/-! # Quoted texts

A quoted text stands between single quotes, or between double quotes when it holds single quotes
and no double ones. The quote itself, backslashes, and whatever is not printable are escaped.
-/

namespace DiceTable.Text

def hexDigit (n : Nat) : Char :=
  Nat.digitChar (n % 16)

/-- The last `width` hexadecimal digits of a number. -/
def hexDigits : (width : Nat) → Nat → List Char
  | 0, _ => []
  | width + 1, n => hexDigits width (n / 16) ++ [hexDigit n]

/-- The quote for a text: the double one only where that saves escapes. -/
def quoteFor (text : LooseText) : Char :=
  if text.contains (.char '\'') && !text.contains (.char '"') then '"' else '\''

def escapeChar (quote c : Char) : List Char :=
  if c == quote || c == '\\' then ['\\', c]
  else if c == '\t' then ['\\', 't']
  else if c == '\n' then ['\\', 'n']
  else if c == '\r' then ['\\', 'r']
  else if isPrintable c then [c]
  else if c.toNat ≤ 0xFF then '\\' :: 'x' :: hexDigits 2 c.toNat
  else if c.toNat ≤ 0xFFFF then '\\' :: 'u' :: hexDigits 4 c.toNat
  else '\\' :: 'U' :: hexDigits 8 c.toNat

def escapePoint (quote : Char) : CodePoint → List Char
  | .char c => escapeChar quote c
  | .half offset => '\\' :: 'u' :: hexDigits 4 (0xD800 + offset.val)

def quoted (text : LooseText) : List Char :=
  let quote := quoteFor text
  quote :: text.flatMap (escapePoint quote) ++ [quote]

end DiceTable.Text
