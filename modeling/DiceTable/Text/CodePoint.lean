/-! # Code points

A code point is a character, or one half of a surrogate pair that stands without the other. No
text holds such halves, but what comes from outside may; a `LooseText` is what takes them in.
`Spelled` is the class of both kinds of texts, each of which is a sequence of code points.
-/

namespace DiceTable

namespace Text

/-- A character, or a half of a surrogate pair, by its distance from U+D800. -/
inductive CodePoint where
  | char (c : Char)
  | half (offset : Fin 2048)
  deriving DecidableEq, Repr

namespace CodePoint

def ofNat? (n : Nat) : Option CodePoint :=
  if n.isValidChar then some (.char (Char.ofNat n))
  else if n < 0xE000 then some (.half (Fin.ofNat 2048 (n - 0xD800)))
  else none

def char? : CodePoint → Option Char
  | .char c => some c
  | .half _ => none

/-- Whether this is no character. -/
def isHalf : CodePoint → Bool
  | .char _ => false
  | .half _ => true

def isChar (is : Char → Bool) : CodePoint → Bool
  | .char c => is c
  | .half _ => false

/-- The character of two halves, if they are the first and the second half of one. -/
def joined? : CodePoint → CodePoint → Option Char
  | .half high, .half low =>
    if high.val < 0x400 ∧ 0x400 ≤ low.val then
      some (Char.ofNat (0x10000 + high.val * 0x400 + (low.val - 0x400)))
    else none
  | _, _ => none

end CodePoint

end Text

/-- A text that may hold halves of characters. -/
abbrev LooseText := List Text.CodePoint

namespace LooseText

def ofChars (cs : List Char) : LooseText :=
  cs.map .char

def ofString (text : String) : LooseText :=
  ofChars text.toList

def text? (text : LooseText) : Option String :=
  (text.mapM Text.CodePoint.char?).map String.ofList

/-- The text with U+FFFD in the place of each half. -/
def replaced (text : LooseText) : String :=
  String.ofList (text.map fun point => point.char?.getD '\uFFFD')

def hasHalves (text : LooseText) : Bool :=
  text.any Text.CodePoint.isHalf

theorem mapM_char?_ofChars (cs : List Char) : (ofChars cs).mapM Text.CodePoint.char? = some cs := by
  induction cs with
  | nil => rfl
  | cons c rest ih =>
    simp only [ofChars, List.map_cons, List.mapM_cons, Text.CodePoint.char?] at ih ⊢
    rw [ih]
    rfl

/-- What is a text is read back as it is. -/
theorem text?_ofString (text : String) : (ofString text).text? = some text := by
  simp [ofString, text?, mapM_char?_ofChars]

end LooseText

/-- A type of texts, each of which is a sequence of code points. -/
class Spelled (τ : Type) where
  /-- The code points of a text. -/
  points : τ → LooseText
  /-- The text of some code points, if they make one. -/
  ofPoints? : LooseText → Option τ
  /-- The code points of a text make that text. -/
  ofPoints?_points : ∀ text, ofPoints? (points text) = some text

instance : Spelled String := ⟨LooseText.ofString, LooseText.text?, LooseText.text?_ofString⟩

instance : Spelled LooseText := ⟨id, some, fun _ => rfl⟩

end DiceTable
