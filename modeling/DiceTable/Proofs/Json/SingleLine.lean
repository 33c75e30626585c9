import DiceTable.Json.Writer
import DiceTable.Text.DecimalDigit

/-! # A value on one line

Strings escape the control characters below U+0020, and nothing else that JSON consists of has one.
So a value that is written on one line holds none, whatever texts it holds
(`Json.uncontrolled_lineChars`), and since the line break is among them, it stays on its line.
-/

namespace DiceTable

namespace Text

/-- No character of a text is among the control characters below U+0020. -/
def Uncontrolled (text : List Char) : Prop :=
  ∀ c ∈ text, 0x20 ≤ c.toNat

variable {text rest : List Char}

@[simp] theorem uncontrolled_nil : Uncontrolled [] := nofun

@[simp] theorem uncontrolled_cons {c : Char} :
    Uncontrolled (c :: rest) ↔ 0x20 ≤ c.toNat ∧ Uncontrolled rest :=
  List.forall_mem_cons

@[simp] theorem uncontrolled_append :
    Uncontrolled (text ++ rest) ↔ Uncontrolled text ∧ Uncontrolled rest :=
  List.forall_mem_append

theorem Uncontrolled.newline_not_mem (uncontrolled : Uncontrolled text) : '\n' ∉ text :=
  fun member => absurd (uncontrolled '\n' member) (by decide)

/-- What is taken from a text has no other characters. -/
theorem Uncontrolled.sublist (uncontrolled : Uncontrolled text) (part : rest.Sublist text) :
    Uncontrolled rest :=
  fun c member => uncontrolled c (part.mem member)

theorem uncontrolled_of_isDigit (digits : ∀ c ∈ text, c.isDigit) : Uncontrolled text :=
  fun c member => Nat.le_trans (by decide) (toNat_of_isDigit (digits c member)).1

theorem uncontrolled_hexDigits (width n : Nat) : Uncontrolled (hexDigits width n) := by
  have digit : ∀ k < 16, 0x20 ≤ (Nat.digitChar k).toNat := by
    decide
  induction width generalizing n with
  | zero => exact uncontrolled_nil
  | succ width ih =>
    rw [hexDigits, uncontrolled_append, uncontrolled_cons]
    exact ⟨ih _, digit (n % 16) (Nat.mod_lt _ (by decide)), uncontrolled_nil⟩

end Text

open Text (Uncontrolled)

namespace Decimal

theorem uncontrolled_digits (n : Nat) : Uncontrolled (digits n) :=
  Text.uncontrolled_of_isDigit fun _ member => isDigit_of_mem_digits member

theorem uncontrolled_chars (n : Int) : Uncontrolled (chars n) := by
  unfold chars
  split
  · exact Text.uncontrolled_cons.mpr ⟨by decide, uncontrolled_digits _⟩
  · exact uncontrolled_digits _

theorem uncontrolled_dropTrailingZeros {run : List Char} (digits : Uncontrolled run) :
    Uncontrolled (dropTrailingZeros run) := by
  intro c member
  have kept := (List.dropWhile_sublist _).mem (List.mem_reverse.mp member)
  exact digits c (List.mem_reverse.mp kept)

theorem uncontrolled_exponentChars (e : Int) : Uncontrolled (exponentChars e) := by
  have digits := uncontrolled_digits e.natAbs
  refine Text.uncontrolled_cons.mpr ⟨by split <;> decide, ?_⟩
  split
  · exact Text.uncontrolled_cons.mpr ⟨by decide, digits⟩
  · exact digits

/-- A point, zeros and an exponent are no control characters. -/
theorem uncontrolled_pointedChars {run : List Char} (digits : Uncontrolled run) (point : Int) :
    Uncontrolled (pointedChars run point) := by
  have front (n : Nat) : Uncontrolled (run.take n) := digits.sublist (List.take_sublist n run)
  have back (n : Nat) : Uncontrolled (run.drop n) := digits.sublist (List.drop_sublist n run)
  have zeros (n : Nat) : Uncontrolled (List.replicate n '0') := fun c member => by
    rw [List.eq_of_mem_replicate member]
    decide
  have exponent := uncontrolled_exponentChars (point - 1)
  unfold pointedChars
  split
  · split
    · simp [digits, zeros]
    · split
      · simp [digits, zeros]
      · simp [front, back]
  · split
    · simp [front, digits.sublist (List.tail_sublist run), exponent]
    · simp [front, exponent]

theorem uncontrolled_floatText (x : Binary64) : Uncontrolled (floatText x).toList := by
  have sign : Uncontrolled (if x.isNegative then "-" else "").toList := by
    split <;> simp
  have digits := uncontrolled_dropTrailingZeros (uncontrolled_digits x.shortest.1)
  unfold floatText
  split
  · simp
  · dsimp only
    split
    · simp [sign]
    · split
      · simp [sign]
      · simp [sign, uncontrolled_pointedChars digits]

end Decimal

namespace Json

theorem uncontrolled_escapeChar (c : Char) : Uncontrolled (escapeChar c) := by
  have hex := Text.uncontrolled_hexDigits 4 c.toNat
  have plain (visible : ¬c.toNat < 0x20) : Uncontrolled [c] := by
    simpa using Nat.le_of_not_lt visible
  unfold escapeChar
  repeat' split
  all_goals first | exact plain ‹_› | simp [hex]

theorem uncontrolled_stringChars (s : String) : Uncontrolled (stringChars s) := by
  have inner : Uncontrolled (s.toList.flatMap escapeChar) := fun c member => by
    obtain ⟨d, _, escaped⟩ := List.mem_flatMap.mp member
    exact uncontrolled_escapeChar d c escaped
  simp [stringChars, inner]

theorem uncontrolled_floatChars (x : Decimal.Binary64) : Uncontrolled (floatChars x) := by
  unfold floatChars
  split
  · simp
  · split
    · split <;> simp
    · exact Decimal.uncontrolled_floatText x

mutual

/-- What is written on one line has no control characters. -/
theorem uncontrolled_lineChars : (value : Json) → Uncontrolled value.lineChars
  | .null | .bool true | .bool false => by simp [lineChars]
  | .int value => by
    rw [lineChars]
    exact Decimal.uncontrolled_chars value
  | .float value => by
    rw [lineChars]
    exact uncontrolled_floatChars value
  | .str text => by
    rw [lineChars]
    exact uncontrolled_stringChars text
  | .arr items => by
    have inner := uncontrolled_itemsLine items
    simp [lineChars, inner]
  | .obj members => by
    have inner := uncontrolled_membersLine members
    simp [lineChars, inner]

theorem uncontrolled_itemsLine : (items : List Json) → Uncontrolled (itemsLine items)
  | [] => by simp [itemsLine]
  | [item] => by
    rw [itemsLine]
    exact uncontrolled_lineChars item
  | item :: next :: rest => by
    have here := uncontrolled_lineChars item
    have later := uncontrolled_itemsLine (next :: rest)
    simp [itemsLine, here, later]

theorem uncontrolled_membersLine : (members : Members) → Uncontrolled (membersLine members)
  | [] => by simp [membersLine]
  | [(key, value)] => by
    have here := uncontrolled_lineChars value
    simp [membersLine, uncontrolled_stringChars key, here]
  | (key, value) :: next :: rest => by
    have here := uncontrolled_lineChars value
    have later := uncontrolled_membersLine (next :: rest)
    simp [membersLine, uncontrolled_stringChars key, here, later]

end

end Json

end DiceTable
