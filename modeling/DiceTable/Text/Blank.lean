/-! # Blank characters

Which characters separate nothing and mean nothing in a dice expression: the white space of the
Unicode standard and the four information separators. `compact` drops them all, and a compacted
text holds none.
-/

namespace DiceTable.Text

/-- White space of the Unicode standard, together with U+001C to U+001F. -/
def isBlank (c : Char) : Bool :=
  let n := c.toNat
  (0x09 ≤ n && n ≤ 0x0D) || (0x1C ≤ n && n ≤ 0x20) || n == 0x85 || n == 0xA0 || n == 0x1680 ||
    (0x2000 ≤ n && n ≤ 0x200A) || n == 0x2028 || n == 0x2029 || n == 0x202F || n == 0x205F ||
    n == 0x3000

/-- The characters that are not blank, in order. -/
def compact (cs : List Char) : List Char :=
  cs.filter fun c => !isBlank c

/-- A text of blanks only, the empty one included. -/
def isBlankText (s : String) : Bool :=
  s.toList.all isBlank

theorem not_isBlank_of_mem_compact {cs : List Char} {c : Char} (mem : c ∈ compact cs) :
    isBlank c = false := by
  simpa using (List.mem_filter.mp mem).2

theorem compact_append (cs ds : List Char) : compact (cs ++ ds) = compact cs ++ compact ds :=
  List.filter_append ..

@[simp] theorem compact_compact (cs : List Char) : compact (compact cs) = compact cs := by
  simp [compact]

end DiceTable.Text
