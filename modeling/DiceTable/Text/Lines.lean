/-! # Lines of a text

A line ends at any of the line boundaries of the Unicode standard; a carriage return followed by a
line feed is one boundary. A boundary at the very end opens no further line.
-/

namespace DiceTable.Text

/-- The characters that end a line on their own. -/
def isLineBoundary (c : Char) : Bool :=
  let n := c.toNat
  (0x0A ≤ n && n ≤ 0x0D) || (0x1C ≤ n && n ≤ 0x1E) || n == 0x85 || n == 0x2028 || n == 0x2029

/-- Puts a character in front of the first line, or opens a line with it. -/
def extendFirst (c : Char) : List (List Char) → List (List Char)
  | [] => [[c]]
  | line :: lines => (c :: line) :: lines

/-- The lines of a text, without their boundaries. -/
def lines : List Char → List (List Char)
  | [] => []
  | '\r' :: '\n' :: rest => [] :: lines rest
  | c :: rest => if isLineBoundary c then [] :: lines rest else extendFirst c (lines rest)

theorem lines_of_no_boundary {cs : List Char} (plain : ∀ c ∈ cs, isLineBoundary c = false)
    (nonempty : cs ≠ []) : lines cs = [cs] := by
  induction cs with
  | nil => exact absurd rfl nonempty
  | cons c rest ih =>
    have here : isLineBoundary c = false := plain c (by simp)
    have notReturn : c ≠ '\r' := by rintro rfl; revert here; decide
    rw [lines.eq_3 _ _ (fun _ same => absurd same notReturn)]
    cases rest with
    | nil => simp [here, lines, extendFirst]
    | cons d tail =>
      rw [ih (fun x mem => plain x (by simp [mem])) (by simp)]
      simp [here, extendFirst]

end DiceTable.Text
