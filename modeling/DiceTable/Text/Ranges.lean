/-! # Ranges of code points -/

namespace DiceTable.Text

/-- Whether one of the ranges, which are in order and have both ends, holds a character. -/
def inRanges : List (Nat × Nat) → Char → Bool
  | [], _ => false
  | (first, last) :: rest, c =>
    if c.toNat < first then false else if c.toNat ≤ last then true else inRanges rest c

end DiceTable.Text
