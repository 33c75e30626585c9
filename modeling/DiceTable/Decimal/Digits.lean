/-! # Decimal numbers in text

A number is written as a run of decimal digits, optionally after a sign. Different numbers have
different texts (`text_injective`).
-/

namespace DiceTable.Decimal

/-- The largest number that dice arithmetic holds, which is the largest of 32 bits with a sign. -/
def maxInt : Int := 2147483647

def minInt : Int := -2147483648

/-- The longest run of digits that is converted to a number, or that a number is written with. -/
def digitLimit : Nat := 4300

/-- The digits of a number, the most significant first. -/
def digits (n : Nat) : List Char :=
  Nat.toDigits 10 n

/-- A minus sign for a negative number, then the digits. -/
def chars (n : Int) : List Char :=
  if n < 0 then '-' :: digits n.natAbs else digits n.natAbs

def text (n : Int) : String :=
  String.ofList (chars n)

/-- Whether a number is written with at most `most` digits. A sign does not count. -/
def isShort (most : Nat) (n : Int) : Bool :=
  (digits n.natAbs).length ≤ most

def value (run : List Char) : Nat :=
  Nat.ofDigitChars 10 run 0

theorem value_digits (n : Nat) : value (digits n) = n :=
  Nat.ofDigitChars_toDigits (by decide) (by decide)

theorem isDigit_of_mem_digits {n : Nat} {c : Char} (mem : c ∈ digits n) : c.isDigit :=
  Nat.isDigit_of_mem_toDigits (by decide) (by decide) mem

theorem digits_ne_nil (n : Nat) : digits n ≠ [] :=
  Nat.toDigits_ne_nil

/-- An integer is written with digits and a minus sign. -/
theorem mem_chars {n : Int} {c : Char} (mem : c ∈ chars n) : c = '-' ∨ c.isDigit := by
  unfold chars at mem
  split at mem
  · exact (List.mem_cons.mp mem).imp_right isDigit_of_mem_digits
  · exact .inr (isDigit_of_mem_digits mem)

/-- The digits of a number, with a first digit. -/
theorem exists_digits_eq_cons (n : Nat) : ∃ c rest, digits n = c :: rest ∧ c.isDigit := by
  obtain ⟨c, rest, same⟩ := List.exists_cons_of_ne_nil (digits_ne_nil n)
  exact ⟨c, rest, same, isDigit_of_mem_digits (n := n) (by rw [same]; exact List.mem_cons_self)⟩

/-- A number that is not negative starts with a digit. -/
theorem exists_chars_eq_cons {n : Int} (nonneg : 0 ≤ n) :
    ∃ c rest, chars n = c :: rest ∧ c.isDigit := by
  rw [chars, if_neg (Int.not_lt.mpr nonneg)]
  exact exists_digits_eq_cons n.natAbs

theorem digits_injective {m n : Nat} (same : digits m = digits n) : m = n := by
  rw [← value_digits m, same, value_digits]

/-- The sign tells the negative numbers apart from the others, and the digits do the rest. -/
theorem chars_injective {m n : Int} (same : chars m = chars n) : m = n := by
  have noSign (k : Nat) (rest : List Char) : digits k ≠ '-' :: rest := by
    intro signed
    have : Char.isDigit '-' := isDigit_of_mem_digits (n := k) (by rw [signed]; simp)
    revert this
    decide
  unfold chars at same
  split at same <;> split at same
  · have := digits_injective (List.cons.inj same).2
    omega
  · exact (noSign _ _ same.symm).elim
  · exact (noSign _ _ same).elim
  · have := digits_injective same
    omega

theorem text_injective {m n : Int} (same : text m = text n) : m = n :=
  chars_injective (String.ofList_injective same)

def isSign (c : Char) : Bool :=
  c == '+' || c == '-'

/-- Only a minus sign in front makes a number negative. -/
def isNegative (written : List Char) : Bool :=
  written.head? == some '-'

/-- A written number without the signs in front of it. -/
def unsigned (written : List Char) : List Char :=
  written.dropWhile isSign

/-- A written number without signs and leading zeros. -/
def significant (written : List Char) : List Char :=
  (unsigned written).dropWhile (· == '0')

def digitLimitMessage (count : Nat) : String :=
  "Exceeds the limit (4300 digits) for integer string conversion: value has " ++ text count ++
    " digits; use sys.set_int_max_str_digits() to increase the limit"

end DiceTable.Decimal
