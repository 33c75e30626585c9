import DiceTable.Decimal.Bounded
import Mathlib.Algebra.Ring.Nat
import Mathlib.Data.List.Induction

/-! # The magnitude of written numbers

The number of significant digits puts a written number between two powers of ten. So a number that
saturates is no smaller than the power of ten that stands for it, and one that does not is smaller
(`Decimal.clamped_cases`). A number that is written anew loses its leading zeros and no more
(`Decimal.digits_value_isSuffix`).
-/

namespace DiceTable.Decimal

variable {run written : List Char}

theorem value_cons (c : Char) (run : List Char) :
    value (c :: run) = 10 ^ run.length * (c.toNat - '0'.toNat) + value run := by
  rw [value, Nat.ofDigitChars_cons, Nat.ofDigitChars_eq_ofDigitChars_zero, Nat.mul_zero,
    Nat.zero_add, value]

/-- Leading zeros do not count. -/
theorem value_dropWhile (run : List Char) : value (run.dropWhile (· == '0')) = value run := by
  induction run with
  | nil => rfl
  | cons c rest ih =>
    by_cases zero : c = '0'
    · rw [zero, List.dropWhile_cons_of_pos (by rfl), ih, value_cons, Nat.sub_self, Nat.mul_zero,
        Nat.zero_add]
    · rw [List.dropWhile_cons_of_neg (by simpa using zero)]

theorem value_significant (written : List Char) :
    value (significant written) = value (unsigned written) :=
  value_dropWhile _

/-- A run of digits is below the power of ten with as many zeros. -/
theorem value_lt (digits : ∀ c ∈ run, c.isDigit) : value run < 10 ^ run.length := by
  induction run with
  | nil => decide
  | cons c rest ih =>
    obtain ⟨here, later⟩ := List.forall_mem_cons.mp digits
    have bounds := Text.toNat_of_isDigit here
    have digit : c.toNat - '0'.toNat ≤ 9 := by
      have : '0'.toNat = 48 := rfl
      omega
    calc
      value (c :: rest) = 10 ^ rest.length * (c.toNat - '0'.toNat) + value rest := value_cons c rest
      _ < 10 ^ rest.length * (c.toNat - '0'.toNat) + 10 ^ rest.length :=
        Nat.add_lt_add_left (ih later) _
      _ = 10 ^ rest.length * (c.toNat - '0'.toNat + 1) := (Nat.mul_succ _ _).symm
      _ ≤ 10 ^ rest.length * 10 := Nat.mul_le_mul_left _ (Nat.succ_le_succ digit)
      _ = 10 ^ (c :: rest).length := (Nat.pow_succ ..).symm

/-- A first digit that is not zero counts as often as there are digits behind it. -/
theorem pow_le_value {c : Char} (digit : c.isDigit) (nonzero : c ≠ '0') (run : List Char) :
    10 ^ run.length ≤ value (c :: run) := by
  have bounds := Text.toNat_of_isDigit digit
  have positive : 1 ≤ c.toNat - '0'.toNat := by
    have : '0'.toNat = 48 := rfl
    have : c.toNat ≠ '0'.toNat := fun same => nonzero (Char.toNat_inj.mp same)
    omega
  calc
    10 ^ run.length = 10 ^ run.length * 1 := (Nat.mul_one _).symm
    _ ≤ 10 ^ run.length * (c.toNat - '0'.toNat) := Nat.mul_le_mul_left _ positive
    _ ≤ value (c :: run) := by rw [value_cons]; exact Nat.le_add_right _ _

theorem isDigit_of_mem_cons_zeros {c : Char} (digit : c.isDigit) (n : Nat) :
    ∀ d ∈ c :: List.replicate n '0', d.isDigit := by
  refine List.forall_mem_cons.mpr ⟨digit, fun d member => ?_⟩
  rw [List.eq_of_mem_replicate member]
  rfl

theorem pow_le_value_cons_zeros {c : Char} (digit : c.isDigit) (nonzero : c ≠ '0') (n : Nat) :
    10 ^ n ≤ value (c :: List.replicate n '0') := by
  have large := pow_le_value digit nonzero (List.replicate n '0')
  rwa [List.length_replicate] at large

theorem chars_natCast (n : Nat) : chars n = digits n := by
  rw [chars, if_neg (Int.not_lt.mpr (Int.natCast_nonneg n)), Int.natAbs_natCast]

theorem chars_ne_nil (n : Int) : chars n ≠ [] := by
  unfold chars
  split
  · exact List.cons_ne_nil _ _
  · exact digits_ne_nil _

theorem value_append_digit (front : List Char) (c : Char) :
    value (front ++ [c]) = 10 * value front + (c.toNat - '0'.toNat) := by
  rw [value, Nat.ofDigitChars_append, Nat.ofDigitChars_cons, Nat.ofDigitChars_nil, value]

theorem digits_digit {c : Char} (digit : c.isDigit) : digits (c.toNat - '0'.toNat) = [c] := by
  have bounds := Text.toNat_of_isDigit digit
  have chars : ∀ k < 10, digits k = [Char.ofNat (k + '0'.toNat)] := by decide
  have zero : '0'.toNat = 48 := rfl
  rw [chars _ (by omega), Nat.sub_add_cancel (by omega), Char.ofNat_toNat]

/-- Written anew, a number loses its leading zeros and no more. -/
theorem digits_value_isSuffix (nonempty : run ≠ []) (isDigits : ∀ c ∈ run, c.isDigit) :
    digits (value run) <:+ run := by
  induction run using List.reverseRecOn with
  | nil => exact absurd rfl nonempty
  | append_singleton front c ih =>
    obtain ⟨inFront, last⟩ := List.forall_mem_append.mp isDigits
    have digit : c.isDigit := last c (List.mem_singleton_self c)
    have bounds := Text.toNat_of_isDigit digit
    have zero : '0'.toNat = 48 := rfl
    rw [value_append_digit]
    by_cases positive : 0 < value front
    · have some : front ≠ [] := by
        rintro rfl
        exact absurd positive (by decide)
      have split : digits (10 * value front + (c.toNat - '0'.toNat)) =
          digits (value front) ++ digits (c.toNat - '0'.toNat) :=
        (Nat.toDigits_append_toDigits (by decide) positive (by omega)).symm
      rw [split, digits_digit digit]
      obtain ⟨zeros, spelled⟩ := ih some inFront
      exact ⟨zeros, by rw [← List.append_assoc, spelled]⟩
    · have none : value front = 0 := by omega
      rw [none, Nat.mul_zero, Nat.zero_add, digits_digit digit]
      exact List.suffix_append front [c]

/-- The digits of a positive number do not start with a zero. -/
theorem head_digits_ne {n : Nat} {c : Char} {rest : List Char} (positive : 0 < n)
    (spelled : digits n = c :: rest) : c ≠ '0' := by
  rintro rfl
  have same : value rest = n := by
    rw [← value_digits n, spelled, value_cons, Nat.sub_self, Nat.mul_zero, Nat.zero_add]
  have some : rest ≠ [] := by
    rintro rfl
    exact absurd same (Nat.ne_of_lt positive)
  have inRest : ∀ d ∈ rest, d.isDigit := fun d member =>
    isDigit_of_mem_digits (by rw [spelled]; exact List.mem_cons_of_mem _ member)
  have shorter := (digits_value_isSuffix some inRest).length_le
  rw [same, spelled, List.length_cons] at shorter
  omega

/-- A positive number that begins with its own digits has no more of them. -/
theorem eq_digits_of_isPrefix (positive : 0 < value run) (front : digits (value run) <+: run) :
    run = digits (value run) := by
  obtain ⟨more, whole⟩ := front
  obtain ⟨c, rest, spelled, digit⟩ := exists_digits_eq_cons (value run)
  have small : value run < 10 ^ (digits (value run)).length := by
    have bound := value_lt fun _ member => isDigit_of_mem_digits (n := value run) member
    rwa [value_digits] at bound
  have large : 10 ^ (rest ++ more).length ≤ value run := by
    have longer := pow_le_value digit (head_digits_ne positive spelled) (rest ++ more)
    rwa [← List.cons_append, ← spelled, whole] at longer
  rw [spelled, List.length_cons] at small
  have short := (Nat.pow_lt_pow_iff_right (by decide)).mp (Nat.lt_of_le_of_lt large small)
  rw [List.length_append] at short
  obtain rfl : more = [] := List.eq_nil_of_length_eq_zero (by omega)
  rw [← whole, List.append_nil, value_digits]

section Significant

variable {n : Nat} (digits : ∀ c ∈ unsigned written, c.isDigit)
include digits

/-- A number with few significant digits is small. -/
theorem value_lt_of_significant (short : (significant written).length ≤ n) :
    value (unsigned written) < 10 ^ n := by
  rw [← value_significant]
  exact Nat.lt_of_lt_of_le (value_lt (isDigit_of_mem_significant digits))
    (Nat.pow_le_pow_right (by decide) short)

/-- A number with many significant digits is large. -/
theorem pow_le_value_of_significant (long : n < (significant written).length) :
    10 ^ n ≤ value (unsigned written) := by
  rw [← value_significant]
  have nonempty : significant written ≠ [] := List.ne_nil_of_length_pos (by omega)
  obtain ⟨c, rest, same⟩ := List.exists_cons_of_ne_nil nonempty
  have digit : c.isDigit :=
    isDigit_of_mem_significant digits c (by rw [same]; exact List.mem_cons_self)
  have nonzero : c ≠ '0' := by
    have head := List.head?_dropWhile_not (· == '0') (unsigned written)
    rw [show (unsigned written).dropWhile (· == '0') = c :: rest from same] at head
    simpa using head
  rw [same] at long ⊢
  exact Nat.le_trans (Nat.pow_le_pow_right (by decide) (Nat.le_of_lt_succ long))
    (pow_le_value digit nonzero rest)

/-- A number is read exactly, or both itself and what is read for it are large. -/
theorem clamped_cases :
    ∃ magnitude : Nat, clamped written =
      .ok (if isNegative written then -(magnitude : Int) else magnitude) ∧
      ((significant written).length ≤ saturationDigits ∧ magnitude = value (unsigned written) ∨
        saturationDigits < (significant written).length ∧ magnitude = 10 ^ saturationDigits) := by
  rw [clamped_of_isDigit digits]
  generalize saturationDigits = n
  by_cases long : (significant written).length > n
  · rw [if_pos long]
    exact ⟨_, rfl, .inr ⟨long, Nat.pow_eq⟩⟩
  · rw [if_neg long, value_significant]
    exact ⟨_, rfl, .inl ⟨Nat.le_of_not_lt long, rfl⟩⟩

end Significant

end DiceTable.Decimal
