import DiceTable.Dice.Error
import DiceTable.Proofs.Decimal.Magnitude
import Mathlib.Data.Nat.Digits.Defs

/-! # Numbers that are written

Numbers of 32 bits are written in any case (`Decimal.isShort_of_inRange`), so that an error which
shows no other numbers comes to itself (`Failure.naming_of_short`). An error that shows other
numbers as well comes to itself or to the failure of writing them, and to nothing else.
-/

namespace DiceTable

namespace Decimal

theorem length_digits_le_iff {n places : Nat} (some : 0 < places) :
    (digits n).length ≤ places ↔ n < 10 ^ places := by
  refine ⟨fun short => ?_, Nat.toDigits_length 10 n places some⟩
  calc
    n = value (digits n) := (value_digits n).symm
    _ < 10 ^ (digits n).length := value_lt fun _ => isDigit_of_mem_digits
    _ ≤ 10 ^ places := Nat.pow_le_pow_right (by decide) short

/-- A number is written that has no more digits than the range. -/
theorem isShort_of_inRange {n : Int} (least : minInt ≤ n) (most : n ≤ maxInt) {bound : Nat}
    (enough : boundedDigits ≤ bound) : isShort bound n := by
  have small : n.natAbs < 10 ^ boundedDigits := by
    simp only [minInt, maxInt, boundedDigits] at least most ⊢
    omega
  have short := (length_digits_le_iff (by decide)).mpr small
  exact decide_eq_true (Nat.le_trans short enough)

/-- A number is written wherever a larger one is. -/
theorem isShort_of_le {m n : Int} (nonneg : 0 ≤ m) (less : m ≤ n) {bound : Nat}
    (some : 0 < bound) (short : isShort bound n) : isShort bound m := by
  have small : n.natAbs < 10 ^ bound := (length_digits_le_iff some).mp (of_decide_eq_true short)
  have smaller : m.natAbs ≤ n.natAbs := by omega
  exact decide_eq_true ((length_digits_le_iff some).mpr (Nat.lt_of_le_of_lt smaller small))

/-- No number of the range is too long to be written. -/
theorem isShort_digitLimit {n : Int} (least : minInt ≤ n) (most : n ≤ maxInt) :
    isShort digitLimit n :=
  isShort_of_inRange least most (by decide)

end Decimal

section Writing

variable {numbers : List Int}

theorem writing_some_eq_ok {most : Nat} :
    writing numbers (some most) = .ok () ↔ ∀ n ∈ numbers, Decimal.isShort most n := by
  rw [← List.all_eq_true]
  by_cases short : numbers.all (Decimal.isShort most) <;> simp [writing, short]

theorem writing_pair {a b : Int} {most : Nat} (left : Decimal.isShort most a)
    (right : Decimal.isShort most b) : writing [a, b] (some most) = .ok () :=
  writing_some_eq_ok.mpr
    (List.forall_mem_cons.mpr ⟨left, List.forall_mem_cons.mpr ⟨right, nofun⟩⟩)

theorem writing_error {most : Option Nat} {failure : Failure}
    (failed : writing numbers most = .error failure) :
    ∃ bound, most = some bound ∧ failure = .unwritable bound := by
  unfold writing at failed
  split at failed
  · cases failed
  · rename_i bound
    split at failed
    · cases failed
    · cases failed
      exact ⟨bound, rfl, rfl⟩

end Writing

namespace Failure

variable {numbers : List Int} {error given : DiceError}

theorem naming_of_writing (written : writing numbers = .ok ()) (error : DiceError) :
    naming numbers error = .dice error := by
  rw [naming, written]

/-- An error that only shows short numbers comes to itself. -/
theorem naming_of_short (short : ∀ n ∈ numbers, Decimal.isShort Decimal.digitLimit n)
    (error : DiceError) : naming numbers error = .dice error :=
  naming_of_writing (writing_some_eq_ok.mpr short) error

theorem naming_of_not_writing {failure : Failure} (written : writing numbers = .error failure)
    (error : DiceError) : naming numbers error = failure := by
  rw [naming, written]

/-- An error comes to itself only if its numbers are written. -/
theorem writing_of_naming (same : naming numbers given = .dice error) :
    writing numbers = .ok () := by
  cases written : writing numbers with
  | ok => rfl
  | error failure =>
    obtain ⟨bound, ⟨⟩, rfl⟩ := writing_error written
    cases (naming_of_not_writing written given).symm.trans same

theorem naming_cases (numbers : List Int) (error : DiceError) :
    naming numbers error = .dice error ∨
      naming numbers error = .unwritable Decimal.digitLimit := by
  cases written : writing numbers with
  | ok => exact .inl (naming_of_writing written error)
  | error failure =>
    obtain ⟨bound, ⟨⟩, rfl⟩ := writing_error written
    exact .inr (naming_of_not_writing written error)

theorem eq_of_naming (same : naming numbers given = .dice error) : error = given := by
  rcases naming_cases numbers given with named | named
  · rw [named] at same
    cases same
    rfl
  · rw [named] at same
    cases same

end Failure

end DiceTable
