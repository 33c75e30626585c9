import DiceTable.Proofs.Calculation.Tree
import DiceTable.Proofs.Decimal.Writing
import DiceTable.Proofs.Except

/-! # One step of a calculation

A step is written and then made (`Operator.apply_eq_ok`). It is not made where the reference says
that it stops, and comes to the exact result elsewhere (`Operator.apply_eq`), a number of 32 bits.
-/

namespace DiceTable

structure Decimal.Fits (n : Int) : Prop where
  min_le : minInt ≤ n
  le_max : n ≤ maxInt

/-- A number of 32 bits is written wherever its digits are. -/
theorem Decimal.Fits.isShort {n : Int} (fits : Fits n) {bound : Nat}
    (enough : boundedDigits ≤ bound) : isShort bound n :=
  isShort_of_inRange fits.min_le fits.le_max enough

namespace Operator

open Decimal

variable {op : Operator} {a b n : Int} {step : String} {most : Option Nat}

theorem checked_eq_ok : checked step a = .ok n ↔ Fits a ∧ a = n := by
  unfold checked
  split
  · rename_i outside
    refine ⟨nofun, ?_⟩
    rintro ⟨⟨above, below⟩, _⟩
    omega
  · rename_i inside
    rw [Except.ok.injEq]
    exact ⟨fun same => ⟨⟨by omega, by omega⟩, same⟩, And.right⟩

theorem apply_eq_ok :
    op.apply a b most = .ok n ↔ writing [a, b] most = .ok () ∧ op.result a b = .ok n := by
  rw [apply, Except.bind_eq_ok]
  constructor
  · rintro ⟨⟨⟩, written, made⟩
    exact ⟨written, Except.mapError_eq_ok.mp made⟩
  · rintro ⟨written, made⟩
    exact ⟨(), written, Except.mapError_eq_ok.mpr made⟩

/-- A step fails with an error once it is written. -/
theorem apply_eq_dice {error : DiceError} :
    op.apply a b most = .error (.dice error) ↔
      writing [a, b] most = .ok () ∧ op.result a b = .error error := by
  rw [apply, Except.bind_eq_error]
  constructor
  · rintro (unwritten | ⟨⟨⟩, written, failed⟩)
    · obtain ⟨_, _, ⟨⟩⟩ := writing_error unwritten
    · obtain ⟨_, failed, ⟨⟩⟩ := Except.mapError_eq_error.mp failed
      exact ⟨written, failed⟩
  · rintro ⟨written, failed⟩
    exact .inr ⟨(), written, Except.mapError_eq_error.mpr ⟨error, failed, rfl⟩⟩

theorem writing_of_fits (left : Fits a) (right : Fits b) : writing [a, b] = .ok () :=
  writing_pair (left.isShort (by decide)) (right.isShort (by decide))

/-- No step that is made leaves the range. -/
theorem fits_of_apply (applied : op.apply a b most = .ok n) : Fits n := by
  obtain ⟨_, made⟩ := apply_eq_ok.mp applied
  cases op with
  | div =>
    simp only [result] at made
    split at made
    · cases made
    · obtain ⟨fits, rfl⟩ := checked_eq_ok.mp made
      exact fits
  | other text => cases made
  | _ =>
    obtain ⟨fits, rfl⟩ := checked_eq_ok.mp made
    exact fits

/-- Integers that are written are taken as they are where there is no bound on digits. -/
theorem apply_of_writing (written : writing [a, b] most = .ok ()) :
    op.apply a b most = op.apply a b none := by
  rw [apply, apply, written]
  rfl

theorem eq_dice_of_apply {failure : Failure} (failed : op.apply a b none = .error failure) :
    ∃ error, failure = .dice error := by
  rcases Except.bind_eq_error.mp failed with failed | ⟨_, _, failed⟩
  · cases failed
  · obtain ⟨error, _, rfl⟩ := Except.mapError_eq_error.mp failed
    exact ⟨error, rfl⟩

theorem result_eq (known : op.IsArithmetic) (a b : Int) :
    op.result a b =
      if Step.Fails ⟨op, a, b⟩ then .error (Step.error ⟨op, a, b⟩)
      else .ok (Step.result ⟨op, a, b⟩) := by
  have range (n : Int) : (n < minInt ∨ maxInt < n) ↔ (n < -2 ^ 31 ∨ 2 ^ 31 - 1 < n) := by
    simp only [minInt, maxInt]
    omega
  cases op with
  | other text => simp [IsArithmetic, isAdditive, isMultiplicative] at known
  | div =>
    by_cases zero : b = 0
    · simp [result, Step.Fails, Step.error, Step.DividesByZero, zero]
    · simp only [result, zero, if_false, checked, range, Step.Fails, Step.error,
        Step.DividesByZero, Step.result, and_false, false_or]
  | _ =>
    simp only [result, checked, range, Step.Fails, Step.error, Step.DividesByZero, Step.result,
      reduceCtorEq, false_and, false_or, if_false]

theorem writing_eq (op : Operator) (a b : Int) (most : Nat) :
    writing [a, b] (some most) =
      if Step.isOverlong (some most) ⟨op, a, b⟩ then .error (.unwritable most) else .ok () := by
  cases left : isShort most a <;> cases right : isShort most b <;>
    simp [writing, Step.isOverlong, left, right]

/-- A step comes to its exact result unless it is too long to be written or fails. -/
theorem apply_eq (known : op.IsArithmetic) (a b : Int) (most : Option Nat) :
    op.apply a b most =
      if Step.Stops most ⟨op, a, b⟩ then .error (Step.failure most ⟨op, a, b⟩)
      else .ok (Step.result ⟨op, a, b⟩) := by
  cases most with
  | none =>
    simp only [apply, writing, result_eq known, Step.stops_none, Step.failure]
    split <;> rfl
  | some most =>
    rw [apply, writing_eq op, result_eq known]
    by_cases overlong : Step.isOverlong (some most) ⟨op, a, b⟩
    · simp only [Step.Stops, Step.failure, overlong, true_or, if_true]
      rfl
    · simp only [Step.Stops, Step.failure, overlong, false_or, Bool.false_eq_true, if_false]
      split <;> rfl

end Operator

end DiceTable
