import DiceTable.Proofs.Grammar.Variant
import Mathlib.Data.Nat.Digits.Defs

/-! # Numbers are read exactly

The significant digits of a run are as many as the digits of its value, so a number that is refused
for its length alone is beyond the range (`Decimal.lt_length_significant_iff`). What is left of the
runs that can be converted is read as its value or refused for its value (`readNumber_exact`).
-/

namespace DiceTable

namespace Decimal

variable {run : List Char}

/-- A run has as many significant digits as its value has digits, but for zero. -/
theorem lt_length_significant_iff (isDigits : ∀ c ∈ run, c.isDigit) {places : Nat}
    (some : 0 < places) :
    places < (significant run).length ↔ places < (digits (value run)).length := by
  have same : unsigned run = run := unsigned_of_isDigit isDigits
  have unsignedDigits := isDigit_of_mem_unsigned isDigits
  rw [← Nat.not_le, ← Nat.not_le, length_digits_le_iff some, not_iff_not]
  constructor
  · intro short
    have small := value_lt_of_significant unsignedDigits short
    rwa [same] at small
  · intro small
    by_contra long
    have large := pow_le_value_of_significant unsignedDigits (Nat.lt_of_not_le long)
    rw [same] at large
    exact Nat.not_lt.mpr large small

/-- Zeros in front change neither the number nor that it is one. -/
theorem sameNumber_replicate_append (zeros : Nat) (run : List Char) :
    SameNumber (List.replicate zeros '0' ++ run) run := by
  unfold SameNumber
  rw [List.dropWhile_append_of_pos fun c member => beq_iff_eq.mpr (List.eq_of_mem_replicate member)]

theorem IsRun.replicate_append (isRun : IsRun run) (zeros : Nat) :
    IsRun (List.replicate zeros '0' ++ run) where
  nonempty := List.append_ne_nil_of_right_ne_nil _ isRun.nonempty
  digits := by
    refine List.forall_mem_append.mpr ⟨fun c member => ?_, isRun.digits⟩
    rw [List.eq_of_mem_replicate member]
    rfl

/-- A number with more digits than the largest one is larger. -/
theorem maxInt_lt_of_length {n : Nat} (long : (digits maxInt.toNat).length < (digits n).length) :
    maxInt < n := by
  have larger : 10 ^ (digits maxInt.toNat).length ≤ n :=
    Nat.not_lt.mp fun small => Nat.not_le.mpr long ((length_digits_le_iff (by decide)).mpr small)
  have beyond : maxInt.toNat < 10 ^ (digits maxInt.toNat).length :=
    (length_digits_le_iff (by decide)).mp (Nat.le_refl _)
  have most : maxInt = maxInt.toNat := rfl
  omega

end Decimal

open Decimal

variable {run : List Char}

/-- A run that can be converted is refused for its length, for its value, or not at all. -/
theorem readNumber_of_isRun (isRun : IsRun run) (short : run.length ≤ digitLimit)
    (fragment : String) :
    readNumber run fragment =
      if (digits maxInt.toNat).length < (digits (value run)).length then
        .error (.dice (.numberTooLong (String.ofList (run.take 16)) fragment))
      else if maxInt < value run then
        .error (.dice (.numberTooLarge (String.ofList run) fragment))
      else .ok (value run) := by
  have places : (digits maxInt.toNat).length = boundedDigits := rfl
  have lengths : boundedDigits < (significant run).length ↔
      boundedDigits < (digits (value run)).length :=
    lt_length_significant_iff isRun.digits (by decide)
  rw [readNumber, bounded_of_isDigit isRun.nonempty isRun.digits, places,
    if_neg (Nat.not_lt.mpr short)]
  simp only [gt_iff_lt, lengths]
  split
  · rfl
  · split <;> rfl

/-- A run of digits that can be converted is read as its value if that is in the range, and is an
overflow otherwise. The check of its length refuses all numbers that have more digits than the
largest one and no others, and so none of the range. Zeros in front do not matter. -/
theorem readNumber_exact (isRun : IsRun run) (short : run.length ≤ digitLimit)
    (fragment : String) :
    (∀ n, readNumber run fragment = .ok n ↔ n = value run ∧ (value run : Int) ≤ maxInt) ∧
    (maxInt < value run → ∃ error : DiceError, readNumber run fragment = .error (.dice error) ∧
      error.kind = .arithmeticOverflow ∧ error.fragment = fragment) ∧
    ((∃ opening, readNumber run fragment = .error (.dice (.numberTooLong opening fragment))) ↔
      (digits maxInt.toNat).length < (digits (value run)).length) ∧
    ((digits maxInt.toNat).length < (digits (value run)).length → maxInt < value run) ∧
    ∀ zeros, (List.replicate zeros '0' ++ run).length ≤ digitLimit →
      Agree Eq (readNumber (List.replicate zeros '0' ++ run) fragment)
        (readNumber run fragment) := by
  have reads := readNumber_of_isRun isRun short fragment
  have beyond := maxInt_lt_of_length (n := value run)
  refine ⟨fun n => ?_, fun overflows => ?_, ?_, beyond, fun zeros stillShort => ?_⟩
  · rw [reads]
    constructor
    · intro answer
      split at answer
      · cases answer
      · split at answer
        · cases answer
        · rename_i inRange
          cases answer
          exact ⟨rfl, Int.not_lt.mp inRange⟩
    · rintro ⟨rfl, inRange⟩
      rw [if_neg fun long => Int.not_lt.mpr inRange (beyond long), if_neg (Int.not_lt.mpr inRange)]
  · rw [reads, if_pos overflows]
    split
    · exact ⟨_, rfl, rfl, rfl⟩
    · exact ⟨_, rfl, rfl, rfl⟩
  · rw [reads]
    constructor
    · rintro ⟨opening, refused⟩
      split at refused
      · assumption
      · split at refused <;> cases refused
    · intro long
      exact ⟨_, if_pos long⟩
  · exact readNumber_agree (sameNumber_replicate_append zeros run) (isRun.replicate_append zeros)
      isRun stillShort short fragment fragment

/-- The largest number is read, also behind four thousand zeros, and the next one overflows although
it has no more digits. -/
theorem readNumber_exact_most :
    let most := "2147483647".toList
    let next := "2147483648".toList
    let zeros := 4000
    IsRun most ∧ most.length ≤ digitLimit ∧ IsRun next ∧ next.length ≤ digitLimit ∧
      (List.replicate zeros '0' ++ most).length ≤ digitLimit ∧
      readNumber most "d" = .ok 2147483647 ∧
      Agree Eq (readNumber (List.replicate zeros '0' ++ most) "d") (readNumber most "d") ∧
      (∃ error : DiceError, readNumber next "d" = .error (.dice error) ∧
        error.kind = .arithmeticOverflow ∧ error.fragment = "d") ∧
      ¬∃ opening, readNumber next "d" = .error (.dice (.numberTooLong opening "d")) := by
  intro most next zeros
  have mostRun : IsRun most := ⟨by decide, List.all_eq_true.mp (by decide)⟩
  have nextRun : IsRun next := ⟨by decide, List.all_eq_true.mp (by decide)⟩
  have mostShort : most.length ≤ digitLimit := by decide
  have nextShort : next.length ≤ digitLimit := by decide
  have mostValue : value most = 2147483647 := by decide
  have nextValue : value next = 2147483648 := by decide
  have zerosShort : (List.replicate zeros '0' ++ most).length ≤ digitLimit := by
    rw [List.length_append, List.length_replicate]
    decide
  obtain ⟨read, _, _, _, padded⟩ := readNumber_exact mostRun mostShort "d"
  obtain ⟨_, overflows, refusedForLength, _⟩ := readNumber_exact nextRun nextShort "d"
  rw [mostValue] at read
  rw [nextValue] at overflows refusedForLength
  refine ⟨mostRun, mostShort, nextRun, nextShort, zerosShort, (read _).mpr ⟨rfl, by decide⟩,
    padded zeros zerosShort, overflows (by decide), fun refused => ?_⟩
  exact absurd (refusedForLength.mp refused) (by decide)

end DiceTable
