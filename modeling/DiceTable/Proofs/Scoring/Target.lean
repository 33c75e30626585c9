import DiceTable.Proofs.Decimal.Magnitude
import DiceTable.Proofs.Grammar.Acceptance
import DiceTable.Proofs.Scoring.Verdict

/-! # The effective target

Target and modifier of a test may have any number of digits. Each of them is saturated on its own
before they are added up and the sum is clamped to 1 to 100. Saturating makes no difference there
unless a saturated target meets a negative modifier that comes close to it
(`TestSpelling.IsClose`, `Expression.classify_target`).
-/

namespace DiceTable

open Decimal

namespace TestSpelling

/-- The exact value of a modifier, with its sign. -/
def modifierValue : List Char → Int
  | [] => 0
  | sign :: digits => if sign = '-' then -(Decimal.value digits : Int) else Decimal.value digits

theorem modifierValue_eq {written : List Char} (modifier : isModifier written) :
    modifierValue written = if isNegative written then -(Decimal.value (unsigned written) : Int)
      else Decimal.value (unsigned written) := by
  cases written with
  | nil => rfl
  | cons sign digits =>
    simp only [isModifier, Bool.and_eq_true, List.all_eq_true] at modifier
    obtain ⟨⟨signed, _⟩, digit⟩ := modifier
    rw [unsigned, List.dropWhile_cons_of_pos signed, ← unsigned, unsigned_of_isDigit digit]
    simp [modifierValue, isNegative]

/-- The target saturates, and the modifier takes away a number of about the same length. -/
def IsClose (spelling : TestSpelling) : Prop :=
  modifierValue spelling.modifier < 0 ∧
    saturationDigits ≤ (significant spelling.modifier).length ∧
    saturationDigits < (significant spelling.target).length

end TestSpelling

/-- What a number is read as that stands for all larger ones from `bound` on. -/
def IsSaturated (bound exact read : Nat) : Prop :=
  exact < bound ∧ read = exact ∨ bound ≤ exact ∧ read = bound

/-- A sum of saturated numbers is clamped to the same as that of the exact ones, if none is taken
away from a saturated one but one that is much smaller. -/
theorem clamp_saturated {small target modifier readTarget readModifier : Nat} {negative : Bool}
    (hundred : 100 ≤ small) (first : IsSaturated (10 * small) target readTarget)
    (second : IsSaturated (10 * small) modifier readModifier)
    (far : negative → 10 * small ≤ target → modifier < small) :
    max 1 (min 100
        ((readTarget : Int) + if negative then -(readModifier : Int) else readModifier)) =
      max 1 (min 100 ((target : Int) + if negative then -(modifier : Int) else modifier)) := by
  cases negative with
  | false =>
    simp only [Bool.false_eq_true, if_false]
    rcases first with ⟨_, rfl⟩ | ⟨_, rfl⟩ <;> rcases second with ⟨_, rfl⟩ | ⟨_, rfl⟩ <;> omega
  | true =>
    have far := far rfl
    simp only [if_true]
    rcases first with ⟨_, rfl⟩ | ⟨_, rfl⟩ <;> rcases second with ⟨_, rfl⟩ | ⟨_, rfl⟩ <;> omega

section Readings

variable {run written : List Char}

theorem Decimal.clamped_isSaturated (digits : ∀ c ∈ unsigned written, c.isDigit) :
    ∃ magnitude : Nat, clamped written =
      .ok (if isNegative written then -(magnitude : Int) else magnitude) ∧
      IsSaturated (10 ^ saturationDigits) (value (unsigned written)) magnitude := by
  obtain ⟨magnitude, read, short | long⟩ := clamped_cases digits
  · exact ⟨magnitude, read, .inl ⟨value_lt_of_significant digits short.1, short.2⟩⟩
  · exact ⟨magnitude, read, .inr ⟨pow_le_value_of_significant digits long.1, long.2⟩⟩

theorem Decimal.clamped_isSaturated_of_isDigit (digits : ∀ c ∈ run, c.isDigit) :
    ∃ magnitude : Nat, clamped run = .ok magnitude ∧
      IsSaturated (10 ^ saturationDigits) (value run) magnitude := by
  obtain ⟨magnitude, read, saturated⟩ := clamped_isSaturated (isDigit_of_mem_unsigned digits)
  rw [isNegative_of_isDigit digits] at read
  rw [unsigned_of_isDigit digits] at saturated
  exact ⟨magnitude, read, saturated⟩

/-- A saturated run has many digits. -/
theorem Decimal.lt_length_significant (digits : ∀ c ∈ run, c.isDigit) {n : Nat}
    (large : 10 ^ n ≤ value run) : n < (significant run).length := by
  by_contra short
  have small := value_lt_of_significant (isDigit_of_mem_unsigned digits) (Nat.le_of_not_lt short)
  rw [unsigned_of_isDigit digits] at small
  omega

end Readings

namespace TestSpelling

variable {spelling : TestSpelling} {group : DiceGroup} {canonical : String}

/-- A modifier that is close to a saturated target is nearly as long. -/
theorem lt_of_not_isClose (wellFormed : spelling.WellFormed) (apart : ¬spelling.IsClose) {n : Nat}
    (shorter : saturationDigits = n + 1) (negative : isNegative spelling.modifier)
    (large : 10 ^ saturationDigits ≤ Decimal.value spelling.target) :
    Decimal.value (unsigned spelling.modifier) < 10 ^ n := by
  have long := lt_length_significant wellFormed.target.digits large
  by_cases zero : Decimal.value (unsigned spelling.modifier) = 0
  · rw [zero]
    exact Nat.pow_pos (by decide)
  · apply value_lt_of_significant (isDigit_of_isModifier wellFormed.modifier)
    by_contra short
    refine apart ⟨?_, by omega, long⟩
    rw [modifierValue_eq wellFormed.modifier, if_pos negative]
    omega

/-- A test that can be rolled is read, and its target is that of the exact numbers unless they are
close. -/
theorem exists_test (wellFormed : spelling.WellFormed) (read : spelling.group canonical = .ok group)
    (counted : 1 ≤ group.count) (sided : 1 ≤ group.sides) :
    ∃ test, spelling.test canonical = .ok test ∧
      readClamped spelling.target = .ok test.baseTarget ∧
      readClamped spelling.modifier = .ok test.modifier ∧
      (¬spelling.IsClose → test.target =
        max 1 (min 100 (Decimal.value spelling.target + modifierValue spelling.modifier))) := by
  obtain ⟨target, readTarget, first⟩ := clamped_isSaturated_of_isDigit wellFormed.target.digits
  obtain ⟨modifier, readModifier, second⟩ :=
    clamped_isSaturated (isDigit_of_isModifier wellFormed.modifier)
  have readsTarget : readClamped spelling.target = .ok target :=
    Except.mapError_eq_ok.mpr readTarget
  have readsModifier : readClamped spelling.modifier = .ok _ :=
    Except.mapError_eq_ok.mpr readModifier
  refine ⟨⟨canonical, group.count, group.sides, target, _, group.exploding⟩, ?_, readsTarget,
    readsModifier, fun apart => ?_⟩
  · refine Except.bind_eq_ok.mpr ⟨group, read, ?_⟩
    rw [if_neg (by omega)]
    exact Except.bind_eq_ok.mpr ⟨_, readsTarget, Except.bind_eq_ok.mpr ⟨_, readsModifier, rfl⟩⟩
  · obtain ⟨n, shorter, many⟩ : ∃ n, saturationDigits = n + 1 ∧ 2 ≤ n := ⟨3999, rfl, by decide⟩
    have far := lt_of_not_isClose wellFormed apart shorter
    rw [shorter, Nat.pow_succ, Nat.mul_comm] at first second far
    have hundred : 100 ≤ 10 ^ n := Nat.pow_le_pow_right (by decide : 0 < 10) many
    rw [modifierValue_eq wellFormed.modifier]
    exact clamp_saturated hundred first second far

end TestSpelling

/-- A text of a test that can be rolled is read as one, however long its numbers are. Its target is
within 1 to 100, and it is that of the exact numbers unless these are close. -/
theorem Expression.classify_target {text : String} {spelling : TestSpelling} {group : DiceGroup}
    (wellFormed : spelling.WellFormed) (spelled : spelling.chars = Text.compact text.toList)
    (read : spelling.group (String.ofList (Text.compact text.toList)) = .ok group)
    (counted : 1 ≤ group.count) (sided : 1 ≤ group.sides) :
    ∃ test, Expression.classify text = .ok (.test test) ∧
      readClamped spelling.target = .ok test.baseTarget ∧
      readClamped spelling.modifier = .ok test.modifier ∧
      1 ≤ test.target ∧ test.target ≤ 100 ∧
      (¬spelling.IsClose → test.target = max 1 (min 100
        (Decimal.value spelling.target + TestSpelling.modifierValue spelling.modifier))) := by
  obtain ⟨test, readTest, readTarget, readModifier, exact⟩ :=
    TestSpelling.exists_test wellFormed read counted sided
  have bounds := test.target_bounds
  refine ⟨test, ?_, readTarget, readModifier, bounds.1, bounds.2, exact⟩
  have found := TestSpelling.read?_eq_some_iff.mpr ⟨wellFormed, spelled⟩
  rcases Expression.classify_cases text with ⟨empty, _⟩ | ⟨same, readSame, classified⟩ | ⟨none, _⟩
  · rw [empty] at found
    cases found
  · rw [found] at readSame
    cases readSame
    rw [classified, readTest]
    rfl
  · rw [none] at found
    cases found

/-- Leading zeros of target and modifier do not matter, and neither does it that a target is read as
a smaller number if it has more digits than are kept. -/
theorem Expression.classify_target_zeros :
    let text := " 2D20 w0075 - 00050"
    let spelling : TestSpelling := ⟨some ⟨['2'], 'D', ['2', '0'], false⟩, 'w',
      ['0', '0', '7', '5'], ['-', '0', '0', '0', '5', '0']⟩
    spelling.WellFormed ∧ spelling.chars = Text.compact text.toList ∧
    spelling.group (String.ofList (Text.compact text.toList)) = .ok ⟨2, 20, false⟩ ∧
    ¬spelling.IsClose ∧
    (∃ test, Expression.classify text = .ok (.test test) ∧ test.baseTarget = 75 ∧
      test.modifier = -50 ∧ test.target = 25) ∧
    let saturated : TestSpelling :=
      ⟨none, 'w', '7' :: List.replicate saturationDigits '0', ['-', '5']⟩
    saturated.WellFormed ∧ ¬saturated.IsClose ∧
    ∃ test, Expression.classify (String.ofList saturated.chars) = .ok (.test test) ∧
      test.baseTarget < Decimal.value saturated.target ∧ test.target = 100 := by
  intro text spelling
  have wellFormed : spelling.WellFormed := by
    refine ⟨?_, by decide, ⟨by decide, List.all_eq_true.mp (by decide)⟩, by decide⟩
    rintro _ ⟨⟩
    exact ⟨List.all_eq_true.mp (by decide), by decide, by decide, List.all_eq_true.mp (by decide)⟩
  have spelled : spelling.chars = Text.compact text.toList := by
    decide
  have read : spelling.group (String.ofList (Text.compact text.toList)) = .ok ⟨2, 20, false⟩ := by
    decide +kernel
  have apart : ¬spelling.IsClose := fun close => absurd close.2.1 (by decide)
  obtain ⟨test, classified, readTarget, readModifier, _, _, exact⟩ :=
    Expression.classify_target wellFormed spelled read (by decide) (by decide)
  refine ⟨wellFormed, spelled, read, apart, ⟨test, classified, ?_, ?_, ?_⟩, ?_⟩
  · have target : readClamped spelling.target = .ok 75 := by decide +kernel
    exact (Except.ok.inj (target.symm.trans readTarget)).symm
  · have modifier : readClamped spelling.modifier = .ok (-50) := by decide +kernel
    exact (Except.ok.inj (modifier.symm.trans readModifier)).symm
  · rw [exact apart]
    decide
  · intro saturated
    have digits : ∀ c ∈ saturated.target, c.isDigit := isDigit_of_mem_cons_zeros rfl _
    have wellFormed : saturated.WellFormed :=
      ⟨by rintro _ ⟨⟩, by decide, ⟨List.cons_ne_nil _ _, digits⟩, by decide⟩
    have apart : ¬saturated.IsClose := fun close => absurd close.2.1 (by decide)
    have spelled : saturated.chars = Text.compact (String.ofList saturated.chars).toList := by
      have kept : Text.compact ('w' :: saturated.target) = 'w' :: saturated.target :=
        congrArg _ (IsRun.compact_eq ⟨List.cons_ne_nil _ _, digits⟩)
      have whole : saturated.chars = 'w' :: saturated.target ++ ['-', '5'] := rfl
      rw [String.toList_ofList, whole, Text.compact_append, kept]
      rfl
    obtain ⟨test, classified, readTarget, _, _, _, exact⟩ :=
      Expression.classify_target wellFormed spelled rfl (by decide) (by decide)
    have beyond (n : Nat) : 10 ^ n < value ('7' :: List.replicate n '0') := by
      have positive : 0 < 10 ^ n := Nat.pow_pos (by decide)
      have seven : '7'.toNat - '0'.toNat = 7 := rfl
      rw [value_cons, List.length_replicate, seven]
      omega
    have large : 10 ^ saturationDigits < value saturated.target := beyond saturationDigits
    refine ⟨wellFormed, apart, test, classified, ?_, ?_⟩
    · obtain ⟨magnitude, read, smaller | ⟨_, most⟩⟩ := clamped_isSaturated_of_isDigit digits
      · exact absurd smaller.1 (Nat.not_lt.mpr (Nat.le_of_lt large))
      · have same := read.symm.trans (Except.mapError_eq_ok.mp readTarget)
        rw [← Except.ok.inj same, most]
        exact Int.ofNat_lt.mpr large
    · have many : 10 ^ 3 ≤ 10 ^ saturationDigits := Nat.pow_le_pow_right (by decide) (by decide)
      have thousand : 10 ^ 3 < value saturated.target := Nat.lt_of_le_of_lt many large
      have five : TestSpelling.modifierValue saturated.modifier = -5 := by decide
      rw [exact apart, five]
      omega

end DiceTable
