import DiceTable.Proofs.Scoring.Target
import DiceTable.Proofs.Scoring.Variants

/-! # Saturation keeps order

A target or a modifier is read as the number of the saturated range that is nearest to its exact
value (`readClamped_of_isRun`, `readClamped_of_isModifier`), and this, adding and clamping all keep
order. So a test has an effective target however many digits it is written with
(`TestSpelling.hasTarget`), and a larger written target or modifier never makes it smaller
(`TestSpelling.hasTarget_mono`).
-/

namespace DiceTable

open Decimal

section Saturate

variable {bound : Nat} {m n : Int}

/-- The number nearest to `n` that is at most `bound` away from zero. -/
def saturate (bound : Nat) (n : Int) : Int :=
  max (-bound) (min bound n)

theorem saturate_mono (bound : Nat) (le : m ≤ n) : saturate bound m ≤ saturate bound n :=
  max_le_max (Int.le_refl _) (min_le_min (Int.le_refl _) le)

theorem saturate_neg (bound : Nat) (n : Int) : saturate bound (-n) = -saturate bound n := by
  unfold saturate
  omega

theorem saturate_of_le (large : bound ≤ n) : saturate bound n = bound := by
  unfold saturate
  omega

theorem saturate_of_natAbs_le (small : n.natAbs ≤ bound) : saturate bound n = n := by
  unfold saturate
  omega

theorem IsSaturated.eq_saturate {exact read : Nat} (saturated : IsSaturated bound exact read) :
    (read : Int) = saturate bound exact := by
  rcases saturated with ⟨small, rfl⟩ | ⟨large, rfl⟩
  · exact (saturate_of_natAbs_le (Nat.le_of_lt small)).symm
  · exact (saturate_of_le (Int.ofNat_le.mpr large)).symm

end Saturate

section Readings

variable {run written : List Char}

/-- A target of any length is read as its value, saturated. -/
theorem readClamped_of_isRun (isRun : IsRun run) :
    readClamped run = .ok (saturate (10 ^ saturationDigits) (value run)) := by
  obtain ⟨magnitude, read, saturated⟩ := clamped_isSaturated_of_isDigit isRun.digits
  rw [readClamped, read, saturated.eq_saturate]
  rfl

/-- A modifier of any length, and one that is left out, is read as its value, saturated. -/
theorem readClamped_of_isModifier (modifier : TestSpelling.isModifier written) :
    readClamped written =
      .ok (saturate (10 ^ saturationDigits) (TestSpelling.modifierValue written)) := by
  obtain ⟨magnitude, read, saturated⟩ :=
    clamped_isSaturated (TestSpelling.isDigit_of_isModifier modifier)
  rw [readClamped, read, saturated.eq_saturate, TestSpelling.modifierValue_eq modifier,
    apply_ite (saturate _), saturate_neg]
  rfl

end Readings

namespace TestSpelling

variable {spelling raised : TestSpelling} {canonical : String} {test : SkillTest}

/-- The target of the saturated numbers, kept within 1 to 100. -/
def effectiveTarget (spelling : TestSpelling) : Int :=
  max 1 (min 100 (saturate (10 ^ saturationDigits) (Decimal.value spelling.target) +
    saturate (10 ^ saturationDigits) (modifierValue spelling.modifier)))

theorem effectiveTarget_le (target : Decimal.value spelling.target ≤ Decimal.value raised.target)
    (modifier : modifierValue spelling.modifier ≤ modifierValue raised.modifier) :
    spelling.effectiveTarget ≤ raised.effectiveTarget := by
  have targets := saturate_mono (10 ^ saturationDigits) (Int.ofNat_le.mpr target)
  have modifiers := saturate_mono (10 ^ saturationDigits) modifier
  exact max_le_max (Int.le_refl _) (min_le_min (Int.le_refl _) (Int.add_le_add targets modifiers))

/-- A test that is read has the effective target, whatever its dice are. -/
theorem target_of_test (wellFormed : spelling.WellFormed)
    (read : spelling.test canonical = .ok test) : test.target = spelling.effectiveTarget := by
  obtain ⟨group, _, read⟩ := Except.bind_eq_ok.mp read
  rw [readClamped_of_isRun wellFormed.target, readClamped_of_isModifier wellFormed.modifier] at read
  split at read
  · cases read
  · cases read
    rfl

theorem target_of_classify {text : String} (wellFormed : spelling.WellFormed)
    (spelled : spelling.chars = Text.compact text.toList)
    (classified : Expression.classify text = .ok (.test test)) :
    test.target = spelling.effectiveTarget := by
  rw [classify_eq wellFormed spelled] at classified
  obtain ⟨_, read, same⟩ := Except.map_eq_ok.mp classified
  cases same
  exact target_of_test wellFormed read

/-- Where the target of a written test shows, whatever the dice are that it is written for. -/
structure HasTarget (spelling : TestSpelling) (effective : Int) : Prop where
  /-- Both numbers are read, and it is their sum, kept within 1 to 100. -/
  read : ∃ baseTarget modifier, readClamped spelling.target = .ok baseTarget ∧
    readClamped spelling.modifier = .ok modifier ∧
    effective = max 1 (min 100 (baseTarget + modifier))
  /-- No text of the test is refused for another reason than its dice. -/
  accepted : ∀ text group, spelling.chars = Text.compact text.toList →
    spelling.group (String.ofList (Text.compact text.toList)) = .ok group → 1 ≤ group.count →
    1 ≤ group.sides → ∃ test, Expression.classify text = .ok (.test test)
  classified : ∀ text test, spelling.chars = Text.compact text.toList →
    Expression.classify text = .ok (.test test) → test.target = effective
  rolled : ∀ {σ : Type} (source : Source σ) (limit : Limit) text state result,
    spelling.chars = Text.compact text.toList →
    (source.evaluate limit text state).1 = .ok (.test result) → result.target = effective

/-- A well-formed test has an effective target, however many digits its numbers have. -/
theorem hasTarget (wellFormed : spelling.WellFormed) :
    spelling.HasTarget spelling.effectiveTarget := by
  constructor
  case read =>
    exact ⟨_, _, readClamped_of_isRun wellFormed.target,
      readClamped_of_isModifier wellFormed.modifier, rfl⟩
  case accepted =>
    intro text group spelled read counted sided
    obtain ⟨test, readTest, _⟩ := exists_test wellFormed read counted sided
    refine ⟨test, ?_⟩
    rw [classify_eq wellFormed spelled, readTest]
    rfl
  case classified =>
    intro text test spelled classified
    exact target_of_classify wellFormed spelled classified
  case rolled =>
    intro σ source limit text state result spelled answer
    obtain ⟨expression, classified, answer⟩ := Source.evaluate_eq_ok.mp answer
    cases expression with
    | arithmetic canonical =>
      obtain ⟨_, _, _, _, same⟩ := Source.roll_arithmetic_eq_ok.mp answer
      cases same
    | test test =>
      obtain ⟨scored, after, run, answer⟩ := Rolling.bind_eq_ok.mp answer
      cases answer
      rw [(Source.score_of_runTest (congrArg Prod.fst run)).1]
      exact target_of_classify wellFormed spelled classified

/-- Raising the written target of a test or its written modifier never lowers its effective target,
however many digits they have and whatever the dice of the two tests are. -/
theorem hasTarget_mono (wellFormed : spelling.WellFormed) (raisedWellFormed : raised.WellFormed)
    (target : Decimal.value spelling.target ≤ Decimal.value raised.target)
    (modifier : modifierValue spelling.modifier ≤ modifierValue raised.modifier) :
    spelling.HasTarget spelling.effectiveTarget ∧ raised.HasTarget raised.effectiveTarget ∧
      spelling.effectiveTarget ≤ raised.effectiveTarget :=
  ⟨hasTarget wellFormed, hasTarget raisedWellFormed, effectiveTarget_le target modifier⟩

/-- All numbers but the last one saturate, and the target of the raised test is behind a zero. -/
theorem hasTarget_mono_saturated :
    let zeros := List.replicate saturationDigits '0'
    let spelling : TestSpelling := ⟨none, 'w', '1' :: zeros, '-' :: '1' :: zeros⟩
    let raised : TestSpelling := ⟨none, 'W', '0' :: '1' :: '0' :: zeros, ['-', '5']⟩
    spelling.WellFormed ∧ raised.WellFormed ∧
      Decimal.value spelling.target ≤ Decimal.value raised.target ∧
      modifierValue spelling.modifier ≤ modifierValue raised.modifier ∧
      spelling.HasTarget 1 ∧ raised.HasTarget 100 := by
  intro zeros spelling raised
  have length : zeros.length = saturationDigits := List.length_replicate
  have power : ∀ c ∈ '1' :: zeros, c.isDigit := isDigit_of_mem_cons_zeros rfl _
  have wellFormed : spelling.WellFormed := by
    refine ⟨by rintro _ ⟨⟩, by decide, ⟨List.cons_ne_nil _ _, power⟩, ?_⟩
    simp only [spelling, isModifier, List.all_eq_true.mpr power]
    decide
  have raisedWellFormed : raised.WellFormed := by
    refine ⟨by rintro _ ⟨⟩, by decide, ⟨List.cons_ne_nil _ _, ?_⟩, by decide⟩
    simpa [raised] using power
  have saturated : 10 ^ saturationDigits ≤ Decimal.value ('1' :: zeros) :=
    pow_le_value_cons_zeros rfl (by decide) _
  have raisedSaturated :
      10 ^ (saturationDigits + 1) ≤ Decimal.value ('0' :: '1' :: '0' :: zeros) := by
    rw [value_cons, Nat.sub_self, Nat.mul_zero, Nat.zero_add, ← length]
    exact pow_le_value rfl (by decide) ('0' :: zeros)
  have larger : Decimal.value spelling.target ≤ Decimal.value raised.target := by
    have bounded := value_lt power
    rw [List.length_cons, length] at bounded
    exact Nat.le_trans (Nat.le_of_lt bounded) raisedSaturated
  have modifier : modifierValue spelling.modifier = -(Decimal.value ('1' :: zeros) : Int) := by
    simp only [spelling, modifierValue, if_true]
  have raisedModifier : modifierValue raised.modifier = -5 := by decide
  have many : 10 ^ 3 ≤ 10 ^ saturationDigits := Nat.pow_le_pow_right (by decide) (by decide)
  have smaller : modifierValue spelling.modifier ≤ modifierValue raised.modifier := by
    rw [modifier, raisedModifier]
    omega
  -- Here the saturated numbers cancel out, as the exact ones do.
  have least : spelling.effectiveTarget = 1 := by
    rw [effectiveTarget, modifier, saturate_neg, Int.add_right_neg]
    rfl
  have most : raised.effectiveTarget = 100 := by
    have exceeds := Int.ofNat_le.mpr (Nat.le_trans saturated larger)
    rw [effectiveTarget, saturate_of_le exceeds, raisedModifier, saturate_of_natAbs_le (by omega)]
    omega
  obtain ⟨has, raisedHas, _⟩ := hasTarget_mono wellFormed raisedWellFormed larger smaller
  rw [least] at has
  rw [most] at raisedHas
  exact ⟨wellFormed, raisedWellFormed, larger, smaller, has, raisedHas⟩

end TestSpelling

end DiceTable
