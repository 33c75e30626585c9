import DiceTable.Dice.SkillTest
import DiceTable.Proofs.Rolling.Outcome

/-! # Verdicts

Three layers of rules decide on a face: the comparison with the target, the extreme faces of a
hundred-sided die, and doubles. However these override each other, an outcome is consistent for all
integers (`Outcome.score_consistent`). In the result of a test, whose target is clamped, the sign of
the success level tells successes from failures, but for faces of 96 to 99 against the target 100
(`Source.runTest_consistent`).
-/

namespace DiceTable

section Rules

variable {raw target sides : Int}

/-- A face on the low end of a hundred-sided die. -/
theorem isAutoSuccess_iff : isAutoSuccess raw sides ↔ sides = 100 ∧ 1 ≤ raw ∧ raw ≤ 5 := by
  simp [isAutoSuccess, percentileSides, and_assoc]

/-- A face on the high end of a hundred-sided die. -/
theorem isAutoFailure_iff : isAutoFailure raw sides ↔ sides = 100 ∧ 96 ≤ raw ∧ raw ≤ 100 := by
  simp [isAutoFailure, percentileSides, and_assoc]

theorem not_isAutoFailure (success : isAutoSuccess raw sides) :
    isAutoFailure raw sides = false := by
  rw [Bool.eq_false_iff, ne_eq, isAutoFailure_iff]
  have := isAutoSuccess_iff.mp success
  omega

theorem isDoubles_iff : isDoubles raw ↔ raw ∈ [11, 22, 33, 44, 55, 66, 77, 88, 99] := by
  simp only [isDoubles, Bool.and_eq_true, decide_eq_true_eq, beq_iff_eq, List.mem_cons,
    List.not_mem_nil, or_false]
  omega

/-- On a failure the distance of the tens is not positive as it is. -/
theorem successLevel_eq (raw target : Int) :
    successLevel raw target = target.fdiv 10 - raw.fdiv 10 := by
  rw [Int.fdiv_eq_ediv_of_nonneg _ (by decide), Int.fdiv_eq_ediv_of_nonneg _ (by decide)]
  unfold successLevel
  dsimp only
  split
  · rfl
  · have tens : target / 10 ≤ raw / 10 := Int.ediv_le_ediv (by decide) (by omega)
    omega

end Rules

namespace Outcome

variable {raw target sides : Int}

theorem score_of_isAutoSuccess (success : isAutoSuccess raw sides) (target : Int) :
    score raw target sides = ⟨raw, DiceTable.successLevel raw target, true, true, false⟩ := by
  simp [score, success, not_isAutoFailure success]

theorem score_of_isAutoFailure (notSuccess : isAutoSuccess raw sides = false)
    (failure : isAutoFailure raw sides) (target : Int) :
    score raw target sides = ⟨raw, DiceTable.successLevel raw target, false, false, true⟩ := by
  simp [score, notSuccess, failure]

/-- Between the extreme faces the comparison decides, and doubles make it critical. -/
theorem score_of_between (notSuccess : isAutoSuccess raw sides = false)
    (notFailure : isAutoFailure raw sides = false) (target : Int) :
    score raw target sides = ⟨raw, DiceTable.successLevel raw target, decide (raw ≤ target),
      isDoubles raw && decide (raw ≤ target), isDoubles raw && !decide (raw ≤ target)⟩ := by
  simp [score, notSuccess, notFailure]

/-- What all parts of an outcome say of its face, held against a target. -/
structure Consistent (outcome : Outcome) (target sides : Int) : Prop where
  level : outcome.successLevel = target.fdiv 10 - outcome.raw.fdiv 10
  exclusive : ¬(outcome.criticalSuccess ∧ outcome.criticalFailure)
  success : outcome.criticalSuccess → outcome.succeeded
  failure : outcome.criticalFailure → ¬outcome.succeeded
  /-- The comparison decides, but for the extreme faces of a hundred-sided die. -/
  verdict : outcome.succeeded ↔
    if sides = 100 ∧ 1 ≤ outcome.raw ∧ outcome.raw ≤ 5 then True
    else if sides = 100 ∧ 96 ≤ outcome.raw ∧ outcome.raw ≤ 100 then False
    else outcome.raw ≤ target
  critical : outcome.criticalSuccess ∨ outcome.criticalFailure ↔
    sides = 100 ∧ (1 ≤ outcome.raw ∧ outcome.raw ≤ 5 ∨ 96 ≤ outcome.raw ∧ outcome.raw ≤ 100) ∨
      outcome.raw ∈ [11, 22, 33, 44, 55, 66, 77, 88, 99]

/-- Scoring is consistent for all integers. -/
theorem score_consistent (raw target sides : Int) :
    (score raw target sides).Consistent target sides := by
  have level := successLevel_eq raw target
  cases success : isAutoSuccess raw sides with
  | true =>
    obtain ⟨percentile, low⟩ := isAutoSuccess_iff.mp success
    rw [score_of_isAutoSuccess success]
    exact {
      level
      exclusive := by simp
      success := fun _ => rfl
      failure := nofun
      verdict := by rw [if_pos ⟨percentile, low⟩]; simp
      critical := ⟨fun _ => .inl ⟨percentile, .inl low⟩, fun _ => .inl rfl⟩ }
  | false =>
    have notLow : ¬(sides = 100 ∧ 1 ≤ raw ∧ raw ≤ 5) := by simp [← isAutoSuccess_iff, success]
    cases failure : isAutoFailure raw sides with
    | true =>
      obtain ⟨percentile, high⟩ := isAutoFailure_iff.mp failure
      rw [score_of_isAutoFailure success failure]
      exact {
        level
        exclusive := by simp
        success := nofun
        failure := nofun
        verdict := by rw [if_neg notLow, if_pos ⟨percentile, high⟩]; simp
        critical := ⟨fun _ => .inl ⟨percentile, .inr high⟩, fun _ => .inr rfl⟩ }
    | false =>
      have notHigh : ¬(sides = 100 ∧ 96 ≤ raw ∧ raw ≤ 100) := by
        simp [← isAutoFailure_iff, failure]
      have between : ¬(sides = 100 ∧ (1 ≤ raw ∧ raw ≤ 5 ∨ 96 ≤ raw ∧ raw ≤ 100)) := by
        rw [and_or_left]
        exact not_or.mpr ⟨notLow, notHigh⟩
      rw [score_of_between success failure]
      exact {
        level
        exclusive := by by_cases le : raw ≤ target <;> simp [le]
        success := by simp
        failure := by simp
        verdict := by rw [if_neg notLow, if_neg notHigh]; simp
        critical := by
          rw [or_iff_right between, ← isDoubles_iff]
          by_cases le : raw ≤ target <;> simp [le] }

namespace Consistent

variable {outcome : Outcome}

theorem level_eq (consistent : outcome.Consistent target sides) :
    outcome.successLevel = target / 10 - outcome.raw / 10 := by
  rw [consistent.level, Int.fdiv_eq_ediv_of_nonneg _ (by decide),
    Int.fdiv_eq_ediv_of_nonneg _ (by decide)]

/-- Against a positive target, no success has a negative level. -/
theorem level_nonneg (consistent : outcome.Consistent target sides) (positive : 1 ≤ target)
    (succeeded : outcome.succeeded) : 0 ≤ outcome.successLevel := by
  have verdict := consistent.verdict.mp succeeded
  rw [consistent.level_eq]
  split at verdict
  · omega
  · split at verdict
    · exact verdict.elim
    · omega

/-- Against a target of at most 100, a failure has a positive level only where its face always
fails and is nevertheless in lower tens than the target. -/
theorem level_pos_iff (consistent : outcome.Consistent target sides) (bounded : target ≤ 100)
    (failed : ¬outcome.succeeded) :
    0 < outcome.successLevel ↔
      sides = 100 ∧ target = 100 ∧ 96 ≤ outcome.raw ∧ outcome.raw ≤ 99 := by
  rw [consistent.verdict] at failed
  rw [consistent.level_eq]
  split at failed
  · exact (failed trivial).elim
  · split at failed
    · rename_i high
      constructor
      · intro positive
        refine ⟨high.1, ?_, ?_, ?_⟩ <;> omega
      · rintro ⟨_, same, _, _⟩
        omega
    · constructor
      · intro positive
        omega
      · rintro ⟨percentile, _, least, most⟩
        omega

end Consistent

end Outcome

theorem SkillTest.target_bounds (test : SkillTest) : 1 ≤ test.target ∧ test.target ≤ 100 := by
  unfold target
  omega

namespace Source

variable {σ : Type} {source : Source σ} {limit : Limit} {state : σ} {test : SkillTest}
  {result : TestResult}

/-- Each die is scored, against the same target. -/
theorem scoreDice_yields_score (source : Source σ) (target sides : Int) (n : Nat) :
    (source.scoreDice target sides n).Yields
      (fun outcomes => ∀ outcome ∈ outcomes, ∃ raw, outcome = .score raw target sides)
      fun _ => True := by
  induction n with
  | zero => exact Rolling.yields_pure nofun
  | succ n ih =>
    have any : (source.draw 1 sides).Yields (fun _ => True) fun _ => True := by
      intro state
      split <;> trivial
    refine any.bind fun raw _ => ih.bind fun outcomes scored => Rolling.yields_pure ?_
    exact List.forall_mem_cons.mpr ⟨⟨raw, rfl⟩, scored⟩

/-- The dice of a test are scored against its target. -/
theorem score_of_runTest (answer : (source.runTest limit test state).1 = .ok result) :
    result.target = test.target ∧
      ∀ outcome ∈ result.outcomes, ∃ raw, outcome = .score raw test.target test.sides := by
  obtain ⟨_, _, answer⟩ := Rolling.ofExcept_bind_eq_ok.mp answer
  obtain ⟨outcomes, after, run, answer⟩ := Rolling.bind_eq_ok.mp answer
  cases answer
  exact ⟨rfl, (source.scoreDice_yields_score _ _ _).good_of_ok (congrArg Prod.fst run)⟩

/-- All scores are consistent. In the result of a test, whose target is kept within 1 to 100, no
success has a negative level, and a failure has a positive one exactly for a face of 96 to 99 on a
hundred-sided die against the target 100. -/
theorem runTest_consistent :
    (∀ raw target sides, (Outcome.score raw target sides).raw = raw ∧
      (Outcome.score raw target sides).Consistent target sides) ∧
    ∀ (σ : Type) (source : Source σ) (limit : Limit) (test : SkillTest) (state : σ)
      (result : TestResult), (source.runTest limit test state).1 = .ok result →
      (result.target = test.target ∧ 1 ≤ result.target ∧ result.target ≤ 100) ∧
      ∀ outcome ∈ result.outcomes, outcome.Consistent result.target test.sides ∧
        (outcome.succeeded → 0 ≤ outcome.successLevel) ∧
        (¬outcome.succeeded → (0 < outcome.successLevel ↔
          test.sides = 100 ∧ result.target = 100 ∧ 96 ≤ outcome.raw ∧ outcome.raw ≤ 99)) := by
  refine ⟨fun raw target sides => ⟨rfl, Outcome.score_consistent raw target sides⟩, ?_⟩
  intro σ source limit test state result answer
  obtain ⟨same, scored⟩ := score_of_runTest answer
  have bounds := test.target_bounds
  rw [same]
  refine ⟨⟨rfl, bounds⟩, fun outcome member => ?_⟩
  obtain ⟨raw, rfl⟩ := scored outcome member
  have consistent := Outcome.score_consistent raw test.target test.sides
  exact ⟨consistent, consistent.level_nonneg bounds.1, consistent.level_pos_iff bounds.2⟩

/-- Against the target 100 a face of 97 fails with a positive level, and one of 3 succeeds. -/
theorem runTest_consistent_fumble :
    let test : SkillTest := ⟨"2d100w90+25", 2, 100, 90, 25, false⟩
    let fumble : Outcome := ⟨97, 1, false, false, true⟩
    let luck : Outcome := ⟨3, 10, true, true, false⟩
    (listedSource.runTest 2 test [97, 3]).1 = .ok ⟨"2d100w90+25", 100, [fumble, luck]⟩ ∧
      fumble.Consistent 100 100 ∧ 0 < fumble.successLevel ∧ luck.Consistent 100 100 ∧
      0 ≤ luck.successLevel := by
  intro test fumble luck
  have answer : (listedSource.runTest 2 test [97, 3]).1 =
      .ok ⟨"2d100w90+25", 100, [fumble, luck]⟩ := by
    rfl
  obtain ⟨_, scored⟩ := runTest_consistent.2 _ listedSource 2 test _ _ answer
  obtain ⟨consistent, _, positive⟩ := scored fumble List.mem_cons_self
  obtain ⟨consistentLuck, nonneg, _⟩ := scored luck (List.mem_cons_of_mem _ List.mem_cons_self)
  exact ⟨answer, consistent, (positive Bool.false_ne_true).mpr (by decide), consistentLuck,
    nonneg rfl⟩

end Source

end DiceTable
