import DiceTable.Proofs.Breakdown.NormalForm
import DiceTable.Proofs.Calculation.Bounds
import DiceTable.Proofs.Grammar.Acceptance
import DiceTable.Proofs.Totals.Operands

/-! # Totals within the range

An evaluation with a source that answers in range works on numbers that are not negative until its
terms are complete. It divides by zero only where a literal zero is written right behind a division
sign, and that is where it stops (`Source.StopsAtZero`). All sums, and the total with them, are
numbers of 32 bits (`Source.AnswersInRange.evaluate_range`).
-/

namespace DiceTable

open Calculation Decimal

theorem Failure.IsRefusal.not_divisionByZero {limit : Limit} {overlong exceeds : Prop}
    {error : DiceError} (refusal : (Failure.dice error).IsRefusal limit overlong exceeds) :
    error.kind ≠ .divisionByZero := by
  cases refusal with
  | overflow kind => simp [kind]
  | spec kind => simp [kind]

namespace Source

variable {σ : Type} {source : Source σ} {limit : Limit} {state : σ} {text : String}
  {error : DiceError}

/-- Items in front are rolled on their own as they are in front of others. -/
theorem rollItems_take {started : Int} {front back : List Lexeme} {tokens : List Token}
    (rolled : (source.rollItems limit started (front ++ back) state).1 = .ok tokens) :
    (source.rollItems limit started front state).1 = .ok (tokens.take front.length) := by
  induction front generalizing started state tokens with
  | nil => rfl
  | cons item front ih =>
    obtain ⟨plan, next, token, after, more, planned, run, later, rfl⟩ :=
      exists_of_rollItems_cons rolled
    rw [rollItems_cons planned]
    refine Rolling.bind_eq_ok.mpr ⟨token, after, run, ?_⟩
    rcases again : source.rollItems limit next front after with ⟨outcome, last⟩
    have front := ih later
    rw [again] at front
    cases front
    exact Rolling.bind_eq_ok.mpr ⟨_, last, again, rfl⟩

/-- Reading and rolling do not divide. -/
theorem kind_of_tokenize_error {text : List Char}
    (failed : (source.tokenize limit text state).1 = .error (.dice error)) :
    error.kind ≠ .divisionByZero := by
  unfold tokenize at failed
  rcases Rolling.bind_eq_error.mp failed with failed | ⟨tokens, after, _, failed⟩
  · rcases source.failsOnlyBy_isFault.rollItems_error (Lexeme.forall_mem_scan text) failed with
      refusal | ⟨fault, impossible⟩
    · exact refusal.not_divisionByZero
    · cases impossible
  · cases rest : (Lexeme.scan text).2 with
    | nil =>
      rw [rest] at failed
      cases failed
    | cons c tail =>
      rw [rest] at failed
      cases failed
      simp [DiceError.kind, DiceError.report]

/-- Only a calculation divides by zero. -/
theorem exists_calculation_of_divisionByZero
    (failed : (source.evaluate limit text state).1 = .error (.dice error))
    (division : error.kind = .divisionByZero) :
    ∃ calculation : Calculation,
      (source.tokenize limit (Text.compact text.toList) state).1 = .ok calculation.tokens ∧
      calculate calculation.first.value (values calculation.steps) = .error (.dice error) := by
  rcases Expression.classify_cases text with ⟨_, classified⟩ | ⟨spelling, read, classified⟩ |
    ⟨_, classified⟩
  · rcases evaluate_eq_error.mp failed with refused | ⟨_, same, _⟩
    · rw [classified] at refused
      cases refused
      cases division
    · rw [classified] at same
      cases same
  · -- A test is refused, or fails with its number of dice.
    rcases evaluate_eq_error.mp failed with refused | ⟨_, same, failed⟩
    · rw [classified] at refused
      have wellFormed := TestSpelling.wellFormed_of_read? read
      have refusal :=
        TestSpelling.test_error wellFormed (Except.map_eq_error.mp refused) limit False
      exact (refusal.not_divisionByZero division).elim
    · rw [classified] at same
      obtain ⟨test, readTest, rfl⟩ := Except.map_eq_ok.mp same
      have rollable :=
        TestSpelling.rollable_of_test (TestSpelling.wellFormed_of_read? read) readTest
      rcases source.failsOnlyBy_isFault.roll_test_error rollable failed False with
        refusal | ⟨_, impossible⟩
      · exact (refusal.not_divisionByZero division).elim
      · cases impossible
  · rcases evaluate_eq_error.mp failed with refused | ⟨_, same, failed⟩
    · rw [classified] at refused
      cases refused
    · rw [classified] at same
      cases same
      rcases roll_arithmetic_error failed with failed | ⟨tokens, tokenized, failed⟩
      · exact (kind_of_tokenize_error failed division).elim
      · rw [String.toList_ofList] at tokenized
        rcases Except.bind_eq_error.mp failed with malformed | ⟨calculation, read, _⟩
        · obtain ⟨_, malformed, ⟨⟩⟩ := Except.mapError_eq_error.mp malformed
          rw [kind_of_ofTokens malformed] at division
          cases division
        · obtain rfl := ofTokens_eq_ok_iff.mp (Except.mapError_eq_ok.mp read)
          rw [calculateTokens_tokens] at failed
          exact ⟨calculation, tokenized, Except.map_eq_error.mp failed⟩

/-- The items in front of a division sign with a literal zero behind it are rolled, and the first
pass takes them; the error is that of dividing by zero what is then pending. -/
def StopsAtZero (source : Source σ) (limit : Limit) (items : List Lexeme) (state : σ)
    (error : DiceError) : Prop :=
  ∃ front run back before start terms,
    items = front ++ .operator .div :: .number run :: back ∧ Decimal.value run = 0 ∧
    (source.rollItems limit 0 front state).1 = .ok (Calculation.tokens before) ∧
    completeTerms before.first.value (values before.steps) = .ok (start, terms) ∧
    error = .divisionByZero (Operator.div.stepText (latestTerm start terms) 0)

theorem AnswersInRange.stopsAtZero (answers : source.AnswersInRange)
    (failed : (source.evaluate limit text state).1 = .error (.dice error))
    (division : error.kind = .divisionByZero) :
    source.StopsAtZero limit (Lexeme.scan (Text.compact text.toList)).1 state error := by
  obtain ⟨⟨first, steps⟩, tokenized, failed⟩ := exists_calculation_of_divisionByZero failed division
  have rolled := (tokenize_eq_ok.mp tokenized).1
  have known := Lexeme.forall_mem_scan (Text.compact text.toList)
  generalize (Lexeme.scan (Text.compact text.toList)).1 = items at rolled known ⊢
  have signs := (source.rollItems_signs limit 0 items).good_of_ok rolled
  have arithmetic : ∀ step ∈ values steps, step.1.IsArithmetic := by
    intro step member
    obtain ⟨written, inSteps, rfl⟩ := List.mem_map.mp member
    refine Lexeme.isArithmetic_of_signs known signs (List.mem_cons_of_mem _ ?_)
    exact List.mem_flatMap.mpr ⟨written, inSteps, List.mem_cons_self⟩
  -- The failing step is a division, and its divisor is zero.
  obtain ⟨front, op, item, rest, start, terms, rfl, completed, multiplicative, failed⟩ :=
    completeTerms_eq_error_iff.mp
      (completeTerms_error_of_divisionByZero arithmetic failed division)
  rcases Operator.kind_of_apply (.inr multiplicative) failed with overflow | ⟨_, rfl, zero⟩
  · rw [overflow] at division
    cases division
  rw [zero] at failed
  obtain ⟨_, ⟨⟩⟩ := Operator.apply_eq_dice.mp failed
  -- The items are cut where the tokens are.
  have made := (answers.rollItems_becomes known 0).good_of_ok rolled
  rw [Calculation.tokens_append] at made rolled
  have inFront := List.forall₂_take_append _ _ _ made
  have behind := List.forall₂_drop_append _ _ _ made
  generalize cut : (Calculation.tokens ⟨first, front⟩).length = n at inFront behind
  have whole := List.take_append_drop n items
  generalize items.drop n = later at behind whole
  cases behind with
  | @cons sign _ later _ division behind =>
    cases behind with
    | @cons right _ back _ operand behind =>
      cases division
      have literal : item = .literal 0 := operand.eq_literal_zero zero
      rw [literal] at operand
      obtain ⟨run, rfl, _, zero⟩ := operand.exists_run_of_zero
      refine ⟨items.take n, run, back, ⟨first, front⟩, start, terms, whole.symm, zero, ?_,
        completed, rfl⟩
      rw [← whole] at rolled
      rw [rollItems_take rolled, inFront.length_eq, List.take_left]

/-- With a source that answers in range, every operand and every calculation stays in range, a
division by zero is written as one, and the total is a number of 32 bits. -/
theorem AnswersInRange.evaluate_range (answers : source.AnswersInRange) (limit : Limit)
    (text : String) (state : σ) :
    let left := Text.compact text.toList
    let items := (Lexeme.scan left).1
    let outcome := (source.evaluate limit text state).1
    (∀ front tokens, front <+: items → (source.rollItems limit 0 front state).1 = .ok tokens →
      ∀ item, .operand item ∈ tokens → IsMagnitude item.value) ∧
    (∀ calculation : Calculation,
      (source.tokenize limit left state).1 = .ok calculation.tokens → calculation.StaysInRange) ∧
    (∀ error, outcome = .error (.dice error) → error.kind = .divisionByZero →
      source.StopsAtZero limit items state error) ∧
    ∀ result, outcome = .ok (.arithmetic result) → Fits result.total := by
  intro left items outcome
  have known := Lexeme.forall_mem_scan left
  have operands {front : List Lexeme} {tokens : List Token} (inFront : front <+: items)
      (rolled : (source.rollItems limit 0 front state).1 = .ok tokens) {item : Operand}
      (member : .operand item ∈ tokens) :
      IsMagnitude item.value ∧ (item.value = 0 → item = .literal 0) := by
    have made := (answers.rollItems_becomes
      (fun item member => known item (inFront.subset member)) 0).good_of_ok rolled
    obtain ⟨_, becomes⟩ := exists_of_forall₂ made member
    exact ⟨⟨becomes.operand_bounds.1, becomes.operand_bounds.2⟩, becomes.eq_literal_zero⟩
  have staysInRange {calculation : Calculation}
      (rolled : (source.rollItems limit 0 items state).1 = .ok calculation.tokens) :
      calculation.StaysInRange :=
    Calculation.staysInRange (fun _ member => (operands List.prefix_rfl rolled member).1)
      fun _ member => (operands List.prefix_rfl rolled member).2
  refine ⟨fun front tokens inFront rolled _ member => (operands inFront rolled member).1,
    fun _ tokenized => staysInRange (tokenize_eq_ok.mp tokenized).1,
    fun error => answers.stopsAtZero, ?_⟩
  intro result answer
  have rolled := congrArg Prod.fst (rollItems_of_evaluate answer)
  obtain ⟨_, _, calculation, written, done⟩ :=
    calculateTokens_eq_ok (evaluate_eq_ok_arithmetic answer).1
  rw [written] at rolled
  obtain ⟨⟨start, terms⟩, completed, joined⟩ := Except.bind_eq_ok.mp done
  exact (staysInRange rolled).sums completed List.prefix_rfl joined

/-- The dice come to eight, of which a third is taken and multiplied before zero is met. -/
theorem evaluate_range_division :
    let text := "9 - 2d6/3*5/00"
    listedSource.AnswersInRange ∧
    (listedSource.evaluate defaultDiceLimit text [6, 2]).1 =
      .error (.dice (.divisionByZero "10 / 0")) ∧
    listedSource.StopsAtZero defaultDiceLimit (Lexeme.scan (Text.compact text.toList)).1 [6, 2]
      (.divisionByZero "10 / 0") := by
  have failed : (listedSource.evaluate defaultDiceLimit "9 - 2d6/3*5/00" [6, 2]).1 =
      .error (.dice (.divisionByZero "10 / 0")) := by
    decide +kernel
  obtain ⟨_, _, stops, _⟩ :=
    listedSource_answersInRange.evaluate_range defaultDiceLimit "9 - 2d6/3*5/00" [6, 2]
  exact ⟨listedSource_answersInRange, failed, stops _ failed rfl⟩

end Source

end DiceTable
