import DiceTable.Proofs.Breakdown.Notation
import DiceTable.Proofs.Calculation.Tokens
import DiceTable.Proofs.Rolling.Evaluation

/-! # Breakdowns as audit trails

Whatever a source of random integers answers, an evaluation shows a face of each die that it rolls,
and no literal of it is negative (`Source.rollItems_isRolled`). That is all it takes to read the
breakdown back, so two evaluations with one breakdown have rolled the same dice to the same faces,
and calculated the same total from them (`evaluate_breakdown_inj`).
-/

namespace DiceTable

variable {σ τ : Type}

namespace Source

/-- However a die is rolled, it shows a face. -/
theorem rollDie_shows (source : Source σ) (sides : Int) (exploding : Bool) :
    (source.rollDie sides exploding).Yields (· ≠ []) Failure.IsFault := by
  have draw := source.draw_yields_any 1 sides
  cases exploding with
  | true =>
    intro state
    have chain := explode_yields draw (fun fault => ⟨fault, rfl⟩) (source.patience state + 1)
    exact chain.mono (fun _ faces => faces.1) (fun _ fault => fault) state
  | false =>
    change (do let face ← source.draw 1 sides; pure [face] : Rolling σ Chain).Yields _ _
    exact draw.bind fun face _ => Rolling.yields_pure (List.cons_ne_nil face [])

variable (source : Source σ) {limit : Limit} {started : Int}

theorem carryOut_isRolled {item : Lexeme} {plan : Plan} {next : Int}
    (known : item.IsOperand ∨ item.IsOperator)
    (planned : item.plan limit started = .ok (plan, next)) :
    (source.carryOut plan).Yields Token.IsRolled (fun _ => True) := by
  cases item with
  | dice spelling =>
    obtain ⟨group, _, _, _, rfl, _⟩ := Lexeme.plan_dice_eq_ok.mp planned
    have rollable := Lexeme.rollable_of_plan known planned
    have counted := rollable.count
    have dies := (source.rollDie_shows group.sides group.exploding).mono (fun _ shown => shown)
      (fun _ _ => trivial)
    have rolled := (rollEvery_yields rollable dies fun _ _ _ _ _ => trivial).mono
      (fun _ shown => shown) (fun _ _ => trivial)
    refine rolled.bind fun chains shown => Rolling.yields_pure (.rolled counted ?_ shown.2.1)
    rintro rfl
    have none : 0 = group.count.toNat := shown.1
    omega
  | number run =>
    obtain ⟨value, read, rfl, _⟩ := Lexeme.plan_number_eq_ok.mp planned
    have digits : Decimal.IsRun run := known.resolve_right id
    exact Rolling.yields_pure (.literal (le_maxInt_of_readNumber digits read).1)
  | operator op =>
    cases planned
    exact Rolling.yields_pure (.operator (known.resolve_left id))

/-- The tokens of an evaluation are rolled ones, with any source. -/
theorem rollItems_isRolled {items : List Lexeme}
    (known : ∀ item ∈ items, item.IsOperand ∨ item.IsOperator) (started : Int) :
    (source.rollItems limit started items).Yields (fun tokens => ∀ token ∈ tokens, token.IsRolled)
      (fun _ => True) :=
  rollItems_yields_all (fun item member _ _ _ planned =>
    source.carryOut_isRolled (known item member) planned) started

end Source

/-- What is calculated shows its tokens, of which there are some, and is all that they come to. -/
theorem calculateTokens_eq_ok {tokens : List Token} {canonical : String}
    {result : ArithmeticResult} (calculated : calculateTokens tokens canonical = .ok result) :
    result.tokens = tokens ∧ result.breakdown = breakdown tokens ∧
      ∃ calculation : Calculation, tokens = calculation.tokens ∧
        calculate calculation.first.value (Calculation.values calculation.steps) =
          .ok result.total := by
  obtain ⟨calculation, read, _⟩ := Except.bind_eq_ok.mp calculated
  obtain rfl := Calculation.ofTokens_eq_ok_iff.mp (Except.mapError_eq_ok.mp read)
  rw [Calculation.calculateTokens_tokens] at calculated
  obtain ⟨total, sum, rfl⟩ := Except.map_eq_ok.mp calculated
  exact ⟨rfl, rfl, calculation, rfl, sum⟩

/-- The tokens of a calculation determine its total. -/
theorem calculateTokens_total {tokens : List Token} {canonical other : String}
    {result again : ArithmeticResult} (first : calculateTokens tokens canonical = .ok result)
    (second : calculateTokens tokens other = .ok again) : result.total = again.total := by
  obtain ⟨_, _, calculation, written, total⟩ := calculateTokens_eq_ok first
  obtain ⟨_, _, otherCalculation, otherWritten, otherTotal⟩ := calculateTokens_eq_ok second
  have same : otherCalculation = calculation := by
    have read : Calculation.ofTokens canonical tokens = .ok calculation :=
      Calculation.ofTokens_eq_ok_iff.mpr written
    rw [Calculation.ofTokens_eq_ok_iff.mpr otherWritten] at read
    exact Except.ok.inj read
  rw [same, total] at otherTotal
  exact Except.ok.inj otherTotal

/-- An arithmetic result is what its tokens come to, which are rolled ones. -/
theorem Source.evaluate_eq_ok_arithmetic {source : Source σ} {limit : Limit} {text : String}
    {state : σ} {result : ArithmeticResult}
    (answer : (source.evaluate limit text state).1 = .ok (.arithmetic result)) :
    calculateTokens result.tokens result.canonical = .ok result ∧
      ∀ token ∈ result.tokens, token.IsRolled := by
  obtain ⟨expression, _, rolled⟩ := evaluate_eq_ok.mp answer
  cases expression with
  | test test =>
    have kind := (roll_test_eq_ok rolled).1
    cases kind
  | arithmetic canonical =>
    obtain ⟨tokens, total, tokenized, calculated, same⟩ := roll_arithmetic_eq_ok.mp rolled
    cases same
    obtain ⟨rfl, _⟩ := calculateTokens_eq_ok calculated
    rw [canonical_of_calculateTokens calculated]
    refine ⟨calculated, ?_⟩
    have known := Lexeme.forall_mem_scan canonical.toList
    exact (source.rollItems_isRolled known 0).good_of_ok (tokenize_eq_ok.mp tokenized).1

section Trail

variable {source : Source σ} {other : Source τ} {limit otherLimit : Limit}
  {text otherText : String} {state : σ} {otherState : τ} {result again : ArithmeticResult}

/-- The breakdowns of two evaluations are equal exactly when all tokens are, down to the faces of
each die, and then the totals are equal as well. -/
theorem evaluate_breakdown_inj
    (first : (source.evaluate limit text state).1 = .ok (.arithmetic result))
    (second : (other.evaluate otherLimit otherText otherState).1 = .ok (.arithmetic again)) :
    (result.breakdown = again.breakdown ↔ result.tokens = again.tokens) ∧
      (result.breakdown = again.breakdown → result.total = again.total) := by
  obtain ⟨calculated, rolled⟩ := Source.evaluate_eq_ok_arithmetic first
  obtain ⟨otherCalculated, otherRolled⟩ := Source.evaluate_eq_ok_arithmetic second
  obtain ⟨_, shown, calculation, written, _⟩ := calculateTokens_eq_ok calculated
  obtain ⟨_, otherShown, otherCalculation, otherWritten, _⟩ :=
    calculateTokens_eq_ok otherCalculated
  have nonempty : result.tokens ≠ [] := by
    rw [written]
    exact List.cons_ne_nil _ _
  have otherNonempty : again.tokens ≠ [] := by
    rw [otherWritten]
    exact List.cons_ne_nil _ _
  have tokens : result.breakdown = again.breakdown ↔ result.tokens = again.tokens := by
    rw [shown, otherShown]
    exact breakdown_inj nonempty otherNonempty rolled otherRolled
  refine ⟨tokens, fun same => ?_⟩
  have listed := tokens.mp same
  rw [← listed] at otherCalculated
  exact calculateTokens_total calculated otherCalculated

/-- Two spellings, rolled under different limits with different numbers that stand for the same
faces. -/
theorem evaluate_breakdown_inj_exploding :
    ∃ result again : ArithmeticResult,
      (listedSource.evaluate 10 "2d6!! + 3" [6, 2, 5]).1 = .ok (.arithmetic result) ∧
      (listedSource.evaluate 2 " 2D6!!+03" [12, 8, 11, 4]).1 = .ok (.arithmetic again) ∧
      result.breakdown = "2d6!! → [[6! + 2], [5]] = 13 + 3" ∧
      result.tokens = again.tokens ∧ result.total = again.total := by
  have first : (listedSource.evaluate 10 "2d6!! + 3" [6, 2, 5]).1 =
      .ok (.arithmetic
        { canonical := "2d6!!+3", total := 16, breakdown := "2d6!! → [[6! + 2], [5]] = 13 + 3"
          tokens := [.operand (.rolled ⟨2, 6, true⟩ [[6, 2], [5]]), .operator .add,
            .operand (.literal 3)] }) := by
    decide +kernel
  have second : (listedSource.evaluate 2 " 2D6!!+03" [12, 8, 11, 4]).1 =
      .ok (.arithmetic
        { canonical := "2D6!!+03", total := 16, breakdown := "2d6!! → [[6! + 2], [5]] = 13 + 3"
          tokens := [.operand (.rolled ⟨2, 6, true⟩ [[6, 2], [5]]), .operator .add,
            .operand (.literal 3)] }) := by
    decide +kernel
  have trail := evaluate_breakdown_inj first second
  exact ⟨_, _, first, second, rfl, trail.1.mp rfl, trail.2 rfl⟩

end Trail

end DiceTable
