import DiceTable.Proofs.Calculation.Failure
import DiceTable.Proofs.Grammar.Acceptance
import Mathlib.Data.List.Forall2

/-! # What is left to luck

Two runs of one expression with different sources leave tokens that differ in nothing but the dice
(`Token.Alike`). The checks depend on the text alone, and a rolled group is never zero, so a divisor
that is zero was so in the other run. What one run answers, any other one answers as well, but for
a total that leaves the range (`Source.Serves.evaluate_again`).
-/

namespace DiceTable

/-- Tokens of two runs in the same place, where the dice of the second run add up to a pip or
more. -/
inductive Token.Alike : Token → Token → Prop
  | operator (op : Operator) : Alike (.operator op) (.operator op)
  | literal (value : Int) : Alike (.operand (.literal value)) (.operand (.literal value))
  | rolled (group : DiceGroup) (chains others : List Chain) (pips : 1 ≤ chainsTotal others) :
      Alike (.operand (.rolled group chains)) (.operand (.rolled group others))

section Tokens

variable {σ τ : Type} {first : Source σ} {second : Source τ} {fault : Failure → Prop}
  {limit : Limit} {started : Int} {state : σ}

/-- How a second run can fail where the first one did not. -/
def Failure.IsUnlucky (fault : Failure → Prop) (failure : Failure) : Prop :=
  (∃ error, failure = .dice error ∧ error.kind = .arithmeticOverflow) ∨ fault failure

theorem Source.Serves.carryOut_again (serves : second.Serves fault) {plan : Plan} {token : Token}
    (rollable : ∀ group, plan = .roll group → group.Rollable)
    (run : (first.carryOut plan state).1 = .ok token) :
    (second.carryOut plan).Yields token.Alike (Failure.IsUnlucky fault) := by
  cases plan with
  | roll group =>
    have rollable := rollable group rfl
    have counted := rollable.count
    obtain ⟨chains, after, _, run⟩ := Rolling.bind_eq_ok.mp run
    cases run
    have unlucky : ∀ failure, failure = .dice (.diceTotal group.text) ∨ fault failure →
        failure.IsUnlucky fault := by
      rintro failure (rfl | faulty)
      · exact .inl ⟨_, rfl, rfl⟩
      · exact .inr faulty
    have rolled := (serves.rollEvery rollable).mono (fun _ good => good) unlucky
    refine rolled.bind fun others totals => Rolling.yields_pure ?_
    exact .rolled group chains others (by omega)
  | literal value =>
    cases run
    exact Rolling.yields_pure (.literal value)
  | operator op =>
    cases run
    exact Rolling.yields_pure (.operator op)

/-- An item that was rolled once is rolled to a token alike. -/
theorem Source.Serves.rollItem_again (serves : second.Serves fault) {item : Lexeme} {token : Token}
    {next : Int} (known : item.IsOperand ∨ item.IsOperator)
    (run : (first.rollItem limit started item state).1 = .ok (token, next)) :
    (second.rollItem limit started item).Yields
      (fun rolled => token.Alike rolled.1 ∧ rolled.2 = next) (Failure.IsUnlucky fault) := by
  rw [rollItem_eq] at run ⊢
  obtain ⟨⟨plan, next⟩, planned, run⟩ := Rolling.ofExcept_bind_eq_ok.mp run
  obtain ⟨_, _, carried, run⟩ := Rolling.bind_eq_ok.mp run
  cases run
  rw [planned, Rolling.ofExcept_ok, pure_bind]
  have rollable : ∀ group, plan = .roll group → group.Rollable :=
    fun group same => Lexeme.rollable_of_plan known (same ▸ planned)
  have again := serves.carryOut_again rollable (congrArg Prod.fst carried)
  exact again.bind fun other alike => Rolling.yields_pure ⟨alike, rfl⟩

/-- Items that were rolled once are rolled to tokens alike. -/
theorem Source.Serves.rollItems_again (serves : second.Serves fault) {items : List Lexeme}
    {tokens : List Token} (known : ∀ item ∈ items, item.IsOperand ∨ item.IsOperator)
    (run : (first.rollItems limit started items state).1 = .ok tokens) :
    (second.rollItems limit started items).Yields (List.Forall₂ Token.Alike tokens)
      (Failure.IsUnlucky fault) := by
  induction items generalizing started state tokens with
  | nil =>
    cases run
    exact Rolling.yields_pure .nil
  | cons item items ih =>
    obtain ⟨here, later⟩ := List.forall_mem_cons.mp known
    obtain ⟨⟨token, next⟩, after, firstRun, run⟩ := Rolling.bind_eq_ok.mp run
    obtain ⟨more, last, restRun, run⟩ := Rolling.bind_eq_ok.mp run
    cases run
    refine (serves.rollItem_again here (congrArg Prod.fst firstRun)).bind ?_
    rintro ⟨other, _⟩ ⟨alike, rfl⟩
    exact (ih later (congrArg Prod.fst restRun)).bind fun others rest =>
      Rolling.yields_pure (.cons alike rest)

end Tokens

section Calculations

/-- Steps of two calculations alike. -/
def StepAlike (step other : Operator × Operand) : Prop :=
  step.1 = other.1 ∧ Token.Alike (.operand step.2) (.operand other.2)

theorem exists_steps_of_alike {steps : Steps} {others : List Token}
    (alike : List.Forall₂ Token.Alike (Calculation.stepTokens steps) others) :
    ∃ otherSteps : Steps, others = Calculation.stepTokens otherSteps ∧
      List.Forall₂ StepAlike steps otherSteps := by
  induction steps generalizing others with
  | nil =>
    cases alike
    exact ⟨[], rfl, .nil⟩
  | cons step rest ih =>
    obtain ⟨op, item⟩ := step
    cases alike with
    | cons sign alike =>
      cases sign
      cases alike with
      | @cons _ other _ others operand alike =>
        obtain ⟨otherSteps, rfl, alikeRest⟩ := ih alike
        obtain ⟨otherItem, rfl⟩ : ∃ otherItem, other = .operand otherItem := by
          cases operand <;> exact ⟨_, rfl⟩
        exact ⟨(op, otherItem) :: otherSteps, rfl, .cons ⟨rfl, operand⟩ alikeRest⟩

/-- A zero behind a division sign was there in the first run. -/
theorem mem_values_of_alike {steps otherSteps : Steps}
    (alike : List.Forall₂ StepAlike steps otherSteps)
    (member : (.div, 0) ∈ Calculation.values otherSteps) :
    (.div, 0) ∈ Calculation.values steps := by
  induction alike with
  | nil => exact member
  | @cons step other _ _ here _ ih =>
    obtain ⟨op, item⟩ := step
    obtain ⟨otherOp, otherItem⟩ := other
    rcases List.mem_cons.mp member with same | member
    · obtain ⟨division, zero⟩ := Prod.mk.inj same
      obtain ⟨sign, operand⟩ := here
      refine List.mem_cons.mpr (.inl (Prod.ext (division.trans sign.symm) ?_))
      cases operand with
      | literal value => exact zero
      | rolled group chains others pips =>
        simp only [Operand.value] at zero
        omega
    · exact List.mem_cons_of_mem _ (ih member)

/-- A second calculation over tokens alike fails only where it leaves the range. -/
theorem kind_of_calculateTokens_again {tokens others : List Token} {canonical : String}
    {result : ArithmeticResult} {error : DiceError} (alike : List.Forall₂ Token.Alike tokens others)
    (known : ∀ op, .operator op ∈ others → op.IsArithmetic)
    (calculated : calculateTokens tokens canonical = .ok result)
    (failed : calculateTokens others canonical = .error (.dice error)) :
    error.kind = .arithmeticOverflow := by
  obtain ⟨⟨first, steps⟩, read, _⟩ := Except.bind_eq_ok.mp calculated
  obtain rfl := Calculation.ofTokens_eq_ok_iff.mp (Except.mapError_eq_ok.mp read)
  cases alike with
  | @cons _ otherFirst _ _ operand alike =>
    obtain ⟨otherSteps, rfl, alikeSteps⟩ := exists_steps_of_alike alike
    obtain ⟨otherItem, rfl⟩ : ∃ otherItem, otherFirst = .operand otherItem := by
      cases operand <;> exact ⟨_, rfl⟩
    change calculateTokens (Calculation.tokens ⟨otherItem, otherSteps⟩) canonical = _ at failed
    rw [Calculation.calculateTokens_tokens] at calculated failed
    obtain ⟨total, done, _⟩ := Except.map_eq_ok.mp calculated
    have written : ∀ step ∈ Calculation.values otherSteps, step.1.IsArithmetic := by
      intro step member
      obtain ⟨source, inSteps, rfl⟩ := List.mem_map.mp member
      refine known _ (List.mem_cons_of_mem _ ?_)
      exact List.mem_flatMap.mpr ⟨source, inSteps, List.mem_cons_self⟩
    rcases calculate_error written (Except.map_eq_error.mp failed) with overflow | ⟨_, member⟩
    · exact overflow
    · exact (not_mem_of_calculate done (mem_values_of_alike alikeSteps member)).elim

end Calculations

section Evaluations

variable {σ τ : Type} {first : Source σ} {second : Source τ} {fault : Failure → Prop}
  {limit : Limit} {state : σ}

/-- A test that was rolled once is rolled again, but for faults of the source. -/
theorem Source.Serves.roll_test_again (serves : second.Serves fault) {test : SkillTest}
    {result : RollResult} (sided : 1 ≤ test.sides)
    (run : (first.roll limit (.test test) state).1 = .ok result) :
    (second.roll limit (.test test)).Yields
      (fun other => other.kind = result.kind ∧ other.canonical = result.canonical) fault := by
  obtain ⟨kind, canonical⟩ := Source.roll_test_eq_ok run
  obtain ⟨_, _, run, _⟩ := Rolling.bind_eq_ok.mp run
  obtain ⟨_, passed, _⟩ := Rolling.ofExcept_bind_eq_ok.mp (congrArg Prod.fst run)
  have face := (serves.face test.sides sided).mono (fun _ _ => trivial) fun _ failed => failed
  simp only [Source.roll, Source.runTest, passed, Rolling.ofExcept_ok, pure_bind,
    bind_assoc]
  refine (Source.scoreDice_yields face _).bind fun outcomes _ => Rolling.yields_pure ?_
  exact ⟨kind.symm, canonical.symm⟩

/-- Arithmetic that was rolled once is rolled again, but for a total that leaves the range. -/
theorem Source.Serves.roll_arithmetic_again (serves : second.Serves fault) {canonical : String}
    {result : RollResult} (run : (first.roll limit (.arithmetic canonical) state).1 = .ok result) :
    (second.roll limit (.arithmetic canonical)).Yields
      (fun other => other.kind = .arithmetic ∧ other.canonical = canonical)
      (Failure.IsUnlucky fault) := by
  obtain ⟨tokens, total, tokenized, calculated, rfl⟩ := Source.roll_arithmetic_eq_ok.mp run
  obtain ⟨rolled, rest⟩ := Source.tokenize_eq_ok.mp tokenized
  have known := Lexeme.forall_mem_scan canonical.toList
  have again := serves.rollItems_again known rolled
  intro last
  cases outcome : (second.roll limit (.arithmetic canonical) last).1 with
  | ok other =>
    obtain ⟨_, otherTotal, _, otherCalculated, rfl⟩ := Source.roll_arithmetic_eq_ok.mp outcome
    exact ⟨rfl, canonical_of_calculateTokens otherCalculated⟩
  | error failure =>
    rcases Source.roll_arithmetic_error outcome with failed |
      ⟨others, otherTokenized, failed⟩
    · rcases Source.tokenize_error failed with failed | ⟨nonempty, _⟩
      · exact again.allowed_of_error failed
      · exact (nonempty rest).elim
    · have otherRolled := (Source.tokenize_eq_ok.mp otherTokenized).1
      have short := (second.rollItems_isShort limit known 0).good_of_ok otherRolled
      obtain ⟨error, rfl⟩ :=
        calculateTokens_error (fun item member => short _ member item rfl) failed
      have signs := (second.rollItems_signs limit 0 _).good_of_ok otherRolled
      have overflow := kind_of_calculateTokens_again (again.good_of_ok otherRolled)
        (fun op member => Lexeme.isArithmetic_of_signs known signs member) calculated failed
      exact .inl ⟨error, rfl, overflow⟩

/-- What was evaluated once is evaluated again to a result of the same kind and canonical text. Only
a total that leaves the range, which no test has, and faults of the source come in between. -/
theorem Source.Serves.evaluate_again (serves : second.Serves fault) {text : String}
    {result : RollResult} (run : (first.evaluate limit text state).1 = .ok result) :
    (second.evaluate limit text).Yields
      (fun other => other.kind = result.kind ∧ other.canonical = result.canonical)
      (fun failure => (result.kind = .arithmetic ∧
        ∃ error, failure = .dice error ∧ error.kind = .arithmeticOverflow) ∨ fault failure) := by
  obtain ⟨expression, classified, rolled⟩ := Source.evaluate_eq_ok.mp run
  unfold Source.evaluate
  rw [classified, Rolling.ofExcept_ok, pure_bind]
  cases expression with
  | test test =>
    have sided := (Expression.test_of_classify classified).2
    exact (serves.roll_test_again sided rolled).mono (fun _ same => same) fun _ => .inr
  | arithmetic canonical =>
    have same := Expression.arithmetic_of_classify classified
    rw [Source.canonical_of_evaluate run, ← same]
    obtain ⟨_, _, _, _, rfl⟩ := Source.roll_arithmetic_eq_ok.mp rolled
    refine (serves.roll_arithmetic_again rolled).mono (fun _ same => same) ?_
    rintro failure (overflow | faulty)
    · exact .inl ⟨rfl, overflow⟩
    · exact .inr faulty

end Evaluations

end DiceTable
