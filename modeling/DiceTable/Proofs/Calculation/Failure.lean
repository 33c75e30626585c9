import DiceTable.Proofs.Calculation.TwoPass

/-! # How a calculation fails

If a calculation over the four operators fails with an error, it leaves the range or divides by
zero, and it divides by zero only where a zero stands right behind a division sign. Where one stands
there, no calculation succeeds. Tokens that make up no calculation are malformed. With operands that
are written there are no other failures than errors (`calculateTokens_error`).
-/

namespace DiceTable

open Calculation

theorem Step.kind_error (step : Step) :
    step.error.kind = if step.DividesByZero then .divisionByZero else .arithmeticOverflow := by
  unfold error
  split <;> rfl

theorem Operator.kind_of_apply {op : Operator} (known : op.IsArithmetic) {a b : Int}
    {error : DiceError} (failed : op.apply a b = .error (.dice error)) :
    error.kind = .arithmeticOverflow ∨
      error.kind = .divisionByZero ∧ op = .div ∧ b = 0 := by
  obtain ⟨_, failed⟩ := apply_eq_dice.mp failed
  rw [result_eq known] at failed
  split at failed
  · cases failed
    rw [Step.kind_error]
    split
    · rename_i divides
      exact .inr ⟨rfl, divides⟩
    · exact .inl rfl
  · cases failed

/-- A failure of the first pass is one of a step that is written. -/
theorem completeTerms_error {pending : Int} {steps : List (Operator × Int)} {most : Option Nat}
    {failure : Failure} (failed : completeTerms pending steps most = .error failure) :
    ∃ step ∈ steps, ∃ left, step.1.apply left step.2 most = .error failure := by
  induction steps generalizing pending with
  | nil => cases failed
  | cons step rest ih =>
    obtain ⟨op, value⟩ := step
    simp only [completeTerms] at failed
    split at failed
    · rcases Except.bind_eq_error.mp failed with failed | ⟨next, _, failed⟩
      · exact ⟨_, List.mem_cons_self, pending, failed⟩
      · obtain ⟨step, member, fails⟩ := ih failed
        exact ⟨step, List.mem_cons_of_mem _ member, fails⟩
    · rcases Except.bind_eq_error.mp failed with failed | ⟨_, _, failed⟩
      · obtain ⟨step, member, fails⟩ := ih failed
        exact ⟨step, List.mem_cons_of_mem _ member, fails⟩
      · cases failed

theorem joinTerms_error {total : Int} {terms : List SignedTerm} {most : Option Nat}
    {failure : Failure} (failed : joinTerms total terms most = .error failure) :
    ∃ term ∈ terms, ∃ left, term.1.apply left term.2 most = .error failure := by
  induction terms generalizing total with
  | nil => cases failed
  | cons term rest ih =>
    rcases Except.bind_eq_error.mp failed with failed | ⟨next, _, failed⟩
    · exact ⟨term, List.mem_cons_self, total, failed⟩
    · obtain ⟨term, member, fails⟩ := ih failed
      exact ⟨term, List.mem_cons_of_mem _ member, fails⟩

/-- A calculation with operands that are written fails with an error, if at all. -/
theorem calculateTokens_error {tokens : List Token} {canonical : String} {failure : Failure}
    (short : ∀ item, .operand item ∈ tokens → Decimal.isShort Decimal.digitLimit item.value)
    (failed : calculateTokens tokens canonical = .error failure) :
    ∃ error, failure = .dice error := by
  rcases Except.bind_eq_error.mp failed with failed | ⟨calculation, read, _⟩
  · obtain ⟨error, _, rfl⟩ := Except.mapError_eq_error.mp failed
    exact ⟨error, rfl⟩
  · obtain rfl := ofTokens_eq_ok_iff.mp (Except.mapError_eq_ok.mp read)
    have steps : ∀ step ∈ values calculation.steps,
        Decimal.isShort Decimal.digitLimit step.2 := by
      intro step member
      obtain ⟨item, member, same⟩ := mem_values_tokens member
      exact same ▸ short item member
    rw [calculateTokens_tokens, calculate_of_isShort (by decide)
      (short _ List.mem_cons_self) steps] at failed
    rcases Except.bind_eq_error.mp (Except.map_eq_error.mp failed) with
      failed | ⟨_, _, failed⟩
    · obtain ⟨_, _, _, failed⟩ := completeTerms_error failed
      exact Operator.eq_dice_of_apply failed
    · obtain ⟨_, _, _, failed⟩ := joinTerms_error failed
      exact Operator.eq_dice_of_apply failed

/-- The operators that the first pass leaves over are written, and bind less tightly. -/
theorem completeTerms_operators {pending start : Int} {steps : List (Operator × Int)}
    {terms : List SignedTerm} (completed : completeTerms pending steps = .ok (start, terms)) :
    ∀ term ∈ terms, term.1.isMultiplicative = false ∧ ∃ value, (term.1, value) ∈ steps := by
  induction steps generalizing pending start terms with
  | nil => cases completed; simp
  | cons step rest ih =>
    obtain ⟨op, value⟩ := step
    simp only [completeTerms] at completed
    split at completed
    · obtain ⟨next, _, completed⟩ := Except.bind_eq_ok.mp completed
      intro term member
      obtain ⟨kind, value, written⟩ := ih completed term member
      exact ⟨kind, value, List.mem_cons_of_mem _ written⟩
    · rename_i kind
      obtain ⟨⟨next, later⟩, completedRest, answer⟩ := Except.bind_eq_ok.mp completed
      cases answer
      intro term member
      rcases List.mem_cons.mp member with rfl | member
      · exact ⟨by simpa using kind, value, List.mem_cons_self⟩
      · obtain ⟨kind, value, written⟩ := ih completedRest term member
        exact ⟨kind, value, List.mem_cons_of_mem _ written⟩

/-- The second pass only fails by leaving the range: all divisions are made in the first one. -/
theorem kind_of_joinTerms {pending start total : Int} {steps : List (Operator × Int)}
    {terms : List SignedTerm} {error : DiceError} (known : ∀ step ∈ steps, step.1.IsArithmetic)
    (completed : completeTerms pending steps = .ok (start, terms))
    (failed : joinTerms total terms = .error (.dice error)) :
    error.kind = .arithmeticOverflow := by
  obtain ⟨term, member, left, fails⟩ := joinTerms_error failed
  obtain ⟨kind, value, written⟩ := completeTerms_operators completed term member
  rcases Operator.kind_of_apply (known _ written) fails with overflow | ⟨_, same, _⟩
  · exact overflow
  · rw [same] at kind
    cases kind

/-- A calculation over the four operators fails in two ways, one of which is written. -/
theorem calculate_error {first : Int} {steps : List (Operator × Int)} {error : DiceError}
    (known : ∀ step ∈ steps, step.1.IsArithmetic)
    (failed : calculate first steps = .error (.dice error)) :
    error.kind = .arithmeticOverflow ∨ error.kind = .divisionByZero ∧ (.div, 0) ∈ steps := by
  rcases Except.bind_eq_error.mp failed with failed | ⟨⟨start, terms⟩, completed, failed⟩
  · obtain ⟨⟨op, value⟩, member, left, fails⟩ := completeTerms_error failed
    rcases Operator.kind_of_apply (known _ member) fails with overflow | ⟨division, rfl, rfl⟩
    · exact .inl overflow
    · exact .inr ⟨division, member⟩
  · exact .inl (kind_of_joinTerms known completed failed)

/-- Where a calculation divides by zero, the first pass does. -/
theorem completeTerms_error_of_divisionByZero {first : Int} {steps : List (Operator × Int)}
    {error : DiceError} (known : ∀ step ∈ steps, step.1.IsArithmetic)
    (failed : calculate first steps = .error (.dice error))
    (division : error.kind = .divisionByZero) :
    completeTerms first steps = .error (.dice error) := by
  rcases Except.bind_eq_error.mp failed with failed | ⟨_, completed, failed⟩
  · exact failed
  · rw [kind_of_joinTerms known completed failed] at division
    cases division

theorem not_mem_of_completeTerms {pending start : Int} {steps : List (Operator × Int)}
    {terms : List SignedTerm} (completed : completeTerms pending steps = .ok (start, terms)) :
    (.div, 0) ∉ steps := by
  induction steps generalizing pending start terms with
  | nil => simp
  | cons step rest ih =>
    obtain ⟨op, value⟩ := step
    simp only [completeTerms] at completed
    intro member
    split at completed
    · obtain ⟨next, applied, completedRest⟩ := Except.bind_eq_ok.mp completed
      rcases List.mem_cons.mp member with same | member
      · cases same
        simp [Operator.apply_eq_ok, Operator.result] at applied
      · exact ih completedRest member
    · rename_i kind
      obtain ⟨⟨next, later⟩, completedRest, _⟩ := Except.bind_eq_ok.mp completed
      rcases List.mem_cons.mp member with same | member
      · cases same
        exact kind rfl
      · exact ih completedRest member

/-- No calculation succeeds with a zero right behind a division sign. -/
theorem not_mem_of_calculate {first total : Int} {steps : List (Operator × Int)}
    (done : calculate first steps = .ok total) : (.div, 0) ∉ steps := by
  obtain ⟨⟨start, terms⟩, completed, _⟩ := Except.bind_eq_ok.mp done
  exact not_mem_of_completeTerms completed

namespace Calculation

theorem kind_of_steps_ofTokens {canonical : String} {tokens : List Token} {error : DiceError}
    (failed : Steps.ofTokens canonical tokens = .error error) :
    error.kind = .malformedExpression := by
  induction tokens using Steps.ofTokens.induct with
  | case1 => cases failed
  | case2 op =>
    cases failed
    rfl
  | case3 op right rest ih =>
    rcases Except.bind_eq_error.mp failed with failed | ⟨_, _, failed⟩
    · exact ih failed
    · cases failed
  | case4 tokens none one two =>
    unfold Steps.ofTokens at failed
    split at failed
    · exact (none rfl).elim
    · exact (one _ rfl).elim
    · exact (two _ _ _ rfl).elim
    · cases failed
      rfl

/-- Tokens that are no calculation are malformed. -/
theorem kind_of_ofTokens {canonical : String} {tokens : List Token} {error : DiceError}
    (failed : ofTokens canonical tokens = .error error) : error.kind = .malformedExpression := by
  unfold ofTokens at failed
  split at failed
  · cases failed
    rfl
  · cases failed
    rfl
  · rcases Except.bind_eq_error.mp failed with failed | ⟨_, _, failed⟩
    · exact kind_of_steps_ofTokens failed
    · cases failed

end Calculation

end DiceTable
