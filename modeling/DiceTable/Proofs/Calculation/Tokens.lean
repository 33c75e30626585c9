import DiceTable.Proofs.Calculation.Tree
import DiceTable.Proofs.Except

/-! # Calculations and their tokens

A calculation is written as a list of tokens, and exactly those lists are taken for one
(`ofTokens_eq_ok_iff`). All that counts for the total is the integers between the operators.
-/

namespace DiceTable.Calculation

/-- Operators with the operands to their right, as tokens. -/
def stepTokens (steps : Steps) : List Token :=
  steps.flatMap fun step => [.operator step.1, .operand step.2]

def tokens (calculation : Calculation) : List Token :=
  .operand calculation.first :: stepTokens calculation.steps

def values (steps : Steps) : List (Operator × Int) :=
  steps.map fun step => (step.1, step.2.value)

theorem mem_values_tokens {calculation : Calculation} {step : Operator × Int}
    (member : step ∈ values calculation.steps) :
    ∃ item, .operand item ∈ calculation.tokens ∧ item.value = step.2 := by
  obtain ⟨⟨op, item⟩, written, rfl⟩ := List.mem_map.mp member
  refine ⟨item, List.mem_cons_of_mem _ (List.mem_flatMap.mpr ⟨(op, item), written, ?_⟩), rfl⟩
  simp

theorem tokens_append (first : Operand) (steps rest : Steps) :
    tokens ⟨first, steps ++ rest⟩ = tokens ⟨first, steps⟩ ++ stepTokens rest := by
  simp [tokens, stepTokens]

private theorem steps_ofTokens_stepTokens (steps : Steps) (canonical : String) :
    Steps.ofTokens canonical (stepTokens steps) = .ok steps := by
  induction steps with
  | nil => rfl
  | cons step rest ih =>
    rw [stepTokens] at ih
    simp only [stepTokens, List.flatMap_cons, List.cons_append, List.nil_append, Steps.ofTokens, ih]
    rfl

private theorem eq_stepTokens {canonical : String} {tokens : List Token} {steps : Steps}
    (read : Steps.ofTokens canonical tokens = .ok steps) : tokens = stepTokens steps := by
  induction tokens using Steps.ofTokens.induct generalizing steps with
  | case1 => cases read; rfl
  | case2 op => cases read
  | case3 op right rest ih =>
    obtain ⟨more, readMore, answer⟩ := Except.bind_eq_ok.mp read
    cases answer
    rw [ih readMore]
    rfl
  | case4 tokens none one two =>
    unfold Steps.ofTokens at read
    split at read
    · exact (none rfl).elim
    · exact (one _ rfl).elim
    · exact (two _ _ _ rfl).elim
    · cases read

/-- A list of tokens is read as a calculation exactly when it is how that calculation is written. -/
theorem ofTokens_eq_ok_iff {canonical : String} {list : List Token} {calculation : Calculation} :
    ofTokens canonical list = .ok calculation ↔ list = calculation.tokens := by
  constructor
  · intro read
    unfold ofTokens at read
    split at read
    · cases read
    · cases read
    · obtain ⟨steps, readSteps, answer⟩ := Except.bind_eq_ok.mp read
      cases answer
      rw [eq_stepTokens readSteps]
      rfl
  · rintro rfl
    simp only [tokens, ofTokens, steps_ofTokens_stepTokens]
    rfl

theorem calculateTokens_tokens (calculation : Calculation) (canonical : String)
    {most : Option Nat} :
    calculateTokens calculation.tokens canonical most =
      (calculate calculation.first.value (values calculation.steps) most).map fun total =>
        { canonical, total, breakdown := breakdown calculation.tokens
          tokens := calculation.tokens } := by
  rw [calculateTokens, ofTokens_eq_ok_iff.mpr rfl]
  simp only [values, Except.mapError, bind, Except.bind]
  cases calculate calculation.first.value
    (calculation.steps.map fun step => (step.1, step.2.value)) most <;> rfl

/-- A calculation over the four operators alternates. -/
theorem alternating_tokens {calculation : Calculation}
    (known : ∀ step ∈ calculation.steps, step.1.IsArithmetic) :
    Alternating calculation.tokens := by
  obtain ⟨first, steps⟩ := calculation
  induction steps generalizing first with
  | nil => exact .single ⟨first, rfl⟩
  | cons step rest ih =>
    have later := ih step.2 fun other member => known other (List.mem_cons_of_mem _ member)
    exact .step ⟨first, rfl⟩ ⟨step.1, rfl, known step List.mem_cons_self⟩ later

/-- Tokens that alternate are those of a calculation over the four operators. -/
theorem exists_of_alternating {list : List Token} (alternating : Alternating list) :
    ∃ calculation : Calculation, list = calculation.tokens ∧
      ∀ step ∈ calculation.steps, step.1.IsArithmetic := by
  unfold Alternating at alternating
  induction alternating with
  | single here =>
    obtain ⟨item, rfl⟩ := here
    exact ⟨⟨item, []⟩, rfl, by simp⟩
  | step here next _ ih =>
    obtain ⟨item, rfl⟩ := here
    obtain ⟨op, rfl, arithmetic⟩ := next
    obtain ⟨⟨first, steps⟩, rfl, known⟩ := ih
    exact ⟨⟨item, (op, first) :: steps⟩, rfl, List.forall_mem_cons.mpr ⟨arithmetic, known⟩⟩

end DiceTable.Calculation
