import DiceTable.Proofs.Calculation.Step
import DiceTable.Proofs.Calculation.Tokens

/-! # Calculating in two passes

The first pass folds products and puts sums off, so it takes the steps of a calculation in another
order than the text. It still comes to what the tree of the calculation says: to the exact value
where no step stops it, and to the error of the first failing multiplicative step, or else of the
first failing additive one, where some step does (`calculateTokens_eq_tree`). Whether there is a
bound on the digits that are written makes no difference to operands that keep to it
(`calculate_of_isShort`).
-/

namespace DiceTable

open Calculation

/-- An additive operator splits the first pass in two. -/
theorem completeTerms_append {op : Operator} (additive : op.isAdditive) (pending value : Int)
    (front back : List (Operator × Int)) (most : Option Nat) :
    completeTerms pending (front ++ (op, value) :: back) most = (do
      let (start, terms) ← completeTerms pending front most
      let (next, more) ← completeTerms value back most
      .ok (start, terms ++ (op, next) :: more)) := by
  induction front generalizing pending with
  | nil =>
    simp only [List.nil_append, completeTerms, Operator.isMultiplicative_of_isAdditive additive]
    rfl
  | cons step rest ih =>
    obtain ⟨other, right⟩ := step
    simp only [List.cons_append, completeTerms]
    cases other.isMultiplicative with
    | true =>
      simp only [if_true, bind, Except.bind]
      cases other.apply pending right most with
      | error failure => rfl
      | ok pending => exact ih pending
    | false =>
      simp only [Bool.false_eq_true, if_false, ih, bind, Except.bind]
      cases completeTerms right rest most with
      | error failure => rfl
      | ok front =>
        cases completeTerms value back most <;> rfl

theorem joinTerms_append (total : Int) (front back : List SignedTerm) (most : Option Nat) :
    joinTerms total (front ++ back) most = (do
      let total ← joinTerms total front most
      joinTerms total back most) := by
  induction front generalizing total with
  | nil => rfl
  | cons term rest ih =>
    simp only [List.cons_append, joinTerms, bind, Except.bind]
    cases term.1.apply total term.2 most with
    | error failure => rfl
    | ok total => exact ih total

/-- What the first pass makes of a product, whatever comes after it. -/
theorem IsProduct.completeTerms_eq {tree : Tree} {tokens : List Token}
    (product : IsProduct tree tokens) (most : Option Nat) :
    ∃ first steps, tokens = Calculation.tokens ⟨first, steps⟩ ∧
      ∀ rest, completeTerms first.value (values steps ++ rest) most =
        match tree.firstFailing (Step.Stops most) true with
        | some failing => .error (failing.failure most)
        | none => completeTerms tree.value rest most := by
  induction product with
  | operand item => exact ⟨item, [], rfl, fun rest => rfl⟩
  | @step left tokens op _ multiplicative item ih =>
    obtain ⟨first, steps, rfl, folded⟩ := ih
    refine ⟨first, steps ++ [(op, item)], ?_, fun rest => ?_⟩
    · rw [tokens_append]
      rfl
    have step : completeTerms first.value (values (steps ++ [(op, item)]) ++ rest) most =
        completeTerms first.value (values steps ++ (op, item.value) :: rest) most := by
      simp [values]
    rw [step, folded, Tree.firstFailing_step]
    cases left.firstFailing (Step.Stops most) true with
    | some failing => rfl
    | none =>
      simp only [completeTerms, multiplicative, if_true, Operator.apply_eq (.inr multiplicative),
        Tree.value, Option.none_or, true_and]
      split <;> rfl

theorem IsProduct.firstFailing_false {tree : Tree} {tokens : List Token}
    (product : IsProduct tree tokens) (fails : Step → Prop) [DecidablePred fails] :
    tree.firstFailing fails false = none := by
  induction product with
  | operand item => rfl
  | step _ multiplicative item ih =>
    rw [Tree.firstFailing_step, ih, multiplicative]
    rfl

/-- What the two passes make of a sum: the first one stops at the first multiplicative step that
fails, and the second one joins the exact terms. -/
theorem IsSum.passes_eq {tree : Tree} {tokens : List Token} (sum : IsSum tree tokens)
    (most : Option Nat) :
    ∃ first steps, tokens = Calculation.tokens ⟨first, steps⟩ ∧
      match tree.firstFailing (Step.Stops most) true with
      | some failing =>
        completeTerms first.value (values steps) most = .error (failing.failure most)
      | none => ∃ start terms, completeTerms first.value (values steps) most = .ok (start, terms) ∧
          joinTerms start terms most =
            match tree.firstFailing (Step.Stops most) false with
            | some failing => .error (failing.failure most)
            | none => .ok tree.value := by
  induction sum with
  | @product tree tokens product =>
    obtain ⟨first, steps, rfl, folded⟩ := product.completeTerms_eq most
    refine ⟨first, steps, rfl, ?_⟩
    have whole := folded []
    rw [List.append_nil] at whole
    cases search : tree.firstFailing (Step.Stops most) true with
    | some failing => rw [whole, search]
    | none =>
      refine ⟨tree.value, [], ?_, ?_⟩
      · rw [whole, search]
        rfl
      · rw [product.firstFailing_false]
        rfl
  | @step left right leftTokens rightTokens op _ additive product ih =>
    obtain ⟨first, steps, rfl, passes⟩ := ih
    obtain ⟨next, more, rfl, folded⟩ := product.completeTerms_eq most
    have whole := folded []
    rw [List.append_nil] at whole
    refine ⟨first, steps ++ (op, next) :: more, ?_, ?_⟩
    · rw [tokens_append]
      rfl
    have split : values (steps ++ (op, next) :: more) =
        values steps ++ (op, next.value) :: values more := by
      simp [values]
    rw [split, completeTerms_append additive, Tree.firstFailing_step,
      Tree.firstFailing_step, product.firstFailing_false,
      Operator.isMultiplicative_of_isAdditive additive, whole]
    cases inLeft : left.firstFailing (Step.Stops most) true with
    | some failing =>
      rw [inLeft] at passes
      rw [passes]
      rfl
    | none =>
      rw [inLeft] at passes
      obtain ⟨start, terms, completed, joined⟩ := passes
      rw [completed]
      cases inRight : right.firstFailing (Step.Stops most) true with
      | some failing => rfl
      | none =>
        refine ⟨start, terms ++ [(op, right.value)], rfl, ?_⟩
        rw [joinTerms_append, joined]
        cases left.firstFailing (Step.Stops most) false with
        | some failing => rfl
        | none =>
          simp only [joinTerms, bind, Except.bind, Operator.apply_eq (.inl additive), true_and,
            Option.none_or, Option.or_none, Tree.value]
          by_cases stops : Step.Stops most ⟨op, left.value, right.value⟩ <;> simp [stops]

/-- The two passes together come to what the tree says. -/
theorem IsSum.calculateTokens_eq {tree : Tree} {tokens : List Token} (sum : IsSum tree tokens)
    (canonical : String) (most : Option Nat) :
    calculateTokens tokens canonical most =
      match tree.firstFailure (Step.Stops most) with
      | some failing => .error (failing.failure most)
      | none => .ok { canonical, total := tree.value, breakdown := breakdown tokens, tokens } := by
  obtain ⟨first, steps, rfl, passes⟩ := sum.passes_eq most
  rw [calculateTokens_tokens, calculate, Tree.firstFailure]
  cases inProducts : tree.firstFailing (Step.Stops most) true with
  | some failing =>
    rw [inProducts] at passes
    rw [passes]
    rfl
  | none =>
    rw [inProducts] at passes
    obtain ⟨start, terms, completed, joined⟩ := passes
    simp only [completed, bind, Except.bind, joined]
    cases tree.firstFailing (Step.Stops most) false <;> rfl

section Short

variable {bound : Nat} {pending total : Int} {steps : List (Operator × Int)}
  {terms : List SignedTerm}

/-- Over integers that are written, the first pass goes as without a bound, and leaves such
integers: those that were there, and numbers of 32 bits. -/
theorem completeTerms_of_isShort (enough : Decimal.boundedDigits ≤ bound)
    (first : Decimal.isShort bound pending)
    (within : ∀ step ∈ steps, Decimal.isShort bound step.2) :
    completeTerms pending steps (some bound) = completeTerms pending steps none ∧
      ∀ start terms, completeTerms pending steps none = .ok (start, terms) →
        Decimal.isShort bound start ∧ ∀ term ∈ terms, Decimal.isShort bound term.2 := by
  induction steps generalizing pending with
  | nil =>
    refine ⟨rfl, ?_⟩
    rintro _ _ ⟨⟩
    exact ⟨first, nofun⟩
  | cons step rest ih =>
    obtain ⟨op, value⟩ := step
    obtain ⟨here, later⟩ := List.forall_mem_cons.mp within
    simp only [completeTerms]
    split
    · rw [Operator.apply_of_writing (writing_pair first here)]
      cases applied : op.apply pending value none with
      | error failure => exact ⟨rfl, nofun⟩
      | ok next => exact ih ((Operator.fits_of_apply applied).isShort enough) later
    · obtain ⟨same, left⟩ := ih here later
      rw [same]
      refine ⟨rfl, fun start terms completed => ?_⟩
      obtain ⟨⟨next, others⟩, completedRest, answer⟩ := Except.bind_eq_ok.mp completed
      cases answer
      exact ⟨first, List.forall_mem_cons.mpr (left next others completedRest)⟩

theorem joinTerms_of_isShort (enough : Decimal.boundedDigits ≤ bound)
    (first : Decimal.isShort bound total) (within : ∀ term ∈ terms, Decimal.isShort bound term.2) :
    joinTerms total terms (some bound) = joinTerms total terms none := by
  induction terms generalizing total with
  | nil => rfl
  | cons term rest ih =>
    obtain ⟨here, later⟩ := List.forall_mem_cons.mp within
    simp only [joinTerms]
    rw [Operator.apply_of_writing (writing_pair first here)]
    cases applied : term.1.apply total term.2 none with
    | error failure => rfl
    | ok next => exact ih ((Operator.fits_of_apply applied).isShort enough) later

/-- A bound on the digits that are written makes no difference to integers that keep to it. -/
theorem calculate_of_isShort (enough : Decimal.boundedDigits ≤ bound)
    (first : Decimal.isShort bound pending)
    (within : ∀ step ∈ steps, Decimal.isShort bound step.2) :
    calculate pending steps (some bound) = calculate pending steps none := by
  obtain ⟨same, left⟩ := completeTerms_of_isShort enough first within
  rw [calculate, calculate, same]
  cases completed : completeTerms pending steps none with
  | error failure => rfl
  | ok pair =>
    obtain ⟨startShort, termsShort⟩ := left pair.1 pair.2 completed
    exact joinTerms_of_isShort enough startShort termsShort

end Short

/-- The operands of the tokens keep to a bound on digits, if there is one, that leaves room for the
numbers of the range. -/
def OperandsKeepTo (most : Option Nat) (tokens : List Token) : Prop :=
  ∀ bound ∈ most, Decimal.boundedDigits ≤ bound ∧
    ∀ item, .operand item ∈ tokens → Decimal.isShort bound item.value

theorem OperandsKeepTo.calculateTokens_eq {most : Option Nat} {tokens : List Token}
    (alternating : Alternating tokens) (keeps : OperandsKeepTo most tokens) (canonical : String) :
    calculateTokens tokens canonical most = calculateTokens tokens canonical none := by
  obtain ⟨calculation, rfl, _⟩ := exists_of_alternating alternating
  cases most with
  | none => rfl
  | some bound =>
    obtain ⟨enough, short⟩ := keeps bound rfl
    have steps : ∀ step ∈ values calculation.steps, Decimal.isShort bound step.2 := by
      intro step member
      obtain ⟨item, member, same⟩ := mem_values_tokens member
      exact same ▸ short item member
    rw [calculateTokens_tokens, calculateTokens_tokens,
      calculate_of_isShort enough (short _ List.mem_cons_self) steps]

end DiceTable
