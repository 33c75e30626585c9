import DiceTable.Proofs.Calculation.Failure

/-! # Calculating within bounds

Products and quotients of numbers that are not negative are not negative either, and every step is
kept within the range; so the first pass of a calculation over such numbers never leaves
`[0, maxInt]` (`completeTerms_isMagnitude`). It comes to all divisions with operands of that kind
(`Calculation.StaysInRange`), where no quotient leaves the range and it makes no difference towards
which side one is rounded. Only the second pass goes below zero.
-/

namespace DiceTable

namespace Decimal

/-- A number that is neither negative nor beyond the range. -/
structure IsMagnitude (n : Int) : Prop where
  nonneg : 0 ≤ n
  le_max : n ≤ maxInt

theorem IsMagnitude.fits {n : Int} (magnitude : IsMagnitude n) : Fits n :=
  ⟨Int.le_trans (by decide) magnitude.nonneg, magnitude.le_max⟩

end Decimal

open Calculation Decimal

namespace Operator

variable {op : Operator} {a b n : Int}

/-- Multiplicative steps do not go below zero. -/
theorem isMagnitude_of_apply (multiplicative : op.isMultiplicative) (left : IsMagnitude a)
    (right : IsMagnitude b) (applied : op.apply a b = .ok n) : IsMagnitude n := by
  refine ⟨?_, (fits_of_apply applied).le_max⟩
  obtain ⟨_, made⟩ := apply_eq_ok.mp applied
  cases op with
  | mul =>
    obtain ⟨_, rfl⟩ := checked_eq_ok.mp made
    exact Int.mul_nonneg left.nonneg right.nonneg
  | div =>
    simp only [result] at made
    split at made
    · cases made
    · obtain ⟨_, rfl⟩ := checked_eq_ok.mp made
      exact Int.tdiv_nonneg left.nonneg right.nonneg
  | _ => cases multiplicative

/-- A quotient of magnitudes is at most its dividend, and so never out of the range. -/
theorem div_apply (left : IsMagnitude a) (right : IsMagnitude b) (divisible : b ≠ 0) :
    Operator.div.apply a b = .ok (a.tdiv b) := by
  have nonneg : 0 ≤ a.tdiv b := Int.tdiv_nonneg left.nonneg right.nonneg
  have smaller : a.tdiv b ≤ a := Int.tdiv_le_self b left.nonneg
  refine apply_eq_ok.mpr ⟨writing_of_fits left.fits right.fits, ?_⟩
  simp only [result, if_neg divisible]
  exact checked_eq_ok.mpr ⟨(IsMagnitude.mk nonneg (Int.le_trans smaller left.le_max)).fits, rfl⟩

end Operator

section Passes

variable {pending start total sum : Int} {steps : List (Operator × Int)} {terms : List SignedTerm}

/-- Over magnitudes, the first pass leaves magnitudes. -/
theorem completeTerms_isMagnitude (within : ∀ step ∈ steps, IsMagnitude step.2)
    (first : IsMagnitude pending) (completed : completeTerms pending steps = .ok (start, terms)) :
    IsMagnitude start ∧ ∀ term ∈ terms, IsMagnitude term.2 := by
  induction steps generalizing pending start terms with
  | nil =>
    cases completed
    exact ⟨first, nofun⟩
  | cons step rest ih =>
    obtain ⟨op, value⟩ := step
    obtain ⟨here, later⟩ := List.forall_mem_cons.mp within
    simp only [completeTerms] at completed
    split at completed
    · rename_i multiplicative
      obtain ⟨next, applied, completed⟩ := Except.bind_eq_ok.mp completed
      exact ih later (Operator.isMagnitude_of_apply multiplicative first here applied) completed
    · obtain ⟨⟨next, others⟩, completedRest, answer⟩ := Except.bind_eq_ok.mp completed
      cases answer
      exact ⟨first, List.forall_mem_cons.mpr (ih later here completedRest)⟩

/-- The second pass leaves a number of 32 bits. -/
theorem joinTerms_fits (first : Fits total) (joined : joinTerms total terms = .ok sum) :
    Fits sum := by
  induction terms generalizing total with
  | nil =>
    cases joined
    exact first
  | cons term rest ih =>
    obtain ⟨next, applied, joined⟩ := Except.bind_eq_ok.mp joined
    exact ih (Operator.fits_of_apply applied) joined

end Passes

/-- The term that is pending at the end of the first pass: the one completed last. -/
def latestTerm (start : Int) : List SignedTerm → Int
  | [] => start
  | (_, next) :: terms => latestTerm next terms

theorem latestTerm_mem (start : Int) (terms : List SignedTerm) :
    latestTerm start terms = start ∨ ∃ term ∈ terms, latestTerm start terms = term.2 := by
  induction terms generalizing start with
  | nil => exact .inl rfl
  | cons term rest ih =>
    rcases ih term.2 with same | ⟨other, member, same⟩
    · exact .inr ⟨term, List.mem_cons_self, same⟩
    · exact .inr ⟨other, List.mem_cons_of_mem _ member, same⟩

/-- In a calculation, the first pass comes to an operator and the operand to its right, with `left`
pending in front of them. -/
def Calculation.ComesTo (calculation : Calculation) (left : Int) (op : Operator)
    (item : Operand) : Prop :=
  ∃ front rest start terms, calculation.steps = front ++ (op, item) :: rest ∧
    completeTerms calculation.first.value (values front) = .ok (start, terms) ∧
    latestTerm start terms = left

section Failing

variable {pending start : Int} {front rest steps : Steps} {terms : List SignedTerm} {op : Operator}
  {item : Operand} {failure : Failure}

/-- A multiplicative step that fails ends the first pass. -/
theorem completeTerms_eq_error
    (completed : completeTerms pending (values front) = .ok (start, terms))
    (multiplicative : op.isMultiplicative)
    (failed : op.apply (latestTerm start terms) item.value = .error failure) (rest : Steps) :
    completeTerms pending (values (front ++ (op, item) :: rest)) = .error failure := by
  induction front generalizing pending start terms with
  | nil =>
    cases completed
    simp only [values, List.nil_append, List.map_cons, completeTerms, multiplicative, if_true]
    exact Except.bind_eq_error.mpr (.inl failed)
  | cons step front ih =>
    simp only [values, List.cons_append, List.map_cons, completeTerms] at completed ⊢
    split at completed
    · rename_i multiplicative
      obtain ⟨next, applied, completed⟩ := Except.bind_eq_ok.mp completed
      rw [if_pos multiplicative]
      exact Except.bind_eq_error.mpr (.inr ⟨next, applied, ih completed failed⟩)
    · rename_i additive
      obtain ⟨⟨next, more⟩, completedRest, answer⟩ := Except.bind_eq_ok.mp completed
      cases answer
      rw [if_neg additive]
      exact Except.bind_eq_error.mpr (.inl (ih completedRest failed))

theorem exists_of_completeTerms_error
    (failed : completeTerms pending (values steps) = .error failure) :
    ∃ front op item rest start terms, steps = front ++ (op, item) :: rest ∧
      completeTerms pending (values front) = .ok (start, terms) ∧ op.isMultiplicative ∧
      op.apply (latestTerm start terms) item.value = .error failure := by
  induction steps generalizing pending with
  | nil => cases failed
  | cons step steps ih =>
    obtain ⟨op, item⟩ := step
    simp only [values, List.map_cons, completeTerms] at failed
    split at failed
    · rename_i multiplicative
      rcases Except.bind_eq_error.mp failed with failed | ⟨next, applied, failed⟩
      · exact ⟨[], op, item, steps, pending, [], rfl, rfl, multiplicative, failed⟩
      · obtain ⟨front, other, right, rest, start, terms, rfl, completed, later⟩ := ih failed
        refine ⟨(op, item) :: front, other, right, rest, start, terms, rfl, ?_, later⟩
        simp only [values, List.map_cons, completeTerms, multiplicative, if_true]
        exact Except.bind_eq_ok.mpr ⟨next, applied, completed⟩
    · rename_i additive
      rcases Except.bind_eq_error.mp failed with failed | ⟨_, _, failed⟩
      · obtain ⟨front, other, right, rest, start, terms, rfl, completed, later⟩ := ih failed
        refine ⟨(op, item) :: front, other, right, rest, pending, (op, start) :: terms, rfl, ?_,
          later⟩
        simp only [values, List.map_cons, completeTerms, if_neg additive]
        exact Except.bind_eq_ok.mpr ⟨_, completed, rfl⟩
      · cases failed

/-- The first pass fails exactly at a multiplicative step that it comes to. -/
theorem completeTerms_eq_error_iff :
    completeTerms pending (values steps) = .error failure ↔
      ∃ front op item rest start terms, steps = front ++ (op, item) :: rest ∧
        completeTerms pending (values front) = .ok (start, terms) ∧ op.isMultiplicative ∧
        op.apply (latestTerm start terms) item.value = .error failure := by
  refine ⟨exists_of_completeTerms_error, ?_⟩
  rintro ⟨front, op, item, rest, start, terms, rfl, completed, multiplicative, failed⟩
  exact completeTerms_eq_error completed multiplicative failed rest

end Failing

section Division

variable (divide : Int → Int → Int)

/-- What a step comes to with another division. -/
def Operator.resultWith (op : Operator) (a b : Int) : Except DiceError Int :=
  match op with
  | .div => if b = 0 then .error (.divisionByZero (op.stepText a b))
    else checked (op.stepText a b) (divide a b)
  | _ => op.result a b

/-- A step of a calculation with another division. -/
def Operator.applyWith (op : Operator) (a b : Int) : Except Failure Int := do
  writing [a, b]
  (op.resultWith divide a b).mapError .dice

/-- The first pass with another division. -/
def completeTermsWith (pending : Int) :
    List (Operator × Int) → Except Failure (Int × List SignedTerm)
  | [] => .ok (pending, [])
  | (op, value) :: rest =>
    if op.isMultiplicative then do
      let pending ← op.applyWith divide pending value
      completeTermsWith pending rest
    else do
      let (next, terms) ← completeTermsWith value rest
      .ok (pending, (op, next) :: terms)

/-- The total with another division. The second pass has no division in it. -/
def calculateWith (first : Int) (steps : List (Operator × Int)) : Except Failure Int := do
  let (first, terms) ← completeTermsWith divide first steps
  joinTerms first terms

variable {divide}

theorem Operator.applyWith_eq {op : Operator} {a b : Int} (same : divide a b = a.tdiv b) :
    op.applyWith divide a b = op.apply a b := by
  cases op <;> simp only [applyWith, resultWith, apply, result, same]

/-- Over magnitudes, all divisions that agree on magnitudes leave the same terms. -/
theorem completeTermsWith_eq {pending : Int} {steps : List (Operator × Int)}
    (same : ∀ a b, IsMagnitude a → IsMagnitude b → divide a b = a.tdiv b)
    (within : ∀ step ∈ steps, IsMagnitude step.2) (first : IsMagnitude pending) :
    completeTermsWith divide pending steps = completeTerms pending steps := by
  induction steps generalizing pending with
  | nil => rfl
  | cons step rest ih =>
    obtain ⟨op, value⟩ := step
    obtain ⟨here, later⟩ := List.forall_mem_cons.mp within
    simp only [completeTermsWith, completeTerms, Operator.applyWith_eq (same _ _ first here)]
    split
    · rename_i multiplicative
      cases applied : op.apply pending value with
      | error failure => rfl
      | ok next =>
        exact ih later (Operator.isMagnitude_of_apply multiplicative first here applied)
    · rw [ih later here]

end Division

/-- A calculation that keeps to magnitudes until all of its terms are complete, and to numbers of 32
bits from there on. -/
structure Calculation.StaysInRange (calculation : Calculation) : Prop where
  /-- After any steps of the first pass. -/
  terms {front : Steps} {start : Int} {terms : List SignedTerm} :
    front <+: calculation.steps →
    completeTerms calculation.first.value (values front) = .ok (start, terms) →
    IsMagnitude start ∧ ∀ term ∈ terms, IsMagnitude term.2
  /-- Before a division. -/
  operands {left : Int} {item : Operand} :
    calculation.ComesTo left .div item → IsMagnitude left ∧ IsMagnitude item.value
  /-- Only the literal zero is no divisor. -/
  zero {left : Int} {item : Operand} :
    calculation.ComesTo left .div item → item.value = 0 → item = .literal 0
  /-- A quotient is never out of the range. -/
  quotient {left : Int} {item : Operand} :
    calculation.ComesTo left .div item → item.value ≠ 0 →
    Operator.div.apply left item.value = .ok (left.tdiv item.value)
  /-- Division towards the floor comes to the same. -/
  floored : calculateWith Int.fdiv calculation.first.value (values calculation.steps) =
    calculate calculation.first.value (values calculation.steps)
  /-- After any steps of the second pass. -/
  sums {start sum : Int} {terms front : List SignedTerm} :
    completeTerms calculation.first.value (values calculation.steps) = .ok (start, terms) →
    front <+: terms → joinTerms start front = .ok sum → Fits sum

namespace Calculation

variable {calculation : Calculation}

theorem ComesTo.mem_tokens {left : Int} {op : Operator} {item : Operand}
    (comes : calculation.ComesTo left op item) : .operand item ∈ calculation.tokens := by
  obtain ⟨front, rest, _, _, split, _⟩ := comes
  refine List.mem_cons_of_mem _ (List.mem_flatMap.mpr ⟨(op, item), ?_, by simp⟩)
  rw [split]
  exact List.mem_append_right front List.mem_cons_self

/-- Over magnitudes of which none but a literal is zero, a calculation stays in range. -/
theorem staysInRange
    (within : ∀ item, .operand item ∈ calculation.tokens → IsMagnitude item.value)
    (zeros : ∀ item, .operand item ∈ calculation.tokens → item.value = 0 → item = .literal 0) :
    calculation.StaysInRange := by
  have first : IsMagnitude calculation.first.value := within _ List.mem_cons_self
  have steps : ∀ step ∈ values calculation.steps, IsMagnitude step.2 := by
    intro step member
    obtain ⟨item, member, same⟩ := mem_values_tokens member
    exact same ▸ within item member
  have terms {front : Steps} {start : Int} {terms : List SignedTerm}
      (inFront : front <+: calculation.steps)
      (completed : completeTerms calculation.first.value (values front) = .ok (start, terms)) :
      IsMagnitude start ∧ ∀ term ∈ terms, IsMagnitude term.2 :=
    completeTerms_isMagnitude (fun step member => steps step ((inFront.map _).subset member)) first
      completed
  have operands {left : Int} {item : Operand} (comes : calculation.ComesTo left .div item) :
      IsMagnitude left ∧ IsMagnitude item.value := by
    refine ⟨?_, within item comes.mem_tokens⟩
    obtain ⟨front, rest, start, complete, split, completed, rfl⟩ := comes
    obtain ⟨here, later⟩ := terms (split ▸ List.prefix_append front _) completed
    rcases latestTerm_mem start complete with same | ⟨term, member, same⟩
    · rwa [same]
    · rw [same]
      exact later term member
  exact {
    terms
    operands
    zero comes := zeros _ comes.mem_tokens
    quotient comes divisible := Operator.div_apply (operands comes).1 (operands comes).2 divisible
    floored := by
      have same (a b : Int) (left : IsMagnitude a) (right : IsMagnitude b) :
          a.fdiv b = a.tdiv b := Int.fdiv_eq_tdiv_of_nonneg left.nonneg right.nonneg
      rw [calculateWith, completeTermsWith_eq same steps first, calculate]
    sums completed _ joined := joinTerms_fits (terms List.prefix_rfl completed).1.fits joined }

end Calculation

end DiceTable
