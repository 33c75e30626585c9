import DiceTable.Proofs.Calculation.Bounds
import Mathlib.Data.List.Forall2

/-! # Calculations that improve

Larger operands make products, quotients and sums larger, but for divisors and for terms that are
taken away. So of two calculations with the same operators, where those operands are the same and
the others are no smaller in the second one, the second total is no smaller (`calculate_mono`). The
first pass keeps this up term by term, since it works on numbers that are not negative.
-/

namespace DiceTable

/-- The second of two numbers that are not negative is no smaller, and the same where it has to be
fixed. -/
structure Improves (fixed : Prop) (a b : Int) : Prop where
  nonneg : 0 ≤ a
  le : a ≤ b
  eq : fixed → a = b

/-- Whether the term behind an operator is taken away, where `taken` says so of the term in front of
it. A multiplicative operator goes on with the same term. -/
def Operator.takes (op : Operator) (taken : Bool) : Bool :=
  if op.isMultiplicative then taken else op == .sub

/-- Steps that improve, behind a term of which `taken` says whether it is taken away. -/
inductive StepsImprove : Bool → List (Operator × Int) → List (Operator × Int) → Prop
  | nil {taken : Bool} : StepsImprove taken [] []
  | cons {taken : Bool} {op : Operator} {a b : Int} {steps others : List (Operator × Int)}
      (here : Improves (op = .div ∨ op.takes taken) a b)
      (later : StepsImprove (op.takes taken) steps others) :
      StepsImprove taken ((op, a) :: steps) ((op, b) :: others)

/-- A complete term that improves, in front of which the same additive operator stands. -/
structure TermImproves (term other : SignedTerm) : Prop where
  sign : term.1 = other.1
  additive : term.1.isMultiplicative = false
  value : Improves (term.1 = .sub) term.2 other.2

variable {a b c d m n : Int}

/-- A multiplicative step keeps two pending terms in order. -/
theorem Operator.apply_improves {op : Operator} {fixed : Prop}
    (multiplicative : op.isMultiplicative) (left : Improves fixed a b)
    (right : Improves (op = .div ∨ fixed) c d) (applied : op.apply a c = .ok m)
    (again : op.apply b d = .ok n) : Improves fixed m n := by
  obtain ⟨_, made⟩ := apply_eq_ok.mp applied
  obtain ⟨_, again⟩ := apply_eq_ok.mp again
  cases op with
  | mul =>
    obtain ⟨_, rfl⟩ := checked_eq_ok.mp made
    obtain ⟨_, rfl⟩ := checked_eq_ok.mp again
    refine ⟨Int.mul_nonneg left.nonneg right.nonneg, ?_, fun same => ?_⟩
    · have nonneg : 0 ≤ b := Int.le_trans left.nonneg left.le
      exact Int.mul_le_mul left.le right.le right.nonneg nonneg
    · rw [left.eq same, right.eq (.inr same)]
  | div =>
    obtain rfl := right.eq (.inl rfl)
    simp only [result] at made again
    split at made
    · cases made
    · rename_i divisible
      rw [if_neg divisible] at again
      obtain ⟨_, rfl⟩ := checked_eq_ok.mp made
      obtain ⟨_, rfl⟩ := checked_eq_ok.mp again
      refine ⟨Int.tdiv_nonneg left.nonneg right.nonneg, ?_, fun same => by rw [left.eq same]⟩
      have positive : 0 < c := Int.lt_iff_le_and_ne.mpr ⟨right.nonneg, Ne.symm divisible⟩
      rw [Int.tdiv_eq_ediv_of_nonneg left.nonneg,
        Int.tdiv_eq_ediv_of_nonneg (Int.le_trans left.nonneg left.le)]
      exact Int.ediv_le_ediv positive left.le
  | _ => cases multiplicative

/-- An additive step keeps two sums in order. -/
theorem Operator.apply_mono {op : Operator} (additive : op.isMultiplicative = false) (left : a ≤ b)
    (right : Improves (op = .sub) c d) (applied : op.apply a c = .ok m)
    (again : op.apply b d = .ok n) : m ≤ n := by
  obtain ⟨_, made⟩ := apply_eq_ok.mp applied
  obtain ⟨_, again⟩ := apply_eq_ok.mp again
  cases op with
  | add =>
    obtain ⟨_, rfl⟩ := checked_eq_ok.mp made
    obtain ⟨_, rfl⟩ := checked_eq_ok.mp again
    exact Int.add_le_add left right.le
  | sub =>
    obtain rfl := right.eq rfl
    obtain ⟨_, rfl⟩ := checked_eq_ok.mp made
    obtain ⟨_, rfl⟩ := checked_eq_ok.mp again
    exact Int.sub_le_sub_right left c
  | other text => cases made
  | _ => cases additive

/-- The first pass leaves terms that improve. -/
theorem completeTerms_improves {taken : Bool} {steps others : List (Operator × Int)}
    {start next : Int} {terms more : List SignedTerm} (improve : StepsImprove taken steps others)
    (pending : Improves taken a b) (completed : completeTerms a steps = .ok (start, terms))
    (again : completeTerms b others = .ok (next, more)) :
    Improves taken start next ∧ List.Forall₂ TermImproves terms more := by
  induction improve generalizing a b start next terms more with
  | nil =>
    cases completed
    cases again
    exact ⟨pending, .nil⟩
  | @cons taken op c d steps others here later ih =>
    simp only [completeTerms] at completed again
    split at completed
    · rename_i multiplicative
      have same : op.takes taken = taken := if_pos multiplicative
      rw [if_pos multiplicative] at again
      obtain ⟨m, applied, completed⟩ := Except.bind_eq_ok.mp completed
      obtain ⟨n, appliedAgain, again⟩ := Except.bind_eq_ok.mp again
      rw [same] at here ih
      exact ih (Operator.apply_improves multiplicative pending here applied appliedAgain) completed
        again
    · rename_i additive
      have kind : op.takes taken = (op == .sub) := if_neg additive
      rw [if_neg additive] at again
      obtain ⟨⟨m, termsLater⟩, completedLater, answer⟩ := Except.bind_eq_ok.mp completed
      obtain ⟨⟨n, moreLater⟩, againLater, answerAgain⟩ := Except.bind_eq_ok.mp again
      cases answer
      cases answerAgain
      rw [kind] at here ih
      obtain ⟨first, rest⟩ := ih ⟨here.nonneg, here.le, fun fixed => here.eq (.inr fixed)⟩
        completedLater againLater
      refine ⟨pending, .cons ⟨rfl, Bool.eq_false_iff.mpr additive, first.nonneg, first.le, ?_⟩ rest⟩
      exact fun taken => first.eq (beq_iff_eq.mpr taken)

/-- The second pass keeps the order of totals over terms that improve. -/
theorem joinTerms_mono {terms others : List SignedTerm}
    (improve : List.Forall₂ TermImproves terms others) (le : a ≤ b)
    (joined : joinTerms a terms = .ok m) (again : joinTerms b others = .ok n) : m ≤ n := by
  induction improve generalizing a b with
  | nil =>
    cases joined
    cases again
    exact le
  | cons here _ ih =>
    obtain ⟨sum, applied, joined⟩ := Except.bind_eq_ok.mp joined
    obtain ⟨other, appliedAgain, again⟩ := Except.bind_eq_ok.mp again
    rw [← here.sign] at appliedAgain
    exact ih (Operator.apply_mono here.additive le here.value applied appliedAgain) joined again

/-- A calculation that improves comes to no less. -/
theorem calculate_mono {steps others : List (Operator × Int)}
    (improve : StepsImprove false steps others) (first : Improves false a b)
    (done : calculate a steps = .ok m) (again : calculate b others = .ok n) : m ≤ n := by
  obtain ⟨⟨start, terms⟩, completed, joined⟩ := Except.bind_eq_ok.mp done
  obtain ⟨⟨next, more⟩, completedAgain, joinedAgain⟩ := Except.bind_eq_ok.mp again
  obtain ⟨starts, improved⟩ := completeTerms_improves improve first completed completedAgain
  exact joinTerms_mono improved starts.le joined joinedAgain

end DiceTable
