import DiceTable.Dice.Arithmetic
import Mathlib.Algebra.Ring.Int.Defs

/-! # Reading a calculation as a tree

Sums of products are read by a grammar of two levels, each of which associates to the left. A list
of tokens that alternates between operands and operators has exactly one reading
(`Alternating.existsUnique_sum`). The tree of a reading is evaluated over unbounded integers, and
lists its steps in the order of the text.
-/

namespace DiceTable

namespace Operator

def isAdditive : Operator → Bool
  | .add | .sub => true
  | _ => false

/-- One of the four operators with a meaning. -/
def IsArithmetic (op : Operator) : Prop :=
  op.isAdditive ∨ op.isMultiplicative

theorem isMultiplicative_of_isAdditive {op : Operator} (additive : op.isAdditive) :
    op.isMultiplicative = false := by
  cases op <;> first | rfl | simp [isAdditive] at additive

end Operator

/-- Members of two sorts in turns, with one of the first sort at either end. -/
inductive Alternates {α : Type} (first second : α → Prop) : List α → Prop
  | single {x : α} (here : first x) : Alternates first second [x]
  | step {x y : α} {rest : List α} (here : first x) (next : second y)
      (alternates : Alternates first second rest) : Alternates first second (x :: y :: rest)

theorem Alternates.forall_mem {α : Type} {first second : α → Prop} {list : List α}
    (alternates : Alternates first second list) : ∀ x ∈ list, first x ∨ second x := by
  induction alternates with
  | single here => simpa using .inl here
  | step here next _ ih =>
    exact List.forall_mem_cons.mpr ⟨.inl here, List.forall_mem_cons.mpr ⟨.inr next, ih⟩⟩

/-- Members of other sorts are in turns where their images are. -/
theorem Alternates.of_map {α β : Type} {f : α → β} {first second : α → Prop}
    {first' second' : β → Prop} {list : List α}
    (alternates : Alternates first' second' (list.map f))
    (here : ∀ x ∈ list, first' (f x) → first x) (next : ∀ x ∈ list, second' (f x) → second x) :
    Alternates first second list := by
  generalize images : list.map f = mapped at alternates
  induction alternates generalizing list with
  | single kind =>
    obtain ⟨x, rfl, rfl⟩ := List.map_eq_singleton_iff.mp images
    exact .single (here x (by simp) kind)
  | step kind other _ ih =>
    obtain ⟨x, more, rfl, rfl, moreImages⟩ := List.map_eq_cons_iff.mp images
    obtain ⟨y, rest, rfl, rfl, restImages⟩ := List.map_eq_cons_iff.mp moreImages
    have later := ih (fun z member => here z (by simp [member]))
      (fun z member => next z (by simp [member])) restImages
    exact .step (here x (by simp) kind) (next y (by simp) other) later

theorem Alternates.map {α β : Type} {f : α → β} {first second : α → Prop}
    {first' second' : β → Prop} {list : List α} (alternates : Alternates first second list)
    (here : ∀ x, first x → first' (f x)) (next : ∀ x, second x → second' (f x)) :
    Alternates first' second' (list.map f) := by
  induction alternates with
  | single kind => exact .single (here _ kind)
  | step kind other _ ih => exact .step (here _ kind) (next _ other) ih

namespace Token

def IsOperand (token : Token) : Prop :=
  ∃ item, token = .operand item

def IsArithmetic (token : Token) : Prop :=
  ∃ op : Operator, token = .operator op ∧ op.IsArithmetic

def IsAdditive (token : Token) : Prop :=
  ∃ op : Operator, token = .operator op ∧ op.isAdditive

end Token

/-- Operands and operators in turns, with an operand at either end. -/
def Alternating (tokens : List Token) : Prop :=
  Alternates Token.IsOperand Token.IsArithmetic tokens

/-- What a calculation is read as. -/
inductive Tree where
  | operand (item : Operand)
  | step (op : Operator) (left right : Tree)
  deriving DecidableEq, Repr

/-- A product: operands joined by multiplicative operators, from the left. -/
inductive IsProduct : Tree → List Token → Prop
  | operand (item : Operand) : IsProduct (.operand item) [.operand item]
  | step {left : Tree} {tokens : List Token} {op : Operator} (product : IsProduct left tokens)
      (multiplicative : op.isMultiplicative) (item : Operand) :
      IsProduct (.step op left (.operand item)) (tokens ++ [.operator op, .operand item])

/-- A sum: products joined by additive operators, from the left. -/
inductive IsSum : Tree → List Token → Prop
  | product {tree : Tree} {tokens : List Token} (product : IsProduct tree tokens) :
      IsSum tree tokens
  | step {left right : Tree} {leftTokens rightTokens : List Token} {op : Operator}
      (sum : IsSum left leftTokens) (additive : op.isAdditive)
      (product : IsProduct right rightTokens) :
      IsSum (.step op left right) (leftTokens ++ .operator op :: rightTokens)

/-- An operator between the integers that stand to its left and right. -/
structure Step where
  op : Operator
  left : Int
  right : Int
  deriving DecidableEq, Repr

namespace Step

/-- The result over unbounded integers. Division drops the fraction, towards zero. -/
def result (step : Step) : Int :=
  match step.op with
  | .add => step.left + step.right
  | .sub => step.left - step.right
  | .mul => step.left * step.right
  | .div => step.left.tdiv step.right
  | .other _ => 0

def DividesByZero (step : Step) : Prop :=
  step.op = .div ∧ step.right = 0

/-- Whether the step divides by zero or leaves the range of 32 bits. -/
def Fails (step : Step) : Prop :=
  step.DividesByZero ∨ step.result < -2 ^ 31 ∨ 2 ^ 31 - 1 < step.result

instance (step : Step) : Decidable step.DividesByZero :=
  inferInstanceAs (Decidable (_ ∧ _))

instance (step : Step) : Decidable step.Fails :=
  inferInstanceAs (Decidable (_ ∨ _))

def error (step : Step) : DiceError :=
  if step.DividesByZero then .divisionByZero (step.op.stepText step.left step.right)
  else .outOfRange (step.op.stepText step.left step.right)

/-- Whether the step has an operand with more than `most` digits, where there is such a bound. -/
def isOverlong (most : Option Nat) (step : Step) : Bool :=
  most.any fun most => !(Decimal.isShort most step.left && Decimal.isShort most step.right)

/-- Whether the step is not made: it fails, or it is too long to be written. -/
def Stops (most : Option Nat) (step : Step) : Prop :=
  step.isOverlong most ∨ step.Fails

instance (most : Option Nat) : DecidablePred (Stops most) :=
  fun _ => inferInstanceAs (Decidable (_ ∨ _))

def failure (most : Option Nat) (step : Step) : Failure :=
  match most with
  | some bound => if step.isOverlong most then .unwritable bound else .dice step.error
  | none => .dice step.error

theorem stops_none {step : Step} : step.Stops none ↔ step.Fails := by
  simp [Stops, isOverlong]

end Step

namespace Tree

/-- The value over unbounded integers. -/
def value : Tree → Int
  | .operand item => item.value
  | .step op left right => Step.result ⟨op, left.value, right.value⟩

/-- The steps from left to right, each between the exact values of its two sides. -/
def steps : Tree → List Step
  | .operand _ => []
  | .step op left right => left.steps ++ ⟨op, left.value, right.value⟩ :: right.steps

variable (fails : Step → Prop) [DecidablePred fails]

/-- The first multiplicative step that fails, or the first other one. -/
def firstFailing (multiplicative : Bool) (tree : Tree) : Option Step :=
  tree.steps.find? fun step => step.op.isMultiplicative = multiplicative ∧ fails step

/-- The first multiplicative step that fails, if there is one, or else the first additive one. -/
def firstFailure (tree : Tree) : Option Step :=
  (tree.firstFailing fails true).or (tree.firstFailing fails false)

theorem firstFailing_step (multiplicative : Bool) (op : Operator) (left right : Tree) :
    (Tree.step op left right).firstFailing fails multiplicative =
      ((left.firstFailing fails multiplicative).or
        (if op.isMultiplicative = multiplicative ∧ fails ⟨op, left.value, right.value⟩
          then some ⟨op, left.value, right.value⟩ else none)).or
        (right.firstFailing fails multiplicative) := by
  unfold firstFailing
  rw [steps, List.find?_append, List.find?_cons]
  by_cases here : op.isMultiplicative = multiplicative ∧ fails ⟨op, left.value, right.value⟩
  · simp [here]
  · simp [here]

variable {fails}

/-- No step fails exactly when neither search finds one. -/
theorem firstFailure_eq_none {tree : Tree} :
    tree.firstFailure fails = none ↔ ∀ step ∈ tree.steps, ¬ fails step := by
  simp only [firstFailure, firstFailing, Option.or_eq_none_iff, List.find?_eq_none,
    decide_eq_true_eq, not_and]
  constructor
  · rintro ⟨multiplicative, additive⟩ step member
    cases kind : step.op.isMultiplicative with
    | false => exact additive step member kind
    | true => exact multiplicative step member kind
  · intro sound
    exact ⟨fun step member _ => sound step member, fun step member _ => sound step member⟩

/-- What stops a step where there is no bound on digits is that it fails. -/
theorem firstFailure_stops_none (tree : Tree) :
    tree.firstFailure (Step.Stops none) = tree.firstFailure Step.Fails := by
  simp only [firstFailure, firstFailing, Step.stops_none]

theorem mem_of_firstFailure {tree : Tree} {failing : Step}
    (found : tree.firstFailure fails = some failing) : failing ∈ tree.steps ∧ fails failing := by
  rcases Option.or_eq_some_iff.mp found with found | ⟨_, found⟩
  all_goals
    have holds := List.find?_some found
    simp only [decide_eq_true_eq] at holds
    exact ⟨List.mem_of_find?_eq_some found, holds.2⟩

end Tree

section Unambiguous

/-- A product has no additive operator. -/
theorem IsProduct.not_additive {tree : Tree} {tokens : List Token} (product : IsProduct tree tokens)
    {op : Operator} (member : .operator op ∈ tokens) : ¬ op.isAdditive := by
  induction product with
  | operand item => simp at member
  | step _ multiplicative item ih =>
    simp only [List.mem_append, List.mem_cons, Token.operator.injEq, reduceCtorEq,
      List.not_mem_nil, or_false] at member
    rcases member with member | rfl
    · exact ih member
    · intro additive
      rw [Operator.isMultiplicative_of_isAdditive additive] at multiplicative
      contradiction

theorem IsProduct.unique {tree other : Tree} {tokens : List Token}
    (product : IsProduct tree tokens) (same : IsProduct other tokens) : other = tree := by
  induction product generalizing other with
  | operand item =>
    generalize list : [Token.operand item] = tokens at same
    cases same with
    | operand item' => cases list; rfl
    | step =>
      have length := congrArg List.length list
      simp at length
  | @step left tokens op _ _ item ih =>
    generalize list : tokens ++ [Token.operator op, Token.operand item] = whole at same
    cases same with
    | operand item' =>
      have length := congrArg List.length list
      simp at length
    | @step left' tokens' op' product' _ item' =>
      obtain ⟨rfl, last⟩ := List.append_inj' list rfl
      cases last
      rw [ih product']

/-- The last member with a property is where a list divides in one way only. -/
theorem append_cons_unique {α : Type} {p : α → Prop} {front front' back back' : List α} {x x' : α}
    (same : front ++ x :: back = front' ++ x' :: back') (here : p x) (here' : p x')
    (last : ∀ y ∈ back, ¬ p y) (last' : ∀ y ∈ back', ¬ p y) :
    front = front' ∧ x = x' ∧ back = back' := by
  rcases List.append_eq_append_iff.mp same with ⟨gap, rfl, rest⟩ | ⟨gap, rfl, rest⟩
  · cases gap with
    | nil => cases rest; simp
    | cons y gap =>
      obtain ⟨rfl, rfl⟩ := List.cons.inj rest
      exact absurd here' (last x' (by simp))
  · cases gap with
    | nil => cases rest; simp
    | cons y gap =>
      obtain ⟨rfl, rfl⟩ := List.cons.inj rest
      exact absurd here (last' x (by simp))

theorem IsProduct.no_additive {tree : Tree} {tokens : List Token}
    (product : IsProduct tree tokens) : ∀ token ∈ tokens, ¬ token.IsAdditive := by
  rintro _ member ⟨op, rfl, additive⟩
  exact product.not_additive member additive

/-- A list of tokens has at most one reading. -/
theorem IsSum.unique {tree other : Tree} {tokens : List Token} (sum : IsSum tree tokens)
    (same : IsSum other tokens) : other = tree := by
  induction sum generalizing other with
  | product product =>
    cases same with
    | product product' => exact product.unique product'
    | step _ additive _ =>
      exact (product.not_additive (by simp) additive).elim
  | @step left right leftTokens rightTokens op _ additive product ih =>
    generalize list : leftTokens ++ Token.operator op :: rightTokens = whole at same
    cases same with
    | product product' =>
      subst list
      exact (product'.not_additive (by simp) additive).elim
    | step sum' additive' product' =>
      obtain ⟨rfl, operators, rfl⟩ := append_cons_unique list ⟨op, rfl, additive⟩
        ⟨_, rfl, additive'⟩ product.no_additive product'.no_additive
      cases operators
      rw [ih sum', product.unique product']

end Unambiguous

section Existence

/-- A reading goes on with one more operator and operand. -/
theorem IsSum.extend {tree : Tree} {tokens : List Token} (sum : IsSum tree tokens) {op : Operator}
    (known : op.IsArithmetic) (item : Operand) :
    ∃ extended, IsSum extended (tokens ++ [.operator op, .operand item]) := by
  rcases known with additive | multiplicative
  · exact ⟨_, .step sum additive (.operand item)⟩
  · cases sum with
    | product product => exact ⟨_, .product (.step product multiplicative item)⟩
    | @step left right leftTokens rightTokens operator sum additive product =>
      refine ⟨.step operator left (.step op right (.operand item)), ?_⟩
      rw [List.append_assoc, List.cons_append]
      exact .step sum additive (.step product multiplicative item)

theorem Alternating.exists_sum_append {rest : List Token} (alternating : Alternating rest)
    {tree : Tree} {tokens : List Token} (sum : IsSum tree tokens) {op : Operator}
    (known : op.IsArithmetic) :
    ∃ extended, IsSum extended (tokens ++ .operator op :: rest) := by
  unfold Alternating at alternating
  induction alternating generalizing tree tokens op with
  | single here =>
    obtain ⟨item, rfl⟩ := here
    exact sum.extend known item
  | step here next _ ih =>
    obtain ⟨item, rfl⟩ := here
    obtain ⟨nextOp, rfl, nextKnown⟩ := next
    obtain ⟨extended, sum⟩ := sum.extend known item
    obtain ⟨further, sum⟩ := ih sum nextKnown
    exact ⟨further, by simpa only [List.append_assoc, List.cons_append, List.nil_append] using sum⟩

/-- Tokens that alternate have exactly one reading. -/
theorem Alternating.existsUnique_sum {tokens : List Token} (alternating : Alternating tokens) :
    ∃ tree, IsSum tree tokens ∧ ∀ other, IsSum other tokens → other = tree := by
  cases alternating with
  | single here =>
    obtain ⟨item, rfl⟩ := here
    have sum : IsSum (.operand item) [.operand item] := .product (.operand item)
    exact ⟨_, sum, fun _ same => sum.unique same⟩
  | step here next alternates =>
    obtain ⟨item, rfl⟩ := here
    obtain ⟨op, rfl, known⟩ := next
    obtain ⟨tree, sum⟩ :=
      Alternating.exists_sum_append alternates (.product (.operand item)) known
    exact ⟨tree, sum, fun _ same => sum.unique same⟩

end Existence

end DiceTable
