import DiceTable.Proofs.Rolling.Evaluation
import Mathlib.Data.Nat.Digits.Defs

/-! # Items written in full

A plan is written in full with the count of its group, a small letter and no leading zeros
(`Plan.lexeme`). The item in full has the plan of the item that the plan was made of, and no other
plan (`Lexeme.plan_lexeme`, `Plan.Readable.eq_of_plan`). So items that have been rolled can be
rolled in full the same way (`Source.rollItems_lexemes`).
-/

namespace DiceTable

/-- A group as it is written in full. -/
def DiceGroup.spelling (group : DiceGroup) : DiceSpelling :=
  ⟨Decimal.chars group.count, 'd', Decimal.chars group.sides, group.exploding⟩

/-- The item that a plan comes from where nothing is left out. -/
def Plan.lexeme : Plan → Lexeme
  | .roll group => .dice group.spelling
  | .literal value => .number (Decimal.chars value)
  | .operator op => .operator op

/-- The plan that a token comes from. -/
def Token.plan : Token → Plan
  | .operand (.rolled group _) => .roll group
  | .operand item => .literal item.value
  | .operator op => .operator op

/-- All numbers of a plan are among those that can be read. -/
inductive Plan.Readable : Plan → Prop
  | roll {group : DiceGroup} (count : 0 ≤ group.count ∧ group.count ≤ Decimal.maxInt)
      (sides : 0 ≤ group.sides ∧ group.sides ≤ Decimal.maxInt) : Readable (.roll group)
  | literal {value : Int} (bounds : 0 ≤ value ∧ value ≤ Decimal.maxInt) :
      Readable (.literal value)
  | operator {op : Operator} (known : op.IsArithmetic) : Readable (.operator op)

theorem Decimal.isRun_chars {n : Int} (nonneg : 0 ≤ n) : Decimal.IsRun (Decimal.chars n) := by
  rw [Decimal.chars, if_neg (Int.not_lt.mpr nonneg)]
  exact ⟨Decimal.digits_ne_nil _, fun _ member => Decimal.isDigit_of_mem_digits member⟩

/-- A number within the range is read back. -/
theorem readNumber_chars {n : Int} (bounds : 0 ≤ n ∧ n ≤ Decimal.maxInt) (fragment : String) :
    readNumber (Decimal.chars n) fragment = .ok n := by
  obtain ⟨nonneg, most⟩ := bounds
  have run := Decimal.isRun_chars nonneg
  have value : (Decimal.value (Decimal.chars n) : Int) = n := by
    rw [Decimal.chars, if_neg (Int.not_lt.mpr nonneg), Decimal.value_digits]
    exact Int.natAbs_of_nonneg nonneg
  have length : (Decimal.chars n).length ≤ Decimal.boundedDigits := by
    rw [Decimal.chars, if_neg (Int.not_lt.mpr nonneg)]
    refine Nat.toDigits_length 10 _ _ (by decide) ?_
    simp only [Decimal.maxInt, Decimal.boundedDigits] at most ⊢
    omega
  have significant : (Decimal.significant (Decimal.chars n)).length ≤ Decimal.boundedDigits := by
    rw [Decimal.significant, Decimal.unsigned_of_isDigit run.digits]
    exact ((Decimal.chars n).dropWhile_sublist _).length_le.trans length
  refine readNumber_eq_ok.mpr ?_
  rw [Decimal.bounded_of_isDigit run.nonempty run.digits, value,
    if_neg (Nat.not_lt.mpr significant), if_neg, if_neg (Int.not_lt.mpr most)]
  simp only [Decimal.boundedDigits, Decimal.digitLimit] at length ⊢
  omega

/-- A group within the range is read back from its full spelling. -/
theorem DiceGroup.group_spelling {group : DiceGroup}
    (readable : (Plan.roll group).Readable) (fragment : String) :
    group.spelling.group fragment = .ok group := by
  cases readable with
  | roll count sides =>
    have counted : group.spelling.readCount fragment = .ok group.count := by
      exact (if_neg (Decimal.isRun_chars count.1).nonempty).trans (readNumber_chars count fragment)
    rw [DiceSpelling.group_eq, counted]
    change (readNumber (Decimal.chars group.sides) fragment >>= _) = _
    rw [readNumber_chars sides]
    rfl

namespace Plan

variable {plan : Plan}

theorem Readable.known (readable : plan.Readable) :
    plan.lexeme.IsOperand ∨ plan.lexeme.IsOperator := by
  cases readable with
  | roll count sides =>
    have counted := Decimal.isRun_chars count.1
    exact .inl ⟨counted.digits, rfl, Decimal.isRun_chars sides.1⟩
  | literal bounds => exact .inl (Decimal.isRun_chars bounds.1)
  | operator known => exact .inr known

end Plan

namespace Lexeme

variable {limit : Limit} {started next : Int} {plan : Plan} {item : Lexeme}

/-- The numbers of a plan are those that were read. -/
theorem readable_of_plan (known : item.IsOperand ∨ item.IsOperator)
    (planned : item.plan limit started = .ok (plan, next)) : plan.Readable := by
  cases item with
  | dice spelling =>
    have wellFormed : spelling.WellFormed := known.resolve_right id
    obtain ⟨group, read, _, _, rfl, _⟩ := plan_dice_eq_ok.mp planned
    rw [DiceSpelling.group_eq] at read
    obtain ⟨count, counted, read⟩ := Except.bind_eq_ok.mp read
    obtain ⟨sides, sided, answer⟩ := Except.bind_eq_ok.mp read
    cases answer
    refine .roll ?_ (le_maxInt_of_readNumber wellFormed.sides sided)
    unfold DiceSpelling.readCount at counted
    split at counted
    · cases counted
      exact ⟨Int.one_nonneg, (by decide : (1 : Int) ≤ Decimal.maxInt)⟩
    · rename_i nonempty
      exact le_maxInt_of_readNumber ⟨nonempty, wellFormed.count⟩ counted
  | number run =>
    obtain ⟨value, read, rfl, _⟩ := plan_number_eq_ok.mp planned
    exact .literal (le_maxInt_of_readNumber (known.resolve_right id) read)
  | operator op =>
    cases planned
    exact .operator (known.resolve_left id)

/-- Where an item has a plan, the item in full has the same plan. -/
theorem plan_lexeme (known : item.IsOperand ∨ item.IsOperator)
    (planned : item.plan limit started = .ok (plan, next)) :
    plan.lexeme.plan limit started = .ok (plan, next) := by
  have readable := readable_of_plan known planned
  cases item with
  | dice spelling =>
    obtain ⟨group, _, within, checked, rfl, rfl⟩ := plan_dice_eq_ok.mp planned
    have read := group.group_spelling readable (String.ofList group.spelling.chars)
    exact plan_dice_eq_ok.mpr ⟨group, read, within, checked, rfl, rfl⟩
  | number run =>
    obtain ⟨value, _, rfl, rfl⟩ := plan_number_eq_ok.mp planned
    cases readable with
    | literal bounds => exact plan_number_eq_ok.mpr ⟨value, readNumber_chars bounds _, rfl, rfl⟩
  | operator op =>
    cases planned
    rfl

end Lexeme

/-- An item in full has no other plan than the one that it was made of. -/
theorem Plan.Readable.eq_of_plan {plan other : Plan} {limit : Limit} {started next : Int}
    (readable : plan.Readable) (planned : plan.lexeme.plan limit started = .ok (other, next)) :
    other = plan := by
  cases plan with
  | roll group =>
    obtain ⟨read, same, _, _, rfl, _⟩ := Lexeme.plan_dice_eq_ok.mp planned
    rw [group.group_spelling readable] at same
    cases same
    rfl
  | literal value =>
    obtain ⟨read, same, rfl, _⟩ := Lexeme.plan_number_eq_ok.mp planned
    cases readable with
    | literal bounds =>
      rw [readNumber_chars bounds] at same
      cases same
      rfl
  | operator op =>
    cases planned
    rfl

namespace Source

variable {σ : Type} {source : Source σ} {limit : Limit} {started : Int} {state : σ}
  {tokens : List Token} {items : List Lexeme}

/-- A token comes from the plan that it was rolled by. -/
theorem carryOut_plan (source : Source σ) (plan : Plan) :
    (source.carryOut plan).Yields (fun token => token.plan = plan) (fun _ => True) := by
  cases plan with
  | roll group =>
    exact (Rolling.yields_trivial (source.rollEvery group)).bind fun _ _ => Rolling.yields_pure rfl
  | literal value => exact Rolling.yields_pure rfl
  | operator op => exact Rolling.yields_pure rfl

/-- Where items are rolled, they are rolled in full the same way, from the same dice. -/
theorem rollItems_lexemes (known : ∀ item ∈ items, item.IsOperand ∨ item.IsOperator)
    (rolled : (source.rollItems limit started items state).1 = .ok tokens) :
    (∀ token ∈ tokens, token.plan.Readable) ∧
      source.rollItems limit started ((tokens.map Token.plan).map Plan.lexeme) =
        source.rollItems limit started items := by
  induction items generalizing started state tokens with
  | nil =>
    cases rolled
    exact ⟨nofun, rfl⟩
  | cons item items ih =>
    obtain ⟨here, later⟩ := List.forall_mem_cons.mp known
    obtain ⟨plan, next, token, after, more, planned, run, runLater, rfl⟩ :=
      exists_of_rollItems_cons rolled
    obtain ⟨readable, same⟩ := ih later runLater
    have made : token.plan = plan :=
      (source.carryOut_plan plan).good_of_ok (congrArg Prod.fst run)
    constructor
    · exact List.forall_mem_cons.mpr ⟨made ▸ Lexeme.readable_of_plan here planned, readable⟩
    · rw [List.map_cons, List.map_cons, made, rollItems_cons (Lexeme.plan_lexeme here planned),
        same, rollItems_cons planned]

/-- Items in full are the items of whatever they are rolled to. -/
theorem plan_of_rollItems {plans : List Plan} (readable : ∀ plan ∈ plans, plan.Readable)
    (rolled : (source.rollItems limit started (plans.map Plan.lexeme) state).1 = .ok tokens) :
    tokens.map Token.plan = plans := by
  induction plans generalizing started state tokens with
  | nil =>
    cases rolled
    rfl
  | cons plan plans ih =>
    obtain ⟨here, later⟩ := List.forall_mem_cons.mp readable
    obtain ⟨other, next, token, after, more, planned, run, runLater, rfl⟩ :=
      exists_of_rollItems_cons rolled
    obtain rfl := here.eq_of_plan planned
    have made := (source.carryOut_plan other).good_of_ok (congrArg Prod.fst run)
    rw [List.map_cons, made, ih later runLater]

end Source

end DiceTable
