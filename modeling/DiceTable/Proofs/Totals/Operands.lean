import DiceTable.Proofs.Rolling.Evaluation
import DiceTable.Proofs.Rolling.Faces

/-! # What items become

With a source that answers in range, an operator becomes itself, a number becomes a literal of the
range, and a dice group becomes chains of its own, one for each die (`Lexeme.Becomes`). Items and
tokens go side by side (`Source.AnswersInRange.rollItems_becomes`). So no operand is negative or
beyond the range, and one that is zero was written as zero.
-/

namespace DiceTable

/-- Dice come to a pip each, at least. -/
theorem DiceGroup.Rollable.one_le_chainsTotal {group : DiceGroup} {chains : List Chain}
    (rollable : group.Rollable) (each : ∀ chain ∈ chains, group.IsChain chain)
    (every : (chains.length : Int) = group.count) : 1 ≤ chainsTotal chains :=
  calc
    1 ≤ group.count := rollable.count
    _ = chains.length := every.symm
    _ ≤ chainsTotal chains := DiceGroup.count_le_chainsTotal each

/-- The tokens that an item may come to. -/
inductive Lexeme.Becomes : Lexeme → Token → Prop
  | operator {op : Operator} (known : op.IsArithmetic) : Becomes (.operator op) (.operator op)
  | number {run : List Char} {value : Int} (digits : Decimal.IsRun run)
      (read : Decimal.bounded run = .ok value) : Becomes (.number run) (.operand (.literal value))
  | dice {spelling : DiceSpelling} {group : DiceGroup} {chains : List Chain}
      (read : spelling.group (String.ofList spelling.chars) = .ok group) (rollable : group.Rollable)
      (each : ∀ chain ∈ chains, group.IsChain chain) (every : (chains.length : Int) = group.count)
      (within : chainsTotal chains ≤ Decimal.maxInt) :
      Becomes (.dice spelling) (.operand (.rolled group chains))

namespace Lexeme.Becomes

variable {item : Lexeme} {token : Token} {operand : Operand}

theorem sign?_eq (becomes : item.Becomes token) : token.sign? = item.sign? := by
  cases becomes <;> rfl

/-- Numbers are not negative, and neither are dice. -/
theorem operand_bounds (becomes : item.Becomes (.operand operand)) :
    0 ≤ operand.value ∧ operand.value ≤ Decimal.maxInt := by
  cases becomes with
  | @number run value digits read =>
    have reads : readNumber run "" = .ok value := readNumber_eq_ok.mpr read
    exact le_maxInt_of_readNumber digits reads
  | dice read rollable each every within =>
    exact ⟨Int.le_trans (by decide) (rollable.one_le_chainsTotal each every), within⟩

/-- Only a number comes to zero. -/
theorem eq_literal_zero (becomes : item.Becomes (.operand operand)) (zero : operand.value = 0) :
    operand = .literal 0 := by
  cases becomes with
  | number digits read => exact congrArg Operand.literal zero
  | dice read rollable each every within =>
    have least := rollable.one_le_chainsTotal each every
    simp only [Operand.value] at zero
    omega

/-- A literal zero is written with zeros only. -/
theorem exists_run_of_zero (becomes : item.Becomes (.operand (.literal 0))) :
    ∃ run, item = .number run ∧ Decimal.IsRun run ∧ Decimal.value run = 0 := by
  cases becomes with
  | @number run _ digits read =>
    have reads : readNumber run "" = .ok 0 := readNumber_eq_ok.mpr read
    exact ⟨run, rfl, digits, Int.natCast_eq_zero.mp (value_of_readNumber digits reads).1.symm⟩

end Lexeme.Becomes

namespace Source

variable {σ : Type} {source : Source σ} {limit : Limit} {group : DiceGroup}

/-- The dice of a group leave a chain each, within the range. -/
theorem AnswersInRange.rollEvery_chains (answers : source.AnswersInRange)
    (rollable : group.Rollable) :
    (source.rollEvery group).Yields
      (fun chains => (∀ chain ∈ chains, group.IsChain chain) ∧
        (chains.length : Int) = group.count ∧ chainsTotal chains ≤ Decimal.maxInt)
      fun _ => True := by
  intro state
  obtain ⟨requests, _, rolls⟩ := answers.observes_chains rollable.sides state []
  have counted := rollable.count
  split <;> rename_i outcome
  · obtain ⟨each, every, within, _⟩ := rolls _ outcome
    exact ⟨each, by omega, within⟩
  · trivial

theorem AnswersInRange.carryOut_becomes (answers : source.AnswersInRange) {item : Lexeme}
    (known : item.IsOperand ∨ item.IsOperator) {started next : Int} {plan : Plan}
    (planned : item.plan limit started = .ok (plan, next)) :
    (source.carryOut plan).Yields item.Becomes fun _ => True := by
  cases item with
  | dice spelling =>
    obtain ⟨group, read, _, _, rfl, _⟩ := Lexeme.plan_dice_eq_ok.mp planned
    have rollable := Lexeme.rollable_of_plan known planned
    refine (answers.rollEvery_chains rollable).bind fun chains rolled => ?_
    exact Rolling.yields_pure (.dice read rollable rolled.1 rolled.2.1 rolled.2.2)
  | number run =>
    obtain ⟨value, read, rfl, _⟩ := Lexeme.plan_number_eq_ok.mp planned
    exact Rolling.yields_pure (.number (known.resolve_right id) (readNumber_eq_ok.mp read))
  | operator op =>
    cases planned
    exact Rolling.yields_pure (.operator (known.resolve_left id))

/-- Items become tokens one by one. -/
theorem AnswersInRange.rollItems_becomes (answers : source.AnswersInRange) {items : List Lexeme}
    (known : ∀ item ∈ items, item.IsOperand ∨ item.IsOperator) (started : Int) :
    (source.rollItems limit started items).Yields (List.Forall₂ Lexeme.Becomes items)
      fun _ => True :=
  rollItems_yields (fun item member _ _ _ planned =>
    answers.carryOut_becomes (known item member) planned) started

end Source

end DiceTable
