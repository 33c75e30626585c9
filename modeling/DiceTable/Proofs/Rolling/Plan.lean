import DiceTable.Proofs.Except
import DiceTable.Proofs.Grammar.Spelling
import DiceTable.Proofs.Rolling.Dice

/-! # The plan of an item

Rolling an item starts with checks that need no dice. What is left after them is a plan, which is
then carried out: a literal and an operator stand for themselves, and a group is rolled. So the
source of random integers has no say in whether an item has a plan (`Source.rollItem_eq`), and
whatever it answers, operators stay where they are (`Source.rollItems_signs`).
-/

namespace DiceTable

/-- What an item comes down to once it has passed its checks. -/
inductive Plan where
  | roll (group : DiceGroup)
  | literal (value : Int)
  | operator (op : Operator)
  deriving DecidableEq, Repr

def Lexeme.sign? : Lexeme → Option Operator
  | .operator op => some op
  | _ => none

def Token.sign? : Token → Option Operator
  | .operator op => some op
  | .operand _ => none

def DiceGroup.check (group : DiceGroup) : Except Failure Unit :=
  if group.count < 1 ∨ group.sides < 1 then .error (group.failure .countOrSides)
  else if group.exploding ∧ group.sides = 1 then .error (group.failure .oneSidedExplosion)
  else .ok ()

namespace Lexeme

/-- The plan of one item, and the number of dice started with it. -/
def plan (limit : Limit) (started : Int) : Lexeme → Except Failure (Plan × Int)
  | .dice group => do
    let fragment := String.ofList group.chars
    let group ← group.group fragment
    limit.guard (started + group.count) (.tooManyDice group.text limit.text fragment) group.numbers
    group.check
    .ok (.roll group, started + group.count)
  | .number run => do
    let value ← readNumber run (String.ofList run)
    .ok (.literal value, started)
  | .operator op => .ok (.operator op, started)

end Lexeme

namespace Source

variable {σ : Type} (source : Source σ)

def carryOut : Plan → Rolling σ Token
  | .roll group => do
    let chains ← source.rollEvery group
    pure (.operand (.rolled group chains))
  | .literal value => pure (.operand (.literal value))
  | .operator op => pure (.operator op)

theorem rollGroup_eq (group : DiceGroup) :
    source.rollGroup group =
      Rolling.ofExcept group.check >>= fun _ => source.rollEvery group := by
  unfold rollGroup DiceGroup.check
  split
  · rfl
  · split <;> rfl

/-- An item is planned and then carried out. -/
theorem rollItem_eq (limit : Limit) (started : Int) (item : Lexeme) :
    source.rollItem limit started item =
      Rolling.ofExcept (item.plan limit started) >>= fun planned =>
        source.carryOut planned.1 >>= fun token => pure (token, planned.2) := by
  cases item with
  | dice spelling =>
    simp only [rollItem, Lexeme.plan, rollGroup_eq, carryOut, Rolling.ofExcept_bind,
      Rolling.ofExcept_ok, bind_assoc, pure_bind]
  | number run =>
    simp only [rollItem, Lexeme.plan, carryOut, Rolling.ofExcept_bind, Rolling.ofExcept_ok,
      bind_assoc, pure_bind]
  | operator op => rfl

theorem rollItem_sign (limit : Limit) (started : Int) (item : Lexeme) :
    (source.rollItem limit started item).Yields (fun rolled => rolled.1.sign? = item.sign?)
      (fun _ => True) := by
  have ignored {α : Type} (x : Rolling σ α) : x.Yields (fun _ => True) (fun _ => True) := by
    intro state
    split <;> trivial
  cases item with
  | dice spelling =>
    refine (ignored _).bind fun group _ => (ignored _).bind fun _ _ => ?_
    exact (ignored _).bind fun chains _ => Rolling.yields_pure rfl
  | number run => exact (ignored _).bind fun value _ => Rolling.yields_pure rfl
  | operator op => exact Rolling.yields_pure rfl

/-- Operators become operators, and the other items operands. -/
theorem rollItems_signs (limit : Limit) (started : Int) (items : List Lexeme) :
    (source.rollItems limit started items).Yields
      (fun tokens => tokens.map Token.sign? = items.map Lexeme.sign?) (fun _ => True) := by
  induction items generalizing started with
  | nil => exact Rolling.yields_pure rfl
  | cons item items ih =>
    refine (source.rollItem_sign limit started item).bind fun rolled here => ?_
    refine (ih rolled.2).bind fun tokens later => Rolling.yields_pure ?_
    rw [List.map_cons, List.map_cons, here, later]

end Source

end DiceTable
