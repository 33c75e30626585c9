import DiceTable.Dice.Expression
import DiceTable.Json.Basic

/-! # Expressions from outside

An expression may come as a value of any type; only texts are expressions.
-/

namespace DiceTable

/-- The text of an expression that comes as a value. -/
def Json.expressionText : Json → Except DiceError String
  | .str text => .ok text
  | value => .error (.notText value.typeName)

/-- Rolls an expression that comes as a value, with at most `limit` dice. -/
def Source.evaluateJson {σ : Type} (source : Source σ) (limit : Limit) (expression : Json) :
    Rolling σ RollResult := do
  let text ← Rolling.ofExcept (expression.expressionText.mapError .dice)
  source.evaluate limit text

end DiceTable
