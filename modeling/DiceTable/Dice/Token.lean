import DiceTable.Dice.Group
import DiceTable.Dice.Lexeme
import DiceTable.Limit

/-! # Tokens of a calculation

A token is an operand or an operator. `Source.tokenize` reads the items of an expression from left
to right and rolls each dice group as it comes, so that a group past the dice limit, or an item
that cannot be read, leaves the earlier groups rolled and everything after it untouched.
-/

namespace DiceTable

inductive Operand where
  | literal (value : Int)
  | rolled (group : DiceGroup) (chains : List Chain)
  /-- A value that comes with a text of its own. -/
  | labelled (value : Int) (text : String)
  deriving DecidableEq, Repr

namespace Operand

def value : Operand → Int
  | .literal value => value
  | .rolled _ chains => chainsTotal chains
  | .labelled value _ => value

def text : Operand → String
  | .literal value => Decimal.text value
  | .rolled group chains => rolledText group chains
  | .labelled _ text => text

/-- The chains behind the value, one per die. -/
def chains : Operand → List Chain
  | .rolled _ chains => chains
  | _ => []

end Operand

inductive Token where
  | operand (item : Operand)
  | operator (op : Operator)
  deriving DecidableEq, Repr

def Token.text : Token → String
  | .operand item => item.text
  | .operator op => op.text

/-- The dice group that is written; errors point to `fragment`. A count left out is one. -/
def DiceSpelling.group (dice : DiceSpelling) (fragment : String) : Except Failure DiceGroup := do
  let count ← if dice.count = [] then .ok 1 else readNumber dice.count fragment
  let sides ← readNumber dice.sides fragment
  .ok ⟨count, sides, dice.exploding⟩

namespace Source

variable {σ : Type} (source : Source σ)

/-- The token of one item, and the number of dice started with it. Explosions do not count. -/
def rollItem (limit : Limit) (started : Int) : Lexeme → Rolling σ (Token × Int)
  | .dice dice => do
    let fragment := String.ofList dice.chars
    let group ← Rolling.ofExcept (dice.group fragment)
    let started := started + group.count
    Rolling.ofExcept
      (limit.guard started (.tooManyDice group.text limit.text fragment) group.numbers)
    let chains ← source.rollGroup group
    pure (.operand (.rolled group chains), started)
  | .number digits => do
    let value ← Rolling.ofExcept (readNumber digits (String.ofList digits))
    pure (.operand (.literal value), started)
  | .operator op => pure (.operator op, started)

/-- The tokens of the items, where `started` dice have been rolled before them. -/
def rollItems (limit : Limit) : (started : Int) → List Lexeme → Rolling σ (List Token)
  | _, [] => pure []
  | started, item :: items => do
    let (token, started) ← source.rollItem limit started item
    let tokens ← rollItems limit started items
    pure (token :: tokens)

/-- Splits an expression into tokens, rolling at most `limit` dice. -/
def tokenize (limit : Limit) (text : List Char) : Rolling σ (List Token) := do
  let (items, rest) := Lexeme.scan text
  let tokens ← source.rollItems limit 0 items
  match rest with
  | [] => pure tokens
  | c :: tail => Rolling.fail (.dice
      (.unexpected c (text.length - tail.length) (String.ofList (c :: tail))))

end Source

end DiceTable
