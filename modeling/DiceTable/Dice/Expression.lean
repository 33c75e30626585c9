import DiceTable.Dice.Arithmetic
import DiceTable.Dice.SkillTest
import DiceTable.Text.Blank

/-! # Dice expressions

An expression is compacted, which gives its canonical text, and is then a skill test if the text
spells one, and arithmetic otherwise. `Source.evaluate` rolls either kind.
-/

namespace DiceTable

inductive RollResult where
  | arithmetic (result : ArithmeticResult)
  | test (result : TestResult)
  deriving DecidableEq, Repr

inductive RollKind where
  | arithmetic
  | tabletop
  deriving DecidableEq, Repr

def RollKind.name : RollKind → String
  | .arithmetic => "arithmetic"
  | .tabletop => "tabletop"

namespace RollResult

def kind : RollResult → RollKind
  | .arithmetic _ => .arithmetic
  | .test _ => .tabletop

/-- The compacted text of the expression that was rolled. -/
def canonical : RollResult → String
  | .arithmetic result => result.canonical
  | .test result => result.canonical

end RollResult

/-- An expression whose kind is known. -/
inductive Expression where
  | arithmetic (canonical : String)
  | test (test : SkillTest)
  deriving DecidableEq, Repr

namespace Expression

/-- An expression without its blanks, of which something has to be left. -/
def compact (text : String) : Except DiceError String :=
  match Text.compact text.toList with
  | [] => .error .empty
  | c :: rest => .ok (String.ofList (c :: rest))

def classify (text : String) : Except Failure Expression := do
  let canonical ← (compact text).mapError .dice
  match TestSpelling.read? canonical.toList with
  | none => .ok (.arithmetic canonical)
  | some spelling => do
    let test ← spelling.test canonical
    .ok (.test test)

end Expression

namespace Source

variable {σ : Type} (source : Source σ)

def roll (limit : Limit) : Expression → Rolling σ RollResult
  | .test test => do
    let result ← source.runTest limit test
    pure (.test result)
  | .arithmetic canonical => do
    let tokens ← source.tokenize limit canonical.toList
    let result ← Rolling.ofExcept (calculateTokens tokens canonical)
    pure (.arithmetic result)

/-- Rolls a written expression, with at most `limit` dice. -/
def evaluate (limit : Limit) (text : String) : Rolling σ RollResult := do
  let expression ← Rolling.ofExcept (Expression.classify text)
  source.roll limit expression

end Source

/-- The dice that one expression may roll where nothing else is laid down. -/
def defaultDiceLimit : Limit := 1000

end DiceTable
