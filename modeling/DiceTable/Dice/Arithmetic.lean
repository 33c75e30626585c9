import DiceTable.Dice.Token

/-! # Calculating over tokens

Operands and operators have to alternate. Multiplicative steps are folded into the pending term as
they come, additive operators are put off until all terms are complete; so of two failing steps
the multiplicative one is reported, whichever comes first in the text.
-/

namespace DiceTable

/-- The operators of a calculation, each with the operand to its right. -/
abbrev Steps := List (Operator × Operand)

/-- Pairs up what follows the first operand. -/
def Steps.ofTokens (canonical : String) : List Token → Except DiceError Steps
  | [] => .ok []
  | [.operator _] => .error (.danglingOperator canonical)
  | .operator op :: .operand right :: rest => do
    let steps ← Steps.ofTokens canonical rest
    .ok ((op, right) :: steps)
  | _ => .error (.notAlternating canonical)

/-- A calculation: its first operand and the steps after it. -/
structure Calculation where
  first : Operand
  steps : Steps
  deriving DecidableEq, Repr

namespace Calculation

def ofTokens (canonical : String) : List Token → Except DiceError Calculation
  | [] => .error (.noTokens canonical)
  | .operator _ :: _ => .error (.notAlternating canonical)
  | .operand first :: rest => do
    let steps ← Steps.ofTokens canonical rest
    .ok ⟨first, steps⟩

end Calculation

/-- A complete term and the operator that joins it to the terms before it. -/
abbrev SignedTerm := Operator × Int

/-- Folds multiplicative steps into the pending term; any other operator completes the term. The
first complete term comes on its own, each later one with the operator in front of it. -/
def completeTerms (pending : Int) (steps : List (Operator × Int))
    (most : Option Nat := some Decimal.digitLimit) : Except Failure (Int × List SignedTerm) :=
  match steps with
  | [] => .ok (pending, [])
  | (op, value) :: rest =>
    if op.isMultiplicative then do
      let pending ← op.apply pending value most
      completeTerms pending rest most
    else do
      let (next, terms) ← completeTerms value rest most
      .ok (pending, (op, next) :: terms)

/-- Joins complete terms to a total, from left to right. -/
def joinTerms (total : Int) (terms : List SignedTerm)
    (most : Option Nat := some Decimal.digitLimit) : Except Failure Int :=
  match terms with
  | [] => .ok total
  | (op, value) :: rest => do
    let total ← op.apply total value most
    joinTerms total rest most

def calculate (first : Int) (steps : List (Operator × Int))
    (most : Option Nat := some Decimal.digitLimit) : Except Failure Int := do
  let (first, terms) ← completeTerms first steps most
  joinTerms first terms most

structure ArithmeticResult where
  canonical : String
  total : Int
  breakdown : String
  tokens : List Token := []
  deriving DecidableEq, Repr

/-- The tokens side by side: every operand with its dice, every operator. -/
def breakdown (tokens : List Token) : String :=
  " ".intercalate (tokens.map Token.text)

/-- Calculates the total of a list of tokens, writing integers with at most `most` digits. -/
def calculateTokens (tokens : List Token) (canonical : String)
    (most : Option Nat := some Decimal.digitLimit) : Except Failure ArithmeticResult := do
  let calculation ← (Calculation.ofTokens canonical tokens).mapError .dice
  let total ← calculate calculation.first.value
    (calculation.steps.map fun step => (step.1, step.2.value)) most
  .ok { canonical, total, breakdown := breakdown tokens, tokens }

end DiceTable
