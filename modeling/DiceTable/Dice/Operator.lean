import DiceTable.Dice.Error

/-! # Arithmetic operators

Each step of a calculation takes two integers to a third one within the 32-bit range, or fails.
Division drops the fraction, towards zero. A step is written out in any case, which takes integers
with no more digits than are written; how many these are may be set, as may be that there is no
bound.
-/

namespace DiceTable

/-- The four operators, and any other text in the place of one, which has no meaning. -/
inductive Operator where
  | add
  | sub
  | mul
  | div
  | other (text : String)
  deriving DecidableEq, Repr

namespace Operator

def text : Operator → String
  | .add => "+"
  | .sub => "-"
  | .mul => "*"
  | .div => "/"
  | .other text => text

def ofChar? : Char → Option Operator
  | '+' => some .add
  | '-' => some .sub
  | '*' => some .mul
  | '/' => some .div
  | _ => none

def ofText (text : String) : Operator :=
  match text.toList with
  | [c] => (ofChar? c).getD (.other text)
  | _ => .other text

/-- Binds more tightly than addition and subtraction. -/
def isMultiplicative : Operator → Bool
  | .mul | .div => true
  | _ => false

/-- The step as it is quoted in an error. -/
def stepText (op : Operator) (a b : Int) : String :=
  Decimal.text a ++ " " ++ op.text ++ " " ++ Decimal.text b

def checked (step : String) (result : Int) : Except DiceError Int :=
  if result < Decimal.minInt ∨ Decimal.maxInt < result then .error (.outOfRange step)
  else .ok result

def result (op : Operator) (a b : Int) : Except DiceError Int :=
  match op with
  | .add => checked (op.stepText a b) (a + b)
  | .sub => checked (op.stepText a b) (a - b)
  | .mul => checked (op.stepText a b) (a * b)
  | .div => if b = 0 then .error (.divisionByZero (op.stepText a b))
    else checked (op.stepText a b) (a.tdiv b)
  | .other text => .error (.unknownOperator text)

/-- One step of a calculation. It is written before it is made, for an error to quote. -/
def apply (op : Operator) (a b : Int) (most : Option Nat := some Decimal.digitLimit) :
    Except Failure Int := do
  writing [a, b] most
  (op.result a b).mapError .dice

theorem ofChar?_eq_some {c : Char} {op : Operator} (found : ofChar? c = some op) :
    op.text = String.singleton c := by
  unfold ofChar? at found
  split at found <;> first | (cases found; rfl) | simp at found

end Operator

end DiceTable
