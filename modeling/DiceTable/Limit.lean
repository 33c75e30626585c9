import DiceTable.Dice.Error
import DiceTable.Json.Display

/-! # Limits

A limit is set by a value of any type. Numbers of either kind limit, and truth values do as one and
zero. A number cannot be held against any other value, which shows only where it is tried. Messages
show a limit as it was set.
-/

namespace DiceTable

/-- An upper limit, by the value that sets it. -/
structure Limit where
  setting : Json
  deriving Repr

namespace Limit

def ofInt (n : Int) : Limit := ⟨.int n⟩

instance : Coe Int Limit := ⟨ofInt⟩

instance (n : Nat) : OfNat Limit n := ⟨ofInt n⟩

def text (limit : Limit) : String :=
  limit.setting.display

/-- Whether a number is over the limit, if it can be held against it. -/
def exceededBy? (limit : Limit) (n : Int) : Option Bool :=
  match limit.setting with
  | .int bound => some (bound < n)
  | .bool bound => some ((if bound then 1 else 0) < n)
  | .float bound => some (bound.isBelow n)
  | _ => none

def numbers (limit : Limit) : List Int :=
  match limit.setting with
  | .int bound => [bound]
  | _ => []

/-- What an error comes to that shows the limit, next to other numbers. -/
def refusal (limit : Limit) (error : DiceError) (others : List Int := []) : Failure :=
  .naming (others ++ limit.numbers) error

/-- Lets a number pass that is not over the limit; what is over it has the given error, which shows
the limit next to other numbers. -/
def guard (limit : Limit) (n : Int) (error : DiceError) (others : List Int := []) :
    Except Failure Unit :=
  match limit.exceededBy? n with
  | none => .error (.incomparable limit.setting.typeName)
  | some true => .error (limit.refusal error others)
  | some false => .ok ()

/-- The limit, or one where the limit is less, if it can be held against one. -/
def atLeastOne? (limit : Limit) : Option Limit :=
  match limit.setting with
  | .int bound => some (if 1 < bound then limit else 1)
  | .bool _ => some 1
  | .float bound => some (if bound.isAbove 1 then limit else 1)
  | _ => none

/-- The limit without its fraction, if it is a number. An infinity stands for the power of two
beyond all finite numbers. -/
def whole? (limit : Limit) : Option Int :=
  match limit.setting with
  | .int bound => some bound
  | .bool bound => some (if bound then 1 else 0)
  | .float bound => some bound.truncated
  | _ => none

theorem guard_ofInt (bound n : Int) (error : DiceError) :
    (ofInt bound).guard n error =
      if bound < n then .error ((ofInt bound).refusal error) else .ok () := by
  by_cases exceeded : bound < n <;> simp [guard, exceededBy?, ofInt, exceeded]

end Limit

end DiceTable
