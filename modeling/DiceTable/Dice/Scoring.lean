import DiceTable.Decimal.Digits

/-! # Scoring a percentile die

A die succeeds when it shows at most the target. Its success level is the distance of the tens of
target and face. On a hundred-sided die the lowest five faces always succeed critically and the
highest five always fail critically; otherwise doubles make an outcome critical.
-/

namespace DiceTable

structure Outcome where
  raw : Int
  successLevel : Int
  succeeded : Bool
  criticalSuccess : Bool := false
  criticalFailure : Bool := false
  deriving DecidableEq, Repr

/-- Two equal decimal digits: 11, 22, up to 99. -/
def isDoubles (raw : Int) : Bool :=
  11 ≤ raw && raw ≤ 99 && raw / 10 == raw % 10

/-- The sides of the die on which the extreme faces are critical in themselves. -/
def percentileSides : Int := 100

/-- A face that always succeeds critically. -/
def isAutoSuccess (raw sides : Int) : Bool :=
  sides == percentileSides && 1 ≤ raw && raw ≤ 5

/-- A face that always fails critically. -/
def isAutoFailure (raw sides : Int) : Bool :=
  sides == percentileSides && 96 ≤ raw && raw ≤ 100

/-- The success level of a face: the distance of the tens, never positive where the face is above
the target. Division is toward the floor. -/
def successLevel (raw target : Int) : Int :=
  let level := target / 10 - raw / 10
  if raw ≤ target then level else -level.natAbs

namespace Outcome

def score (raw target sides : Int) : Outcome :=
  let autoSuccess := isAutoSuccess raw sides
  let autoFailure := isAutoFailure raw sides
  let succeeded := autoSuccess || (!autoFailure && decide (raw ≤ target))
  let doubles := !autoSuccess && !autoFailure && isDoubles raw
  { raw
    successLevel := DiceTable.successLevel raw target
    succeeded
    criticalSuccess := autoSuccess || (doubles && succeeded)
    criticalFailure := autoFailure || (doubles && !succeeded) }

def tag (outcome : Outcome) : String :=
  if outcome.succeeded then
    if outcome.criticalSuccess then "CRIT SUCCESS" else "Success"
  else if outcome.criticalFailure then "CRIT FAIL" else "Fail"

/-- The success level with its sign, zero counting as positive. -/
def signedLevel (outcome : Outcome) : String :=
  if outcome.successLevel ≥ 0 then "+" ++ Decimal.text outcome.successLevel
  else Decimal.text outcome.successLevel

def line (outcome : Outcome) : String :=
  Decimal.text outcome.raw ++ " → SL " ++ outcome.signedLevel ++ " (" ++ outcome.tag ++ ")"

end Outcome

end DiceTable
