import DiceTable.Json.Basic
import DiceTable.Render

/-! # Roll records

A record is a roll that was made for a user, under an id of its own. Records, results and errors
have a JSON form, whose members keep the order in which they are listed here.
-/

namespace DiceTable

def Outcome.members (outcome : Outcome) : Members :=
  [("raw", .int outcome.raw), ("success_level", .int outcome.successLevel),
    ("succeeded", .bool outcome.succeeded), ("critical_success", .bool outcome.criticalSuccess),
    ("critical_failure", .bool outcome.criticalFailure), ("tag", .str outcome.tag),
    ("line", .str outcome.line)]

def RollResult.members (result : RollResult) : Members :=
  [("kind", .str result.kind.name), ("canonical", .str result.canonical)] ++
    match result with
    | .arithmetic result => [("total", .int result.total), ("breakdown", .str result.breakdown)]
    | .test result =>
      [("target", .int result.target),
        ("rolls", .arr (result.outcomes.map fun outcome => .obj outcome.members))]

def ErrorReport.members (report : ErrorReport) : Members :=
  [("error", .str report.kind.name), ("message", .str report.message),
    ("fragment", .str report.fragment)]

/-- A text, or null in its absence. -/
def Json.optional : Option String → Json
  | none => .null
  | some text => .str text

structure RollRecord where
  id : String
  user : String
  result : RollResult
  rerolledFrom : Option String := none
  deriving DecidableEq, Repr

namespace RollRecord

def text (record : RollRecord) : String :=
  Render.text record.result record.user

def members (record : RollRecord) : Members :=
  [("roll_id", .str record.id), ("user", .str record.user),
    ("rerolled_from", .optional record.rerolledFrom)] ++
    record.result.members ++ [("text", .str record.text)]

end RollRecord

end DiceTable
