import DiceTable.Dice.Expression
import DiceTable.Text.Lines

/-! # Showing results

A result is shown as a title, two named fields and its expression: as a block of plain text, or as
an embed for chat services. An error is shown as a warning.
-/

namespace DiceTable

/-- One named piece of a shown result; inline fields stand beside one another. -/
structure Field where
  name : String
  value : String
  inline : Bool
  deriving DecidableEq, Repr

/-- A result in the form that chat services show. -/
structure Embed where
  title : String
  colour : Nat
  fields : List Field
  footer : String
  timestamp : String
  deriving DecidableEq, Repr

namespace Render

def embedColour : Nat := 0x5865F2

/-- Names the user, if there is one. -/
def title (user : String) : String :=
  if user = "" then "🎲 Roll" else "🎲 Roll by " ++ user

def footer (result : RollResult) : String :=
  "Expr: " ++ result.canonical

/-- The fields of a result: the target and the dice of a test, the total and the breakdown of a
calculation. A breakdown of blanks only is shown as a dash. -/
def fields : RollResult → List Field
  | .test result =>
    [⟨"Target", Decimal.text result.target, true⟩,
      ⟨"Rolls", "\n".intercalate (result.outcomes.map Outcome.line), false⟩]
  | .arithmetic result =>
    [⟨"Total", Decimal.text result.total, true⟩,
      ⟨"Details", if Text.isBlankText result.breakdown then "-" else result.breakdown, false⟩]

/-- The lines of a field: one, or a heading and the indented lines of its value. -/
def fieldLines (field : Field) : List String :=
  if field.inline || !field.value.toList.contains '\n' then [field.name ++ ": " ++ field.value]
  else
    (field.name ++ ":") ::
      (Text.lines field.value.toList).map fun line => "  " ++ String.ofList line

def text (result : RollResult) (user : String) : String :=
  "\n".intercalate (title user :: (fields result).flatMap fieldLines ++ [footer result])

/-- A result as an embed, with the time at which it is shown. -/
def embed (result : RollResult) (user : String) (now : String) : Embed where
  title := title user
  colour := embedColour
  fields := fields result
  footer := footer result
  timestamp := now

def error (report : ErrorReport) : String :=
  ":warning: Invalid dice expression.\n`" ++ report.message ++ "`"

end Render

end DiceTable
