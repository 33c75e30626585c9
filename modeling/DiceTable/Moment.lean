import DiceTable.Decimal.Binary64
import DiceTable.Decimal.Digits

/-! # Moments

A moment is a number of seconds since the start of 1970, whole or binary. Its ISO 8601 form is in
universal time, has microseconds only when there are some, and exists for the years 1 to 9999.
-/

namespace DiceTable

/-- Seconds since the start of 1970 in universal time. -/
inductive Moment where
  | whole (seconds : Int)
  | binary (seconds : Decimal.Binary64)
  deriving DecidableEq, Repr

structure CalendarDay where
  year : Int
  month : Int
  day : Int
  deriving DecidableEq, Repr

/-- The day that comes `days` days after the first of January 1970. Counting starts on the first of
March of year 0, so that the leap day is the last of its year, in eras of 400 years. -/
def CalendarDay.ofDays (days : Int) : CalendarDay :=
  let shifted := days + 719468
  let era := shifted / 146097
  let dayOfEra := shifted % 146097
  let yearOfEra := (dayOfEra - dayOfEra / 1460 + dayOfEra / 36524 - dayOfEra / 146096) / 365
  let dayOfYear := dayOfEra - (365 * yearOfEra + yearOfEra / 4 - yearOfEra / 100)
  let marchMonth := (5 * dayOfYear + 2) / 153
  let month := if marchMonth < 10 then marchMonth + 3 else marchMonth - 9
  { year := yearOfEra + era * 400 + if month ≤ 2 then 1 else 0
    month
    day := dayOfYear - (153 * marchMonth + 2) / 5 + 1 }

namespace Moment

/-- The microseconds since the start of 1970. The part of a binary number after its point is scaled
in binary arithmetic and then rounded to the nearest integer, a tie going to the even one. -/
def microseconds? : Moment → Option Int
  | .whole seconds => some (seconds * 1000000)
  | .binary seconds =>
    if !seconds.isFinite then none
    else
      let (numerator, denominator) := seconds.ratio
      let scaled := Decimal.Binary64.ofRatio false (numerator % denominator * 1000000) denominator
      let (up, down) := scaled.ratio
      let magnitude := numerator / denominator * 1000000 + Decimal.Binary64.roundQuotient up down
      some (if seconds.isNegative then -(magnitude : Int) else magnitude)

def firstSecond : Int := -62135596800

def lastSecond : Int := 253402300799

/-- A number of at least `width` digits. -/
def padded (width : Nat) (n : Int) : List Char :=
  let run := Decimal.digits n.toNat
  List.replicate (width - run.length) '0' ++ run

def iso? (moment : Moment) : Option String := do
  let total ← moment.microseconds?
  let seconds := total / 1000000
  let micro := total % 1000000
  if seconds < firstSecond ∨ lastSecond < seconds then none
  else
    let date := CalendarDay.ofDays (seconds / 86400)
    let clock := seconds % 86400
    some (String.ofList
      (padded 4 date.year ++ '-' :: padded 2 date.month ++ '-' :: padded 2 date.day ++
        'T' :: padded 2 (clock / 3600) ++ ':' :: padded 2 (clock / 60 % 60) ++
        ':' :: padded 2 (clock % 60) ++ (if micro = 0 then [] else '.' :: padded 6 micro)) ++
      "+00:00")

end Moment

end DiceTable
