import DiceTable.Decimal.Binary64
import DiceTable.Decimal.Digits

/-! # The shortest decimal of a binary number

Of all decimals that read back as a number, `shortest` gives the one with the fewest digits, and of
those the nearest. `floatText` writes it: positional where the point stands at most sixteen digits
to the right of the first digit and at most three zeros in front of it, scientific elsewhere.
-/

namespace DiceTable.Decimal

namespace Binary64

/-- Whether a quotient lies among the reals that round to a finite nonzero number. All of them are
scaled to quarters of the number's unit. -/
def roundsTo (x : Binary64) (numerator denominator : Nat) : Bool :=
  let (up, down) := powerRatio 2 (x.exponent - 2)
  let low := if x.fraction = 0 ∧ x.exponentField > 1 then 4 * x.significand - 1
    else 4 * x.significand - 2
  let high := 4 * x.significand + 2
  let scaled := numerator * down
  let unit := denominator * up
  if x.significand % 2 = 0 then low * unit ≤ scaled && scaled ≤ high * unit
  else low * unit < scaled && scaled < high * unit

/-- The neighbour of `x` with the given power of ten as its unit that rounds to `x`, if any. -/
def onGrid? (x : Binary64) (unitExponent : Int) : Option Nat :=
  let (numerator, denominator) := x.ratio
  let (up, down) := powerRatio 10 unitExponent
  let scaled := numerator * down
  let unit := denominator * up
  let lower := scaled / unit
  let fits (n : Nat) : Bool := x.roundsTo (n * up) down
  let nearer := roundQuotient scaled unit
  if fits nearer then some nearer
  else if fits lower then some lower
  else if fits (lower + 1) then some (lower + 1)
  else none

/-- Tries grids of one digit more each, with `fuel` grids left. -/
def shortestFrom (x : Binary64) (unitExponent : Int) : (fuel : Nat) → Nat × Int
  | 0 => (x.significand, x.exponent)
  | fuel + 1 =>
    match x.onGrid? unitExponent with
    | some n => (n, unitExponent)
    | none => shortestFrom x (unitExponent - 1) fuel

/-- The shortest decimal `n * 10 ^ e` of a finite nonzero number, as `n` and `e`. -/
def shortest (x : Binary64) : Nat × Int :=
  let (numerator, denominator) := x.ratio
  let guess : Int := ((numerator.log2 : Int) - denominator.log2) * 30103 / 100000
  shortestFrom x (floorLog 10 numerator denominator guess 3) 17

end Binary64

def dropTrailingZeros (run : List Char) : List Char :=
  (run.reverse.dropWhile (· == '0')).reverse

/-- An exponent has a sign and at least two digits. -/
def exponentChars (e : Int) : List Char :=
  let run := digits e.natAbs
  (if e < 0 then '-' else '+') :: (if run.length < 2 then '0' :: run else run)

/-- Writes the decimal with the digits `run` whose point stands after `point` of them. -/
def pointedChars (run : List Char) (point : Int) : List Char :=
  if -3 ≤ point ∧ point ≤ 16 then
    if point ≤ 0 then '0' :: '.' :: List.replicate point.natAbs '0' ++ run
    else if run.length ≤ point.toNat then
      run ++ List.replicate (point.toNat - run.length) '0' ++ ['.', '0']
    else run.take point.toNat ++ '.' :: run.drop point.toNat
  else
    run.take 1 ++ (if run.length > 1 then '.' :: run.drop 1 else []) ++
      'e' :: exponentChars (point - 1)

def floatText (x : Binary64) : String :=
  if x.isNaN then "nan"
  else
    let sign := if x.isNegative then "-" else ""
    if !x.isFinite then sign ++ "inf"
    else if x.isZero then sign ++ "0.0"
    else
      let (n, e) := x.shortest
      let run := digits n
      sign ++ String.ofList (pointedChars (dropTrailingZeros run) (run.length + e))

end DiceTable.Decimal
