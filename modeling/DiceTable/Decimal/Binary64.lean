/-! # Binary64 numbers

A number of the IEEE 754 format with 64 bits is held as its bits. `ofDecimal` rounds a decimal to
the nearest such number, a tie going to the even one, in exact integer arithmetic.
-/

namespace DiceTable.Decimal

/-- A number of the binary format with 64 bits. -/
structure Binary64 where
  bits : Nat
  deriving DecidableEq, Repr

namespace Binary64

def twoTo (n : Nat) : Nat :=
  Nat.pow 2 n

def isNegative (x : Binary64) : Bool :=
  x.bits / twoTo 63 % 2 == 1

/-- The eleven bits of the exponent. -/
def exponentField (x : Binary64) : Nat :=
  x.bits / twoTo 52 % twoTo 11

/-- The 52 bits after the point. -/
def fraction (x : Binary64) : Nat :=
  x.bits % twoTo 52

/-- Neither an infinity nor the absence of a number. -/
def isFinite (x : Binary64) : Bool :=
  x.exponentField != 2047

def isNaN (x : Binary64) : Bool :=
  !x.isFinite && x.fraction != 0

def isZero (x : Binary64) : Bool :=
  x.exponentField == 0 && x.fraction == 0

/-- The absolute value of a finite number is `significand * 2 ^ exponent`. -/
def significand (x : Binary64) : Nat :=
  if x.exponentField = 0 then x.fraction else x.fraction + twoTo 52

/-- The power of two that one unit of the significand stands for. -/
def exponent (x : Binary64) : Int :=
  if x.exponentField = 0 then -1074 else x.exponentField - 1075

/-- What is no number, without a sign. -/
def nan : Binary64 := ⟨0x7FF8000000000000⟩

def infinity (negative : Bool) : Binary64 :=
  ⟨(if negative then twoTo 63 else 0) + 2047 * twoTo 52⟩

/-- A power of two or of ten with an integer exponent, as numerator and denominator. -/
def powerRatio (base : Nat) (exponent : Int) : Nat × Nat :=
  if exponent < 0 then (1, Nat.pow base exponent.natAbs) else (Nat.pow base exponent.natAbs, 1)

/-- A quotient rounded to the nearest integer, a tie going to the even one. -/
def roundQuotient (numerator denominator : Nat) : Nat :=
  let quotient := numerator / denominator
  let twice := 2 * (numerator % denominator)
  if twice > denominator ∨ (twice = denominator ∧ quotient % 2 = 1) then quotient + 1
  else quotient

/-- The exponent of the highest power of `base` that is at most a positive quotient, found by
correcting a guess that is at most `fuel` away. -/
def floorLog (base numerator denominator : Nat) (guess : Int) : (fuel : Nat) → Int
  | 0 => guess
  | fuel + 1 =>
    let (up, down) := powerRatio base guess
    let (upNext, downNext) := powerRatio base (guess + 1)
    if numerator * down < denominator * up then
      floorLog base numerator denominator (guess - 1) fuel
    else if denominator * upNext ≤ numerator * downNext then
      floorLog base numerator denominator (guess + 1) fuel
    else guess

/-- The number nearest to a quotient. -/
def ofRatio (negative : Bool) (numerator denominator : Nat) : Binary64 :=
  let sign := if negative then twoTo 63 else 0
  if numerator = 0 then ⟨sign⟩
  else
    let guess : Int := (numerator.log2 : Int) - denominator.log2
    let exponent := max (floorLog 2 numerator denominator guess 2 - 52) (-1074)
    let (up, down) := powerRatio 2 exponent
    let magnitude := (exponent + 1074).toNat * twoTo 52 +
      roundQuotient (numerator * down) (denominator * up)
    if magnitude ≥ 2047 * twoTo 52 then infinity negative else ⟨sign + magnitude⟩

/-- The number nearest to `mantissa * 10 ^ exponent`, where `mantissa` has at most `digits`
digits. What is beyond every finite number, or below half the least one, needs no powers. -/
def ofDecimal (negative : Bool) (mantissa digits : Nat) (exponent : Int) : Binary64 :=
  if mantissa = 0 ∨ exponent + digits < -400 then ofRatio negative 0 1
  else if exponent > 400 then infinity negative
  else
    let (up, down) := powerRatio 10 exponent
    ofRatio negative (mantissa * up) down

/-- The absolute value of a finite number as a quotient. -/
def ratio (x : Binary64) : Nat × Nat :=
  let (up, down) := powerRatio 2 x.exponent
  (x.significand * up, down)

/-- A finite number as a quotient, with its sign in the numerator. -/
def signedRatio (x : Binary64) : Int × Nat :=
  let (numerator, denominator) := x.ratio
  (if x.isNegative then -(numerator : Int) else numerator, denominator)

/-- Whether the number is less than an integer. The absence of a number is not. -/
def isBelow (x : Binary64) (n : Int) : Bool :=
  if x.isFinite then x.signedRatio.1 < n * x.signedRatio.2 else !x.isNaN && x.isNegative

def isAbove (x : Binary64) (n : Int) : Bool :=
  if x.isFinite then n * x.signedRatio.2 < x.signedRatio.1 else !x.isNaN && !x.isNegative

/-- A number without its fraction, where an infinity counts as the power of two beyond all finite
numbers. -/
def truncated (x : Binary64) : Int :=
  x.signedRatio.1.tdiv x.signedRatio.2

end Binary64

end DiceTable.Decimal
