import DiceTable.Decimal.Integer

/-! # Numbers of dice expressions

Dice expressions hold runs of decimal digits, some after a sign. `bounded` reads a number exactly or
refuses it; `clamped` lets one power of ten stand for all longer numbers. Both take any text, and
refuse one that is no integer: `bounded_of_isDigit` and `clamped_of_isDigit` say what they come to
where a text is nothing but digits, of which `clamped` refuses none.
-/

namespace DiceTable.Decimal

/-- As many digits as `maxInt` has: a number with more significant digits is larger. -/
def boundedDigits : Nat := 10

/-- Significant digits from which on a clamped number saturates. -/
def saturationDigits : Nat := 4000

inductive Refusal where
  /-- Too many significant digits; only the opening of the number is shown. -/
  | tooLong (opening : String)
  /-- As many digits as the largest number or fewer, and yet larger. -/
  | tooLarge (written : String)
  /-- A text that is no integer, or one with more digits, leading zeros counted, than are read. -/
  | unreadable (cause : Integer.Unreadable)
  deriving DecidableEq, Repr

/-- Reads a number whose absolute value is at most `maxInt`. -/
def bounded (written : List Char) : Except Refusal Int :=
  if (significant written).length > boundedDigits then
    .error (.tooLong (String.ofList (written.take 16)))
  else
    match Integer.read written with
    | .error cause => .error (.unreadable cause)
    | .ok n => if n.natAbs > maxInt then .error (.tooLarge (String.ofList written)) else .ok n

/-- The absolute value of a number that only matters after clamping, by its significant part: a
power of ten stands for a number with more than `saturationDigits` digits. -/
def clampedMagnitude (significantPart : List Char) : Except Integer.Unreadable Int :=
  if significantPart.length > saturationDigits then .ok (Nat.pow 10 saturationDigits : Nat)
  else if significantPart = [] then .ok 0
  else Integer.read significantPart

/-- Reads a number that only matters after clamping. -/
def clamped (written : List Char) : Except Integer.Unreadable Int :=
  (clampedMagnitude (significant written)).map fun magnitude =>
    if isNegative written then -magnitude else magnitude

theorem not_isSign_of_isDigit {c : Char} (digit : c.isDigit) : isSign c = false := by
  simp only [isSign, Bool.or_eq_false_iff, beq_eq_false_iff_ne]
  constructor <;> rintro rfl <;> exact absurd digit (by decide)

theorem unsigned_of_isDigit {run : List Char} (digits : ∀ c ∈ run, c.isDigit) :
    unsigned run = run := by
  cases run with
  | nil => rfl
  | cons c rest =>
    exact List.dropWhile_cons_of_neg
      (by simp [not_isSign_of_isDigit (digits c List.mem_cons_self)])

theorem isDigit_of_mem_unsigned {run : List Char} (digits : ∀ c ∈ run, c.isDigit) :
    ∀ c ∈ unsigned run, c.isDigit :=
  fun c mem => digits c ((List.dropWhile_sublist _).mem mem)

theorem isNegative_of_isDigit {run : List Char} (digits : ∀ c ∈ run, c.isDigit) :
    isNegative run = false := by
  cases run with
  | nil => rfl
  | cons c rest =>
    rw [isNegative, List.head?_cons, beq_eq_false_iff_ne]
    rintro ⟨⟩
    exact absurd (digits '-' List.mem_cons_self) (by decide)

theorem isDigit_of_mem_significant {run : List Char} (digits : ∀ c ∈ unsigned run, c.isDigit) :
    ∀ c ∈ significant run, c.isDigit :=
  fun c mem => digits c ((List.dropWhile_sublist _).mem mem)

/-- What a run of digits is read as. -/
theorem bounded_of_isDigit {run : List Char} (nonempty : run ≠ []) (digits : ∀ c ∈ run, c.isDigit) :
    bounded run =
      if (significant run).length > boundedDigits then
        .error (.tooLong (String.ofList (run.take 16)))
      else if run.length > digitLimit then .error (.unreadable (.tooManyDigits run.length))
      else if (value run : Int) > maxInt then .error (.tooLarge (String.ofList run))
      else .ok (value run) := by
  unfold bounded
  rw [Integer.read_of_isDigit nonempty digits]
  by_cases long : run.length > digitLimit <;> simp [long]

/-- Digits after a sign or none are read as their significant part, and none are refused. -/
theorem clamped_of_isDigit {written : List Char} (digits : ∀ c ∈ unsigned written, c.isDigit) :
    clamped written = .ok
      (let magnitude : Nat := if (significant written).length > saturationDigits
        then Nat.pow 10 saturationDigits else value (significant written)
      if isNegative written then -(magnitude : Int) else magnitude) := by
  have readable : clampedMagnitude (significant written) = .ok
      ((if (significant written).length > saturationDigits
        then Nat.pow 10 saturationDigits else value (significant written) : Nat) : Int) := by
    unfold clampedMagnitude
    split
    · rfl
    · rename_i short
      split
      · rename_i empty
        rw [empty]
        rfl
      · rename_i nonempty
        rw [Integer.read_of_isDigit nonempty (isDigit_of_mem_significant digits), if_neg]
        simp only [saturationDigits, digitLimit] at short ⊢
        omega
  rw [clamped, readable]
  rfl

end DiceTable.Decimal
