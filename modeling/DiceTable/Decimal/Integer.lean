import DiceTable.Decimal.Digits
import DiceTable.Text.Blank
import DiceTable.Text.DecimalDigit
import DiceTable.Text.Quoted

/-! # Integers as people write them

`Integer.read` takes an integer with a sign, with blanks around it, with single underscores between
digits and with digits of any script. Anything else is refused. `read_of_isDigit` says what it makes
of a plain run of digits.
-/

namespace DiceTable.Decimal.Integer

inductive Unreadable where
  | notInteger (written : List Char)
  | tooManyDigits (count : Nat)
  deriving DecidableEq, Repr

/-- The longest quoted text that the refusal of a text shows. -/
def shownCharacters : Nat := 200

/-- The four information separators are blank and yet do not surround integers. -/
def isMargin (c : Char) : Bool :=
  Text.isBlank c && !(0x1C ≤ c.toNat && c.toNat ≤ 0x1F)

/-- A digit of any script, or an underscore. -/
def isRunChar (c : Char) : Bool :=
  c == '_' || (Text.decimalDigit? c).isSome

/-- Whether each underscore of a run stands between two digits; `afterDigit` tells what is in front
of the run. -/
def wellSpaced (afterDigit : Bool) : List Char → Bool
  | [] => afterDigit
  | c :: rest => if c == '_' then afterDigit && wellSpaced false rest else wellSpaced true rest

/-- The sign at the front of a text, true for a minus, and what follows. -/
def takeSign : List Char → Bool × List Char
  | '-' :: rest => (true, rest)
  | '+' :: rest => (false, rest)
  | rest => (false, rest)

def read (written : List Char) : Except Unreadable Int :=
  let (negative, body) := takeSign (written.dropWhile isMargin)
  let run := body.takeWhile isRunChar
  let digits := run.filterMap Text.decimalDigit?
  if !wellSpaced false run then .error (.notInteger written)
  else if digits.length > digitLimit then .error (.tooManyDigits digits.length)
  else if !(body.dropWhile isRunChar).all isMargin then .error (.notInteger written)
  else
    let magnitude : Nat := digits.foldl (fun n digit => 10 * n + digit) 0
    .ok (if negative then -(magnitude : Int) else magnitude)

def Unreadable.message : Unreadable → String
  | .notInteger written =>
    "invalid literal for int() with base 10: " ++
      String.ofList ((Text.quoted (.ofChars written)).take shownCharacters)
  | .tooManyDigits count => digitLimitMessage count

theorem wellSpaced_of_isDigit {run : List Char} (digits : ∀ c ∈ run, c.isDigit) (afterDigit : Bool)
    (nonempty : run = [] → afterDigit) : wellSpaced afterDigit run := by
  induction run generalizing afterDigit with
  | nil => simpa [wellSpaced] using nonempty
  | cons c rest ih =>
    have digit := digits c List.mem_cons_self
    have plain : (c == '_') = false := by
      rw [beq_eq_false_iff_ne]
      rintro rfl
      revert digit
      decide
    simp only [wellSpaced, plain, Bool.false_eq_true, if_false]
    exact ih (fun d mem => digits d (List.mem_cons_of_mem _ mem)) true fun _ => rfl

theorem isMargin_of_isDigit {c : Char} (digit : c.isDigit) : isMargin c = false := by
  have bounds := Text.toNat_of_isDigit digit
  simp only [isMargin, Text.isBlank, Bool.and_eq_false_iff]
  left
  simp only [Bool.or_eq_false_iff, Bool.and_eq_false_iff, decide_eq_false_iff_not,
    beq_eq_false_iff_ne]
  omega

theorem takeSign_of_isDigit {c : Char} (digit : c.isDigit) (rest : List Char) :
    takeSign (c :: rest) = (false, c :: rest) := by
  unfold takeSign
  split
  · rename_i same
    cases same
    exact absurd digit (by decide)
  · rename_i same
    cases same
    exact absurd digit (by decide)
  · rfl

theorem isRunChar_of_isDigit {c : Char} (digit : c.isDigit) : isRunChar c := by
  simp [isRunChar, Text.decimalDigit?_of_isDigit digit]

theorem filterMap_decimalDigit? {run : List Char} (digits : ∀ c ∈ run, c.isDigit) :
    run.filterMap Text.decimalDigit? = run.map fun c => c.toNat - '0'.toNat := by
  induction run with
  | nil => rfl
  | cons c rest ih =>
    rw [List.filterMap_cons_some (Text.decimalDigit?_of_isDigit (digits c List.mem_cons_self)),
      List.map_cons, ih fun d mem => digits d (List.mem_cons_of_mem _ mem)]

/-- A run of digits is read as its value, if it is not too long. -/
theorem read_of_isDigit {run : List Char} (nonempty : run ≠ []) (digits : ∀ c ∈ run, c.isDigit) :
    read run =
      if run.length > digitLimit then .error (.tooManyDigits run.length) else .ok (value run) := by
  have taken : run.takeWhile isRunChar = run := by
    simpa using @List.takeWhile_append_of_pos _ isRunChar run []
      fun c mem => isRunChar_of_isDigit (digits c mem)
  have dropped : run.dropWhile isRunChar = [] := by
    simpa using @List.dropWhile_append_of_pos _ isRunChar run []
      fun c mem => isRunChar_of_isDigit (digits c mem)
  have spaced : wellSpaced false run :=
    wellSpaced_of_isDigit digits false fun empty => absurd empty nonempty
  obtain ⟨c, rest, rfl⟩ := List.exists_cons_of_ne_nil nonempty
  have digit := digits c List.mem_cons_self
  have unmargined : (c :: rest).dropWhile isMargin = c :: rest :=
    List.dropWhile_cons_of_neg (by simp [isMargin_of_isDigit digit])
  simp only [read, unmargined, takeSign_of_isDigit digit, taken, dropped, spaced,
    filterMap_decimalDigit? digits, List.length_map, List.foldl_map, Bool.not_true,
    Bool.false_eq_true, List.all_nil, if_false]
  split <;> rfl

end DiceTable.Decimal.Integer
