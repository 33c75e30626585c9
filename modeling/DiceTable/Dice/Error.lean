import DiceTable.Decimal.Bounded

/-! # What can be wrong with a roll

`DiceError` has one constructor for each cause. `DiceError.report` gives a cause its kind, its
wording and the piece of the expression it points to; nothing else in the library knows them.
-/

namespace DiceTable

/-- The four kinds under which a caller sees an error. -/
inductive ErrorKind where
  | malformedExpression
  | invalidDiceSpec
  | divisionByZero
  | arithmeticOverflow
  deriving DecidableEq, Repr

def ErrorKind.name : ErrorKind → String
  | .malformedExpression => "MalformedExpression"
  | .invalidDiceSpec => "InvalidDiceSpec"
  | .divisionByZero => "DivisionByZero"
  | .arithmeticOverflow => "ArithmeticOverflow"

/-- An error as it is shown: its kind, a sentence, and the offending piece of the expression. -/
structure ErrorReport where
  kind : ErrorKind
  message : String
  fragment : String
  deriving DecidableEq, Repr

inductive DiceError where
  /-- The expression is some other value than a text. -/
  | notText (typeName : String)
  /-- Nothing is left of the expression without its blanks. -/
  | empty
  /-- The expression has more characters than a service takes. -/
  | tooLong (limit opening : String)
  /-- A number with too many digits, of which only the opening is shown. -/
  | numberTooLong (opening fragment : String)
  /-- A number beyond the range. -/
  | numberTooLarge (written fragment : String)
  /-- A count or a number of sides below one. -/
  | countOrSides (fragment : String)
  /-- The chain of a one-sided exploding die would have no end. -/
  | oneSidedExplosion (fragment : String)
  /-- A dice group takes the roll beyond its limit. -/
  | tooManyDice (group limit fragment : String)
  /-- A skill test has more dice than the limit. -/
  | tooManyTestDice (count sides : Int) (limit fragment : String)
  /-- The faces of a group add up beyond the range. -/
  | diceTotal (group : String)
  /-- No item starts with this character; positions count from one. -/
  | unexpected (character : Char) (position : Nat) (rest : String)
  /-- There is no item at all. -/
  | noTokens (fragment : String)
  /-- Values and operators do not alternate. -/
  | notAlternating (fragment : String)
  /-- The last item is an operator. -/
  | danglingOperator (fragment : String)
  /-- An operator without a meaning. -/
  | unknownOperator (operator : String)
  /-- A step of the calculation leaves the range. -/
  | outOfRange (step : String)
  /-- A step of the calculation divides by zero. -/
  | divisionByZero (step : String)
  deriving DecidableEq, Repr

/-- The error as a caller sees it. -/
def DiceError.report : DiceError → ErrorReport
  | .notText typeName =>
    ⟨.malformedExpression, "Expression must be text, got " ++ typeName ++ ".", ""⟩
  | .empty => ⟨.malformedExpression, "Empty expression.", ""⟩
  | .tooLong limit opening =>
    ⟨.malformedExpression, "Expression longer than " ++ limit ++ " characters.", opening⟩
  | .numberTooLong opening fragment =>
    ⟨.arithmeticOverflow, "Number too large: " ++ opening ++ "...", fragment⟩
  | .numberTooLarge written fragment =>
    ⟨.arithmeticOverflow, "Number too large: " ++ written, fragment⟩
  | .countOrSides fragment =>
    ⟨.invalidDiceSpec, "Dice count and sides must be >= 1.", fragment⟩
  | .oneSidedExplosion fragment =>
    ⟨.invalidDiceSpec, "A one-sided die cannot explode.", fragment⟩
  | .tooManyDice group limit fragment =>
    ⟨.invalidDiceSpec, "Too many dice: " ++ group ++ " (limit " ++ limit ++ " per roll).", fragment⟩
  | .tooManyTestDice count sides limit fragment =>
    ⟨.invalidDiceSpec,
      "Too many dice: " ++ Decimal.text count ++ "d" ++ Decimal.text sides ++ " (limit " ++ limit ++
        ").", fragment⟩
  | .diceTotal group => ⟨.arithmeticOverflow, "Dice total overflows: " ++ group, group⟩
  | .unexpected character position rest =>
    ⟨.malformedExpression,
      "Unexpected character '" ++ String.singleton character ++ "' at position " ++
        Decimal.text position ++ ".", rest⟩
  | .noTokens fragment => ⟨.malformedExpression, "Invalid expression.", fragment⟩
  | .notAlternating fragment =>
    ⟨.malformedExpression, "Malformed arithmetic expression.", fragment⟩
  | .danglingOperator fragment =>
    ⟨.malformedExpression, "Expression ends with an operator.", fragment⟩
  | .unknownOperator operator =>
    ⟨.malformedExpression, "Unknown operator '" ++ operator ++ "'.", operator⟩
  | .outOfRange step =>
    ⟨.arithmeticOverflow, "Result out of range in '" ++ step ++ "'.", step⟩
  | .divisionByZero step => ⟨.divisionByZero, "Division by zero.", step⟩

def DiceError.kind (e : DiceError) : ErrorKind := e.report.kind

def DiceError.message (e : DiceError) : String := e.report.message

/-- The piece of the expression that the error points to. -/
def DiceError.fragment (e : DiceError) : String := e.report.fragment

/-- Why a source of random integers does not answer a request for `[low, high]`. -/
inductive SourceFault where
  /-- The range holds no integer. -/
  | emptyRange (low high : Int)
  /-- The source has run out. -/
  | exhausted (low high : Int)
  /-- An explosion chain outlasts the source's bound on chains. -/
  | endless (sides : Int)
  /-- The integers answered, or their sum, have more digits than are written. -/
  | unwritable
  deriving DecidableEq, Repr

/-- The refusal to write a number with more than `most` digits in words. -/
def unwritableMessage (most : Nat) : String :=
  "Exceeds the limit (" ++ Decimal.text most ++ " digits) for integer string conversion; " ++
    "use sys.set_int_max_str_digits() to increase the limit"

def SourceFault.message : SourceFault → String
  | .emptyRange low high => "empty range [" ++ Decimal.text low ++ ", " ++ Decimal.text high ++ "]"
  | .exhausted low high =>
    "no roll left for [" ++ Decimal.text low ++ ", " ++ Decimal.text high ++ "]"
  | .endless sides => "endless chain of a die with " ++ Decimal.text sides ++ " sides"
  | .unwritable => unwritableMessage Decimal.digitLimit

/-- How a roll can fail: by an error of the expression, by a number that is not read or not written,
by a limit that is no number, or by a fault of the source of random integers. -/
inductive Failure where
  | dice (error : DiceError)
  | unreadable (cause : Decimal.Integer.Unreadable)
  /-- A number has more than `most` digits. -/
  | unwritable (most : Nat)
  /-- A number was held against a limit of another type. -/
  | incomparable (typeName : String)
  | source (fault : SourceFault)
  deriving DecidableEq, Repr

def Failure.message : Failure → String
  | .dice error => error.message
  | .unreadable cause => cause.message
  | .unwritable most => unwritableMessage most
  | .incomparable typeName =>
    "'>' not supported between instances of 'int' and '" ++ typeName ++ "'"
  | .source fault => fault.message

/-- Passes if each number is written with at most `most` digits, where there is such a bound. -/
def writing (numbers : List Int) (most : Option Nat := some Decimal.digitLimit) :
    Except Failure Unit :=
  match most with
  | none => .ok ()
  | some most =>
    if numbers.all (Decimal.isShort most) then .ok () else .error (.unwritable most)

/-- What an error comes to whose message shows some numbers: they are written before there is an
error. -/
def Failure.naming (numbers : List Int) (error : DiceError) : Failure :=
  match writing numbers with
  | .ok () => .dice error
  | .error failure => failure

/-- The failure behind a refused number, pointing to `fragment`. -/
def Failure.ofRefusal (fragment : String) : Decimal.Refusal → Failure
  | .tooLong opening => .dice (.numberTooLong opening fragment)
  | .tooLarge written => .dice (.numberTooLarge written fragment)
  | .unreadable cause => .unreadable cause

/-- Reads a bounded number of an expression. -/
def readNumber (written : List Char) (fragment : String) : Except Failure Int :=
  (Decimal.bounded written).mapError (Failure.ofRefusal fragment)

/-- Reads a number of an expression that only matters after clamping. -/
def readClamped (written : List Char) : Except Failure Int :=
  (Decimal.clamped written).mapError .unreadable

end DiceTable
