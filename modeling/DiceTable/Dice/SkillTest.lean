import DiceTable.Dice.Scoring
import DiceTable.Dice.Token

/-! # Percentile skill tests

A test is written `[N]dS[!!]wT[+M]` or `[N]dS[!!]wT[-M]`, and `wT` for a single hundred-sided die.
`TestSpelling.read?` reads the written parts off a text and takes the whole of it or nothing.
Target and modifier are clamped, so runs of digits of any length are good. The dice of a test never
explode; the mark is read and kept.
-/

namespace DiceTable

structure TestSpelling where
  dice : Option DiceSpelling
  mark : Char
  target : List Char
  /-- The modifier with its sign, or nothing. -/
  modifier : List Char
  deriving DecidableEq, Repr

structure SkillTest where
  canonical : String
  count : Int
  sides : Int
  baseTarget : Int
  modifier : Int := 0
  exploding : Bool := false
  deriving DecidableEq, Repr

/-- The outcome of a skill test: one scored die after the other. -/
structure TestResult where
  canonical : String
  target : Int
  outcomes : List Outcome
  deriving DecidableEq, Repr

namespace TestSpelling

def isTargetMark (c : Char) : Bool :=
  c == 'w' || c == 'W'

def chars (test : TestSpelling) : List Char :=
  (match test.dice with
    | none => []
    | some dice => dice.chars) ++ test.mark :: test.target ++ test.modifier

/-- A modifier is left out, or is a sign and digits. -/
def isModifier : List Char → Bool
  | [] => true
  | sign :: digits => Decimal.isSign sign && digits ≠ [] && digits.all Char.isDigit

/-- The part of a test from the target mark on. -/
def targetPart? (dice : Option DiceSpelling) : List Char → Option TestSpelling
  | [] => none
  | mark :: tail =>
    let target := tail.takeWhile Char.isDigit
    let modifier := tail.dropWhile Char.isDigit
    if isTargetMark mark ∧ target ≠ [] ∧ isModifier modifier then
      some ⟨dice, mark, target, modifier⟩
    else none

def read? (text : List Char) : Option TestSpelling :=
  match Lexeme.dice? text with
  | some (dice, rest) => targetPart? (some dice) rest
  | none => targetPart? none text

theorem targetPart?_chars {dice : Option DiceSpelling} {text : List Char} {test : TestSpelling}
    (found : targetPart? dice text = some test) :
    test.mark :: test.target ++ test.modifier = text ∧ test.dice = dice := by
  cases text with
  | nil => simp [targetPart?] at found
  | cons mark tail =>
    simp only [targetPart?] at found
    split at found
    · cases found
      simp [List.takeWhile_append_dropWhile]
    · simp at found

/-- A test that is read spells the text. -/
theorem read?_chars {text : List Char} {test : TestSpelling} (found : read? text = some test) :
    test.chars = text := by
  unfold read? at found
  split at found
  · rename_i dice rest split_text
    obtain ⟨spelled, same⟩ := targetPart?_chars found
    simp only [chars, same, List.append_assoc]
    rw [← Lexeme.dice?_chars split_text, ← spelled]
  · obtain ⟨spelled, same⟩ := targetPart?_chars found
    simp [chars, same, ← spelled]

/-- What is rolled for a test: the group that is written, or one hundred-sided die. -/
def group (spelling : TestSpelling) (canonical : String) : Except Failure DiceGroup :=
  match spelling.dice with
  | none => .ok ⟨1, percentileSides, false⟩
  | some dice => dice.group canonical

/-- The test that is written, if its count and its sides are numbers of at least one. -/
def test (spelling : TestSpelling) (canonical : String) : Except Failure SkillTest := do
  let group ← spelling.group canonical
  if group.count < 1 ∨ group.sides < 1 then .error (.dice (.countOrSides canonical))
  else do
    let baseTarget ← readClamped spelling.target
    let modifier ← readClamped spelling.modifier
    .ok { canonical
          count := group.count
          sides := group.sides
          baseTarget
          modifier
          exploding := group.exploding }

end TestSpelling

namespace SkillTest

/-- The target after the modifier, kept within 1 to 100. -/
def target (test : SkillTest) : Int :=
  max 1 (min 100 (test.baseTarget + test.modifier))

end SkillTest

namespace Source

variable {σ : Type} (source : Source σ)

def scoreDice (target sides : Int) : Nat → Rolling σ (List Outcome)
  | 0 => pure []
  | n + 1 => do
    let raw ← source.draw 1 sides
    let outcomes ← scoreDice target sides n
    pure (Outcome.score raw target sides :: outcomes)

def runTest (limit : Limit) (test : SkillTest) : Rolling σ TestResult := do
  Rolling.ofExcept (limit.guard test.count
    (.tooManyTestDice test.count test.sides limit.text test.canonical) [test.count, test.sides])
  let outcomes ← source.scoreDice test.target test.sides test.count.toNat
  pure ⟨test.canonical, test.target, outcomes⟩

end Source

end DiceTable
