import DiceTable.Dice.Source

/-! # Dice groups

A group is a number of dice with the same sides. An exploding die is rolled again for as long as
its maximum face shows, so each die leaves a chain of faces; a plain die leaves a chain of one.
-/

namespace DiceTable

/-- `count` dice with `sides` faces each. -/
structure DiceGroup where
  count : Int
  sides : Int
  exploding : Bool := false
  deriving DecidableEq, Repr

namespace DiceGroup

/-- The group in the form `3d6`, or `3d6!!` when it explodes. -/
def chars (group : DiceGroup) : List Char :=
  Decimal.chars group.count ++ 'd' :: Decimal.chars group.sides ++
    if group.exploding then ['!', '!'] else []

def text (group : DiceGroup) : String :=
  String.ofList group.chars

def numbers (group : DiceGroup) : List Int :=
  [group.count, group.sides]

/-- What an error that shows the group comes to. -/
def failure (group : DiceGroup) (error : String → DiceError) : Failure :=
  .naming group.numbers (error group.text)

end DiceGroup

/-- The faces of one die in the order they were rolled. -/
abbrev Chain := List Int

/-- A face of a chain, marked when it is the maximum. -/
def faceText (sides face : Int) : String :=
  if face = sides then Decimal.text face ++ "!" else Decimal.text face

/-- A plain die shows its face, an exploding one its whole chain in brackets. -/
def chainText (group : DiceGroup) (chain : Chain) : String :=
  if group.exploding then
    "[" ++ " + ".intercalate (chain.map (faceText group.sides)) ++ "]"
  else " + ".intercalate (chain.map Decimal.text)

def chainsTotal : List Chain → Int
  | [] => 0
  | chain :: chains => chain.sum + chainsTotal chains

/-- The audit line of a rolled group: what was rolled, every face, and the total. -/
def rolledText (group : DiceGroup) (chains : List Chain) : String :=
  group.text ++ " → [" ++ ", ".intercalate (chains.map (chainText group)) ++ "] = " ++
    Decimal.text (chainsTotal chains)

/-- Passes if the audit line of a group can be written. Where it is the faces that have too many
digits, the source is at fault. -/
def writingRolled (group : DiceGroup) (chains : List Chain) : Except Failure Unit := do
  writing group.numbers
  if (chainsTotal chains :: chains.flatten).all (Decimal.isShort Decimal.digitLimit) then .ok ()
  else .error (.source .unwritable)

namespace Source

variable {σ : Type} (source : Source σ)

/-- Rolls until another face than the maximum shows, at most `fuel` times. -/
def explode (sides : Int) : Nat → Rolling σ Chain
  | 0 => Rolling.fail (.source (.endless sides))
  | fuel + 1 => do
    let face ← source.draw 1 sides
    if face = sides then
      let more ← explode sides fuel
      pure (face :: more)
    else pure [face]

def rollDie (sides : Int) (exploding : Bool) : Rolling σ Chain := fun state =>
  if exploding then source.explode sides (source.patience state + 1) state
  else (do let face ← source.draw 1 sides; pure [face] : Rolling σ Chain) state

/-- Rolls `n` more dice of a group whose faces add up to `total` so far. -/
def rollDice (group : DiceGroup) : (n : Nat) → (total : Int) → Rolling σ (List Chain)
  | 0, _ => pure []
  | n + 1, total => do
    let chain ← source.rollDie group.sides group.exploding
    let total := total + chain.sum
    if total > Decimal.maxInt then Rolling.fail (group.failure .diceTotal)
    else
      let chains ← rollDice group n total
      pure (chain :: chains)

/-- Rolls every die of a group, after which the audit line is written. -/
def rollEvery (group : DiceGroup) : Rolling σ (List Chain) := do
  let chains ← source.rollDice group group.count.toNat 0
  Rolling.ofExcept (writingRolled group chains)
  pure chains

def rollGroup (group : DiceGroup) : Rolling σ (List Chain) :=
  if group.count < 1 ∨ group.sides < 1 then Rolling.fail (group.failure .countOrSides)
  else if group.exploding ∧ group.sides = 1 then Rolling.fail (group.failure .oneSidedExplosion)
  else source.rollEvery group

end Source

end DiceTable
