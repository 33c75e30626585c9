import DiceTable.Dice.Error

/-! # Sources of random integers

A `Source` answers requests for an integer of a range and goes from state to state. `Rolling` is a
computation that draws from one: it ends in an answer or in a failure, and on either way out the
state of the source is known, so that what a failed roll has drawn is drawn.

`listedSource` hands out given numbers, `seededSource` runs a linear congruential generator, and
`entropySource` spends random words. `Source.recorded` keeps a log of every draw of any source.
-/

namespace DiceTable

/-- A computation over the state of a source of random integers. -/
def Rolling (σ α : Type) : Type :=
  σ → Except Failure α × σ

namespace Rolling

variable {σ α β : Type}

instance : Monad (Rolling σ) where
  pure a := fun state => (.ok a, state)
  bind x next := fun state =>
    match x state with
    | (.ok a, after) => next a after
    | (.error failure, after) => (.error failure, after)

def fail (failure : Failure) : Rolling σ α := fun state => (.error failure, state)

def ofExcept : Except Failure α → Rolling σ α
  | .ok a => pure a
  | .error failure => fail failure

theorem pure_apply (a : α) (state : σ) : (pure a : Rolling σ α) state = (.ok a, state) := rfl

theorem bind_apply (x : Rolling σ α) (next : α → Rolling σ β) (state : σ) :
    (x >>= next) state =
      match x state with
      | (.ok a, after) => next a after
      | (.error failure, after) => (.error failure, after) := rfl

private theorem bind_pure_apply (x : Rolling σ α) : (x >>= fun a => pure a) = x := by
  funext state
  rw [bind_apply]
  split <;> simp_all [pure_apply]

private theorem bind_bind_apply {γ : Type} (x : Rolling σ α) (f : α → Rolling σ β)
    (g : β → Rolling σ γ) : (x >>= f) >>= g = x >>= fun a => f a >>= g := by
  funext state
  simp only [bind_apply]
  cases x state with
  | mk outcome after => cases outcome <;> rfl

instance : LawfulMonad (Rolling σ) :=
  LawfulMonad.mk' (Rolling σ) bind_pure_apply (fun _ _ => rfl) bind_bind_apply

end Rolling

/-- A source of random integers with states `σ`. -/
structure Source (σ : Type) where
  /-- Asks for an integer of `[low, high]`. -/
  next : (low high : Int) → σ → Except SourceFault Int × σ
  /-- In this state, no explosion chain is followed beyond this many rerolls. -/
  patience : σ → Nat

namespace Source

variable {σ : Type}

/-- Draws an integer of `[low, high]`. -/
def draw (source : Source σ) (low high : Int) : Rolling σ Int := fun state =>
  match source.next low high state with
  | (.ok value, after) => (.ok value, after)
  | (.error fault, after) => (.error (.source fault), after)

/-- One answered request: the range and the integer drawn from it. -/
structure Draw where
  low : Int
  high : Int
  value : Int
  deriving DecidableEq, Repr

/-- The same source with a log of its answered requests, the latest first. -/
def recorded (source : Source σ) : Source (σ × List Draw) where
  next low high state :=
    match source.next low high state.1 with
    | (.ok value, after) => (.ok value, (after, ⟨low, high, value⟩ :: state.2))
    | (.error fault, after) => (.error fault, (after, state.2))
  patience state := source.patience state.1

/-- Answers every request for a range with an integer within it, and never faults. -/
def InRange (source : Source σ) : Prop :=
  ∀ low high state, low ≤ high →
    ∃ value after, source.next low high state = (.ok value, after) ∧ low ≤ value ∧ value ≤ high

end Source

/-- A range that holds no integer is refused before anything else is looked at. -/
def refuseEmpty {σ : Type} (low high : Int) (state : σ)
    (answer : Unit → Except SourceFault Int × σ) : Except SourceFault Int × σ :=
  if high < low then (.error (.emptyRange low high), state) else answer ()

/-- Brings any integer into `[low, high]`, leaving those within it as they are. -/
def wrapInto (low high value : Int) : Int :=
  if low ≤ value ∧ value ≤ high then value else low + (value - low) % (high - low + 1)

/-- Hands out the given integers in order, each wrapped into the range asked for. -/
def listedSource : Source (List Int) where
  next low high values :=
    refuseEmpty low high values fun _ =>
      match values with
      | [] => (.error (.exhausted low high), [])
      | value :: rest => (.ok (wrapInto low high value), rest)
  patience values := values.length

def wordValues : Nat := 18446744073709551616

/-- One step of the generator behind `seededSource`. -/
def nextSeed (seed : Nat) : Nat :=
  (seed * 6364136223846793005 + 1442695040888963407) % wordValues

/-- A linear congruential generator of full period, whose upper 31 bits make the answer. -/
def seededSource : Source Nat where
  next low high seed :=
    refuseEmpty low high seed fun _ =>
      let after := nextSeed seed
      (.ok (low + (after >>> 33 : Nat) % (high - low + 1)), after)
  patience _ := wordValues

/-- As many words as it takes to make a number with at least `span` values. -/
def wordsFor (span : Nat) : Nat :=
  span.log2 / 64 + 1

/-- The number that some words make up, the first one being the most significant. -/
def joinWords (words : List Nat) : Nat :=
  words.foldl (fun number word => number * wordValues + word) 0

/-- Among the numbers of so many words, those below this one leave every remainder by `span`
equally often. -/
def fairBelow (span count : Nat) : Nat :=
  Nat.pow 2 (64 * count) / span * span

/-- Takes numbers of `more + 1` words until one is fair for `span`. -/
def takeFair (span more : Nat) (words : List Nat) : Option (Nat × List Nat) :=
  if _enough : more < words.length then
    let number := joinWords (words.take (more + 1))
    if number < fairBelow span (more + 1) then some (number % span, words.drop (more + 1))
    else takeFair span more (words.drop (more + 1))
  else none
termination_by words.length
decreasing_by
  rw [List.length_drop]
  exact Nat.sub_lt (Nat.lt_of_le_of_lt (Nat.zero_le _) _enough) (Nat.succ_pos _)

/-- Spends random 64-bit words; a number that would favour the lower integers is passed over. -/
def entropySource : Source (List Nat) where
  next low high words :=
    refuseEmpty low high words fun _ =>
      let span := (high - low + 1).toNat
      match takeFair span (wordsFor span - 1) words with
      | none => (.error (.exhausted low high), [])
      | some (offset, rest) => (.ok (low + offset), rest)
  patience words := words.length

theorem wrapInto_mem {low high : Int} (value : Int) (range : low ≤ high) :
    low ≤ wrapInto low high value ∧ wrapInto low high value ≤ high := by
  unfold wrapInto
  split
  · assumption
  · have := Int.emod_nonneg (value - low) (b := high - low + 1) (by omega)
    have := Int.emod_lt_of_pos (value - low) (b := high - low + 1) (by omega)
    omega

end DiceTable
