import DiceTable.Dice.Group
import DiceTable.Proofs.Decimal.Writing
import DiceTable.Proofs.Except
import DiceTable.Proofs.Rolling.Outcome
import Mathlib.Algebra.Ring.Int.Defs

/-! # Rolling the dice of a group

What the dice of a group come to depends on two things that a source may promise: that its answers
lie within the range asked for, and that it ends every explosion chain. A group that passes its
checks then has one chain for each die, with faces from one to its sides, and can fail only because
its total leaves the range (`Serves.rollEvery`). Without any promise all other failures are faults
of the source (`rollEvery_yields_any`).
-/

namespace DiceTable

variable {σ : Type}

theorem chainsTotal_nil : chainsTotal [] = 0 := rfl

theorem chainsTotal_cons (chain : Chain) (chains : List Chain) :
    chainsTotal (chain :: chains) = chain.sum + chainsTotal chains := rfl

namespace Source

variable (source : Source σ)

/-- Every answer lies within the range asked for. -/
def AnswersInRange : Prop :=
  ∀ low high state value after, low ≤ high → source.next low high state = (.ok value, after) →
    low ≤ value ∧ value ≤ high

/-- Another face than the maximum shows within a number of rolls. -/
inductive ChainEnds (sides : Int) : Nat → σ → Prop
  | here {rolls : Nat} {state after : σ} {face : Int}
      (roll : source.next 1 sides state = (.ok face, after)) (other : face ≠ sides) :
      ChainEnds sides (rolls + 1) state
  | later {rolls : Nat} {state after : σ}
      (roll : source.next 1 sides state = (.ok sides, after))
      (rest : ChainEnds sides rolls after) : ChainEnds sides (rolls + 1) state

/-- Every explosion chain of a die ends before the patience of the source does. -/
def EndsChains : Prop :=
  ∀ sides state, 2 ≤ sides → sides ≤ Decimal.maxInt →
    source.ChainEnds sides (source.patience state + 1) state

/-- Dice can be rolled with the source, where only faults of a kind are to be expected. -/
structure Serves (fault : Failure → Prop) : Prop where
  face : ∀ sides, 1 ≤ sides →
    (source.draw 1 sides).Yields (fun face => 1 ≤ face ∧ face ≤ sides) fault
  chain : ∀ sides, 2 ≤ sides → sides ≤ Decimal.maxInt →
    (source.rollDie sides true).Yields
      (fun chain => chain ≠ [] ∧ ∀ face ∈ chain, 1 ≤ face ∧ face ≤ sides) fault

end Source

def Failure.IsFault (failure : Failure) : Prop :=
  ∃ fault, failure = .source fault

namespace Source

variable {source : Source σ}

theorem InRange.answersInRange (inRange : source.InRange) : source.AnswersInRange := by
  intro low high state value after range answer
  obtain ⟨_, _, same, bounds⟩ := inRange low high state range
  rw [answer] at same
  cases same
  exact bounds

theorem AnswersInRange.draw (answers : source.AnswersInRange) {low high : Int}
    (range : low ≤ high) :
    (source.draw low high).Yields (fun value => low ≤ value ∧ value ≤ high) Failure.IsFault := by
  intro state
  simp only [Source.draw]
  rcases answer : source.next low high state with ⟨outcome, after⟩
  cases outcome with
  | ok value => exact answers low high state value after range answer
  | error fault => exact ⟨fault, rfl⟩

theorem InRange.draw (inRange : source.InRange) {low high : Int} (range : low ≤ high) :
    (source.draw low high).Yields (fun value => low ≤ value ∧ value ≤ high) (fun _ => False) := by
  intro state
  obtain ⟨value, after, answer, bounds⟩ := inRange low high state range
  simp only [Source.draw, answer]
  exact bounds

/-- However long a chain gets, all of its faces are what a draw gives. -/
theorem explode_yields {sides : Int} {face : Int → Prop} {allowed : Failure → Prop}
    (draw : (source.draw 1 sides).Yields face allowed)
    (endless : ∀ fault, allowed (.source fault)) (fuel : Nat) :
    (source.explode sides fuel).Yields
      (fun chain => chain ≠ [] ∧ ∀ x ∈ chain, face x) allowed := by
  induction fuel with
  | zero => exact Rolling.yields_fail (endless _)
  | succ fuel ih =>
    refine draw.bind fun x here => ?_
    split
    · refine ih.bind fun more later => Rolling.yields_pure ?_
      exact ⟨by simp, List.forall_mem_cons.mpr ⟨here, later.2⟩⟩
    · exact Rolling.yields_pure ⟨by simp, by simpa using here⟩

/-- A chain that ends within its fuel is rolled to its end. -/
theorem ChainEnds.explode {sides : Int} {fuel : Nat} {state : σ}
    (ends : source.ChainEnds sides fuel state) :
    ∃ chain, (source.explode sides fuel state).1 = .ok chain := by
  induction ends with
  | @here rolls state after face roll other =>
    refine ⟨[face], ?_⟩
    simp only [Source.explode, Rolling.bind_apply, Source.draw, roll, other, if_false]
    rfl
  | @later rolls state after roll rest ih =>
    obtain ⟨chain, rolled⟩ := ih
    refine ⟨sides :: chain, ?_⟩
    simp only [Source.explode, Rolling.bind_apply, Source.draw, roll, if_true]
    rcases run : source.explode sides rolls after with ⟨outcome, last⟩
    rw [run] at rolled
    cases rolled
    rfl

/-- Faces of at least one pip add up to at least one. -/
theorem one_le_sum {chain : Chain} (nonempty : chain ≠ []) (pips : ∀ x ∈ chain, 1 ≤ x) :
    1 ≤ chain.sum := by
  obtain ⟨x, rest, rfl⟩ := List.exists_cons_of_ne_nil nonempty
  obtain ⟨here, later⟩ := List.forall_mem_cons.mp pips
  have : 0 ≤ rest.sum := by
    clear nonempty pips
    induction rest with
    | nil => simp
    | cons y rest ih =>
      obtain ⟨next, later⟩ := List.forall_mem_cons.mp later
      have := ih later
      rw [List.sum_cons]
      omega
  rw [List.sum_cons]
  omega

theorem AnswersInRange.explode (answers : source.AnswersInRange) {sides : Int} (sided : 1 ≤ sides)
    (fuel : Nat) :
    (source.explode sides fuel).Yields
      (fun chain => chain ≠ [] ∧ ∀ face ∈ chain, 1 ≤ face ∧ face ≤ sides) Failure.IsFault :=
  explode_yields (answers.draw sided) (fun fault => ⟨fault, rfl⟩) fuel

theorem AnswersInRange.serves (answers : source.AnswersInRange) :
    source.Serves Failure.IsFault where
  face _ sided := answers.draw sided
  chain sides sided _ := fun state => answers.explode (by omega) _ state

/-- With a source that always answers in range and ends every chain, dice never fail to roll. -/
theorem InRange.serves (inRange : source.InRange) (ends : source.EndsChains) :
    source.Serves fun _ => False where
  face _ sided := inRange.draw sided
  chain sides sided bounded := by
    intro state
    obtain ⟨chain, rolled⟩ := (ends sides state sided bounded).explode
    have faces := inRange.answersInRange.explode (by omega : 1 ≤ sides) _ |>.good_of_ok rolled
    have answer : (source.rollDie sides true state).1 = .ok chain := rolled
    rw [answer]
    exact faces

end Source

def lowestSource : Source Unit where
  next low _ _ := (.ok low, ())
  patience _ := 0

theorem lowestSource_inRange : lowestSource.InRange :=
  fun low _ _ range => ⟨low, (), rfl, Int.le_refl low, range⟩

theorem lowestSource_endsChains : lowestSource.EndsChains := by
  intro sides state sided _
  have roll : lowestSource.next 1 sides state = (.ok 1, ()) := rfl
  exact .here roll (by omega)

/-- Listed integers are brought into the range, for as long as there are any. -/
theorem listedSource_answersInRange : listedSource.AnswersInRange := by
  intro low high state value after range answer
  simp only [listedSource, refuseEmpty, Int.not_lt.mpr range, if_false] at answer
  split at answer
  · cases answer
  · cases answer
    exact wrapInto_mem _ range

/-- A group whose dice can be rolled, and whose numbers are in the range. -/
structure DiceGroup.Rollable (group : DiceGroup) : Prop where
  count : 1 ≤ group.count
  counted : group.count ≤ Decimal.maxInt
  sides : 1 ≤ group.sides
  bounded : group.sides ≤ Decimal.maxInt
  ending : group.exploding → group.sides ≠ 1

/-- The numbers of a group are written if they are in the range. -/
theorem DiceGroup.writing_numbers {group : DiceGroup} (count : 0 ≤ group.count)
    (counted : group.count ≤ Decimal.maxInt) (sides : 0 ≤ group.sides)
    (bounded : group.sides ≤ Decimal.maxInt) : writing group.numbers = .ok () :=
  writing_pair (Decimal.isShort_digitLimit (Int.le_trans (by decide) count) counted)
    (Decimal.isShort_digitLimit (Int.le_trans (by decide) sides) bounded)

theorem DiceGroup.Rollable.writing_numbers {group : DiceGroup} (rollable : group.Rollable) :
    writing group.numbers = .ok () :=
  DiceGroup.writing_numbers (Int.le_trans (by decide) rollable.count) rollable.counted
    (Int.le_trans (by decide) rollable.sides) rollable.bounded

/-- An error that shows a group which can be rolled comes to itself. -/
theorem DiceGroup.Rollable.failure_eq {group : DiceGroup} (rollable : group.Rollable)
    (error : String → DiceError) : group.failure error = .dice (error group.text) :=
  Failure.naming_of_writing rollable.writing_numbers _

namespace Source

variable {source : Source σ} {fault : Failure → Prop} {group : DiceGroup}

theorem draw_yields_any (source : Source σ) (low high : Int) :
    (source.draw low high).Yields (fun _ => True) Failure.IsFault := by
  intro state
  simp only [Source.draw]
  rcases source.next low high state with ⟨outcome, after⟩
  cases outcome with
  | ok value => trivial
  | error fault => exact ⟨fault, rfl⟩

theorem rollDie_yields_any (source : Source σ) (sides : Int) (exploding : Bool) :
    (source.rollDie sides exploding).Yields (fun _ => True) Failure.IsFault := by
  have draw := source.draw_yields_any 1 sides
  cases exploding with
  | true =>
    intro state
    exact (explode_yields draw (fun fault => ⟨fault, rfl⟩) (source.patience state + 1)).mono
      (fun _ _ => trivial) (fun _ fault => fault) state
  | false =>
    change (do let face ← source.draw 1 sides; pure [face] : Rolling σ Chain).Yields _ _
    exact draw.bind fun _ _ => Rolling.yields_pure trivial

/-- The dice still to roll add one chain each, unless the total leaves the range. -/
theorem rollDice_yields {die : Chain → Prop} {allowed : Failure → Prop}
    (roll : (source.rollDie group.sides group.exploding).Yields die allowed) (n : Nat)
    {total : Int} (within : total ≤ Decimal.maxInt) :
    (source.rollDice group n total).Yields
      (fun chains => chains.length = n ∧ (∀ chain ∈ chains, die chain) ∧
        total + chainsTotal chains ≤ Decimal.maxInt)
      (fun failure => failure = group.failure .diceTotal ∨ allowed failure) := by
  induction n generalizing total with
  | zero =>
    refine Rolling.yields_pure ⟨rfl, by simp, ?_⟩
    simpa [chainsTotal_nil] using within
  | succ n ih =>
    have first := roll.mono (fun _ good => good)
      (fun failure expected => (.inr expected : failure = group.failure .diceTotal ∨ _))
    refine first.bind fun chain here => ?_
    dsimp only
    split
    · exact Rolling.yields_fail (.inl rfl)
    · refine (ih (by omega)).bind fun chains later => Rolling.yields_pure ?_
      obtain ⟨length, dice, most⟩ := later
      refine ⟨by rw [List.length_cons, length], List.forall_mem_cons.mpr ⟨here, dice⟩, ?_⟩
      rw [chainsTotal_cons]
      omega

/-- An audit line that is not written shows a group that is not, or faces for which the source is
to blame. -/
theorem writingRolled_error {chains : List Chain} {failure : Failure}
    (failed : writingRolled group chains = .error failure) :
    writing group.numbers = .error failure ∨ failure.IsFault := by
  rcases Except.bind_eq_error.mp failed with failed | ⟨_, _, failed⟩
  · exact .inl failed
  · split at failed
    · cases failed
    · cases failed
      exact .inr ⟨_, rfl⟩

/-- Whatever is known of the chains of the dice is known of those of a group that is rolled. -/
theorem rollEvery_yields (rollable : group.Rollable) {die : Chain → Prop}
    {allowed : Failure → Prop}
    (roll : (source.rollDie group.sides group.exploding).Yields die allowed)
    (written : ∀ chains failure, (∀ chain ∈ chains, die chain) →
      chainsTotal chains ≤ Decimal.maxInt → writingRolled group chains = .error failure →
      allowed failure) :
    (source.rollEvery group).Yields
      (fun chains => chains.length = group.count.toNat ∧ (∀ chain ∈ chains, die chain) ∧
        chainsTotal chains ≤ Decimal.maxInt)
      (fun failure => failure = .dice (.diceTotal group.text) ∨ allowed failure) := by
  have dice := source.rollDice_yields roll group.count.toNat (by decide : (0 : Int) ≤ _)
  rw [rollable.failure_eq] at dice
  refine dice.bind fun chains here => ?_
  rw [Int.zero_add] at here
  cases line : writingRolled group chains with
  | ok => exact Rolling.yields_pure here
  | error failure =>
    exact Rolling.yields_fail (.inr (written chains failure here.2.1 here.2.2 line))

/-- However a group is rolled, its total is written. -/
theorem rollEvery_isShort (source : Source σ) (group : DiceGroup) :
    (source.rollEvery group).Yields
      (fun chains => Decimal.isShort Decimal.digitLimit (chainsTotal chains)) fun _ => True := by
  refine (Rolling.yields_trivial (source.rollDice group group.count.toNat 0)).bind ?_
  intro chains _
  cases line : writingRolled group chains with
  | error failure => exact Rolling.yields_fail trivial
  | ok =>
    obtain ⟨_, _, written⟩ := Except.bind_eq_ok.mp line
    split at written
    · rename_i short
      exact Rolling.yields_pure (List.all_eq_true.mp short _ List.mem_cons_self)
    · cases written

theorem rollEvery_yields_any (source : Source σ) (rollable : group.Rollable) :
    (source.rollEvery group).Yields (fun _ => True)
      (fun failure => failure = .dice (.diceTotal group.text) ∨ failure.IsFault) := by
  refine (rollEvery_yields rollable (source.rollDie_yields_any _ _) ?_).mono
    (fun _ _ => trivial) (fun _ expected => expected)
  intro chains failure _ _ failed
  refine (writingRolled_error failed).resolve_left ?_
  rw [rollable.writing_numbers]
  exact nofun

theorem Serves.rollDie (serves : source.Serves fault) (rollable : group.Rollable) :
    (source.rollDie group.sides group.exploding).Yields
      (fun chain => chain ≠ [] ∧ ∀ face ∈ chain, 1 ≤ face ∧ face ≤ group.sides) fault := by
  have sided := rollable.sides
  cases exploding : group.exploding with
  | true =>
    have many := rollable.ending exploding
    exact serves.chain group.sides (by omega) rollable.bounded
  | false =>
    change (do let face ← source.draw 1 group.sides; pure [face] : Rolling σ Chain).Yields _ _
    refine (serves.face group.sides sided).bind fun face bounds => Rolling.yields_pure ?_
    exact ⟨List.cons_ne_nil _ _, List.forall_mem_singleton.mpr bounds⟩

/-- Chains of at least one pip each add up to at least their number. -/
theorem length_le_chainsTotal {chains : List Chain} (pips : ∀ chain ∈ chains, 1 ≤ chain.sum) :
    chains.length ≤ chainsTotal chains := by
  induction chains with
  | nil => exact Int.le_refl _
  | cons chain chains ih =>
    obtain ⟨here, later⟩ := List.forall_mem_cons.mp pips
    have := ih later
    rw [List.length_cons, chainsTotal_cons]
    omega

/-- The audit line is written of a group in the range with faces and a total in the range. -/
theorem writingRolled_eq_ok {chains : List Chain} (written : writing group.numbers = .ok ())
    (faces : ∀ chain ∈ chains, ∀ face ∈ chain, 1 ≤ face ∧ face ≤ Decimal.maxInt)
    (least : 0 ≤ chainsTotal chains) (most : chainsTotal chains ≤ Decimal.maxInt) :
    writingRolled group chains = .ok () := by
  have total := Decimal.isShort_digitLimit (Int.le_trans (by decide) least) most
  have short : (chainsTotal chains :: chains.flatten).all (Decimal.isShort Decimal.digitLimit) := by
    refine List.all_eq_true.mpr (List.forall_mem_cons.mpr ⟨total, fun face member => ?_⟩)
    obtain ⟨chain, inChains, inChain⟩ := List.mem_flatten.mp member
    have bounds := faces chain inChains face inChain
    exact Decimal.isShort_digitLimit (Int.le_trans (by decide) bounds.1) bounds.2
  rw [writingRolled, written, short]
  rfl

/-- A group that can be rolled comes to at least one pip for each die. -/
theorem Serves.rollEvery (serves : source.Serves fault) (rollable : group.Rollable) :
    (source.rollEvery group).Yields
      (fun chains => chains.length = group.count.toNat ∧ group.count ≤ chainsTotal chains ∧
        chainsTotal chains ≤ Decimal.maxInt)
      (fun failure => failure = .dice (.diceTotal group.text) ∨ fault failure) := by
  have least {chains : List Chain} (dice : ∀ chain ∈ chains, chain ≠ [] ∧
      ∀ face ∈ chain, 1 ≤ face ∧ face ≤ group.sides) : chains.length ≤ chainsTotal chains :=
    length_le_chainsTotal fun chain member =>
      one_le_sum (dice chain member).1 fun face inChain => ((dice chain member).2 face inChain).1
  refine (rollEvery_yields rollable (serves.rollDie rollable) ?_).mono ?_
    (fun _ expected => expected)
  · intro chains failure dice most failed
    have positive := least dice
    rw [writingRolled_eq_ok rollable.writing_numbers (fun chain member face inChain => ?_)
      (by omega) most] at failed
    · cases failed
    · have bounds := (dice chain member).2 face inChain
      exact ⟨bounds.1, Int.le_trans bounds.2 rollable.bounded⟩
  · rintro chains ⟨length, dice, most⟩
    have positive := least dice
    have counted := rollable.count
    refine ⟨length, ?_, most⟩
    omega

end Source

end DiceTable
