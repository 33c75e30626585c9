import DiceTable.Dice.Token
import DiceTable.Proofs.Rolling.Observation
import Mathlib.Algebra.Order.BigOperators.Group.List
import Mathlib.Data.Nat.Cast.Basic

/-! # The faces of a group

The faces that are drawn for a group come die by die, so they can be cut into the chains of the dice
that are done and the faces of one that is not (`DiceGroup.cut`). With a source that answers in
range a group comes to exactly these chains, and it breaks off as soon as they add up beyond the
range (`Source.AnswersInRange.rollGroup_faces`).
-/

namespace DiceTable

/-- The integers that were answered to requests, in their order. -/
def drawnFaces (requests : List Inquiry) : List Int :=
  requests.filterMap fun inquiry => inquiry.answer.toOption

theorem drawnFaces_append (requests others : List Inquiry) :
    drawnFaces (requests ++ others) = drawnFaces requests ++ drawnFaces others :=
  List.filterMap_append

theorem chainsTotal_append (chains others : List Chain) :
    chainsTotal (chains ++ others) = chainsTotal chains + chainsTotal others := by
  induction chains with
  | nil => rw [List.nil_append, chainsTotal_nil, Int.zero_add]
  | cons chain chains ih =>
    rw [List.cons_append, chainsTotal_cons, chainsTotal_cons, ih, Int.add_assoc]

theorem chainsTotal_eq_sum_flatten (chains : List Chain) :
    chainsTotal chains = chains.flatten.sum := by
  induction chains with
  | nil => rfl
  | cons chain chains ih => rw [chainsTotal_cons, ih, List.flatten_cons, List.sum_append]

namespace DiceGroup

variable {group : DiceGroup}

/-- Behind this face the same die is rolled again. -/
def explodes (group : DiceGroup) (face : Int) : Bool :=
  group.exploding && face == group.sides

/-- Cuts faces into the chains of dice that are done and the faces of one that is not. -/
def cut (group : DiceGroup) : List Int → List Chain × Chain
  | [] => ([], [])
  | face :: faces =>
    match group.explodes face, cut group faces with
    | false, (done, undone) => ([face] :: done, undone)
    | true, ([], undone) => ([], face :: undone)
    | true, (chain :: done, undone) => ((face :: chain) :: done, undone)

/-- The chain of a die that is done: the maximum as often as it exploded, then another face, or a
face of any kind if the die cannot explode. -/
def IsChain (group : DiceGroup) (chain : Chain) : Prop :=
  ∃ again last, chain = List.replicate again group.sides ++ [last] ∧
    1 ≤ last ∧ last ≤ group.sides ∧
    (group.exploding → last < group.sides) ∧ (¬group.exploding → again = 0)

theorem cut_of_explodes {face : Int} (again : group.explodes face) {faces : List Int}
    {chain undone : Chain} {done : List Chain} (rest : group.cut faces = (chain :: done, undone)) :
    group.cut (face :: faces) = ((face :: chain) :: done, undone) := by
  rw [cut, again, rest]

/-- The chain of a die that is done is cut off in front of whatever follows. -/
theorem IsChain.cut_append {chain : Chain} (isChain : group.IsChain chain) (faces : List Int) :
    group.cut (chain ++ faces) = (chain :: (group.cut faces).1, (group.cut faces).2) := by
  obtain ⟨again, last, rfl, _, _, exploding, plain⟩ := isChain
  have ends : group.explodes last = false := by
    unfold explodes
    cases kind : group.exploding with
    | false => rfl
    | true => simpa using Int.ne_of_lt (exploding kind)
  induction again with
  | zero => rw [List.replicate_zero, List.nil_append, List.singleton_append, cut, ends]
  | succ again ih =>
    have kind : group.exploding := by
      by_contra never
      exact absurd (plain never) (Nat.succ_ne_zero again)
    have goesOn : group.explodes group.sides := by simp [explodes, kind]
    exact cut_of_explodes goesOn (ih fun never => absurd kind never)

/-- Faces that all explode belong to a die that is not done. -/
theorem cut_of_undone {faces : List Int} (undone : ∀ face ∈ faces, group.explodes face) :
    group.cut faces = ([], faces) := by
  induction faces with
  | nil => rfl
  | cons face faces ih =>
    obtain ⟨here, later⟩ := List.forall_mem_cons.mp undone
    rw [cut, here, ih later]

/-- Chains of dice that are done are cut apart. -/
theorem cut_flatten_append {chains : List Chain} (each : ∀ chain ∈ chains, group.IsChain chain)
    {undone : Chain} (rest : ∀ face ∈ undone, group.explodes face) :
    group.cut (chains.flatten ++ undone) = (chains, undone) := by
  induction chains with
  | nil => exact cut_of_undone rest
  | cons chain chains ih =>
    obtain ⟨here, later⟩ := List.forall_mem_cons.mp each
    rw [List.flatten_cons, List.append_assoc, here.cut_append, ih later]

theorem cut_flatten {chains : List Chain} (each : ∀ chain ∈ chains, group.IsChain chain) :
    group.cut chains.flatten = (chains, []) := by
  have cut : group.cut (chains.flatten ++ []) = (chains, []) := cut_flatten_append each nofun
  rwa [List.append_nil] at cut

section Sums

variable {chain : Chain} {chains : List Chain}

theorem IsChain.one_le_sum (isChain : group.IsChain chain) : 1 ≤ chain.sum := by
  obtain ⟨again, last, rfl, positive, bounded, _, _⟩ := isChain
  have explosions : 0 ≤ (again : Int) * group.sides :=
    Int.mul_nonneg (Int.natCast_nonneg again) (by omega)
  rw [List.sum_append, List.sum_replicate, List.sum_singleton, nsmul_eq_mul]
  omega

theorem IsChain.sum_le (isChain : group.IsChain chain) (plain : ¬group.exploding) :
    chain.sum ≤ group.sides := by
  obtain ⟨again, last, rfl, _, bounded, _, once⟩ := isChain
  rw [once plain]
  simpa using bounded

/-- An exploding die never comes to a multiple of its sides. -/
theorem IsChain.not_dvd_sum (isChain : group.IsChain chain) (exploding : group.exploding) :
    ¬group.sides ∣ chain.sum := by
  obtain ⟨again, last, rfl, positive, _, smaller, _⟩ := isChain
  have below := smaller exploding
  rw [List.sum_append, List.sum_replicate, List.sum_singleton, nsmul_eq_mul,
    Int.dvd_add_right (Dvd.intro_left _ rfl)]
  intro divides
  have := Int.le_of_dvd (by omega) divides
  omega

theorem count_le_chainsTotal (each : ∀ chain ∈ chains, group.IsChain chain) :
    chains.length ≤ chainsTotal chains :=
  Source.length_le_chainsTotal fun chain member => (each chain member).one_le_sum

theorem chainsTotal_le (each : ∀ chain ∈ chains, group.IsChain chain) (plain : ¬group.exploding) :
    chainsTotal chains ≤ chains.length * group.sides := by
  induction chains with
  | nil => simp [chainsTotal_nil]
  | cons chain chains ih =>
    obtain ⟨here, later⟩ := List.forall_mem_cons.mp each
    have first := here.sum_le plain
    have rest := ih later
    rw [chainsTotal_cons, List.length_cons, Int.natCast_succ, Int.add_mul, Int.one_mul]
    omega

theorem IsChain.one_le {face : Int} (isChain : group.IsChain chain) (member : face ∈ chain) :
    1 ≤ face := by
  obtain ⟨again, last, rfl, positive, bounded, _, _⟩ := isChain
  rcases List.mem_append.mp member with explosion | other
  · rw [List.eq_of_mem_replicate explosion]
    omega
  · rwa [List.mem_singleton.mp other]

/-- No face is more than all of them together. -/
theorem le_chainsTotal (each : ∀ chain ∈ chains, group.IsChain chain) {face : Int}
    (member : face ∈ chains.flatten) : face ≤ chainsTotal chains := by
  rw [chainsTotal_eq_sum_flatten]
  refine List.single_le_sum (fun x inFaces => ?_) face member
  obtain ⟨chain, inChains, inChain⟩ := List.mem_flatten.mp inFaces
  exact Int.le_trans (by decide) ((each chain inChains).one_le inChain)

/-- Whether the audit line of dice that are done is written depends on the numbers of the group
alone. -/
theorem writingRolled_eq (each : ∀ chain ∈ chains, group.IsChain chain)
    (within : chainsTotal chains ≤ Decimal.maxInt) :
    writingRolled group chains = writing group.numbers := by
  cases written : writing group.numbers with
  | error failure =>
    rw [writingRolled, written]
    rfl
  | ok =>
    have least := count_le_chainsTotal each
    refine Source.writingRolled_eq_ok written (fun chain inChains face inChain => ?_) (by omega)
      within
    have member := List.mem_flatten.mpr ⟨chain, inChains, inChain⟩
    exact ⟨(each chain inChains).one_le inChain, Int.le_trans (le_chainsTotal each member) within⟩

/-- Fewer dice come to less. -/
theorem chainsTotal_take_le (each : ∀ chain ∈ chains, group.IsChain chain) (n : Nat) :
    chainsTotal (chains.take n) ≤ chainsTotal chains := by
  have split := chainsTotal_append (chains.take n) (chains.drop n)
  have later : ∀ chain ∈ chains.drop n, group.IsChain chain := fun chain member =>
    each chain (List.mem_of_mem_drop member)
  have rest := count_le_chainsTotal later
  rw [List.take_append_drop] at split
  omega

end Sums

end DiceGroup

/-- How rolling `n` dice of a group ends, by the faces that were drawn: with all of them done within
the range, with the die that takes the total out of it, or with a fault of the source. -/
inductive RollsDice (group : DiceGroup) (n : Nat) (total : Int) :
    Except Failure (List Chain) → List Int → Prop
  | all {chains : List Chain} (each : ∀ chain ∈ chains, group.IsChain chain)
      (every : chains.length = n) (within : total + chainsTotal chains ≤ Decimal.maxInt) :
      RollsDice group n total (.ok chains) chains.flatten
  | beyond {chains : List Chain} {last : Chain}
      (each : ∀ chain ∈ chains ++ [last], group.IsChain chain) (some : chains.length < n)
      (within : total + chainsTotal chains ≤ Decimal.maxInt)
      (beyond : Decimal.maxInt < total + chainsTotal (chains ++ [last])) :
      RollsDice group n total (.error (group.failure .diceTotal)) (chains ++ [last]).flatten
  | faulty {chains : List Chain} {undone : Chain} {failure : Failure}
      (each : ∀ chain ∈ chains, group.IsChain chain)
      (rest : ∀ face ∈ undone, group.explodes face)
      (within : total + chainsTotal chains ≤ Decimal.maxInt) (fault : failure.IsFault) :
      RollsDice group n total (.error failure) (chains.flatten ++ undone)

namespace RollsDice

variable {group : DiceGroup} {n : Nat} {total : Int} {outcome : Except Failure (List Chain)}
  {drawn : List Int}

/-- What the dice behind one that is done come to is what they come to together with it. -/
theorem cons {chain : Chain} (isChain : group.IsChain chain)
    (rolls : RollsDice group n (total + chain.sum) outcome drawn) :
    RollsDice group (n + 1) total (outcome.map (chain :: ·)) (chain ++ drawn) := by
  cases rolls with
  | @all chains each every within =>
    have whole := List.forall_mem_cons.mpr ⟨isChain, each⟩
    refine .all whole (by rw [List.length_cons, every]) ?_
    rwa [chainsTotal_cons, ← Int.add_assoc]
  | @beyond chains last each some within beyond =>
    have whole := List.forall_mem_cons.mpr ⟨isChain, each⟩
    change RollsDice group (n + 1) total _ (chain :: chains ++ [last]).flatten
    refine .beyond whole (Nat.succ_lt_succ some) ?_ ?_
    · rwa [chainsTotal_cons, ← Int.add_assoc]
    · rwa [List.cons_append, chainsTotal_cons, ← Int.add_assoc]
  | @faulty chains undone failure each rest within fault =>
    have whole := List.forall_mem_cons.mpr ⟨isChain, each⟩
    rw [← List.append_assoc]
    refine .faulty whole rest ?_ fault
    rwa [chainsTotal_cons, ← Int.add_assoc]

end RollsDice

/-- The faces of one die: its chain, or the explosions of a die that a fault leaves undone. -/
def RollsDie (group : DiceGroup) (outcome : Except Failure Chain) (drawn : List Int) : Prop :=
  match outcome with
  | .ok chain => drawn = chain ∧ group.IsChain chain
  | .error failure => failure.IsFault ∧ ∀ face ∈ drawn, group.explodes face

/-- All dice of a group, shown by the faces that were drawn for them and worth what these add up
to. -/
structure Operand.IsRollOf (rolled : Operand) (group : DiceGroup) (drawn : List Int) : Prop where
  every : rolled.chains.length = group.count
  faces : rolled.chains.flatten = drawn
  plain : ¬group.exploding → ∀ chain ∈ rolled.chains, ∃ face, chain = [face]
  exploding : group.exploding → ∀ chain ∈ rolled.chains, ∃ again last,
    chain = List.replicate again group.sides ++ [last] ∧ 1 ≤ last ∧ last < group.sides
  value : rolled.value = drawn.sum
  within : rolled.value ≤ Decimal.maxInt
  least : group.count ≤ rolled.value
  most : ¬group.exploding → rolled.value ≤ group.count * group.sides
  indivisible : group.exploding → ∀ chain ∈ rolled.chains, ¬group.sides ∣ chain.sum

theorem Operand.isRollOf_flatten {group : DiceGroup} {chains : List Chain}
    (each : ∀ chain ∈ chains, group.IsChain chain) (every : (chains.length : Int) = group.count)
    (within : chainsTotal chains ≤ Decimal.maxInt) :
    (Operand.rolled group chains).IsRollOf group chains.flatten where
  every := every
  faces := rfl
  plain plain chain member := by
    obtain ⟨again, last, rfl, _, _, _, once⟩ := each chain member
    exact ⟨last, by rw [once plain]; rfl⟩
  exploding exploding chain member := by
    obtain ⟨again, last, rfl, positive, _, smaller, _⟩ := each chain member
    exact ⟨again, last, rfl, positive, smaller exploding⟩
  value := chainsTotal_eq_sum_flatten chains
  within := within
  least := every ▸ DiceGroup.count_le_chainsTotal each
  most plain := every ▸ DiceGroup.chainsTotal_le each plain
  indivisible exploding chain member := (each chain member).not_dvd_sum exploding

namespace Source

variable {σ : Type} {source : Source σ} {group : DiceGroup}

/-- A face is drawn within the range, or none is. -/
theorem AnswersInRange.observes_draw (answers : source.AnswersInRange) {sides : Int}
    (sided : 1 ≤ sides) :
    (source.observed.draw 1 sides).Observes (source.draw 1 sides) fun outcome requests =>
      match outcome with
      | .ok face => drawnFaces requests = [face] ∧ 1 ≤ face ∧ face ≤ sides
      | .error failure => drawnFaces requests = [] ∧ failure.IsFault := by
  refine ((source.observes_draw 1 sides).and_good (answers.draw sided)).mono ?_
  rintro outcome requests ⟨⟨answer, rfl, rfl⟩, range⟩
  cases answer with
  | ok face => exact ⟨rfl, range face rfl⟩
  | error fault => exact ⟨rfl, fault, rfl⟩

/-- An exploding die shows its maximum until another face comes. -/
theorem AnswersInRange.observes_explode (answers : source.AnswersInRange) (sided : 1 ≤ group.sides)
    (exploding : group.exploding) (fuel : Nat) :
    (source.observed.explode group.sides fuel).Observes (source.explode group.sides fuel)
      fun outcome requests => RollsDie group outcome (drawnFaces requests) := by
  induction fuel with
  | zero => exact Rolling.observes_fail ⟨⟨_, rfl⟩, nofun⟩
  | succ fuel ih =>
    -- Behind a face that explodes the same die goes on, and any other face is its last one.
    refine (answers.observes_draw sided).bind (fun face =>
      show Rolling.Observes _ _ (fun outcome more =>
        1 ≤ face → face ≤ group.sides →
          RollsDie group outcome (face :: drawnFaces more)) from ?_) ?_ ?_
    · split
      · rename_i maximum
        refine ih.bind (fun chain => show Rolling.Observes _ _ (fun outcome more =>
          outcome = .ok (face :: chain) ∧ more = []) from Rolling.observes_pure ⟨rfl, rfl⟩) ?_ ?_
        · rintro failure requests ⟨fault, undone⟩ _ _
          refine ⟨fault, List.forall_mem_cons.mpr ⟨?_, undone⟩⟩
          simp [DiceGroup.explodes, exploding, maximum]
        · rintro chain requests _ more ⟨drawn, isChain⟩ ⟨rfl, rfl⟩ _ _
          rw [List.append_nil, drawn]
          refine ⟨rfl, ?_⟩
          obtain ⟨again, last, rfl, rest⟩ := isChain
          refine ⟨again + 1, last, by rw [maximum, List.replicate_succ, List.cons_append], ?_⟩
          exact ⟨rest.1, rest.2.1, rest.2.2.1, fun plain => absurd exploding plain⟩
      · rename_i other
        refine Rolling.observes_pure fun positive bounded =>
          ⟨rfl, 0, face, rfl, positive, bounded, fun _ => by omega, fun _ => rfl⟩
    · rintro failure requests ⟨drawn, fault⟩
      rw [RollsDie, drawn]
      exact ⟨fault, nofun⟩
    · rintro face requests outcome more ⟨drawn, positive, bounded⟩ later
      rw [drawnFaces_append, drawn]
      exact later positive bounded

theorem AnswersInRange.observes_rollDie (answers : source.AnswersInRange)
    (sided : 1 ≤ group.sides) :
    (source.observed.rollDie group.sides group.exploding).Observes
      (source.rollDie group.sides group.exploding)
      fun outcome requests => RollsDie group outcome (drawnFaces requests) := by
  cases kind : group.exploding with
  | true => exact fun state log => answers.observes_explode sided kind _ state log
  | false =>
    have plain : ¬group.exploding := Bool.eq_false_iff.mp kind
    change (source.observed.draw 1 group.sides >>= fun face => pure [face]).Observes
      (source.draw 1 group.sides >>= fun face => pure [face]) _
    refine (answers.observes_draw sided).bind (fun face => show Rolling.Observes _ _
      (fun outcome more => outcome = .ok [face] ∧ more = []) from
        Rolling.observes_pure ⟨rfl, rfl⟩) ?_ ?_
    · rintro failure requests ⟨drawn, fault⟩
      rw [RollsDie, drawn]
      exact ⟨fault, nofun⟩
    · rintro face requests _ more ⟨drawn, positive, bounded⟩ ⟨rfl, rfl⟩
      rw [List.append_nil, drawn]
      exact ⟨rfl, 0, face, rfl, positive, bounded, fun exploding => absurd exploding plain,
        fun _ => rfl⟩

/-- Dice are rolled one after the other, for as long as their total is in the range. -/
theorem AnswersInRange.observes_rollDice (answers : source.AnswersInRange)
    (sided : 1 ≤ group.sides) (n : Nat) {total : Int} (within : total ≤ Decimal.maxInt) :
    (source.observed.rollDice group n total).Observes (source.rollDice group n total)
      fun outcome requests => RollsDice group n total outcome (drawnFaces requests) := by
  induction n generalizing total with
  | zero =>
    refine Rolling.observes_pure (.all nofun rfl ?_)
    rwa [chainsTotal_nil, Int.add_zero]
  | succ n ih =>
    refine (answers.observes_rollDie sided).bind (fun chain => show Rolling.Observes _ _
      (fun outcome more => group.IsChain chain →
        RollsDice group (n + 1) total outcome (chain ++ drawnFaces more)) from ?_) ?_ ?_
    · dsimp only
      split
      · rename_i beyond
        refine Rolling.observes_fail fun isChain => ?_
        have rolls : RollsDice group (n + 1) total _ ([] ++ [chain]).flatten :=
          .beyond (List.forall_mem_singleton.mpr isChain) (Nat.succ_pos n)
            (by rwa [chainsTotal_nil, Int.add_zero])
            (by rw [List.nil_append, chainsTotal_cons, chainsTotal_nil]; omega)
        simpa [drawnFaces] using rolls
      · rename_i inside
        refine (ih (Int.not_lt.mp inside)).bind (fun chains => show Rolling.Observes _ _
          (fun outcome more => outcome = .ok (chain :: chains) ∧ more = []) from
            Rolling.observes_pure ⟨rfl, rfl⟩) ?_ ?_
        · exact fun failure requests rolls isChain => rolls.cons isChain
        · rintro chains requests _ more rolls ⟨rfl, rfl⟩ isChain
          rw [List.append_nil]
          exact rolls.cons isChain
    · rintro failure requests ⟨fault, undone⟩
      have inside : total + chainsTotal [] ≤ Decimal.maxInt := by
        rwa [chainsTotal_nil, Int.add_zero]
      change RollsDice group (n + 1) total _ ([].flatten ++ drawnFaces requests)
      exact .faulty (List.forall_mem_nil _) undone inside fault
    · rintro chain requests outcome more ⟨drawn, isChain⟩ later
      rw [drawnFaces_append, drawn]
      exact later isChain

/-- Behind its dice a group only has its numbers to be written. -/
theorem AnswersInRange.observes_rollEvery (answers : source.AnswersInRange)
    (sided : 1 ≤ group.sides) :
    (source.observed.rollEvery group).Observes (source.rollEvery group) fun outcome requests =>
      ∃ dice, RollsDice group group.count.toNat 0 dice (drawnFaces requests) ∧
        outcome = dice.bind fun chains => (writing group.numbers).map fun _ => chains := by
  refine (answers.observes_rollDice sided group.count.toNat
    (by decide : (0 : Int) ≤ Decimal.maxInt)).bind (fun chains => show Rolling.Observes _ _
      (fun outcome more => outcome = (writingRolled group chains).map (fun _ => chains) ∧
        more = []) from ?_) ?_ ?_
  · cases writingRolled group chains with
    | ok => exact Rolling.observes_pure ⟨rfl, rfl⟩
    | error failure => exact Rolling.observes_fail ⟨rfl, rfl⟩
  · exact fun failure requests rolls => ⟨_, rolls, rfl⟩
  · rintro chains requests _ more rolls ⟨rfl, rfl⟩
    rw [List.append_nil]
    refine ⟨_, rolls, ?_⟩
    generalize drawnFaces requests = drawn at rolls
    cases rolls with
    | all each every within =>
      rw [Int.zero_add] at within
      rw [DiceGroup.writingRolled_eq each within]
      rfl

/-- All dice of a group that answers are done, and show what was drawn. -/
theorem AnswersInRange.observes_chains (answers : source.AnswersInRange)
    (sided : 1 ≤ group.sides) :
    (source.observed.rollEvery group).Observes (source.rollEvery group) fun outcome requests =>
      ∀ chains, outcome = .ok chains → (∀ chain ∈ chains, group.IsChain chain) ∧
        chains.length = group.count.toNat ∧ chainsTotal chains ≤ Decimal.maxInt ∧
        drawnFaces requests = chains.flatten := by
  refine (answers.observes_rollEvery sided).mono ?_
  rintro outcome requests ⟨dice, rolls, comes⟩ chains rfl
  generalize drawnFaces requests = drawn at rolls
  obtain ⟨others, rfl, written⟩ := Except.bind_eq_ok.mp comes.symm
  obtain ⟨_, _, rfl⟩ := Except.map_eq_ok.mp written
  cases rolls with
  | all each every within => exact ⟨each, every, by rwa [Int.zero_add] at within, rfl⟩

end Source

end DiceTable
