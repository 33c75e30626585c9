import DiceTable.Dice.SkillTest
import DiceTable.Proofs.Except
import DiceTable.Proofs.Rolling.Dice

/-! # What a source is asked for

`Source.observed` keeps a log of all requests to a source, answered or not, and changes nothing
else: whatever is rolled with it comes to the same (`Rolling.Observes`). The requests of a roll are
those for its dice. They come die by die, in the order of the groups that the dice belong to, and no
die is begun before the last one has settled (`Thrown`); as long as nothing breaks the roll off, all
dice are begun and all of them settle (`Thrown.All`).
-/

namespace DiceTable

/-- A request for an integer of `[low, high]`, and what became of it. -/
structure Inquiry where
  low : Int
  high : Int
  answer : Except SourceFault Int
  deriving DecidableEq, Repr

/-- The same source with a log of all requests that are made to it, in their order. -/
def Source.observed {σ : Type} (source : Source σ) : Source (σ × List Inquiry) where
  next low high state :=
    let (answer, after) := source.next low high state.1
    (answer, after, state.2 ++ [⟨low, high, answer⟩])
  patience state := source.patience state.1

/-- The requests for one die of a group: how often its maximum made it explode, and what came of the
last request. -/
structure DieLog where
  group : DiceGroup
  explosions : Nat
  last : Except SourceFault Int
  deriving DecidableEq, Repr

namespace DieLog

/-- All requests for a die, each of them for one of its faces. -/
def inquiries (die : DieLog) : List Inquiry :=
  List.replicate die.explosions ⟨1, die.group.sides, .ok die.group.sides⟩ ++
    [⟨1, die.group.sides, die.last⟩]

/-- The last request was answered, and the die does not explode any further. -/
def Settled (die : DieLog) : Prop :=
  ∃ face, die.last = .ok face ∧ (die.group.exploding → face ≠ die.group.sides)

/-- The requests can be met, by more than one face if the die explodes, and only exploding dice are
rolled more than once. -/
structure Lawful (die : DieLog) : Prop where
  sides : 1 ≤ die.group.sides
  bounded : die.group.sides ≤ Decimal.maxInt
  many : die.group.exploding → 2 ≤ die.group.sides
  plain : ¬die.group.exploding → die.explosions = 0

end DieLog

/-- Of some dice in a row, the first ones are thrown, one after the other. -/
structure Thrown (row : List DiceGroup) (dice : List DieLog) : Prop where
  inTurn : dice.map DieLog.group <+: row
  lawful : ∀ die ∈ dice, die.Lawful
  settled : ∀ die ∈ dice.dropLast, die.Settled

/-- All dice of a row are thrown to their end. -/
structure Thrown.All (row : List DiceGroup) (dice : List DieLog) : Prop where
  every : dice.map DieLog.group = row
  settled : ∀ die ∈ dice, die.Settled

namespace Thrown

variable {row rest : List DiceGroup} {dice others : List DieLog}

theorem nil : Thrown row [] :=
  ⟨List.nil_prefix, nofun, nofun⟩

/-- There may be more dice in the row behind those that are thrown. -/
theorem mono (thrown : Thrown row dice) (longer : row <+: rest) : Thrown rest dice :=
  ⟨thrown.inTurn.trans longer, thrown.lawful, thrown.settled⟩

/-- When all dice have settled, more are thrown. -/
theorem append (thrown : Thrown row dice) (all : All row dice) (later : Thrown rest others) :
    Thrown (row ++ rest) (dice ++ others) := by
  refine ⟨?_, fun die member => ?_, fun die member => ?_⟩
  · rw [List.map_append, all.every]
    exact (List.prefix_append_right_inj row).mpr later.inTurn
  · exact (List.mem_append.mp member).elim (thrown.lawful die) (later.lawful die)
  · cases others with
    | nil =>
      rw [List.append_nil] at member
      exact thrown.settled die member
    | cons other others =>
      rw [List.dropLast_append_of_ne_nil (List.cons_ne_nil _ _)] at member
      exact (List.mem_append.mp member).elim (all.settled die) (later.settled die)

theorem All.append (all : All row dice) (later : All rest others) :
    All (row ++ rest) (dice ++ others) :=
  ⟨by rw [List.map_append, all.every, later.every],
    List.forall_mem_append.mpr ⟨all.settled, later.settled⟩⟩

/-- No more dice are thrown than there are in the row. -/
theorem length_le (thrown : Thrown row dice) : dice.length ≤ row.length := by
  have within := thrown.inTurn.length_le
  rwa [List.length_map] at within

theorem eq_nil (thrown : Thrown [] dice) : dice = [] :=
  List.length_eq_zero_iff.mp (Nat.le_zero.mp thrown.length_le)

end Thrown

/-- A failure that comes up while dice are rolled. -/
def Failure.BreaksOff (failure : Failure) : Prop :=
  (∃ group, failure = .dice (.diceTotal group)) ∨ failure.IsFault

/-- What is refused under a limit is not broken off, unless it would be otherwise. -/
theorem Limit.not_breaksOff_refusal (limit : Limit) {error : DiceError}
    (other : ∀ group, error ≠ .diceTotal group) : ¬(limit.refusal error).BreaksOff := by
  rw [refusal]
  rcases Failure.naming_cases ([] ++ limit.numbers) error with named | named
  · rw [named]
    rintro (⟨group, same⟩ | ⟨_, ⟨⟩⟩)
    cases same
    exact other group rfl
  · rw [named]
    rintro (⟨_, ⟨⟩⟩ | ⟨_, ⟨⟩⟩)

/-- The requests are those for the dice in a row, up to where a failure breaks them off. -/
def Throws {α : Type} (row : List DiceGroup) (outcome : Except Failure α)
    (requests : List Inquiry) : Prop :=
  ∃ dice, requests = dice.flatMap DieLog.inquiries ∧ Thrown row dice ∧
    (Thrown.All row dice ∨ ∃ failure, outcome = .error failure ∧ failure.BreaksOff)

theorem throws_nil {α : Type} (outcome : Except Failure α) : Throws [] outcome [] :=
  ⟨[], rfl, .nil, .inl ⟨rfl, nofun⟩⟩

/-- A failure passes through whatever would have come next. -/
theorem Throws.error {α β : Type} {row : List DiceGroup} {failure : Failure}
    {requests : List Inquiry} (throws : Throws row (.error failure : Except Failure α) requests) :
    Throws row (.error failure : Except Failure β) requests := by
  obtain ⟨dice, same, thrown, ended⟩ := throws
  refine ⟨dice, same, thrown, ended.imp_right ?_⟩
  rintro ⟨_, ⟨⟩, broken⟩
  exact ⟨failure, rfl, broken⟩

namespace Rolling

variable {σ α β : Type} {plain : Rolling σ α} {observed : Rolling (σ × List Inquiry) α}
  {next : α → Rolling σ β} {observedNext : α → Rolling (σ × List Inquiry) β}
  {fits : Except Failure α → List Inquiry → Prop}

/-- An observed computation comes to what the plain one comes to, and its requests fit that. -/
def Observes (observed : Rolling (σ × List Inquiry) α) (plain : Rolling σ α)
    (fits : Except Failure α → List Inquiry → Prop) : Prop :=
  ∀ state log, ∃ requests,
    observed (state, log) = ((plain state).1, (plain state).2, log ++ requests) ∧
      fits (plain state).1 requests

theorem observes_pure {a : α} (here : fits (.ok a) []) :
    Observes (pure a) (pure a : Rolling σ α) fits :=
  fun state log => ⟨[], by rw [List.append_nil]; rfl, here⟩

theorem observes_fail {failure : Failure} (here : fits (.error failure) []) :
    Observes (fail failure) (fail failure : Rolling σ α) fits :=
  fun state log => ⟨[], by rw [List.append_nil]; rfl, here⟩

theorem Observes.mono (observes : observed.Observes plain fits)
    {wider : Except Failure α → List Inquiry → Prop}
    (widen : ∀ outcome requests, fits outcome requests → wider outcome requests) :
    observed.Observes plain wider := by
  intro state log
  obtain ⟨requests, same, here⟩ := observes state log
  exact ⟨requests, same, widen _ _ here⟩

/-- A computation that goes on makes its first requests and then its later ones. -/
theorem Observes.bind {later : α → Except Failure β → List Inquiry → Prop}
    {both : Except Failure β → List Inquiry → Prop} (first : observed.Observes plain fits)
    (second : ∀ a, (observedNext a).Observes (next a) (later a))
    (stops : ∀ failure requests, fits (.error failure) requests → both (.error failure) requests)
    (goesOn : ∀ a requests outcome more, fits (.ok a) requests → later a outcome more →
      both outcome (requests ++ more)) :
    (observed >>= observedNext).Observes (plain >>= next) both := by
  intro state log
  obtain ⟨requests, same, here⟩ := first state log
  simp only [bind_apply, same]
  rcases run : plain state with ⟨outcome, after⟩
  rw [run] at here
  cases outcome with
  | error failure => exact ⟨requests, rfl, stops failure requests here⟩
  | ok a =>
    obtain ⟨more, sameNext, there⟩ := second a after (log ++ requests)
    refine ⟨requests ++ more, ?_, goesOn a requests _ more here there⟩
    rw [← List.append_assoc]
    exact sameNext

/-- What is known of all failures is known of the one that was observed. -/
theorem Observes.and_yields (observes : observed.Observes plain fits) {good : α → Prop}
    {allowed : Failure → Prop} (yields : plain.Yields good allowed) :
    observed.Observes plain fun outcome requests =>
      fits outcome requests ∧ ∀ failure, outcome = .error failure → allowed failure := by
  intro state log
  obtain ⟨requests, same, here⟩ := observes state log
  exact ⟨requests, same, here, fun failure failed => yields.allowed_of_error failed⟩

/-- An answer that was observed is as good as any. -/
theorem Observes.and_good (observes : observed.Observes plain fits) {good : α → Prop}
    {allowed : Failure → Prop} (yields : plain.Yields good allowed) :
    observed.Observes plain fun outcome requests =>
      fits outcome requests ∧ ∀ a, outcome = .ok a → good a := by
  intro state log
  obtain ⟨requests, same, here⟩ := observes state log
  exact ⟨requests, same, here, fun a answer => yields.good_of_ok answer⟩

section Throws

variable {row rest : List DiceGroup}

/-- What comes after dice that only fail by breaking off throws the dice that come next. -/
theorem Observes.throws (first : observed.Observes plain (Throws row))
    (breaks : plain.Yields (fun _ => True) Failure.BreaksOff)
    (second : ∀ a, (observedNext a).Observes (next a) (Throws rest)) :
    (observed >>= observedNext).Observes (plain >>= next) (Throws (row ++ rest)) := by
  refine (first.and_yields breaks).bind second ?_ ?_
  · rintro failure requests ⟨⟨dice, same, thrown, _⟩, broken⟩
    have longer := thrown.mono (List.prefix_append row rest)
    exact ⟨dice, same, longer, .inr ⟨failure, rfl, broken failure rfl⟩⟩
  · rintro a requests outcome more ⟨⟨dice, same, thrown, ended⟩, _⟩
      ⟨others, sameLater, later, endedLater⟩
    have all : Thrown.All row dice := ended.resolve_right nofun
    refine ⟨dice ++ others, ?_, thrown.append all later, endedLater.imp_left all.append⟩
    rw [List.flatMap_append, same, sameLater]

/-- What makes no request leaves it at the dice that were thrown. -/
theorem Observes.throws_silent (first : observed.Observes plain (Throws row))
    (second : ∀ a, (observedNext a).Observes (next a) fun _ requests => requests = []) :
    (observed >>= observedNext).Observes (plain >>= next) (Throws row) := by
  refine first.bind second (fun _ _ throws => throws.error) ?_
  rintro a requests outcome more ⟨dice, same, thrown, ended⟩ rfl
  rw [List.append_nil]
  exact ⟨dice, same, thrown, .inl (ended.resolve_right nofun)⟩

end Throws

end Rolling

/-- The requests are those for one die of a group, which settles unless the source fails. -/
def ThrowsDie {α : Type} (group : DiceGroup) (outcome : Except Failure α)
    (requests : List Inquiry) : Prop :=
  ∃ die : DieLog, die.group = group ∧ requests = die.inquiries ∧
    (¬group.exploding → die.explosions = 0) ∧
    (die.Settled ∨ ∃ failure, outcome = .error failure ∧ failure.IsFault)

theorem ThrowsDie.throws {α : Type} {group : DiceGroup} {outcome : Except Failure α}
    {requests : List Inquiry} (rollable : group.Rollable)
    (throwsDie : ThrowsDie group outcome requests) : Throws [group] outcome requests := by
  obtain ⟨die, rfl, rfl, plain, ended⟩ := throwsDie
  have lawful : die.Lawful := by
    refine ⟨rollable.sides, rollable.bounded, fun exploding => ?_, plain⟩
    have sided := rollable.sides
    have ending := rollable.ending exploding
    omega
  refine ⟨[die], (List.append_nil _).symm, ⟨List.prefix_rfl, ?_, nofun⟩, ended.imp ?_ ?_⟩
  · exact List.forall_mem_singleton.mpr lawful
  · exact fun settled => ⟨rfl, List.forall_mem_singleton.mpr settled⟩
  · rintro ⟨failure, failed, fault⟩
    exact ⟨failure, failed, .inr fault⟩

namespace Source

variable {σ : Type} {source : Source σ} {group : DiceGroup}

/-- A draw is one request, and comes to what is answered. -/
theorem observes_draw (source : Source σ) (low high : Int) :
    (source.observed.draw low high).Observes (source.draw low high) fun outcome requests =>
      ∃ answer, requests = [⟨low, high, answer⟩] ∧ outcome = answer.mapError .source := by
  intro state log
  rcases run : source.next low high state with ⟨answer, after⟩
  refine ⟨[⟨low, high, answer⟩], ?_, answer, rfl, ?_⟩
  · cases answer <;> simp only [draw, observed, run]
  · cases answer <;> simp only [draw, run] <;> rfl

/-- A plain die is one request. -/
theorem observes_draw_die (plain : ¬group.exploding) :
    (source.observed.draw 1 group.sides).Observes (source.draw 1 group.sides)
      (ThrowsDie group) := by
  refine (source.observes_draw 1 group.sides).mono ?_
  rintro outcome requests ⟨answer, rfl, rfl⟩
  refine ⟨⟨group, 0, answer⟩, rfl, rfl, fun _ => rfl, ?_⟩
  cases answer with
  | ok face => exact .inl ⟨face, rfl, fun exploding => absurd exploding plain⟩
  | error fault => exact .inr ⟨_, rfl, fault, rfl⟩

/-- An exploding die goes on with its maximum, or is at rest with any other face. -/
theorem observes_explode_succ (exploding : group.exploding) {fuel : Nat}
    (rest : (source.observed.explode group.sides fuel).Observes (source.explode group.sides fuel)
      fun outcome requests =>
        requests = [] ∧ (∃ failure, outcome = .error failure ∧ failure.IsFault) ∨
          ThrowsDie group outcome requests) :
    (source.observed.explode group.sides (fuel + 1)).Observes
      (source.explode group.sides (fuel + 1)) (ThrowsDie group) := by
  have plain {explosions : Nat} : ¬group.exploding → explosions = 0 :=
    fun never => absurd exploding never
  -- Behind a maximum, either the fuel is spent or the same die goes on.
  refine (source.observes_draw 1 group.sides).bind (fun face =>
    show Rolling.Observes _ _ (fun outcome more =>
      (face = group.sides ∧
        (more = [] ∧ (∃ failure, outcome = .error failure ∧ failure.IsFault) ∨
          ThrowsDie group outcome more)) ∨
      face ≠ group.sides ∧ more = []) from ?_) ?_ ?_
  · split
    · rename_i maximum
      refine rest.bind (fun chain => show Rolling.Observes _ _ (fun _ more => more = []) from
        Rolling.observes_pure rfl) (fun failure requests here => .inl ⟨maximum, here⟩) ?_
      rintro chain requests outcome more (⟨_, _, ⟨⟩, _⟩ | ⟨die, same, asked, _, ended⟩) rfl
      have settled : die.Settled := ended.resolve_right nofun
      rw [List.append_nil]
      exact .inl ⟨maximum, .inr ⟨die, same, asked, plain, .inl settled⟩⟩
    · rename_i other
      exact Rolling.observes_pure (.inr ⟨other, rfl⟩)
  · rintro failure requests ⟨answer, rfl, failed⟩
    obtain ⟨fault, rfl, rfl⟩ := Except.mapError_eq_error.mp failed.symm
    exact ⟨⟨group, 0, .error fault⟩, rfl, rfl, plain, .inr ⟨_, rfl, fault, rfl⟩⟩
  · rintro face requests outcome more ⟨answer, rfl, drawn⟩ later
    obtain rfl := Except.mapError_eq_ok.mp drawn.symm
    rcases later with ⟨rfl, ⟨rfl, faulty⟩ | ⟨die, rfl, rfl, _, ended⟩⟩ | ⟨other, rfl⟩
    · exact ⟨⟨group, 0, .ok group.sides⟩, rfl, rfl, plain, .inr faulty⟩
    · refine ⟨⟨die.group, die.explosions + 1, die.last⟩, rfl, ?_, plain, ended⟩
      rw [DieLog.inquiries, DieLog.inquiries, List.replicate_succ]
      rfl
    · exact ⟨⟨group, 0, .ok face⟩, rfl, rfl, plain, .inl ⟨face, rfl, fun _ => other⟩⟩

/-- However long a chain gets, its requests are those for one die. -/
theorem observes_explode (exploding : group.exploding) (fuel : Nat) :
    (source.observed.explode group.sides (fuel + 1)).Observes
      (source.explode group.sides (fuel + 1)) (ThrowsDie group) := by
  induction fuel with
  | zero =>
    refine observes_explode_succ exploding (Rolling.observes_fail ?_)
    exact .inl ⟨rfl, _, rfl, _, rfl⟩
  | succ fuel ih => exact observes_explode_succ exploding (ih.mono fun _ _ => .inr)

theorem observes_rollDie (source : Source σ) (rollable : group.Rollable) :
    (source.observed.rollDie group.sides group.exploding).Observes
      (source.rollDie group.sides group.exploding) (Throws [group]) := by
  cases exploding : group.exploding with
  | true =>
    intro state log
    exact ((observes_explode exploding (source.patience state)).mono
      fun _ _ => ThrowsDie.throws rollable) state log
  | false =>
    have plain : ¬group.exploding := Bool.eq_false_iff.mp exploding
    have drawn : (source.observed.draw 1 group.sides).Observes (source.draw 1 group.sides)
        (Throws [group]) := (observes_draw_die plain).mono fun _ _ => ThrowsDie.throws rollable
    exact drawn.throws_silent fun face => Rolling.observes_pure rfl

/-- The dice of a group are thrown one after the other, while their total is in the range. -/
theorem observes_rollDice (source : Source σ) (rollable : group.Rollable) (n : Nat) (total : Int) :
    (source.observed.rollDice group n total).Observes (source.rollDice group n total)
      (Throws (List.replicate n group)) := by
  induction n generalizing total with
  | zero => exact Rolling.observes_pure (throws_nil _)
  | succ n ih =>
    have breaks : (source.rollDie group.sides group.exploding).Yields (fun _ => True)
        Failure.BreaksOff :=
      (source.rollDie_yields_any group.sides group.exploding).mono (fun _ _ => trivial)
        fun _ fault => .inr fault
    refine (source.observes_rollDie rollable).throws breaks fun chain => ?_
    dsimp only
    split
    · rw [rollable.failure_eq]
      exact Rolling.observes_fail ⟨[], rfl, .nil, .inr ⟨_, rfl, .inl ⟨_, rfl⟩⟩⟩
    · exact (ih _).throws_silent fun chains => Rolling.observes_pure rfl

/-- Writing the audit line throws no more dice. -/
theorem observes_rollEvery (source : Source σ) (rollable : group.Rollable) :
    (source.observed.rollEvery group).Observes (source.rollEvery group)
      (Throws (List.replicate group.count.toNat group)) := by
  refine (source.observes_rollDice rollable group.count.toNat 0).throws_silent fun chains => ?_
  cases writingRolled group chains with
  | ok => exact Rolling.observes_pure rfl
  | error failure => exact Rolling.observes_fail rfl

theorem observes_scoreDice (source : Source σ) (rollable : group.Rollable)
    (plain : ¬group.exploding) (target : Int) (n : Nat) :
    (source.observed.scoreDice target group.sides n).Observes
      (source.scoreDice target group.sides n) (Throws (List.replicate n group)) := by
  induction n with
  | zero => exact Rolling.observes_pure (throws_nil _)
  | succ n ih =>
    have drawn : (source.observed.draw 1 group.sides).Observes (source.draw 1 group.sides)
        (Throws [group]) := (observes_draw_die plain).mono fun _ _ => ThrowsDie.throws rollable
    have breaks : (source.draw 1 group.sides).Yields (fun _ => True) Failure.BreaksOff :=
      (source.draw_yields_any 1 group.sides).mono (fun _ _ => trivial) fun _ fault => .inr fault
    refine drawn.throws breaks fun raw => ?_
    exact ih.throws_silent fun outcomes => Rolling.observes_pure rfl

end Source

end DiceTable
