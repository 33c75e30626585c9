import DiceTable.Proofs.Rolling.Evaluation
import DiceTable.Proofs.Rolling.Observation
import Mathlib.Data.List.Infix

/-! # The requests of an evaluation

An evaluation makes no other requests than those for the dice of the groups that are scheduled, one
die after the other, and it makes all of them unless the source gives no answer or the faces of a
group add up beyond the range (`Source.observes_evaluate`). So whatever a text comes to, it is known
what the source is asked for and how often (`Source.evaluate_requests`).
-/

namespace DiceTable

/-- All dice that items spell, in their order. -/
def Lexeme.row (items : List Lexeme) : List DiceGroup :=
  (groups items).flatMap DiceGroup.dice

namespace Expression

def row (text : String) : List DiceGroup :=
  match classify text with
  | .ok expression => expression.groups.flatMap DiceGroup.dice
  | .error _ => []

/-- The dice of the groups that are scheduled. -/
def scheduled (limit : Limit) (expression : Expression) : List DiceGroup :=
  (expression.schedule limit).flatMap DiceGroup.dice

end Expression

namespace Source

variable {σ : Type} {source : Source σ} {limit : Limit} {state : σ}

section Items

variable {started : Int} {items : List Lexeme}

theorem observes_carryOut (source : Source σ) {plan : Plan}
    (rollable : ∀ group, plan = .roll group → group.Rollable) :
    (source.observed.carryOut plan).Observes (source.carryOut plan)
      (Throws (plan.group?.toList.flatMap DiceGroup.dice)) := by
  cases plan with
  | roll group =>
    have row : (Plan.roll group).group?.toList.flatMap DiceGroup.dice = group.dice :=
      List.append_nil _
    rw [row]
    exact (source.observes_rollEvery (rollable group rfl)).throws_silent fun chains =>
      Rolling.observes_pure rfl
  | literal value => exact Rolling.observes_pure (throws_nil _)
  | operator op => exact Rolling.observes_pure (throws_nil _)

theorem carryOut_breaksOff (source : Source σ) {plan : Plan}
    (rollable : ∀ group, plan = .roll group → group.Rollable) :
    (source.carryOut plan).Yields (fun _ => True) Failure.BreaksOff := by
  cases plan with
  | roll group =>
    have breaks := (source.rollEvery_yields_any (rollable group rfl)).mono (fun _ here => here)
      fun failure failed =>
        (failed.imp_left fun total => ⟨group.text, total⟩ : failure.BreaksOff)
    exact breaks.bind fun chains _ => Rolling.yields_pure trivial
  | literal value => exact Rolling.yields_pure trivial
  | operator op => exact Rolling.yields_pure trivial

/-- Items throw the dice of the groups that are scheduled. -/
theorem observes_rollItems (source : Source σ) (limit : Limit) (started : Int)
    (known : ∀ item ∈ items, item.IsOperand ∨ item.IsOperator) :
    (source.observed.rollItems limit started items).Observes
      (source.rollItems limit started items)
      (Throws ((Lexeme.schedule limit started items).flatMap DiceGroup.dice)) := by
  induction items generalizing started with
  | nil => exact Rolling.observes_pure (throws_nil _)
  | cons item items ih =>
    obtain ⟨here, later⟩ := List.forall_mem_cons.mp known
    cases planned : item.plan limit started with
    | error failure =>
      rw [Lexeme.schedule_of_refused planned, rollItems_of_refused planned,
        rollItems_of_refused planned]
      exact Rolling.observes_fail (throws_nil _)
    | ok pair =>
      obtain ⟨plan, next⟩ := pair
      have rollable (group : DiceGroup) (rolls : plan = .roll group) : group.Rollable :=
        Lexeme.rollable_of_plan here (rolls ▸ planned)
      rw [rollItems_cons planned, rollItems_cons planned, Lexeme.schedule_cons planned,
        List.flatMap_append, ← (Lexeme.group?_of_plan planned).1]
      refine (source.observes_carryOut rollable).throws (source.carryOut_breaksOff rollable)
        fun token => ?_
      exact (ih next later).throws_silent fun tokens => Rolling.observes_pure rfl

end Items

section Evaluate

variable {text : String} {expression : Expression}

theorem observes_tokenize (source : Source σ) (limit : Limit) (text : List Char) :
    (source.observed.tokenize limit text).Observes (source.tokenize limit text)
      (Throws ((Lexeme.schedule limit 0 (Lexeme.scan text).1).flatMap DiceGroup.dice)) := by
  refine (source.observes_rollItems limit 0 (Lexeme.forall_mem_scan text)).throws_silent
    fun tokens => ?_
  cases (Lexeme.scan text).2 with
  | nil => exact Rolling.observes_pure rfl
  | cons c tail => exact Rolling.observes_fail rfl

/-- A test within the limit throws its dice, and any other test throws none. -/
theorem observes_runTest (source : Source σ) (limit : Limit) {test : SkillTest}
    (rollable : test.group.Rollable) :
    (source.observed.runTest limit test).Observes (source.runTest limit test)
      (Throws ((Expression.test test).scheduled limit)) := by
  unfold runTest
  cases guarded : limit.guard test.count
      (.tooManyTestDice test.count test.sides limit.text test.canonical)
      [test.count, test.sides] with
  | error failure =>
    have notWithin : limit.exceededBy? test.count ≠ some false := by
      intro within
      rw [Limit.guard_eq_ok.mpr within] at guarded
      cases guarded
    rw [Expression.scheduled, Expression.schedule, if_neg notWithin]
    exact Rolling.observes_fail (throws_nil _)
  | ok =>
    have row : (Expression.test test).scheduled limit =
        List.replicate test.count.toNat test.group := by
      rw [Expression.scheduled, Expression.schedule, if_pos (Limit.guard_eq_ok.mp guarded)]
      exact List.append_nil _
    rw [row]
    exact (source.observes_scoreDice rollable test.not_exploding_group test.target _).throws_silent
      fun outcomes => Rolling.observes_pure rfl

/-- An expression throws the dice of the groups that are scheduled. -/
theorem observes_evaluate (source : Source σ) (limit : Limit)
    (classified : Expression.classify text = .ok expression) :
    (source.observed.evaluate limit text).Observes (source.evaluate limit text)
      (Throws (expression.scheduled limit)) := by
  unfold evaluate
  rw [classified]
  change (source.observed.roll limit expression).Observes (source.roll limit expression) _
  cases expression with
  | test test =>
    exact (source.observes_runTest limit (Expression.rollable_of_classify classified)).throws_silent
      fun result => Rolling.observes_pure rfl
  | arithmetic canonical =>
    refine (source.observes_tokenize limit canonical.toList).throws_silent fun tokens => ?_
    cases calculateTokens tokens canonical with
    | ok result => exact Rolling.observes_pure rfl
    | error failure => exact Rolling.observes_fail rfl

/-- An expression that has a result has had all of its groups scheduled. -/
theorem schedule_of_evaluate {result : RollResult}
    (classified : Expression.classify text = .ok expression)
    (run : (source.evaluate limit text state).1 = .ok result) :
    expression.schedule limit = expression.groups := by
  obtain ⟨_, reclassified, rolled⟩ := evaluate_eq_ok.mp run
  rw [classified] at reclassified
  cases reclassified
  cases expression with
  | test test =>
    obtain ⟨_, _, run, _⟩ := Rolling.bind_eq_ok.mp rolled
    obtain ⟨_, passed, _⟩ := Rolling.ofExcept_bind_eq_ok.mp (congrArg Prod.fst run)
    exact if_pos (Limit.guard_eq_ok.mp passed)
  | arithmetic canonical =>
    obtain ⟨tokens, _, tokenized, _⟩ := roll_arithmetic_eq_ok.mp rolled
    exact schedule_of_rollItems (tokenize_eq_ok.mp tokenized).1

/-- The dice that are thrown are within the limit, unless there are none. -/
theorem within_of_thrown (classified : Expression.classify text = .ok expression)
    {dice : List DieLog} (thrown : Thrown (expression.scheduled limit) dice) :
    dice = [] ∨ limit.exceededBy? dice.length = some false := by
  have counted : ∀ group ∈ expression.schedule limit, 0 ≤ group.count := by
    intro group member
    have rollable := Expression.rollable_of_mem_schedule classified member
    exact Int.le_trans (by decide) rollable.count
  refine (expression.schedule_within limit).imp (fun empty => ?_) fun within => ?_
  · rw [Expression.scheduled, empty] at thrown
    exact thrown.eq_nil
  · have all : (expression.scheduled limit).length = DiceGroup.total (expression.schedule limit) :=
      DiceGroup.length_flatMap_dice counted
    have most := thrown.length_le
    exact Limit.exceededBy?_mono (by omega) within

/-- A test that is over the limit throws nothing. -/
theorem refuses_test_of_exceeded {test : SkillTest}
    (classified : Expression.classify text = .ok (.test test))
    (exceeded : limit.exceededBy? test.count = some true) {dice : List DieLog}
    (thrown : Thrown ((Expression.test test).scheduled limit) dice) :
    dice = [] ∧ (source.evaluate limit text state).1 =
      .error (limit.refusal
        (.tooManyTestDice test.count test.sides limit.text test.canonical)) := by
  constructor
  · have empty : (Expression.test test).scheduled limit = [] := by
      rw [Expression.scheduled, Expression.schedule, exceeded]
      rfl
    rw [empty] at thrown
    exact thrown.eq_nil
  · have rollable := Expression.rollable_of_classify classified
    exact evaluate_eq_error.mpr
      (.inr ⟨_, classified, source.roll_test_of_exceeded rollable exceeded state⟩)

section Exceeded

variable {canonical : String} {front back : List Lexeme}

/-- Arithmetic fails with what its items fail with. -/
theorem evaluate_of_rollItems_error {failure : Failure}
    (classified : Expression.classify text = .ok (.arithmetic canonical))
    (failed : (source.rollItems limit 0 (Lexeme.scan canonical.toList).1 state).1 =
      .error failure) :
    (source.evaluate limit text state).1 = .error failure := by
  have tokenize : (source.tokenize limit canonical.toList state).1 = .error failure :=
    Rolling.bind_eq_error.mpr (.inl failed)
  exact evaluate_eq_error.mpr (.inr ⟨_, classified, Rolling.bind_eq_error.mpr (.inl tokenize)⟩)

/-- A group that takes the dice over the limit throws nothing, and neither does what comes after
it; when it is come to, all dice in front of it have settled. -/
theorem refuses_group_of_exceeded
    (classified : Expression.classify text = .ok (.arithmetic canonical))
    {spelling : DiceSpelling} {group : DiceGroup}
    (spelled : (Lexeme.scan canonical.toList).1 = front ++ .dice spelling :: back)
    (read : spelling.group (String.ofList spelling.chars) = .ok group)
    (exceeded : limit.exceededBy? (DiceGroup.total (Lexeme.groups front) + group.count) = some true)
    {dice : List DieLog} (thrown : Thrown ((Expression.arithmetic canonical).scheduled limit) dice)
    (ended : Thrown.All ((Expression.arithmetic canonical).scheduled limit) dice ∨
      ∃ failure, (source.evaluate limit text state).1 = .error failure ∧ failure.BreaksOff) :
    let start := (source.rollItems limit 0 front state).1
    Thrown (Lexeme.row front) dice ∧
      (∀ tokens, start = .ok tokens → Thrown.All (Lexeme.row front) dice ∧
        (source.evaluate limit text state).1 = .error (limit.refusal
          (.tooManyDice group.text limit.text (String.ofList spelling.chars)))) ∧
      ∀ failure, start = .error failure →
        (source.evaluate limit text state).1 = .error failure := by
  intro start
  have wellFormed : spelling.WellFormed := by
    have known := Lexeme.forall_mem_scan canonical.toList (.dice spelling)
    rw [spelled] at known
    exact (known (List.mem_append_right front List.mem_cons_self)).resolve_right id
  have refused : (Lexeme.dice spelling).plan limit
      (0 + DiceGroup.total (Lexeme.groups front)) = .error _ :=
    Lexeme.plan_of_exceeded wellFormed read (by rwa [Int.zero_add])
  have scheduled : (Expression.arithmetic canonical).scheduled limit =
      (Lexeme.schedule limit 0 front).flatMap DiceGroup.dice := by
    rw [Expression.scheduled, Expression.schedule, spelled,
      Lexeme.schedule_append_of_refused refused]
  rw [scheduled] at thrown ended
  refine ⟨thrown.mono (List.IsPrefix.flatMap (Lexeme.schedule_prefix_groups limit 0 front) _),
    fun tokens rolled => ?_, fun failure failed => ?_⟩
  · have items := rollItems_append_of_refused rolled refused back
    rw [← spelled] at items
    have failed := evaluate_of_rollItems_error classified items
    refine ⟨?_, failed⟩
    -- The refusal is not what breaks dice off, so those that were scheduled have settled.
    rcases ended with all | ⟨failure, broken, breaks⟩
    · rwa [schedule_of_rollItems rolled] at all
    · rw [failed] at broken
      cases broken
      refine absurd breaks (limit.not_breaksOff_refusal ?_)
      rintro other ⟨⟩
  · have items := rollItems_append_error failed (.dice spelling :: back)
    rw [← spelled] at items
    exact evaluate_of_rollItems_error classified items

end Exceeded

/-- Whether an evaluation comes to a result or not, it has asked its source for the dice of the text
and for nothing else: the dice are thrown from left to right, never more of them than the limit
says, and on success all of them. A test over the limit throws no dice. A group that takes the dice
over the limit throws none, and there are none behind it; unless something in front of it has failed
already, all dice in front of it have settled by then. Either refusal is an error of the expression
wherever the limit it shows is written (`Limit.IsShort.refusal_eq`). -/
theorem evaluate_requests (source : Source σ) (limit : Limit) (text : String) (state : σ) :
    let run := source.evaluate limit text state
    ∃ dice : List DieLog,
      source.observed.evaluate limit text (state, []) =
        (run.1, run.2, dice.flatMap DieLog.inquiries) ∧
      Thrown (Expression.row text) dice ∧
      (∀ result, run.1 = .ok result → Thrown.All (Expression.row text) dice) ∧
      (dice = [] ∨ limit.exceededBy? dice.length = some false) ∧
      (∀ bound : Int, limit = bound → dice.length ≤ max 0 bound) ∧
      (∀ test, Expression.classify text = .ok (.test test) →
        limit.exceededBy? test.count = some true →
        dice = [] ∧ run.1 = .error (limit.refusal
          (.tooManyTestDice test.count test.sides limit.text test.canonical))) ∧
      ∀ canonical front spelling back group,
        Expression.classify text = .ok (.arithmetic canonical) →
        (Lexeme.scan canonical.toList).1 = front ++ .dice spelling :: back →
        spelling.group (String.ofList spelling.chars) = .ok group →
        limit.exceededBy? (DiceGroup.total (Lexeme.groups front) + group.count) = some true →
        let start := (source.rollItems limit 0 front state).1
        Thrown (Lexeme.row front) dice ∧
          (∀ tokens, start = .ok tokens → Thrown.All (Lexeme.row front) dice ∧
            run.1 = .error (limit.refusal
              (.tooManyDice group.text limit.text (String.ofList spelling.chars)))) ∧
          ∀ failure, start = .error failure → run.1 = .error failure := by
  intro run
  cases classified : Expression.classify text with
  | error failure =>
    have empty : Expression.row text = [] := by
      rw [Expression.row, classified]
    have failed : run = (.error failure, state) := by
      simp only [run, evaluate, classified]
      rfl
    have observed : source.observed.evaluate limit text (state, []) =
        (.error failure, state, []) := by
      simp only [evaluate, classified]
      rfl
    rw [failed, empty]
    refine ⟨[], observed, .nil, nofun, .inl rfl, fun bound _ => ?_, nofun, nofun⟩
    exact Int.le_max_left 0 bound
  | ok expression =>
    obtain ⟨requests, same, dice, rfl, thrown, ended⟩ :=
      source.observes_evaluate limit classified state []
    have row : Expression.row text = expression.groups.flatMap DiceGroup.dice := by
      rw [Expression.row, classified]
    have within := within_of_thrown classified thrown
    rw [row]
    refine ⟨dice, same,
      thrown.mono (List.IsPrefix.flatMap (expression.schedule_prefix_groups limit) _),
      fun result answer => ?_, within, fun bound limited => ?_, ?_, ?_⟩
    · rw [Expression.scheduled, schedule_of_evaluate classified answer] at ended
      refine ended.resolve_right ?_
      rintro ⟨failure, failed, _⟩
      rw [answer] at failed
      cases failed
    · rcases within with rfl | within
      · exact Int.le_max_left 0 bound
      · rw [limited] at within
        have below : ¬bound < dice.length := of_decide_eq_false (Option.some.inj within)
        omega
    · rintro test ⟨⟩ exceeded
      exact refuses_test_of_exceeded classified exceeded thrown
    · rintro canonical front spelling back group ⟨⟩ spelled read exceeded
      exact refuses_group_of_exceeded classified spelled read exceeded thrown ended

/-- The third group takes the dice over the limit: the groups in front of it are thrown to their
end, with an explosion that does not count, and nothing else is. -/
theorem evaluate_requests_third_group :
    let text := "d6!! + 2d4 + 3d8 + d10"
    let run := listedSource.evaluate (5 : Int) text [6, 3, 1, 2, 7, 7]
    run = (.error (.dice (.tooManyDice "3d8" "5" "3d8")), [7, 7]) ∧
    ∃ dice : List DieLog,
      listedSource.observed.evaluate (5 : Int) text ([6, 3, 1, 2, 7, 7], []) =
        (run.1, run.2, dice.flatMap DieLog.inquiries) ∧
      dice.flatMap DieLog.inquiries =
        [⟨1, 6, .ok 6⟩, ⟨1, 6, .ok 3⟩, ⟨1, 4, .ok 1⟩, ⟨1, 4, .ok 2⟩] ∧
      Thrown.All [⟨1, 6, true⟩, ⟨2, 4, false⟩, ⟨2, 4, false⟩] dice := by
  intro text run
  obtain ⟨dice, same, _, _, _, _, _, exceeded⟩ :=
    evaluate_requests listedSource (5 : Int) text [6, 3, 1, 2, 7, 7]
  have requests : (listedSource.observed.evaluate (5 : Int) text ([6, 3, 1, 2, 7, 7], [])).2.2 =
      [⟨1, 6, .ok 6⟩, ⟨1, 6, .ok 3⟩, ⟨1, 4, .ok 1⟩, ⟨1, 4, .ok 2⟩] := by
    decide +kernel
  let front : List Lexeme :=
    [.dice ⟨[], 'd', ['6'], true⟩, .operator .add, .dice ⟨['2'], 'd', ['4'], false⟩, .operator .add]
  have rolled : (listedSource.rollItems (5 : Int) 0 front [6, 3, 1, 2, 7, 7]).1.map List.length =
      .ok 4 := by
    decide +kernel
  obtain ⟨tokens, start, _⟩ := Except.map_eq_ok.mp rolled
  obtain ⟨_, stops, _⟩ := exceeded "d6!!+2d4+3d8+d10" front ⟨['3'], 'd', ['8'], false⟩
    [.operator .add, .dice ⟨[], 'd', ['1', '0'], false⟩] ⟨3, 8, false⟩ (by decide +kernel)
    (by decide +kernel) (by decide +kernel) (by decide +kernel)
  obtain ⟨all, failed⟩ := stops tokens start
  refine ⟨by decide +kernel, dice, same, ?_, all⟩
  rw [same] at requests
  exact requests

end Evaluate

end Source

end DiceTable
