import DiceTable.Proofs.Grammar.Acceptance
import DiceTable.Proofs.Grammar.LongestMatch
import DiceTable.Proofs.Rolling.FullItems
import DiceTable.Proofs.Totals.Operands

/-! # Texts that are rolled piece by piece

A text that becomes tokens is divided into items without loss, and each item stands for its token
(`Lexeme.Denotes`). Where no item starts, the text in front of this place becomes tokens on its own.
Behind a text that becomes tokens, a text that starts with an operator is rolled as it is on its
own, from where the first one leaves the source and with as many dice fewer as the first one has
(`Source.tokenize_append`). Its errors are then the same but for the limit and the position in
their sentences (`DiceError.behind`), if the limit has no more digits than are written.
-/

namespace DiceTable

/-- The tokens that an item stands for, whatever its dice come to. -/
inductive Lexeme.Denotes : Lexeme → Token → Prop
  | dice {spelling : DiceSpelling} {group : DiceGroup} {chains : List Chain}
      (read : spelling.group (String.ofList spelling.chars) = .ok group)
      (every : chains.length = group.count.toNat) :
      Denotes (.dice spelling) (.operand (.rolled group chains))
  | number {run : List Char} {value : Int}
      (read : readNumber run (String.ofList run) = .ok value) :
      Denotes (.number run) (.operand (.literal value))
  | operator (op : Operator) : Denotes (.operator op) (.operator op)

/-- The groups that are rolled for tokens. -/
def Token.groups (tokens : List Token) : List DiceGroup :=
  tokens.flatMap fun token => token.plan.group?.toList

/-- How an error of a text reads behind another text, where both are under one limit. -/
def DiceError.behind (limit : Limit) (front : List Char) : DiceError → DiceError
  | .tooManyDice group _ fragment => .tooManyDice group limit.text fragment
  | .unexpected c position rest => .unexpected c (front.length + position) rest
  | error => error

/-- How a failure of a text reads behind another text. An error that shows the limit takes the
limit to be written. -/
def Failure.behind (limit : Limit) (front : List Char) : Failure → Failure
  | .dice (.tooManyDice group shown fragment) =>
    limit.refusal ((DiceError.tooManyDice group shown fragment).behind limit front)
  | .dice error => .dice (error.behind limit front)
  | failure => failure

theorem Failure.behind_of_isShort {limit : Limit} (short : limit.IsShort) (front : List Char)
    (error : DiceError) :
    (Failure.dice error).behind limit front = .dice (error.behind limit front) := by
  cases error with
  | tooManyDice group shown fragment => exact short.refusal_eq _
  | _ => rfl

theorem DiceError.kind_behind (limit : Limit) (front : List Char) (error : DiceError) :
    (error.behind limit front).kind = error.kind := by
  cases error <;> rfl

theorem DiceError.fragment_behind (limit : Limit) (front : List Char) (error : DiceError) :
    (error.behind limit front).fragment = error.fragment := by
  cases error <;> rfl

namespace Rolling

variable {σ α β : Type} {change : Failure → Failure}

def withFailure (change : Failure → Failure) (x : Rolling σ α) : Rolling σ α := fun state =>
  ((x state).1.mapError change, (x state).2)

theorem withFailure_pure (a : α) : (pure a : Rolling σ α).withFailure change = pure a := rfl

theorem withFailure_fail (failure : Failure) :
    (fail failure : Rolling σ α).withFailure change = fail (change failure) := rfl

theorem withFailure_bind (x : Rolling σ α) (next : α → Rolling σ β) :
    (x >>= next).withFailure change =
      x.withFailure change >>= fun a => (next a).withFailure change := by
  funext state
  simp only [withFailure, bind_apply]
  rcases x state with ⟨outcome, after⟩
  cases outcome <;> rfl

theorem Yields.withFailure_eq {x : Rolling σ α} {good : α → Prop} {allowed : Failure → Prop}
    (yields : x.Yields good allowed)
    (same : ∀ failure, allowed failure → change failure = failure) :
    x.withFailure change = x := by
  funext state
  have outcome := yields state
  unfold withFailure
  rcases run : x state with ⟨result, after⟩
  rw [run] at outcome
  cases result with
  | ok a => rfl
  | error failure => exact Prod.ext (congrArg Except.error (same failure outcome)) rfl

end Rolling

section Plan

variable {limit : Limit} {front : List Char} {failure : Failure}

theorem behind_of_readNumber {run : List Char} {fragment : String}
    (failed : readNumber run fragment = .error failure) : failure.behind limit front = failure := by
  obtain ⟨refusal, _, rfl⟩ := Except.mapError_eq_error.mp failed
  cases refusal <;> rfl

theorem DiceSpelling.behind_of_group {dice : DiceSpelling} {fragment : String}
    (failed : dice.group fragment = .error failure) : failure.behind limit front = failure := by
  rw [group_eq] at failed
  rcases Except.bind_eq_error.mp failed with failed | ⟨_, _, failed⟩
  · unfold readCount at failed
    split at failed
    · cases failed
    · exact behind_of_readNumber failed
  · rcases Except.bind_eq_error.mp failed with failed | ⟨_, _, failed⟩
    · exact behind_of_readNumber failed
    · cases failed

theorem DiceGroup.behind_of_check {group : DiceGroup} (written : writing group.numbers = .ok ())
    (failed : group.check = .error failure) : failure.behind limit front = failure := by
  have named (error : String → DiceError) : group.failure error = .dice (error group.text) :=
    Failure.naming_of_writing written _
  unfold check at failed
  rw [named, named] at failed
  split at failed
  · cases failed
    rfl
  · split at failed <;> cases failed
    rfl

/-- An error that shows a lower limit shows the whole limit behind another text. -/
theorem behind_refusal {bound dice : Int}
    (shrinks : (bound : Limit).IsShort → ((bound - dice : Int) : Limit).IsShort)
    (group : String) (fragment : String) :
    (((bound - dice : Int) : Limit).refusal
      (.tooManyDice group ((bound - dice : Int) : Limit).text fragment)).behind bound front =
        (bound : Limit).refusal (.tooManyDice group (bound : Limit).text fragment) := by
  by_cases short : ((bound - dice : Int) : Limit).IsShort
  · rw [short.refusal_eq]
    rfl
  · rw [Limit.refusal_of_not_isShort short, Limit.refusal_of_not_isShort (mt shrinks short)]
    rfl

/-- Dice that have been started before count like a limit that is lower by as many. -/
theorem Lexeme.plan_behind {bound dice : Int}
    (shrinks : (bound : Limit).IsShort → ((bound - dice : Int) : Limit).IsShort) {item : Lexeme}
    (known : item.IsOperand ∨ item.IsOperator) (started : Int) (front : List Char) :
    item.plan bound (started + dice) =
      ((item.plan ((bound - dice : Int) : Limit) started).map
        fun planned => (planned.1, planned.2 + dice)).mapError (Failure.behind bound front) := by
  cases item with
  | dice spelling =>
    have wellFormed : spelling.WellFormed := known.resolve_right id
    cases read : spelling.group (String.ofList spelling.chars) with
    | error failure =>
      simp only [plan, read, bind, Except.bind]
      exact congrArg Except.error (DiceSpelling.behind_of_group read).symm
    | ok group =>
      have written := DiceSpelling.writing_of_group wellFormed read
      have lower : (bound : Limit).exceededBy? (started + dice + group.count) =
          ((bound - dice : Int) : Limit).exceededBy? (started + group.count) := by
        simp only [Limit.exceededBy?, Limit.ofInt, Option.some.injEq, decide_eq_decide]
        omega
      cases exceeded : ((bound - dice : Int) : Limit).exceededBy? (started + group.count) with
      | none => cases exceeded
      | some isOver =>
        cases isOver with
        | true =>
          rw [plan_of_exceeded wellFormed read (lower.trans exceeded),
            plan_of_exceeded wellFormed read exceeded]
          exact congrArg Except.error (behind_refusal shrinks _ _).symm
        | false =>
          simp only [plan, read, bind, Except.bind, Limit.guard_eq_ok.mpr exceeded,
            Limit.guard_eq_ok.mpr (lower.trans exceeded)]
          cases checked : group.check with
          | error failure =>
            exact congrArg Except.error (DiceGroup.behind_of_check written checked).symm
          | ok _ => exact congrArg Except.ok (Prod.ext rfl (Int.add_right_comm _ _ _))
  | number run =>
    cases read : readNumber run (String.ofList run) with
    | error failure =>
      simp only [plan, read, bind, Except.bind]
      exact congrArg Except.error (behind_of_readNumber read).symm
    | ok value =>
      simp only [plan, read, bind, Except.bind]
      rfl
  | operator op => rfl

end Plan

namespace Source

variable {σ : Type} {source : Source σ} {limit : Limit} {started : Int} {state after : σ}
  {tokens : List Token} {items : List Lexeme} {front back : List Char}

/-- What is rolled fails with the total of a group or by a fault, which read the same everywhere. -/
theorem withFailure_carryOut (source : Source σ) {plan : Plan}
    (rollable : ∀ group, plan = .roll group → group.Rollable) (limit : Limit) (front : List Char) :
    (source.carryOut plan).withFailure (Failure.behind limit front) = source.carryOut plan := by
  cases plan with
  | roll group =>
    have rolled := source.rollEvery_yields_any (rollable group rfl)
    unfold carryOut
    rw [Rolling.withFailure_bind, rolled.withFailure_eq]
    · rfl
    · rintro _ (rfl | ⟨fault, rfl⟩) <;> rfl
  | literal value => rfl
  | operator op => rfl

/-- Dice that have been started before count like a limit that is lower by as many. -/
theorem rollItems_behind (source : Source σ) {bound dice : Int}
    (shrinks : (bound : Limit).IsShort → ((bound - dice : Int) : Limit).IsShort)
    (known : ∀ item ∈ items, item.IsOperand ∨ item.IsOperator) (started : Int)
    (front : List Char) :
    source.rollItems bound (started + dice) items =
      (source.rollItems ((bound - dice : Int) : Limit) started items).withFailure
        (Failure.behind bound front) := by
  induction items generalizing started with
  | nil => rfl
  | cons item items ih =>
    obtain ⟨here, later⟩ := List.forall_mem_cons.mp known
    have planned := Lexeme.plan_behind shrinks here started front
    cases alone : item.plan ((bound - dice : Int) : Limit) started with
    | error failure =>
      rw [alone] at planned
      rw [rollItems_of_refused planned, rollItems_of_refused alone, Rolling.withFailure_fail]
    | ok pair =>
      obtain ⟨plan, next⟩ := pair
      have rollable (group : DiceGroup) (rolls : plan = .roll group) : group.Rollable :=
        Lexeme.rollable_of_plan here (rolls ▸ alone)
      rw [alone] at planned
      rw [rollItems_cons planned, rollItems_cons alone, Rolling.withFailure_bind,
        source.withFailure_carryOut rollable, ih later]
      simp only [Rolling.withFailure_bind, Rolling.withFailure_pure]

/-- Items are rolled behind others with the dice of these others started. -/
theorem rollItems_append (source : Source σ) (limit : Limit) (started : Int)
    (items others : List Lexeme) :
    source.rollItems limit started (items ++ others) =
      source.rollItems limit started items >>= fun tokens =>
        source.rollItems limit (started + DiceGroup.total (Lexeme.groups items)) others >>=
          fun more => pure (tokens ++ more) := by
  induction items generalizing started with
  | nil =>
    have none : started + DiceGroup.total (Lexeme.groups []) = started := Int.add_zero started
    rw [none, rollItems, pure_bind]
    exact (bind_pure _).symm
  | cons item items ih =>
    rw [List.cons_append]
    cases planned : item.plan limit started with
    | error failure =>
      rw [rollItems_of_refused planned, rollItems_of_refused planned]
      rfl
    | ok pair =>
      obtain ⟨plan, next⟩ := pair
      have counted := (Lexeme.group?_of_plan planned).2.1
      rw [rollItems_cons planned, rollItems_cons planned, Lexeme.groups_cons,
        DiceGroup.total_append, ← Int.add_assoc, ← counted, ih next]
      simp only [bind_assoc, pure_bind, List.cons_append]

/-- The groups of tokens are those of their items. -/
theorem groups_of_rollItems
    (rolled : (source.rollItems limit started items state).1 = .ok tokens) :
    Token.groups tokens = Lexeme.groups items := by
  induction items generalizing started state tokens with
  | nil =>
    cases rolled
    rfl
  | cons item items ih =>
    obtain ⟨plan, next, token, after, more, planned, run, later, rfl⟩ :=
      exists_of_rollItems_cons rolled
    have same : token.plan = plan :=
      (source.carryOut_plan plan).good_of_ok (congrArg Prod.fst run)
    rw [Lexeme.groups_cons, ← ih later, ← (Lexeme.group?_of_plan planned).1, ← same]
    rfl

/-- Each item stands for its token. -/
theorem rollItems_denotes (source : Source σ) (limit : Limit)
    (known : ∀ item ∈ items, item.IsOperand ∨ item.IsOperator) (started : Int) :
    (source.rollItems limit started items).Yields (List.Forall₂ Lexeme.Denotes items)
      fun _ => True := by
  refine rollItems_yields (fun item member started plan next planned => ?_) started
  cases item with
  | dice spelling =>
    obtain ⟨group, read, _, _, rfl, _⟩ := Lexeme.plan_dice_eq_ok.mp planned
    have rollable := Lexeme.rollable_of_plan (known _ member) planned
    have dies := (source.rollDie_yields_any group.sides group.exploding).mono (fun _ here => here)
      fun _ _ => trivial
    have chains := rollEvery_yields rollable dies fun _ _ _ _ _ => trivial
    refine (chains.mono (fun _ good => good.1) fun _ _ => trivial).bind fun _ every => ?_
    exact Rolling.yields_pure (.dice read every)
  | number run =>
    obtain ⟨value, read, rfl, _⟩ := Lexeme.plan_number_eq_ok.mp planned
    exact Rolling.yields_pure (.number read)
  | operator op =>
    cases planned
    exact Rolling.yields_pure (.operator op)

/-- The items of a text are rolled before its rest is looked at. -/
theorem tokenize_of_divides (source : Source σ) (limit : Limit) {text rest : List Char}
    (divides : Lexeme.Divides text items rest) :
    source.tokenize limit text = source.rollItems limit 0 items >>= fun tokens =>
      match rest with
      | [] => pure tokens
      | c :: tail => Rolling.fail
        (.dice (.unexpected c (text.length - tail.length) (String.ofList (c :: tail)))) := by
  unfold tokenize
  rewrite [Lexeme.scan_eq_iff.mpr divides]
  rfl

/-- A text that becomes tokens is divided into items. -/
theorem exists_of_tokenize (rolled : source.tokenize limit front state = (.ok tokens, after)) :
    ∃ items, Lexeme.Divides front items [] ∧
      source.rollItems limit 0 items state = (.ok tokens, after) := by
  have divides := Lexeme.divides_scan front
  rw [(tokenize_eq_ok.mp (congrArg Prod.fst rolled)).2] at divides
  rw [source.tokenize_of_scan limit (Lexeme.scan_eq_iff.mpr divides)] at rolled
  exact ⟨_, divides, rolled⟩

/-- The dice of items that are rolled are within the limit, if there are any. -/
theorem total_of_rollItems {bound : Int} (known : ∀ item ∈ items, item.IsOperand ∨ item.IsOperator)
    (rolled : (source.rollItems bound 0 items state).1 = .ok tokens) :
    let dice := DiceGroup.total (Lexeme.groups items)
    dice = 0 ∨ 0 ≤ dice ∧ dice ≤ bound := by
  intro dice
  have all := schedule_of_rollItems rolled
  rcases Lexeme.schedule_within bound 0 items with none | within
  · rw [all] at none
    exact .inl (congrArg DiceGroup.total none)
  · rw [all, Int.zero_add] at within
    have counted : ∀ group ∈ Lexeme.groups items, 0 ≤ group.count := by
      intro group member
      rw [← all] at member
      exact Int.le_trans (by decide) (Lexeme.rollable_of_mem_schedule known member).count
    have length := DiceGroup.length_flatMap_dice counted
    refine .inr ⟨by omega, ?_⟩
    simpa [Limit.exceededBy?, Limit.ofInt] using within

/-- Where a limit is written, so is what dice within the limit leave of it. -/
theorem isShort_sub {bound dice : Int} (within : dice = 0 ∨ 0 ≤ dice ∧ dice ≤ bound)
    (short : (bound : Limit).IsShort) : ((bound - dice : Int) : Limit).IsShort := by
  rw [Limit.isShort_ofInt] at short ⊢
  rcases within with rfl | ⟨nonneg, within⟩
  · rwa [Int.sub_zero]
  · exact Decimal.isShort_of_le (by omega) (by omega) (by decide) short

/-- Behind a text that becomes tokens, a text that closes it is rolled as it is on its own, from the
state that the first text leaves and with a limit that is lower by its dice. -/
theorem tokenize_append {bound : Int}
    (rolled : source.tokenize bound front state = (.ok tokens, after))
    (closes : Lexeme.Closes back) :
    let dice := DiceGroup.total (Token.groups tokens)
    let alone := source.tokenize ((bound - dice : Int) : Limit) back after
    source.tokenize bound (front ++ back) state =
      ((alone.1.map (tokens ++ ·)).mapError (Failure.behind bound front), alone.2) := by
  intro dice alone
  obtain ⟨items, first, run⟩ := exists_of_tokenize rolled
  have second := Lexeme.divides_scan back
  have known := Lexeme.forall_mem_scan back
  have inFront := Lexeme.forall_mem_scan front
  rw [Lexeme.scan_eq_iff.mpr first] at inFront
  have within := total_of_rollItems inFront (congrArg Prod.fst run)
  rw [← groups_of_rollItems (congrArg Prod.fst run)] at within
  have behind := source.rollItems_behind (isShort_sub within) known 0 front
  have counted : (0 : Int) + DiceGroup.total (Lexeme.groups items) = 0 + dice := by
    rw [← groups_of_rollItems (congrArg Prod.fst run)]
  have spelled := congrArg List.length second.spelling_append
  simp only [alone, source.tokenize_of_divides _ second,
    source.tokenize_of_divides _ (first.append closes second), rollItems_append, bind_assoc,
    pure_bind, counted]
  rw [behind]
  simp only [Rolling.bind_apply, run, Rolling.withFailure]
  rcases source.rollItems ((bound - dice : Int) : Limit) 0 (Lexeme.scan back).1 after with
    ⟨outcome, last⟩
  cases outcome with
  | error failure => rfl
  | ok more =>
    cases rest : (Lexeme.scan back).2 with
    | nil => rfl
    | cons c tail =>
      rw [rest] at spelled
      have position : (front ++ back).length - tail.length =
          front.length + (back.length - tail.length) := by
        simp only [List.length_append, List.length_cons] at spelled ⊢
        omega
      simp only [position]
      rfl

/-- Where a text fails at a character, the text in front of it becomes tokens, and no item starts
there. -/
theorem exists_of_tokenize_unexpected {text : List Char} {c : Char} {position : Nat}
    {written : String}
    (failed : source.tokenize limit text state =
      (.error (.dice (.unexpected c position written)), after)) :
    ∃ front tail tokens, text = front ++ c :: tail ∧ position = front.length + 1 ∧
      written = String.ofList (c :: tail) ∧
      source.tokenize limit front state = (.ok tokens, after) ∧
      ∀ item : Lexeme, ¬item.Matches (c :: tail) := by
  have divides := Lexeme.divides_scan text
  rw [source.tokenize_of_divides limit divides, Rolling.bind_apply] at failed
  rcases run : source.rollItems limit 0 (Lexeme.scan text).1 state with ⟨outcome, last⟩
  rw [run] at failed
  cases outcome with
  | error failure =>
    cases failed
    -- No item is refused for an unexpected character.
    rcases source.failsOnlyBy_isFault.rollItems_error (Lexeme.forall_mem_scan text)
      (congrArg Prod.fst run) with refusal | ⟨_, same⟩
    · exact (refusal.not_malformed rfl).elim
    · cases same
  | ok tokens =>
    cases rest : (Lexeme.scan text).2 with
    | nil =>
      rw [rest] at failed
      cases failed
    | cons first tail =>
      rw [rest] at failed divides
      cases failed
      have spelled := divides.spelling_append
      have length := congrArg List.length spelled
      simp only [List.length_append, List.length_cons] at length
      refine ⟨_, tail, tokens, spelled.symm, by omega, rfl, ?_, ?_⟩
      · rw [source.tokenize_of_scan limit (Lexeme.scan_eq_iff.mpr divides.cut)]
        exact run
      · rw [← rest]
        exact Lexeme.next?_eq_none_iff.mp (Lexeme.next?_scan_rest text)

/-- A text that becomes tokens is divided into items without loss, each being what its part of the
text starts with, and each item stands for its token. Behind it, a text that starts with an
operator makes its own draws from where the first text leaves the source, under the limit that
the dice of the first text leave; the tokens go one behind the other, and the failures are those of
the second text, of the same kind and with the same fragment. An error only turns into another
failure if it shows a limit of more digits than are written. Where a text fails at a character, all
in front of it becomes tokens, and no item starts there. -/
theorem tokenize_pieces (source : Source σ) (bound : Int) (text : List Char) (state : σ) :
    (∀ tokens after, source.tokenize bound text state = (.ok tokens, after) →
      (∃ items, Lexeme.Divides text items [] ∧ items.flatMap Lexeme.spelling = text ∧
        List.Forall₂ Lexeme.Denotes items tokens) ∧
      ∀ op : Operator, op.IsArithmetic → ∀ more,
        let back := op.text.toList ++ more
        let dice := DiceGroup.total (Token.groups tokens)
        let alone := source.tokenize ((bound - dice : Int) : Limit) back after
        source.tokenize bound (text ++ back) state =
          ((alone.1.map (tokens ++ ·)).mapError (Failure.behind bound text), alone.2)) ∧
    (∀ c position written after,
      source.tokenize bound text state =
        (.error (.dice (.unexpected c position written)), after) →
      ∃ front tail tokens, text = front ++ c :: tail ∧ position = front.length + 1 ∧
        written = String.ofList (c :: tail) ∧
        source.tokenize bound front state = (.ok tokens, after) ∧
        ∀ item : Lexeme, ¬item.Matches (c :: tail)) ∧
    (∀ error : DiceError, (error.behind bound text).kind = error.kind ∧
      (error.behind bound text).fragment = error.fragment) ∧
    (Decimal.isShort Decimal.digitLimit bound → ∀ error,
      (Failure.dice error).behind bound text = .dice (error.behind bound text)) := by
  refine ⟨fun tokens after rolled => ⟨?_, fun op known more => ?_⟩,
    fun c position written after failed => exists_of_tokenize_unexpected failed,
    fun error => ⟨error.kind_behind bound text, error.fragment_behind bound text⟩,
    fun short error => Failure.behind_of_isShort (Limit.isShort_ofInt.mpr short) text error⟩
  · obtain ⟨items, divides, run⟩ := exists_of_tokenize rolled
    have spelled := divides.spelling_append
    rw [List.append_nil] at spelled
    have known := Lexeme.forall_mem_scan text
    rw [Lexeme.scan_eq_iff.mpr divides] at known
    have denoted := (source.rollItems_denotes bound known 0).good_of_ok (congrArg Prod.fst run)
    exact ⟨items, divides, spelled, denoted⟩
  · exact tokenize_append rolled (Lexeme.closes_operator_append known more)

/-- Dice whose count and mark are read as they are, a group behind them that the limit has no dice
left for, and a count without sides. -/
theorem tokenize_pieces_limited :
    let tokens : List Token :=
      [.operand (.rolled ⟨2, 6, true⟩ [[1], [1]]), .operator .add, .operand (.literal 7)]
    let refused (limit : String) : Except Failure (List Token) × Unit :=
      (.error (.dice (.tooManyDice "2d4" limit "2D4")), ())
    lowestSource.tokenize (3 : Int) "2D06!!+07".toList () = (.ok tokens, ()) ∧
      Operator.IsArithmetic .sub ∧
      lowestSource.tokenize (1 : Int) "-2D4".toList () = refused "1" ∧
      lowestSource.tokenize (3 : Int) "2D06!!+07-2D4".toList () = refused "3" ∧
      lowestSource.tokenize (3 : Int) "12d".toList () =
        (.error (.dice (.unexpected 'd' 3 "d")), ()) ∧
      ∃ tokens, lowestSource.tokenize (3 : Int) "12".toList () = (.ok tokens, ()) := by
  intro tokens refused
  have rolled : lowestSource.tokenize (3 : Int) "2D06!!+07".toList () = (.ok tokens, ()) := by
    decide +kernel
  have alone : lowestSource.tokenize (1 : Int) "-2D4".toList () = refused "1" := by
    decide +kernel
  have failed : lowestSource.tokenize (3 : Int) "12d".toList () =
      (.error (.dice (.unexpected 'd' 3 "d")), ()) := by
    decide +kernel
  have known : Operator.IsArithmetic .sub := .inl rfl
  obtain ⟨whole, _⟩ := lowestSource.tokenize_pieces 3 "2D06!!+07".toList ()
  have joined := (whole tokens () rolled).2 .sub known "2D4".toList
  have spelled : "2D06!!+07".toList ++ (Operator.sub.text.toList ++ "2D4".toList) =
      "2D06!!+07-2D4".toList := by decide
  have second : Operator.sub.text.toList ++ "2D4".toList = "-2D4".toList := by decide
  have left : (3 - DiceGroup.total (Token.groups tokens) : Int) = 1 := by decide
  obtain ⟨_, broken, _⟩ := lowestSource.tokenize_pieces 3 "12d".toList ()
  obtain ⟨front, tail, before, cut, position, _, complete, _⟩ := broken 'd' 3 "d" () failed
  refine ⟨rolled, known, alone, ?_, failed, before, ?_⟩
  · dsimp only at joined
    rw [spelled, left, second, alone] at joined
    exact joined
  · have length : front.length = 2 := by omega
    have taken := congrArg (List.take 2) cut
    rw [← length, List.take_left, length] at taken
    rw [← taken] at complete
    exact complete

end Source

end DiceTable
