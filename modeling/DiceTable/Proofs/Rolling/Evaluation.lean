import DiceTable.Dice.Expression
import DiceTable.Proofs.Rolling.Schedule
import Mathlib.Data.List.Forall2

/-! # The course of an evaluation

An evaluation classifies an expression, rolls its dice and, for arithmetic, calculates. For each of
these parts it is said here when it answers and how it fails, whatever the source of random integers
is like. The items of arithmetic are read and rolled one by one, so that an overlong item only
matters once all items in front of it are rolled (`Source.ComesToOverlong`).
-/

namespace DiceTable

namespace Expression

variable {text : String}

/-- The three ways to classify an expression, by its text without blanks. -/
theorem classify_cases (text : String) :
    (Text.compact text.toList = [] ∧ classify text = .error (.dice .empty)) ∨
      (∃ spelling, TestSpelling.read? (Text.compact text.toList) = some spelling ∧
        classify text =
          (spelling.test (String.ofList (Text.compact text.toList))).map .test) ∨
      (TestSpelling.read? (Text.compact text.toList) = none ∧
        classify text = .ok (.arithmetic (String.ofList (Text.compact text.toList)))) := by
  unfold classify compact
  cases left : Text.compact text.toList with
  | nil => exact .inl ⟨rfl, rfl⟩
  | cons c rest =>
    refine .inr ?_
    have compacted : (Except.ok (String.ofList (c :: rest))).mapError Failure.dice =
        .ok (String.ofList (c :: rest)) := rfl
    simp only [compacted, bind, Except.bind, String.toList_ofList]
    cases read : TestSpelling.read? (c :: rest) with
    | none => exact .inr ⟨rfl, rfl⟩
    | some spelling =>
      refine .inl ⟨spelling, rfl, ?_⟩
      dsimp only
      cases spelling.test (String.ofList (c :: rest)) <;> rfl

/-- A text that is classified as a test spells this test. -/
theorem spelling_of_classify {test : SkillTest} (classified : classify text = .ok (.test test)) :
    ∃ spelling, TestSpelling.read? (Text.compact text.toList) = some spelling ∧
      spelling.test (String.ofList (Text.compact text.toList)) = .ok test := by
  rcases classify_cases text with ⟨_, same⟩ | ⟨spelling, spelled, same⟩ | ⟨_, same⟩
  · rw [same] at classified
    cases classified
  · rw [same] at classified
    obtain ⟨_, read, answer⟩ := Except.map_eq_ok.mp classified
    cases answer
    exact ⟨spelling, spelled, read⟩
  · rw [same] at classified
    cases classified

/-- A test is classified with its canonical text, and its dice have at least one side. -/
theorem test_of_classify {test : SkillTest} (classified : classify text = .ok (.test test)) :
    test.canonical = String.ofList (Text.compact text.toList) ∧ 1 ≤ test.sides := by
  obtain ⟨_, _, read⟩ := spelling_of_classify classified
  exact TestSpelling.test_eq_ok read

/-- The dice of a test that is classified can be rolled. -/
theorem rollable_of_classify {test : SkillTest} (classified : classify text = .ok (.test test)) :
    test.group.Rollable := by
  obtain ⟨_, spelled, read⟩ := spelling_of_classify classified
  exact TestSpelling.rollable_of_test (TestSpelling.wellFormed_of_read? spelled) read

theorem arithmetic_of_classify {canonical : String}
    (classified : classify text = .ok (.arithmetic canonical)) :
    canonical = String.ofList (Text.compact text.toList) := by
  rcases classify_cases text with ⟨_, same⟩ | ⟨spelling, _, same⟩ | ⟨_, same⟩
  · rw [same] at classified
    cases classified
  · rw [same] at classified
    obtain ⟨_, _, answer⟩ := Except.map_eq_ok.mp classified
    cases answer
  · rw [same] at classified
    cases classified
    rfl

theorem rollable_of_mem_schedule {expression : Expression}
    (classified : classify text = .ok expression) {limit : Limit} {group : DiceGroup}
    (member : group ∈ expression.schedule limit) : group.Rollable := by
  cases expression with
  | test skillTest =>
    have single : group ∈ [skillTest.group] :=
      (schedule_prefix_groups limit (.test skillTest)).subset member
    rw [List.mem_singleton.mp single]
    exact rollable_of_classify classified
  | arithmetic canonical =>
    exact Lexeme.rollable_of_mem_schedule (Lexeme.forall_mem_scan _) member

theorem classify_compact (text : String) :
    classify (String.ofList (Text.compact text.toList)) = classify text := by
  simp only [classify, compact, String.toList_ofList, Text.compact_compact]

end Expression

theorem canonical_of_calculateTokens {tokens : List Token} {canonical : String}
    {result : ArithmeticResult} (calculated : calculateTokens tokens canonical = .ok result) :
    result.canonical = canonical := by
  obtain ⟨_, _, calculated⟩ := Except.bind_eq_ok.mp calculated
  obtain ⟨_, _, answer⟩ := Except.bind_eq_ok.mp calculated
  cases answer
  rfl

namespace Source

variable {σ : Type} {source : Source σ} {fault : Failure → Prop} {limit : Limit} {state : σ}
  {failure : Failure}

/-- Where the checks are passed, dice fail with the total of their group or by a fault. -/
structure FailsOnlyBy (source : Source σ) (fault : Failure → Prop) : Prop where
  group : ∀ group : DiceGroup, group.Rollable →
    (source.rollEvery group).Yields (fun _ => True)
      (fun failure => failure = .dice (.diceTotal group.text) ∨ fault failure)
  face : ∀ sides, 1 ≤ sides → (source.draw 1 sides).Yields (fun _ => True) fault

theorem failsOnlyBy_isFault (source : Source σ) : source.FailsOnlyBy Failure.IsFault where
  group _ rollable := source.rollEvery_yields_any rollable
  face sides _ := source.draw_yields_any 1 sides

theorem Serves.failsOnlyBy (serves : source.Serves fault) : source.FailsOnlyBy fault where
  group _ rollable := (serves.rollEvery rollable).mono (fun _ _ => trivial) fun _ failed => failed
  face sides sided := (serves.face sides sided).mono (fun _ _ => trivial) fun _ failed => failed

/-- What stands on one side of a relation has a partner on the other. -/
theorem exists_of_forall₂ {α β : Type} {related : α → β → Prop} {items : List α} {others : List β}
    (all : List.Forall₂ related items others) {b : β} (member : b ∈ others) :
    ∃ a, related a b := by
  induction all with
  | nil => cases member
  | cons here _ ih =>
    rcases List.mem_cons.mp member with rfl | member
    · exact ⟨_, here⟩
    · exact ih member

section Items

variable {started next : Int} {item : Lexeme} {items front : List Lexeme}

theorem rollItems_cons {plan : Plan} {next : Int}
    (planned : item.plan limit started = .ok (plan, next)) :
    source.rollItems limit started (item :: items) =
      source.carryOut plan >>= fun token =>
        source.rollItems limit next items >>= fun tokens => pure (token :: tokens) := by
  rw [rollItems, rollItem_eq, planned, Rolling.ofExcept_ok, pure_bind, bind_assoc]
  simp only [pure_bind]

theorem rollItems_of_refused {failure : Failure}
    (refused : item.plan limit started = .error failure) (items : List Lexeme) :
    source.rollItems limit started (item :: items) = Rolling.fail failure := by
  rw [rollItems, rollItem_eq, refused]
  rfl

/-- Where items are rolled, the first one is planned and carried out, and then come the others. -/
theorem exists_of_rollItems_cons {tokens : List Token}
    (rolled : (source.rollItems limit started (item :: items) state).1 = .ok tokens) :
    ∃ plan next token after more, item.plan limit started = .ok (plan, next) ∧
      source.carryOut plan state = (.ok token, after) ∧
      (source.rollItems limit next items after).1 = .ok more ∧ tokens = token :: more := by
  cases planned : item.plan limit started with
  | error failure =>
    rw [rollItems_of_refused planned] at rolled
    cases rolled
  | ok pair =>
    obtain ⟨plan, next⟩ := pair
    rw [rollItems_cons planned] at rolled
    obtain ⟨token, after, run, rolled⟩ := Rolling.bind_eq_ok.mp rolled
    obtain ⟨more, last, runLater, answer⟩ := Rolling.bind_eq_ok.mp rolled
    cases answer
    exact ⟨plan, next, token, after, more, rfl, run, congrArg Prod.fst runLater, rfl⟩

/-- What each plan is carried out to, item by item, is what all items are rolled to. -/
theorem rollItems_yields {made : Lexeme → Token → Prop}
    (carries : ∀ item ∈ items, ∀ started plan next, item.plan limit started = .ok (plan, next) →
      (source.carryOut plan).Yields (made item) fun _ => True) (started : Int) :
    (source.rollItems limit started items).Yields (List.Forall₂ made items) fun _ => True := by
  induction items generalizing started with
  | nil => exact Rolling.yields_pure .nil
  | cons item items ih =>
    obtain ⟨here, later⟩ := List.forall_mem_cons.mp carries
    cases planned : item.plan limit started with
    | error failure =>
      rw [rollItems_of_refused planned]
      exact Rolling.yields_fail trivial
    | ok pair =>
      obtain ⟨plan, next⟩ := pair
      rw [rollItems_cons planned]
      refine (here started plan next planned).bind fun token made => ?_
      exact (ih later next).bind fun tokens others => Rolling.yields_pure (.cons made others)

/-- What each token is that a plan is carried out to, all tokens are. -/
theorem rollItems_yields_all {kind : Token → Prop}
    (carries : ∀ item ∈ items, ∀ started plan next, item.plan limit started = .ok (plan, next) →
      (source.carryOut plan).Yields kind fun _ => True) (started : Int) :
    (source.rollItems limit started items).Yields (fun tokens => ∀ token ∈ tokens, kind token)
      fun _ => True := by
  have each : (source.rollItems limit started items).Yields
      (List.Forall₂ (fun _ token => kind token) items) fun _ => True :=
    rollItems_yields carries started
  refine each.mono (fun tokens made token member => ?_) fun _ _ => trivial
  obtain ⟨_, here⟩ := exists_of_forall₂ made member
  exact here

/-- Whatever a source answers, the operands of the tokens are written. -/
theorem rollItems_isShort (source : Source σ) (limit : Limit)
    (known : ∀ item ∈ items, item.IsOperand ∨ item.IsOperator) (started : Int) :
    (source.rollItems limit started items).Yields
      (fun tokens => ∀ token ∈ tokens, ∀ operand, token = .operand operand →
        Decimal.isShort Decimal.digitLimit operand.value) fun _ => True := by
  refine rollItems_yields_all (fun item member started plan next planned => ?_) started
  cases plan with
  | roll group =>
    refine (source.rollEvery_isShort group).bind fun chains short => Rolling.yields_pure ?_
    rintro _ ⟨⟩
    exact short
  | operator op => exact Rolling.yields_pure nofun
  | literal value =>
    refine Rolling.yields_pure ?_
    rintro _ ⟨⟩
    cases item with
    | dice spelling =>
      obtain ⟨_, _, _, _, ⟨⟩, _⟩ := Lexeme.plan_dice_eq_ok.mp planned
    | operator op => cases planned
    | number run =>
      obtain ⟨_, read, ⟨⟩, _⟩ := Lexeme.plan_number_eq_ok.mp planned
      obtain ⟨nonneg, within⟩ := le_maxInt_of_readNumber ((known _ member).resolve_right id) read
      exact Decimal.isShort_digitLimit (Int.le_trans (by decide) nonneg) within

/-- With an item that is rolled, the dice of its group are started. -/
theorem next_of_rollItem {token : Token} {after : σ}
    (rolled : source.rollItem limit started item state = (.ok (token, next), after)) :
    next = started + DiceGroup.total item.group?.toList := by
  have answer := congrArg Prod.fst rolled
  rw [rollItem_eq] at answer
  obtain ⟨⟨plan, later⟩, planned, answer⟩ := Rolling.ofExcept_bind_eq_ok.mp answer
  obtain ⟨_, _, _, answer⟩ := Rolling.bind_eq_ok.mp answer
  cases answer
  exact (Lexeme.group?_of_plan planned).2.1

/-- Where all items are rolled, all groups are scheduled. -/
theorem schedule_of_rollItems {tokens : List Token}
    (rolled : (source.rollItems limit started items state).1 = .ok tokens) :
    Lexeme.schedule limit started items = Lexeme.groups items := by
  induction items generalizing started state tokens with
  | nil => rfl
  | cons item items ih =>
    obtain ⟨plan, next, _, _, _, planned, _, later, _⟩ := exists_of_rollItems_cons rolled
    rw [Lexeme.schedule_cons planned, Lexeme.groups_cons, ih later]

/-- What fails in front fails before anything else. -/
theorem rollItems_append_error {failure : Failure}
    (failed : (source.rollItems limit started front state).1 = .error failure)
    (back : List Lexeme) :
    (source.rollItems limit started (front ++ back) state).1 = .error failure := by
  induction front generalizing started state with
  | nil => cases failed
  | cons first front ih =>
    rw [List.cons_append]
    rcases Rolling.bind_eq_error.mp failed with failed | ⟨⟨token, next⟩, after, run, failed⟩
    · exact Rolling.bind_eq_error.mpr (.inl failed)
    · refine Rolling.bind_eq_error.mpr (.inr ⟨(token, next), after, run, ?_⟩)
      rcases Rolling.bind_eq_error.mp failed with failed | ⟨_, _, _, failed⟩
      · exact Rolling.bind_eq_error.mpr (.inl (ih failed))
      · cases failed

/-- An item that is refused is come to when all items in front of it are rolled. -/
theorem rollItems_append_of_refused {tokens : List Token} {failure : Failure}
    (rolled : (source.rollItems limit started front state).1 = .ok tokens)
    (refused : item.plan limit (started + DiceGroup.total (Lexeme.groups front)) = .error failure)
    (back : List Lexeme) :
    (source.rollItems limit started (front ++ item :: back) state).1 = .error failure := by
  induction front generalizing started state tokens with
  | nil =>
    have first : item.plan limit started = .error failure := by
      rwa [Lexeme.groups, List.flatMap_nil, DiceGroup.total_nil, Int.add_zero] at refused
    rw [List.nil_append, rollItems_of_refused first]
    rfl
  | cons first front ih =>
    obtain ⟨plan, next, token, after, _, planned, run, runFront, _⟩ :=
      exists_of_rollItems_cons rolled
    rw [Lexeme.groups_cons, DiceGroup.total_append, ← Int.add_assoc,
      ← (Lexeme.group?_of_plan planned).2.1] at refused
    rw [List.cons_append, rollItems_cons planned]
    refine Rolling.bind_eq_error.mpr (.inr ⟨token, after, run, ?_⟩)
    exact Rolling.bind_eq_error.mpr (.inl (ih runFront refused))

/-- The items are rolled up to one with a property, which may depend on how many dice have been
started in front of it. -/
def ComesTo (source : Source σ) (limit : Limit) (property : Int → Lexeme → Prop) (started : Int)
    (items : List Lexeme) (state : σ) : Prop :=
  ∃ before item after, items = before ++ item :: after ∧
    property (started + DiceGroup.total (Lexeme.groups before)) item ∧
    ∃ tokens, (source.rollItems limit started before state).1 = .ok tokens

/-- The items up to an overlong one are rolled. -/
def ComesToOverlong (source : Source σ) (limit : Limit) :
    (started : Int) → List Lexeme → σ → Prop :=
  source.ComesTo limit fun _ item => item.IsOverlong

/-- The items up to one that takes the dice over the limit are rolled. -/
def ComesToExcess (source : Source σ) (limit : Limit) : (started : Int) → List Lexeme → σ → Prop :=
  source.ComesTo limit fun started item => item.Exceeds limit started

section ComesTo

variable {property : Int → Lexeme → Prop}

theorem comesTo_of_first (here : property started item) (items : List Lexeme) :
    source.ComesTo limit property started (item :: items) state := by
  refine ⟨[], item, items, rfl, ?_, [], rfl⟩
  rwa [Lexeme.groups, List.flatMap_nil, DiceGroup.total_nil, Int.add_zero]

/-- Behind an item that is rolled, the others are rolled as they are on their own. -/
theorem comesTo_of_rest {token : Token} {after : σ}
    (first : source.rollItem limit started item state = (.ok (token, next), after))
    (rest : source.ComesTo limit property next items after) :
    source.ComesTo limit property started (item :: items) state := by
  obtain ⟨before, found, behind, rfl, here, tokens, rolled⟩ := rest
  refine ⟨item :: before, found, behind, rfl, ?_, token :: tokens, ?_⟩
  · rw [Lexeme.groups_cons, DiceGroup.total_append, ← Int.add_assoc, ← next_of_rollItem first]
    exact here
  refine Rolling.bind_eq_ok.mpr ⟨(token, next), after, first, ?_⟩
  rcases run : source.rollItems limit next before after with ⟨outcome, last⟩
  rw [run] at rolled
  cases rolled
  exact Rolling.bind_eq_ok.mpr ⟨tokens, last, run, rfl⟩

end ComesTo

/-- Rolling an item fails for what the item is, with a total, or by a fault. -/
theorem FailsOnlyBy.rollItem_error (fails : source.FailsOnlyBy fault)
    (known : item.IsOperand ∨ item.IsOperator)
    (failed : (source.rollItem limit started item state).1 = .error failure) :
    failure.IsRefusal limit item.IsOverlong (item.Exceeds limit started) ∨ fault failure := by
  rw [rollItem_eq] at failed
  rcases Rolling.ofExcept_bind_eq_error.mp failed with failed | ⟨⟨plan, next⟩, planned, failed⟩
  · exact .inl (Lexeme.plan_error known failed)
  · rcases Rolling.bind_eq_error.mp failed with failed | ⟨_, _, _, failed⟩
    · cases plan with
      | roll group =>
        have rollable := Lexeme.rollable_of_plan known planned
        rcases Rolling.bind_eq_error.mp failed with failed | ⟨_, _, _, failed⟩
        · refine ((fails.group group rollable).allowed_of_error failed).imp_left ?_
          rintro rfl
          exact .overflow rfl
        · cases failed
      | literal value => cases failed
      | operator op => cases failed
    · cases failed

/-- Rolling items fails for what one of them is, with a total, or by a fault. -/
theorem FailsOnlyBy.rollItems_error (fails : source.FailsOnlyBy fault)
    (known : ∀ item ∈ items, item.IsOperand ∨ item.IsOperator)
    (failed : (source.rollItems limit started items state).1 = .error failure) :
    failure.IsRefusal limit (source.ComesToOverlong limit started items state)
        (source.ComesToExcess limit started items state) ∨
      fault failure := by
  induction items generalizing started state with
  | nil => cases failed
  | cons item items ih =>
    obtain ⟨here, later⟩ := List.forall_mem_cons.mp known
    rcases Rolling.bind_eq_error.mp failed with failed | ⟨⟨token, next⟩, after, first, failed⟩
    · refine (fails.rollItem_error here failed).imp_left fun refusal => ?_
      exact refusal.mono (comesTo_of_first · items) (comesTo_of_first · items)
    · rcases Rolling.bind_eq_error.mp failed with failed | ⟨_, _, _, failed⟩
      · refine (ih later failed).imp_left fun refusal => ?_
        exact refusal.mono (comesTo_of_rest first) (comesTo_of_rest first)
      · cases failed

/-- An overlong item that is come to is not read. -/
theorem rollItems_of_comesToOverlong
    (known : ∀ item ∈ items, item.IsOperand ∨ item.IsOperator)
    (comes : source.ComesToOverlong limit started items state) :
    ∃ count, Decimal.digitLimit < count ∧
      (source.rollItems limit started items state).1 =
        .error (.unreadable (.tooManyDigits count)) := by
  obtain ⟨before, item, after, rfl, overlong, tokens, rolled⟩ := comes
  have here := known item (List.mem_append_right before List.mem_cons_self)
  obtain ⟨count, long, refused⟩ := Lexeme.plan_of_isOverlong here overlong limit
    (started + DiceGroup.total (Lexeme.groups before))
  exact ⟨count, long, rollItems_append_of_refused rolled refused after⟩

/-- An item that is come to and takes the dice over the limit is refused. -/
theorem rollItems_of_comesToExcess
    (known : ∀ item ∈ items, item.IsOperand ∨ item.IsOperator)
    (comes : source.ComesToExcess limit started items state) :
    ∃ error, (source.rollItems limit started items state).1 = .error (limit.refusal error) := by
  obtain ⟨before, item, after, rfl, exceeds, tokens, rolled⟩ := comes
  have here := known item (List.mem_append_right before List.mem_cons_self)
  cases item with
  | dice spelling =>
    obtain ⟨group, read, exceeded⟩ := exceeds
    have refused := Lexeme.plan_of_exceeded (here.resolve_right id) read exceeded
    exact ⟨_, rollItems_append_of_refused rolled refused after⟩
  | number run => exact exceeds.elim
  | operator op => exact exceeds.elim

end Items

section Arithmetic

variable {canonical : String} {text : List Char}

/-- Where all of a text is scanned, its tokens are those of its items. -/
theorem tokenize_of_scan (source : Source σ) (limit : Limit) {items : List Lexeme}
    (scanned : Lexeme.scan text = (items, [])) :
    source.tokenize limit text = source.rollItems limit 0 items := by
  unfold tokenize
  rw [scanned]
  exact bind_pure _

/-- Tokens are those of the items, and there is nothing else in the text. -/
theorem tokenize_eq_ok {tokens : List Token} :
    (source.tokenize limit text state).1 = .ok tokens ↔
      (source.rollItems limit 0 (Lexeme.scan text).1 state).1 = .ok tokens ∧
        (Lexeme.scan text).2 = [] := by
  unfold tokenize
  constructor
  · intro answer
    obtain ⟨rolled, after, run, answer⟩ := Rolling.bind_eq_ok.mp answer
    cases rest : (Lexeme.scan text).2 with
    | nil =>
      rw [rest] at answer
      cases answer
      exact ⟨congrArg Prod.fst run, rfl⟩
    | cons c tail =>
      rw [rest] at answer
      cases answer
  · rintro ⟨rolled, rest⟩
    rcases run : source.rollItems limit 0 (Lexeme.scan text).1 state with ⟨outcome, after⟩
    rw [run] at rolled
    cases rolled
    refine Rolling.bind_eq_ok.mpr ⟨tokens, after, run, ?_⟩
    rw [rest]
    rfl

/-- There are no tokens where an item is not rolled, or where no item starts. -/
theorem tokenize_error (failed : (source.tokenize limit text state).1 = .error failure) :
    (source.rollItems limit 0 (Lexeme.scan text).1 state).1 = .error failure ∨
      (Lexeme.scan text).2 ≠ [] ∧ ∃ error, failure = .dice error := by
  unfold tokenize at failed
  rcases Rolling.bind_eq_error.mp failed with failed | ⟨tokens, after, _, failed⟩
  · exact .inl failed
  · cases rest : (Lexeme.scan text).2 with
    | nil =>
      rw [rest] at failed
      cases failed
    | cons c tail =>
      rw [rest] at failed
      cases failed
      exact .inr ⟨by simp, _, rfl⟩

/-- Arithmetic comes to a result when the tokens of its text calculate. -/
theorem roll_arithmetic_eq_ok {result : RollResult} :
    (source.roll limit (.arithmetic canonical) state).1 = .ok result ↔
      ∃ tokens total, (source.tokenize limit canonical.toList state).1 = .ok tokens ∧
        calculateTokens tokens canonical = .ok total ∧ result = .arithmetic total := by
  constructor
  · intro answer
    obtain ⟨tokens, after, run, answer⟩ := Rolling.bind_eq_ok.mp answer
    obtain ⟨total, calculated, answer⟩ := Rolling.ofExcept_bind_eq_ok.mp answer
    cases answer
    exact ⟨tokens, total, congrArg Prod.fst run, calculated, rfl⟩
  · rintro ⟨tokens, total, tokenized, calculated, rfl⟩
    rcases run : source.tokenize limit canonical.toList state with ⟨outcome, after⟩
    rw [run] at tokenized
    cases tokenized
    refine Rolling.bind_eq_ok.mpr ⟨tokens, after, run, ?_⟩
    exact Rolling.ofExcept_bind_eq_ok.mpr ⟨total, calculated, rfl⟩

/-- Arithmetic fails with its tokens or with its calculation. -/
theorem roll_arithmetic_error
    (failed : (source.roll limit (.arithmetic canonical) state).1 = .error failure) :
    (source.tokenize limit canonical.toList state).1 = .error failure ∨
      ∃ tokens, (source.tokenize limit canonical.toList state).1 = .ok tokens ∧
        calculateTokens tokens canonical = .error failure := by
  rcases Rolling.bind_eq_error.mp failed with failed | ⟨tokens, after, run, failed⟩
  · exact .inl failed
  · rcases Rolling.ofExcept_bind_eq_error.mp failed with failed | ⟨_, _, failed⟩
    · exact .inr ⟨tokens, congrArg Prod.fst run, failed⟩
    · cases failed

end Arithmetic

section Test

theorem scoreDice_yields {target sides : Int} {allowed : Failure → Prop}
    (face : (source.draw 1 sides).Yields (fun _ => True) allowed) (n : Nat) :
    (source.scoreDice target sides n).Yields (fun _ => True) allowed := by
  induction n with
  | zero => exact Rolling.yields_pure trivial
  | succ n ih =>
    exact face.bind fun _ _ => ih.bind fun _ _ => Rolling.yields_pure trivial

/-- A test that is rolled comes to a result of its own kind and text. -/
theorem roll_test_eq_ok {test : SkillTest} {result : RollResult}
    (answer : (source.roll limit (.test test) state).1 = .ok result) :
    result.kind = .tabletop ∧ result.canonical = test.canonical := by
  obtain ⟨rolled, after, run, answer⟩ := Rolling.bind_eq_ok.mp answer
  obtain ⟨_, _, run⟩ := Rolling.ofExcept_bind_eq_ok.mp (congrArg Prod.fst run)
  obtain ⟨outcomes, _, _, run⟩ := Rolling.bind_eq_ok.mp run
  cases run
  cases answer
  exact ⟨rfl, rfl⟩

/-- A test that was read fails with its number of dice or by a fault. -/
theorem FailsOnlyBy.roll_test_error (fails : source.FailsOnlyBy fault) {test : SkillTest}
    (rollable : test.group.Rollable)
    (failed : (source.roll limit (.test test) state).1 = .error failure) (overlong : Prop) :
    failure.IsRefusal limit overlong (limit.exceededBy? test.count = some true) ∨
      fault failure := by
  rcases Rolling.bind_eq_error.mp failed with failed | ⟨_, _, _, failed⟩
  · rcases Rolling.ofExcept_bind_eq_error.mp failed with failed | ⟨_, _, failed⟩
    · exact .inl (Limit.guard_error rfl rollable.writing_numbers failed overlong)
    · rcases Rolling.bind_eq_error.mp failed with failed | ⟨_, _, _, failed⟩
      · have faces := fails.face test.sides rollable.sides
        exact .inr ((scoreDice_yields faces _).allowed_of_error failed)
      · cases failed
  · cases failed

/-- A test that is over the limit is refused. -/
theorem roll_test_of_exceeded (source : Source σ) {test : SkillTest}
    (rollable : test.group.Rollable) (exceeded : limit.exceededBy? test.count = some true)
    (state : σ) :
    (source.roll limit (.test test) state).1 = .error (limit.refusal
      (.tooManyTestDice test.count test.sides limit.text test.canonical)) := by
  refine Rolling.bind_eq_error.mpr (.inl (Rolling.ofExcept_bind_eq_error.mpr (.inl ?_)))
  exact Limit.guard_eq_error exceeded rollable.writing_numbers _

end Test

section Evaluate

variable {text : String}

theorem evaluate_eq_ok {result : RollResult} :
    (source.evaluate limit text state).1 = .ok result ↔
      ∃ expression, Expression.classify text = .ok expression ∧
        (source.roll limit expression state).1 = .ok result :=
  Rolling.ofExcept_bind_eq_ok

theorem evaluate_eq_error :
    (source.evaluate limit text state).1 = .error failure ↔
      Expression.classify text = .error failure ∨
        ∃ expression, Expression.classify text = .ok expression ∧
          (source.roll limit expression state).1 = .error failure :=
  Rolling.ofExcept_bind_eq_error

/-- The canonical text of a result is the text without its blanks. -/
theorem canonical_of_evaluate {result : RollResult}
    (run : (source.evaluate limit text state).1 = .ok result) :
    result.canonical = String.ofList (Text.compact text.toList) := by
  obtain ⟨expression, classified, rolled⟩ := evaluate_eq_ok.mp run
  cases expression with
  | test test =>
    rw [(roll_test_eq_ok rolled).2, (Expression.test_of_classify classified).1]
  | arithmetic canonical =>
    obtain ⟨_, total, _, calculated, rfl⟩ := roll_arithmetic_eq_ok.mp rolled
    rw [← Expression.arithmetic_of_classify classified]
    exact canonical_of_calculateTokens calculated

/-- The text alone decides of which kind a result is. -/
theorem kind_of_evaluate {τ : Type} {other : Source τ} {otherLimit : Limit} {otherState : τ}
    {result again : RollResult} (run : (source.evaluate limit text state).1 = .ok result)
    (rerun : (other.evaluate otherLimit text otherState).1 = .ok again) :
    again.kind = result.kind := by
  obtain ⟨expression, classified, rolled⟩ := evaluate_eq_ok.mp run
  obtain ⟨_, reclassified, rerolled⟩ := evaluate_eq_ok.mp rerun
  rw [classified] at reclassified
  cases reclassified
  cases expression with
  | test test => rw [(roll_test_eq_ok rolled).1, (roll_test_eq_ok rerolled).1]
  | arithmetic canonical =>
    obtain ⟨_, _, _, _, rfl⟩ := roll_arithmetic_eq_ok.mp rolled
    obtain ⟨_, _, _, _, rfl⟩ := roll_arithmetic_eq_ok.mp rerolled
    rfl

/-- Something is left without its blanks of a text that has a result. -/
theorem compact_ne_nil_of_evaluate {result : RollResult}
    (run : (source.evaluate limit text state).1 = .ok result) : Text.compact text.toList ≠ [] := by
  intro empty
  obtain ⟨_, classified, _⟩ := evaluate_eq_ok.mp run
  unfold Expression.classify Expression.compact at classified
  rw [empty] at classified
  cases classified

/-- Dropping the blanks of a text beforehand changes nothing. -/
theorem evaluate_compact (source : Source σ) (limit : Limit) (text : String) :
    source.evaluate limit (String.ofList (Text.compact text.toList)) =
      source.evaluate limit text := by
  unfold evaluate
  rw [Expression.classify_compact]

end Evaluate

end Source

end DiceTable
