import DiceTable.Proofs.Grammar.Variant
import DiceTable.Proofs.Rolling.Evaluation
import DiceTable.Proofs.Rolling.Observation

/-! # Variants of a test roll alike

A test throws each of its dice once, whatever shows and whether or not its text has the mark of
explosions (`Source.observes_faces`). So nothing but the number of dice, their sides and the target
decides what comes of it, and variants of a test come to the same (`Source.evaluate_variants`).
-/

namespace DiceTable

namespace TestSpelling

variable {spelling : TestSpelling} {canonical : String} {test : SkillTest}

/-- The dice of a test that is read are those that are written. -/
theorem dice_of_test (wellFormed : spelling.WellFormed)
    (read : spelling.test canonical = .ok test) :
    test.count = Decimal.value spelling.fullDice.count ∧
      test.sides = Decimal.value spelling.fullDice.sides := by
  obtain ⟨group, readGroup, read⟩ := Except.bind_eq_ok.mp read
  obtain ⟨_, same⟩ := spelling.group_eq_fullDice canonical
  rw [same] at readGroup
  obtain ⟨count, readCount, readGroup⟩ := Except.bind_eq_ok.mp readGroup
  obtain ⟨sides, readSides, answer⟩ := Except.bind_eq_ok.mp readGroup
  cases answer
  split at read
  · cases read
  · obtain ⟨_, _, read⟩ := Except.bind_eq_ok.mp read
    obtain ⟨_, _, answer⟩ := Except.bind_eq_ok.mp read
    cases answer
    exact ⟨(value_of_readNumber wellFormed.isRun_fullDice.1 readCount).1,
      (value_of_readNumber wellFormed.isRun_fullDice.2 readSides).1⟩

/-- A text that spells a test is classified by what is written. -/
theorem classify_eq {text : String} (wellFormed : spelling.WellFormed)
    (spelled : spelling.chars = Text.compact text.toList) :
    Expression.classify text =
      (spelling.test (String.ofList (Text.compact text.toList))).map .test := by
  have found := read?_eq_some_iff.mpr ⟨wellFormed, spelled⟩
  rcases Expression.classify_cases text with ⟨empty, _⟩ | ⟨same, read, classified⟩ | ⟨none, _⟩
  · rw [empty] at found
    cases found
  · rw [found] at read
    cases read
    exact classified
  · rw [none] at found
    cases found

end TestSpelling

/-- Where all dice are scored, one face was asked for of each of them. -/
def FacePerDie (sides : Int) (n : Nat) (outcome : Except Failure (List Outcome))
    (requests : List Inquiry) : Prop :=
  ∀ outcomes, outcome = .ok outcomes → outcomes.length = n ∧
    requests = outcomes.map fun scored => ⟨1, sides, .ok scored.raw⟩

/-- Errors of one kind that show the same numbers come to refusals of one kind. -/
theorem Failure.naming_sameKind (numbers : List Int) {error other : DiceError}
    (kind : error.kind = other.kind) : (naming numbers error).SameKind (naming numbers other) := by
  cases written : writing numbers with
  | ok =>
    rw [naming_of_writing written, naming_of_writing written]
    exact .dice kind
  | error failure =>
    obtain ⟨bound, _, rfl⟩ := writing_error written
    rw [naming_of_not_writing written, naming_of_not_writing written]
    exact .unwritable bound

theorem Limit.guard_agree (limit : Limit) (n : Int) {error other : DiceError}
    (kind : error.kind = other.kind) (others : List Int) :
    Agree (fun _ _ => True) (limit.guard n error others) (limit.guard n other others) := by
  unfold Limit.guard
  split
  · exact .error (.incomparable _)
  · exact .error (Failure.naming_sameKind _ kind)
  · exact .ok trivial

namespace Source

variable {σ : Type} {source : Source σ} {limit : Limit}

/-- Behind a face that was scored, the requests for the other dice come after the one for it. -/
theorem observes_behind_face {target sides : Int} {n : Nat}
    (rest : (source.observed.scoreDice target sides n).Observes (source.scoreDice target sides n)
      (FacePerDie sides n)) (raw : Int) :
    (source.observed.scoreDice target sides n >>= fun outcomes =>
        pure (Outcome.score raw target sides :: outcomes)).Observes
      (source.scoreDice target sides n >>= fun outcomes =>
        pure (Outcome.score raw target sides :: outcomes))
      fun outcome more => FacePerDie sides (n + 1) outcome (⟨1, sides, .ok raw⟩ :: more) := by
  refine rest.bind (fun outcomes => show Rolling.Observes _ _ (fun outcome more =>
    outcome = .ok (Outcome.score raw target sides :: outcomes) ∧ more = []) from
      Rolling.observes_pure ⟨rfl, rfl⟩) (fun failure requests _ => nofun) ?_
  rintro outcomes requests _ _ faces ⟨rfl, rfl⟩ _ ⟨⟩
  obtain ⟨length, asked⟩ := faces outcomes rfl
  refine ⟨congrArg (· + 1) length, ?_⟩
  rw [asked, List.append_nil]
  rfl

/-- No die of a test is thrown twice. -/
theorem observes_faces (source : Source σ) (target sides : Int) (n : Nat) :
    (source.observed.scoreDice target sides n).Observes (source.scoreDice target sides n)
      (FacePerDie sides n) := by
  induction n with
  | zero =>
    refine Rolling.observes_pure ?_
    rintro _ ⟨⟩
    exact ⟨rfl, rfl⟩
  | succ n ih =>
    refine (source.observes_draw 1 sides).bind (observes_behind_face ih)
      (fun failure requests _ => nofun) ?_
    rintro raw requests outcome more ⟨answer, rfl, drawn⟩ later
    obtain rfl := Except.mapError_eq_ok.mp drawn.symm
    exact later

/-- In some state the source does not answer a request for a die with so many sides. -/
def LeavesOpen (source : Source σ) (sides : Int) (fault : SourceFault) : Prop :=
  ∃ last, (source.next 1 sides last).1 = .error fault

theorem InRange.not_leavesOpen (inRange : source.InRange) {sides : Int} (sided : 1 ≤ sides)
    (fault : SourceFault) : ¬source.LeavesOpen sides fault := by
  rintro ⟨last, unanswered⟩
  obtain ⟨_, _, answered, _⟩ := inRange 1 sides last sided
  rw [answered] at unanswered
  cases unanswered

theorem draw_leavesOpen (source : Source σ) (sides : Int) :
    (source.draw 1 sides).Yields (fun _ => True) fun failure =>
      ∃ fault, failure = .source fault ∧ source.LeavesOpen sides fault := by
  intro state
  simp only [draw]
  rcases answer : source.next 1 sides state with ⟨outcome, after⟩
  cases outcome with
  | ok value => trivial
  | error fault => exact ⟨fault, rfl, state, congrArg Prod.fst answer⟩

/-- Either all dice are scored, each for the one face that was asked for, or the source runs out. -/
theorem scoreDice_cases (source : Source σ) (target sides : Int) (n : Nat) (state : σ) :
    (∃ outcomes after, source.scoreDice target sides n state = (.ok outcomes, after) ∧
      outcomes.length = n ∧
      source.observed.scoreDice target sides n (state, []) =
        (.ok outcomes, after, outcomes.map fun scored => ⟨1, sides, .ok scored.raw⟩)) ∨
    ∃ fault after requests,
      source.scoreDice target sides n state = (.error (.source fault), after) ∧
      source.observed.scoreDice target sides n (state, []) =
        (.error (.source fault), after, requests) ∧ source.LeavesOpen sides fault := by
  have thrown := (source.observes_faces target sides n).and_yields
    (scoreDice_yields (source.draw_leavesOpen sides) n)
  obtain ⟨requests, observed, scored, failed⟩ := thrown state []
  rcases run : source.scoreDice target sides n state with ⟨outcome, after⟩
  rw [run] at observed scored failed
  cases outcome with
  | ok outcomes =>
    obtain ⟨length, rfl⟩ := scored outcomes rfl
    exact .inl ⟨outcomes, after, rfl, length, observed⟩
  | error failure =>
    obtain ⟨fault, rfl, unanswered⟩ := failed failure rfl
    exact .inr ⟨fault, after, requests, rfl, observed, unanswered⟩

/-- The dice of a test that is within the limit are thrown and scored; what is over it, or cannot be
held against it, is refused. -/
theorem evaluate_of_test {text : String} {test : SkillTest}
    (classified : Expression.classify text = .ok (.test test)) (source : Source σ) (limit : Limit) :
    source.evaluate limit text =
      (Rolling.ofExcept (limit.guard test.count
          (.tooManyTestDice test.count test.sides limit.text test.canonical)
          [test.count, test.sides]) >>= fun _ =>
        source.scoreDice test.target test.sides test.count.toNat >>= fun outcomes =>
          pure (.test ⟨test.canonical, test.target, outcomes⟩)) := by
  rw [evaluate, classified]
  simp only [Rolling.ofExcept_ok, pure_bind, roll, runTest, bind_assoc]

theorem evaluate_of_failure {text : String} {failure : Failure}
    (failed : Expression.classify text = .error failure) (source : Source σ) (limit : Limit)
    (state : σ) : source.evaluate limit text state = (.error failure, state) := by
  rw [evaluate, failed]
  rfl

/-- What two tests with the same dice come to from one state of the source, with the requests that
either of them makes. -/
inductive AlikeRolls (source : Source σ) (count sides : Nat) (state : σ) :
    (first second : Except Failure RollResult × σ) → (requests : List Inquiry) → Prop
  /-- Each die is thrown once, for the same outcome against the same target. -/
  | rolled {result again : TestResult} {after : σ} (target : again.target = result.target)
      (outcomes : again.outcomes = result.outcomes) (every : result.outcomes.length = count) :
      AlikeRolls source count sides state (.ok (.test result), after) (.ok (.test again), after)
        (result.outcomes.map fun scored => ⟨1, sides, .ok scored.raw⟩)
  /-- No die is thrown. -/
  | refused {failure other : Failure} (kind : failure.SameKind other) :
      AlikeRolls source count sides state (.error failure, state) (.error other, state) []
  /-- The source runs out. -/
  | ranOut {fault : SourceFault} {after : σ} {requests : List Inquiry} (sided : 1 ≤ sides)
      (unanswered : source.LeavesOpen sides fault) :
      AlikeRolls source count sides state (.error (.source fault), after)
        (.error (.source fault), after) requests

/-- A source that always answers does not run out. -/
theorem AlikeRolls.ne_fault {count sides : Nat} {state : σ}
    {first second : Except Failure RollResult × σ} {requests : List Inquiry}
    (alike : source.AlikeRolls count sides state first second requests) (inRange : source.InRange)
    (fault : SourceFault) : first.1 ≠ .error (.source fault) := by
  intro failed
  cases alike with
  | rolled => cases failed
  | refused kind =>
    cases failed
    cases kind
  | ranOut sided unanswered =>
    exact inRange.not_leavesOpen (Int.ofNat_le.mpr sided) _ unanswered

/-- Two tests with the same dice and the same target are rolled alike. -/
theorem alikeRolls_of_tests {text other : String} {test again : SkillTest}
    (classified : Expression.classify text = .ok (.test test))
    (reclassified : Expression.classify other = .ok (.test again))
    (count : test.count = again.count) (sides : test.sides = again.sides)
    (target : test.target = again.target) (source : Source σ) (limit : Limit) (state : σ)
    {dice faces : Nat} (counted : test.count = dice) (sided : test.sides = faces) :
    ∃ requests,
      source.observed.evaluate limit text (state, []) =
        ((source.evaluate limit text state).1, (source.evaluate limit text state).2, requests) ∧
      source.observed.evaluate limit other (state, []) =
        ((source.evaluate limit other state).1, (source.evaluate limit other state).2, requests) ∧
      source.AlikeRolls dice faces state (source.evaluate limit text state)
        (source.evaluate limit other state) requests := by
  rw [evaluate_of_test classified source, evaluate_of_test classified source.observed,
    evaluate_of_test reclassified source, evaluate_of_test reclassified source.observed,
    ← count, ← sides, ← target]
  have guards : Agree (fun _ _ => True)
      (limit.guard test.count
        (.tooManyTestDice test.count test.sides limit.text test.canonical)
        [test.count, test.sides])
      (limit.guard test.count
        (.tooManyTestDice test.count test.sides limit.text again.canonical)
        [test.count, test.sides]) :=
    limit.guard_agree test.count (by rfl) _
  revert guards
  generalize limit.guard test.count
    (.tooManyTestDice test.count test.sides limit.text test.canonical) [test.count, test.sides] =
      guard
  generalize limit.guard test.count
    (.tooManyTestDice test.count test.sides limit.text again.canonical) [test.count, test.sides] =
      otherGuard
  rintro (_ | kind)
  · have least := (Expression.test_of_classify classified).2
    rw [sided] at least ⊢
    simp only [Rolling.ofExcept_ok, Rolling.bind_apply, Rolling.pure_apply]
    rcases source.scoreDice_cases test.target faces test.count.toNat state with
      ⟨outcomes, after, run, length, observed⟩ |
      ⟨fault, after, requests, run, observed, unanswered⟩
    · have every : outcomes.length = dice := by omega
      rw [run, observed]
      exact ⟨_, rfl, rfl, .rolled rfl rfl every⟩
    · rw [run, observed]
      exact ⟨requests, rfl, rfl, .ranOut (Int.ofNat_le.mp least) unanswered⟩
  · exact ⟨[], rfl, rfl, .refused kind⟩

/-- Variants of a test are rolled alike, whatever the limit and the source: with the same requests,
one for each die, to the same outcomes against the same target, or with no request to a refusal of
the same kind. Only where the source runs out do both end with that. -/
theorem evaluate_variants {text other : String} {spelling variant : TestSpelling}
    (wellFormed : spelling.WellFormed) (spelled : spelling.chars = Text.compact text.toList)
    (otherWellFormed : variant.WellFormed)
    (otherSpelled : variant.chars = Text.compact other.toList) (same : spelling.Variant variant)
    (short : spelling.Short) (otherShort : variant.Short) (source : Source σ) (limit : Limit)
    (state : σ) :
    (∃ requests,
      source.observed.evaluate limit text (state, []) =
        ((source.evaluate limit text state).1, (source.evaluate limit text state).2, requests) ∧
      source.observed.evaluate limit other (state, []) =
        ((source.evaluate limit other state).1, (source.evaluate limit other state).2, requests) ∧
      source.AlikeRolls (Decimal.value spelling.fullDice.count)
        (Decimal.value spelling.fullDice.sides) state (source.evaluate limit text state)
        (source.evaluate limit other state) requests) ∧
    (source.InRange → ∀ fault, (source.evaluate limit text state).1 ≠ .error (.source fault)) := by
  have classified := TestSpelling.classify_eq wellFormed spelled
  have reclassified := TestSpelling.classify_eq otherWellFormed otherSpelled
  have agree := same.test_agree wellFormed otherWellFormed short otherShort
    (String.ofList (Text.compact text.toList)) (String.ofList (Text.compact other.toList))
  have written {test : SkillTest} := @TestSpelling.dice_of_test spelling
    (String.ofList (Text.compact text.toList)) test wellFormed
  generalize spelling.test _ = first at *
  generalize variant.test _ = second at *
  rw [and_iff_left_of_imp]
  · cases agree with
    | ok here =>
      obtain ⟨counted, sided⟩ := written rfl
      exact alikeRolls_of_tests classified reclassified here.1 here.2.1 here.2.2 source limit state
        counted sided
    | error kind =>
      refine ⟨[], ?_⟩
      simp only [evaluate_of_failure classified, evaluate_of_failure reclassified]
      exact ⟨trivial, trivial, .refused kind⟩
  · rintro ⟨_, _, _, alike⟩ inRange
    exact alike.ne_fault inRange

/-- One die with one side, marked as exploding and written at length, and the same in short. -/
theorem evaluate_variants_oneSided :
    let spelling : TestSpelling := ⟨some ⟨['0', '1'], 'D', ['0', '1'], true⟩, 'W', ['0', '7'],
      ['-', '0', '5']⟩
    let variant : TestSpelling := ⟨some ⟨[], 'd', ['1'], false⟩, 'w', ['7'], ['-', '5']⟩
    let outcome : Outcome := ⟨1, 0, true, false, false⟩
    spelling.WellFormed ∧ variant.WellFormed ∧ spelling.Variant variant ∧ spelling.Short ∧
    variant.Short ∧
    listedSource.evaluate (1 : Int) "01 D01!! W07 - 05" [1, 1] =
      (.ok (.test ⟨"01D01!!W07-05", 2, [outcome]⟩), [1]) ∧
    listedSource.AlikeRolls 1 1 [1, 1] (listedSource.evaluate (1 : Int) "01 D01!! W07 - 05" [1, 1])
      (listedSource.evaluate (1 : Int) "d1w7-5" [1, 1]) [⟨1, 1, .ok 1⟩] := by
  intro spelling variant outcome
  have wellFormed : spelling.WellFormed := by
    refine ⟨?_, by decide, ⟨by decide, List.all_eq_true.mp (by decide)⟩, by decide⟩
    rintro _ ⟨⟩
    exact ⟨List.all_eq_true.mp (by decide), by decide, by decide, List.all_eq_true.mp (by decide)⟩
  have otherWellFormed : variant.WellFormed := by
    refine ⟨?_, by decide, ⟨by decide, List.all_eq_true.mp (by decide)⟩, by decide⟩
    rintro _ ⟨⟩
    exact ⟨List.all_eq_true.mp (by decide), by decide, by decide, List.all_eq_true.mp (by decide)⟩
  have same : spelling.Variant variant := ⟨by rfl, by rfl, by rfl, .signed '-' (by rfl)⟩
  have short : spelling.Short := ⟨by decide, by decide⟩
  have otherShort : variant.Short := ⟨by decide, by decide⟩
  have rolled : listedSource.evaluate (1 : Int) "01 D01!! W07 - 05" [1, 1] =
      (.ok (.test ⟨"01D01!!W07-05", 2, [outcome]⟩), [1]) := by
    decide +kernel
  have asked : listedSource.observed.evaluate (1 : Int) "01 D01!! W07 - 05" ([1, 1], []) =
      (.ok (.test ⟨"01D01!!W07-05", 2, [outcome]⟩), [1], [⟨1, 1, .ok 1⟩]) := by
    decide +kernel
  have spelled : spelling.chars = Text.compact "01 D01!! W07 - 05".toList := by decide
  have otherSpelled : variant.chars = Text.compact "d1w7-5".toList := by decide
  obtain ⟨⟨requests, observed, _, alike⟩, _⟩ := evaluate_variants wellFormed spelled
    otherWellFormed otherSpelled same short otherShort listedSource (1 : Int) [1, 1]
  rw [asked] at observed
  cases congrArg (fun run => run.2.2) observed
  exact ⟨wellFormed, otherWellFormed, same, short, otherShort, rolled, alike⟩

end Source

end DiceTable
