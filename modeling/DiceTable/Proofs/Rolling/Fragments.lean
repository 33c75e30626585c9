import DiceTable.Proofs.Decimal.Magnitude
import DiceTable.Proofs.Grammar.Acceptance

/-! # What errors point to

An error carries a fragment, which is meant to be the offending piece of the expression, or the
whole of it. It is, but for the errors that name a group of dice by the text which the group has
once it is read. Of this text a count is always a part, the letter is small, and there are no
leading zeros; so it is a piece of how the group was written exactly where that was plain
(`DiceSpelling.IsPlain`), and with other groups it may be nowhere in the expression.
-/

namespace DiceTable

/-- An error is about a step of a calculation, and quotes the step. -/
def DiceError.IsOfStep : DiceError → Prop
  | .outOfRange _ | .divisionByZero _ => True
  | _ => False

inductive DiceError.NamesGroup (group : DiceGroup) : DiceError → Prop
  | countOrSides : NamesGroup group (.countOrSides group.text)
  | oneSidedExplosion : NamesGroup group (.oneSidedExplosion group.text)
  | diceTotal : NamesGroup group (.diceTotal group.text)

/-- A group is written as its text is: with a count, a small letter, and sides without leading
zeros, or with any number of zeros for sides that are none. -/
structure DiceSpelling.IsPlain (dice : DiceSpelling) : Prop where
  count : dice.count ≠ []
  mark : dice.mark = 'd'
  sides : dice.sides = Decimal.digits (Decimal.value dice.sides) ∨
    dice.exploding = false ∧ Decimal.value dice.sides = 0

/-- An error names a group by a text that is no piece of how the group is written. -/
structure DiceError.Rewrites (error : DiceError) (dice : DiceSpelling) : Prop where
  names : ∃ group, dice.group (String.ofList dice.chars) = .ok group ∧ error.NamesGroup group
  notPlain : ¬dice.IsPlain
  elsewhere : ¬error.fragment.toList <:+: dice.chars

/-- An error points to a piece of an item, or names the group that the item is by another text. -/
structure DiceError.PointsTo (error : DiceError) (item : Lexeme) : Prop where
  nonempty : error.fragment.toList ≠ []
  place : error.fragment.toList <:+: item.spelling ∨ ∃ dice, item = .dice dice ∧ error.Rewrites dice

variable {error : DiceError} {fragment canonical : String} {limit : Limit}

/-! ## Groups -/

section Groups

variable {dice : DiceSpelling} {group : DiceGroup}

theorem DiceError.NamesGroup.fragment_eq (names : error.NamesGroup group) :
    error.fragment.toList = group.chars := by
  cases names <;> exact String.toList_ofList

theorem DiceGroup.chars_ne_nil (group : DiceGroup) : group.chars ≠ [] := by
  simp [chars]

/-- What is read of a group whose count is written. -/
theorem DiceSpelling.group_eq_of_count (wellFormed : dice.WellFormed) (counted : dice.count ≠ [])
    (read : dice.group fragment = .ok group) :
    group = ⟨Decimal.value dice.count, Decimal.value dice.sides, dice.exploding⟩ := by
  rw [group_eq] at read
  obtain ⟨count, readCount, read⟩ := Except.bind_eq_ok.mp read
  obtain ⟨sides, readSides, answer⟩ := Except.bind_eq_ok.mp read
  rw [DiceSpelling.readCount, if_neg counted] at readCount
  cases answer
  rw [(value_of_readNumber ⟨counted, wellFormed.count⟩ readCount).1,
    (value_of_readNumber wellFormed.sides readSides).1]

/-- The text of a group is a piece of what is written plainly. -/
theorem DiceSpelling.IsPlain.chars_isInfix (plain : dice.IsPlain) (wellFormed : dice.WellFormed)
    (read : dice.group fragment = .ok group) : group.chars <:+: dice.chars := by
  obtain rfl := group_eq_of_count wellFormed plain.count read
  obtain ⟨zeros, counted⟩ := Decimal.digits_value_isSuffix plain.count wellFormed.count
  simp only [DiceGroup.chars, Decimal.chars_natCast]
  rw [DiceSpelling.chars, plain.mark]
  rcases plain.sides with same | ⟨once, zero⟩
  · refine ⟨zeros, [], ?_⟩
    rw [← same]
    conv_rhs => rw [← counted]
    simp only [List.append_assoc, List.cons_append, List.append_nil]
  · obtain ⟨c, rest, spelled⟩ := List.exists_cons_of_ne_nil wellFormed.sides.nonempty
    have digit : c.isDigit := wellFormed.sides.digits c (by rw [spelled]; exact List.mem_cons_self)
    have first : c = '0' := by
      by_contra nonzero
      have large := Decimal.pow_le_value digit nonzero rest
      have positive : 0 < 10 ^ rest.length := Nat.pow_pos (by decide)
      rw [← spelled] at large
      omega
    have none : Decimal.digits 0 = ['0'] := rfl
    refine ⟨zeros, rest, ?_⟩
    rw [zero, none, once, spelled, first]
    conv_rhs => rw [← counted]
    simp

/-- What holds the text of its group is written plainly. -/
theorem DiceSpelling.isPlain_of_chars_isInfix (wellFormed : dice.WellFormed)
    (read : dice.group fragment = .ok group) (inside : group.chars <:+: dice.chars) :
    dice.IsPlain := by
  have noMark {run : List Char} (digits : ∀ c ∈ run, c.isDigit) : 'd' ∉ run :=
    fun member => absurd (digits 'd' member) (by decide)
  have noMarkBehind : 'd' ∉ dice.sides ++ if dice.exploding then ['!', '!'] else [] := by
    refine fun member => (List.mem_append.mp member).elim (noMark wellFormed.sides.digits) ?_
    split <;> decide
  obtain ⟨before, after, whole⟩ := inside
  have aligned :
      dice.count ++ dice.mark :: (dice.sides ++ if dice.exploding then ['!', '!'] else []) =
        before ++ Decimal.chars group.count ++ 'd' ::
          (Decimal.chars group.sides ++ (if group.exploding then ['!', '!'] else []) ++ after) := by
    simpa [DiceGroup.chars, DiceSpelling.chars] using whole.symm
  obtain ⟨counted, mark, sided⟩ :=
    (List.append_cons_inj_of_notMem (noMark wellFormed.count) noMarkBehind).mp aligned
  have count : dice.count ≠ [] := by
    rw [counted]
    exact List.append_ne_nil_of_right_ne_nil _ (Decimal.chars_ne_nil group.count)
  obtain rfl := group_eq_of_count wellFormed count read
  rw [Decimal.chars_natCast] at sided
  refine ⟨count, mark, ?_⟩
  cases exploding : dice.exploding with
  | true =>
    have ends : ∀ rest : List Char, ∀ c, ('!' :: rest).head? = some c → c.isDigit = false := by
      rintro rest c ⟨⟩
      decide
    have digits : ∀ c ∈ Decimal.digits (Decimal.value dice.sides), c.isDigit :=
      fun _ => Decimal.isDigit_of_mem_digits
    have front := congrArg (List.takeWhile Char.isDigit) sided
    simp only [exploding, if_true, List.append_assoc, List.cons_append] at front
    rw [takeWhile_isDigit_append wellFormed.sides.digits (ends _),
      takeWhile_isDigit_append digits (ends _)] at front
    exact .inl front
  | false =>
    simp only [exploding, Bool.false_eq_true, if_false, List.append_nil] at sided
    by_cases zero : Decimal.value dice.sides = 0
    · exact .inr ⟨rfl, zero⟩
    · exact .inl (Decimal.eq_digits_of_isPrefix (Nat.pos_of_ne_zero zero) ⟨after, sided.symm⟩)

/-- An error that names the group of an item points to the item. -/
theorem DiceError.NamesGroup.pointsTo (names : error.NamesGroup group)
    (wellFormed : dice.WellFormed) (read : dice.group (String.ofList dice.chars) = .ok group) :
    error.PointsTo (.dice dice) := by
  have spelled := names.fragment_eq
  refine ⟨by rw [spelled]; exact group.chars_ne_nil, ?_⟩
  by_cases plain : dice.IsPlain
  · left
    rw [spelled]
    exact plain.chars_isInfix wellFormed read
  · refine .inr ⟨dice, rfl, ⟨group, read, names⟩, plain, fun inside => plain ?_⟩
    rw [spelled] at inside
    exact DiceSpelling.isPlain_of_chars_isInfix wellFormed read inside

end Groups

/-! ## Items -/

section Items

variable {dice : DiceSpelling} {item : Lexeme} {items : List Lexeme} {started : Int}

/-- A number that is refused is blamed on the given fragment. -/
theorem fragment_of_readNumber {run : List Char}
    (failed : readNumber run fragment = .error (.dice error)) : error.fragment = fragment := by
  obtain ⟨refusal, _, same⟩ := Except.mapError_eq_error.mp failed
  cases refusal with
  | tooLong opening =>
    cases same
    rfl
  | tooLarge written =>
    cases same
    rfl
  | unreadable cause => cases same

/-- So is a group with such a number. -/
theorem DiceSpelling.fragment_of_group (failed : dice.group fragment = .error (.dice error)) :
    error.fragment = fragment := by
  rw [group_eq] at failed
  rcases Except.bind_eq_error.mp failed with failed | ⟨_, _, failed⟩
  · unfold readCount at failed
    split at failed
    · cases failed
    · exact fragment_of_readNumber failed
  · rcases Except.bind_eq_error.mp failed with failed | ⟨_, _, failed⟩
    · exact fragment_of_readNumber failed
    · cases failed

theorem Limit.eq_of_guard {n : Int} {given : DiceError} {others : List Int}
    (failed : limit.guard n given others = .error (.dice error)) : error = given := by
  unfold guard at failed
  split at failed
  · cases failed
  · exact Failure.eq_of_naming (Except.error.inj failed)
  · cases failed

theorem DiceGroup.namesGroup_of_check {group : DiceGroup}
    (failed : group.check = .error (.dice error)) : error.NamesGroup group := by
  unfold check at failed
  split at failed
  · rw [Failure.eq_of_naming (Except.error.inj failed)]
    exact .countOrSides
  · split at failed
    · rw [Failure.eq_of_naming (Except.error.inj failed)]
      exact .oneSidedExplosion
    · cases failed

/-- An error whose fragment is the item points to the item. -/
theorem DiceError.pointsTo_whole (known : item.IsOperand)
    (whole : error.fragment = String.ofList item.spelling) : error.PointsTo item := by
  have spelled : error.fragment.toList = item.spelling := by
    rw [whole, String.toList_ofList]
  refine ⟨?_, .inl (by rw [spelled])⟩
  rw [spelled]
  cases item with
  | dice dice => simp [Lexeme.spelling, DiceSpelling.chars]
  | number run => exact Decimal.IsRun.nonempty known
  | operator op => exact known.elim

/-- An item without a plan is pointed to. -/
theorem Lexeme.pointsTo_of_plan (known : item.IsOperand ∨ item.IsOperator)
    (failed : item.plan limit started = .error (.dice error)) : error.PointsTo item := by
  cases item with
  | dice dice =>
    have wellFormed : dice.WellFormed := known.resolve_right id
    rcases Except.bind_eq_error.mp failed with failed | ⟨group, read, failed⟩
    · exact DiceError.pointsTo_whole wellFormed (DiceSpelling.fragment_of_group failed)
    · rcases Except.bind_eq_error.mp failed with failed | ⟨_, _, failed⟩
      · rw [Limit.eq_of_guard failed]
        exact DiceError.pointsTo_whole wellFormed rfl
      · rcases Except.bind_eq_error.mp failed with failed | ⟨_, _, failed⟩
        · exact (DiceGroup.namesGroup_of_check failed).pointsTo wellFormed read
        · cases failed
  | number run =>
    have digits : Decimal.IsRun run := known.resolve_right id
    rcases Except.bind_eq_error.mp failed with failed | ⟨_, _, failed⟩
    · exact DiceError.pointsTo_whole digits (fragment_of_readNumber failed)
    · cases failed
  | operator op => cases failed

/-- The items of a text are pieces of it. -/
theorem Lexeme.isInfix_of_mem_scan {text : List Char} (member : item ∈ (scan text).1) :
    item.spelling <:+: text := by
  have inItems : item.spelling <:+: (scan text).1.flatMap spelling :=
    List.infix_of_mem_flatten (List.mem_map_of_mem member)
  have whole := inItems.trans (List.prefix_append _ (scan text).2).isInfix
  rwa [scan_spelling] at whole

namespace Source

variable {σ : Type} {source : Source σ} {state : σ}

/-- So is an item that cannot be rolled. -/
theorem pointsTo_of_rollItem (known : item.IsOperand ∨ item.IsOperator)
    (failed : (source.rollItem limit started item state).1 = .error (.dice error)) :
    error.PointsTo item := by
  rw [rollItem_eq] at failed
  rcases Rolling.ofExcept_bind_eq_error.mp failed with failed | ⟨⟨plan, next⟩, planned, failed⟩
  · exact Lexeme.pointsTo_of_plan known failed
  rcases Rolling.bind_eq_error.mp failed with failed | ⟨_, _, _, failed⟩
  · cases item with
    | dice dice =>
      have wellFormed : dice.WellFormed := known.resolve_right id
      obtain ⟨group, read, _, _, rfl, _⟩ := Lexeme.plan_dice_eq_ok.mp planned
      have rollable := Lexeme.rollable_of_plan known planned
      rcases Rolling.bind_eq_error.mp failed with failed | ⟨_, _, _, failed⟩
      · rcases (source.rollEvery_yields_any rollable).allowed_of_error failed with
          total | ⟨fault, impossible⟩
        · cases total
          exact DiceError.NamesGroup.diceTotal.pointsTo wellFormed read
        · cases impossible
      · cases failed
    | number run =>
      obtain ⟨value, _, rfl, _⟩ := Lexeme.plan_number_eq_ok.mp planned
      cases failed
    | operator op =>
      cases planned
      cases failed
  · cases failed

/-- Where items cannot be rolled, one of them is pointed to. -/
theorem exists_pointsTo_of_rollItems (known : ∀ item ∈ items, item.IsOperand ∨ item.IsOperator)
    (failed : (source.rollItems limit started items state).1 = .error (.dice error)) :
    ∃ item ∈ items, error.PointsTo item := by
  induction items generalizing started state with
  | nil => cases failed
  | cons item items ih =>
    obtain ⟨here, later⟩ := List.forall_mem_cons.mp known
    rcases Rolling.bind_eq_error.mp failed with failed | ⟨_, _, _, failed⟩
    · exact ⟨item, List.mem_cons_self, pointsTo_of_rollItem here failed⟩
    · rcases Rolling.bind_eq_error.mp failed with failed | ⟨_, _, _, failed⟩
      · obtain ⟨item, member, points⟩ := ih later failed
        exact ⟨item, List.mem_cons_of_mem _ member, points⟩
      · cases failed

/-- Without tokens, an item is pointed to, or the rest in which no item starts. -/
theorem fragment_of_tokenize {text : List Char}
    (failed : (source.tokenize limit text state).1 = .error (.dice error)) :
    (∃ item ∈ (Lexeme.scan text).1, error.PointsTo item) ∨
      (Lexeme.scan text).2 ≠ [] ∧ error.fragment.toList = (Lexeme.scan text).2 := by
  unfold tokenize at failed
  rcases Rolling.bind_eq_error.mp failed with failed | ⟨_, _, _, failed⟩
  · exact .inl (exists_pointsTo_of_rollItems (Lexeme.forall_mem_scan text) failed)
  · cases rest : (Lexeme.scan text).2 with
    | nil =>
      rw [rest] at failed
      cases failed
    | cons c tail =>
      rw [rest] at failed
      cases failed
      exact .inr ⟨List.cons_ne_nil c tail, String.toList_ofList⟩

end Source

end Items

/-! ## Calculations -/

section Calculations

theorem Step.isOfStep_error (step : Step) : step.error.IsOfStep := by
  unfold error
  split <;> trivial

theorem Operator.isOfStep_of_apply {op : Operator} (known : op.IsArithmetic) {a b : Int}
    (failed : op.apply a b = .error (.dice error)) : error.IsOfStep := by
  obtain ⟨_, failed⟩ := apply_eq_dice.mp failed
  rw [result_eq known] at failed
  split at failed
  · cases failed
    exact Step.isOfStep_error _
  · cases failed

/-- A calculation over the four operators fails with one of its steps. -/
theorem isOfStep_of_calculate {first : Int} {steps : List (Operator × Int)}
    (known : ∀ step ∈ steps, step.1.IsArithmetic)
    (failed : calculate first steps = .error (.dice error)) : error.IsOfStep := by
  rcases Except.bind_eq_error.mp failed with failed | ⟨⟨start, terms⟩, completed, failed⟩
  · obtain ⟨step, member, left, fails⟩ := completeTerms_error failed
    exact Operator.isOfStep_of_apply (known step member) fails
  · obtain ⟨term, member, left, fails⟩ := joinTerms_error failed
    obtain ⟨_, value, written⟩ := completeTerms_operators completed term member
    exact Operator.isOfStep_of_apply (known _ written) fails

theorem Steps.fragment_of_ofTokens {tokens : List Token}
    (failed : Steps.ofTokens canonical tokens = .error error) : error.fragment = canonical := by
  induction tokens using Steps.ofTokens.induct with
  | case1 => cases failed
  | case2 op =>
    cases failed
    rfl
  | case3 op right rest ih =>
    rcases Except.bind_eq_error.mp failed with failed | ⟨_, _, failed⟩
    · exact ih failed
    · cases failed
  | case4 tokens none one two =>
    unfold Steps.ofTokens at failed
    split at failed
    · exact (none rfl).elim
    · exact (one _ rfl).elim
    · exact (two _ _ _ rfl).elim
    · cases failed
      rfl

/-- Tokens that make up no calculation are blamed on the whole expression. -/
theorem Calculation.fragment_of_ofTokens {tokens : List Token}
    (failed : ofTokens canonical tokens = .error error) : error.fragment = canonical := by
  unfold ofTokens at failed
  split at failed
  · cases failed
    rfl
  · cases failed
    rfl
  · rcases Except.bind_eq_error.mp failed with failed | ⟨_, _, failed⟩
    · exact Steps.fragment_of_ofTokens failed
    · cases failed

end Calculations

/-! ## Evaluations -/

/-- A test that is refused is blamed on the whole expression. -/
theorem TestSpelling.fragment_of_test {spelling : TestSpelling}
    (failed : spelling.test canonical = .error (.dice error)) : error.fragment = canonical := by
  rcases Except.bind_eq_error.mp failed with failed | ⟨group, _, failed⟩
  · unfold group at failed
    split at failed
    · cases failed
    · exact DiceSpelling.fragment_of_group failed
  · split at failed
    · cases failed
      rfl
    · -- The target and the modifier are read whatever they are.
      have unread {written : List Char} : readClamped written ≠ .error (.dice error) := by
        intro refused
        obtain ⟨_, _, same⟩ := Except.mapError_eq_error.mp refused
        cases same
      rcases Except.bind_eq_error.mp failed with failed | ⟨_, _, failed⟩
      · exact absurd failed unread
      · rcases Except.bind_eq_error.mp failed with failed | ⟨_, _, failed⟩
        · exact absurd failed unread
        · cases failed

namespace Source

variable {σ : Type} {source : Source σ} {state : σ} {text : String}

/-- So is a test that cannot be rolled. -/
theorem fragment_of_roll_test {test : SkillTest}
    (failed : (source.roll limit (.test test) state).1 = .error (.dice error)) :
    error.fragment = test.canonical := by
  rcases Rolling.bind_eq_error.mp failed with failed | ⟨_, _, _, failed⟩
  · rcases Rolling.ofExcept_bind_eq_error.mp failed with failed | ⟨_, _, failed⟩
    · rw [Limit.eq_of_guard failed]
      rfl
    · rcases Rolling.bind_eq_error.mp failed with failed | ⟨_, _, _, failed⟩
      · obtain ⟨fault, impossible⟩ :=
          (scoreDice_yields (source.draw_yields_any 1 test.sides) _).allowed_of_error failed
        cases impossible
      · cases failed
  · cases failed

/-- Where arithmetic fails, an item is pointed to, the rest in which no item starts, or the whole,
or else a step is to blame. -/
theorem fragment_of_roll_arithmetic
    (failed : (source.roll limit (.arithmetic canonical) state).1 = .error (.dice error)) :
    (∃ item ∈ (Lexeme.scan canonical.toList).1, error.PointsTo item) ∨
      (Lexeme.scan canonical.toList).2 ≠ [] ∧
        error.fragment.toList = (Lexeme.scan canonical.toList).2 ∨
      error.fragment = canonical ∨ error.IsOfStep := by
  rcases roll_arithmetic_error failed with failed | ⟨tokens, tokenized, calculated⟩
  · exact (fragment_of_tokenize failed).imp_right .inl
  · refine .inr (.inr ?_)
    rcases Except.bind_eq_error.mp calculated with failed | ⟨calculation, read, calculated⟩
    · obtain ⟨_, failed, ⟨⟩⟩ := Except.mapError_eq_error.mp failed
      exact .inl (Calculation.fragment_of_ofTokens failed)
    · obtain rfl := Calculation.ofTokens_eq_ok_iff.mp (Except.mapError_eq_ok.mp read)
      have signs := (source.rollItems_signs limit 0 _).good_of_ok (tokenize_eq_ok.mp tokenized).1
      have known : ∀ step ∈ calculation.steps.map fun step => (step.1, step.2.value),
          step.1.IsArithmetic := by
        intro step member
        obtain ⟨written, inSteps, rfl⟩ := List.mem_map.mp member
        refine Lexeme.isArithmetic_of_signs (Lexeme.forall_mem_scan canonical.toList) signs ?_
        refine List.mem_cons_of_mem _ ?_
        exact List.mem_flatMap.mpr ⟨written, inSteps, List.mem_cons_self⟩
      rcases Except.bind_eq_error.mp calculated with failed | ⟨_, _, answer⟩
      · exact .inr (isOfStep_of_calculate known failed)
      · cases answer

/-- Every error of an evaluation that is not about a step of the calculation has a fragment, and it
is a piece of what is left of the expression without its blanks: an item or a part of it, the rest
in which no item starts, or the whole. The one exception are errors that name a group of dice which
is not written plainly: their fragment is the text of the group, which is no piece of how the group
is written. -/
theorem evaluate_fragment (source : Source σ) (limit : Limit) (text : String) (state : σ)
    (nonempty : Text.compact text.toList ≠ [])
    (failed : (source.evaluate limit text state).1 = .error (.dice error))
    (reading : ¬error.IsOfStep) :
    let left := Text.compact text.toList
    error.fragment.toList ≠ [] ∧
      (error.fragment.toList <:+: left ∨
        ∃ dice, .dice dice ∈ (Lexeme.scan left).1 ∧ dice.chars <:+: left ∧
          error.Rewrites dice) := by
  intro left
  have whole (same : error.fragment = String.ofList left) :
      error.fragment.toList ≠ [] ∧ error.fragment.toList <:+: left := by
    rw [same, String.toList_ofList]
    exact ⟨nonempty, List.infix_rfl⟩
  rcases Expression.classify_cases text with ⟨empty, _⟩ | ⟨spelling, read, classified⟩ |
    ⟨_, classified⟩
  · exact absurd empty nonempty
  · refine (whole ?_).imp_right .inl
    rcases evaluate_eq_error.mp failed with refused | ⟨expression, same, failed⟩
    · rw [classified] at refused
      exact TestSpelling.fragment_of_test (Except.map_eq_error.mp refused)
    · rw [classified] at same
      obtain ⟨test, readTest, rfl⟩ := Except.map_eq_ok.mp same
      rw [fragment_of_roll_test failed, (TestSpelling.test_eq_ok readTest).1]
  · rcases evaluate_eq_error.mp failed with refused | ⟨expression, same, failed⟩
    · rw [classified] at refused
      cases refused
    rw [classified] at same
    cases same
    have spelled := Lexeme.scan_spelling left
    have pieces := fragment_of_roll_arithmetic failed
    rw [String.toList_ofList] at pieces
    rcases pieces with ⟨item, member, some, place⟩ | ⟨rest, same⟩ | same | step
    · have inside := Lexeme.isInfix_of_mem_scan member
      refine ⟨some, place.imp (fun piece => piece.trans inside) ?_⟩
      rintro ⟨dice, rfl, rewrites⟩
      exact ⟨dice, member, inside, rewrites⟩
    · refine ⟨same ▸ rest, .inl ?_⟩
      rw [same]
      conv_rhs => rw [← spelled]
      exact (List.suffix_append _ _).isInfix
    · exact (whole same).imp_right .inl
    · exact absurd step reading

/-- A group without a count: the error points to a text that was not written. -/
theorem evaluate_fragment_elsewhere :
    lowestSource.InRange ∧
      (lowestSource.evaluate defaultDiceLimit "d0" ()).1 =
        .error (.dice (.countOrSides "1d0")) ∧
      (DiceError.countOrSides "1d0").kind = .invalidDiceSpec ∧
      ¬(DiceError.countOrSides "1d0").fragment.toList <:+: Text.compact "d0".toList :=
  ⟨lowestSource_inRange, by decide +kernel, rfl, by decide⟩

/-- A group with a count and a small letter: the zeros that are left out are no matter. -/
theorem evaluate_fragment_plain :
    (lowestSource.evaluate defaultDiceLimit "2 * 03d00" ()).1 =
        .error (.dice (.countOrSides "3d0")) ∧
      ['3', 'd', '0'] <:+: ['2', '*', '0', '3', 'd', '0', '0'] := by
  have failed : (lowestSource.evaluate defaultDiceLimit "2 * 03d00" ()).1 =
      .error (.dice (.countOrSides "3d0")) := by
    decide +kernel
  obtain ⟨_, inside | ⟨dice, member, _, _, notPlain, _⟩⟩ :=
    lowestSource.evaluate_fragment defaultDiceLimit "2 * 03d00" () (by decide) failed id
  · exact ⟨failed, inside⟩
  · have items : (Lexeme.scan (Text.compact "2 * 03d00".toList)).1 =
        [.number ['2'], .operator .mul, .dice ⟨['0', '3'], 'd', ['0', '0'], false⟩] := by
      decide +kernel
    rw [items] at member
    obtain rfl : dice = ⟨['0', '3'], 'd', ['0', '0'], false⟩ := by
      simpa using member
    exact absurd ⟨by decide, rfl, .inr ⟨rfl, by decide⟩⟩ notPlain

end Source

end DiceTable
