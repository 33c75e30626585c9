import DiceTable.Proofs.Breakdown.AuditTrail
import DiceTable.Proofs.Grammar.Acceptance
import DiceTable.Proofs.Rolling.FullItems
import DiceTable.Proofs.Rolling.Requests

/-! # The normal form of an expression

A breakdown without its dice and its blanks is an expression again, which spells the items that were
rolled in full (`normalForm`, `toList_normalForm`). Since items take turns, they are read back as
they were. So the normal form asks for the same dice and comes to the same tokens, and it is the
normal form of whatever comes of it (`Source.evaluate_normalForm`).
-/

namespace DiceTable

/-- What follows the dice of a group and their total. -/
def behindDice : List Char → List Char
  | ']' :: ' ' :: '=' :: ' ' :: rest => rest.dropWhile fun c => c == '-' || c.isDigit
  | _ :: rest => behindDice rest
  | [] => []

theorem length_behindDice_le (text : List Char) : (behindDice text).length ≤ text.length := by
  fun_induction behindDice text with
  | case1 rest =>
    have shorter := (rest.dropWhile_sublist fun c => c == '-' || c.isDigit).length_le
    simp only [List.length_cons]
    omega
  | case2 c rest _ ih =>
    simp only [List.length_cons]
    omega
  | case3 => exact Nat.le_refl _

/-- A breakdown without what its groups were rolled to. -/
def withoutDice : List Char → List Char
  | ' ' :: '→' :: ' ' :: '[' :: rest => withoutDice (behindDice rest)
  | c :: rest => c :: withoutDice rest
  | [] => []
termination_by text => text.length
decreasing_by
  · have shorter := length_behindDice_le rest
    simp only [List.length_cons]
    omega
  · simp

/-- The expression that a breakdown shows: its groups without their dice, and no blanks. -/
def normalForm (breakdown : String) : String :=
  String.ofList ((withoutDice breakdown.toList).filter (· != ' '))

section Dice

theorem behindDice_append {inner : List Char} (plain : '=' ∉ inner) (rest : List Char) :
    behindDice (inner ++ ']' :: ' ' :: '=' :: ' ' :: rest) =
      rest.dropWhile fun c => c == '-' || c.isDigit := by
  induction inner with
  | nil => rw [List.nil_append, behindDice]
  | cons c inner ih =>
    obtain ⟨_, later⟩ := not_or.mp (mt List.mem_cons.mpr plain)
    rw [List.cons_append, behindDice, ih later]
    -- The mark of the total would have to be among the dice.
    rintro _ rfl same
    rcases inner with _ | ⟨d, _ | ⟨e, inner⟩⟩
    · cases same
    · cases same
    · obtain ⟨_, tails⟩ := List.cons.inj same
      obtain ⟨equals, _⟩ := List.cons.inj tails
      exact plain (by simp [equals])

theorem withoutDice_append {front : List Char} (blankless : ' ' ∉ front) (rest : List Char) :
    withoutDice (front ++ rest) = front ++ withoutDice rest := by
  induction front with
  | nil => rfl
  | cons c front ih =>
    obtain ⟨here, later⟩ := not_or.mp (mt List.mem_cons.mpr blankless)
    rw [List.cons_append, withoutDice, ih later, List.cons_append]
    rintro _ rfl
    exact (here rfl).elim

theorem withoutDice_blank {c : Char} (other : c ≠ '→') (rest : List Char) :
    withoutDice (' ' :: c :: rest) = ' ' :: withoutDice (c :: rest) := by
  rw [withoutDice]
  rintro _ _ ⟨⟩
  exact other rfl

end Dice

section Breakdown

/-- No equals sign stands among dice. -/
theorem equals_not_mem_chainText (group : DiceGroup) (chain : Chain) :
    '=' ∉ (chainText group chain).toList := by
  have number (n : Int) : '=' ∉ Decimal.chars n := fun member =>
    (Decimal.mem_chars member).elim (by decide) (by decide)
  have face (n : Int) : '=' ∉ (faceText group.sides n).toList := by
    rw [toList_faceText]
    split <;> simp [number]
  rw [toList_chainText]
  split
  · have faces : '=' ∉ [' ', '+', ' '].intercalate
        (chain.map fun n => (faceText group.sides n).toList) :=
      Text.not_mem_intercalate (by decide) (by simp [face])
    simp [faces]
  · exact Text.not_mem_intercalate (by decide) (by simp [number])

variable {token : Token} {tokens : List Token} {rest : List Char}

/-- A token without its dice is the item that it was made of, in full. -/
theorem withoutDice_text (rolled : token.IsRolled) (readable : token.plan.Readable)
    (goesOn : Text.GoesOn (· == ' ') rest) :
    withoutDice (token.text.toList ++ rest) = token.plan.lexeme.spelling ++ withoutDice rest := by
  have blankless : ' ' ∉ token.plan.lexeme.spelling :=
    Lexeme.not_mem_spelling readable.known rfl (by decide)
  cases rolled with
  | operator known => exact withoutDice_append blankless rest
  | literal nonneg =>
    rw [toList_text_literal]
    exact withoutDice_append blankless rest
  | @rolled group chains counted dice faces =>
    have total : (Decimal.chars (chainsTotal chains) ++ rest).dropWhile
        (fun c => c == '-' || c.isDigit) = rest := by
      rw [List.dropWhile_append_of_pos fun c member => by simpa using Decimal.mem_chars member]
      cases rest with
      | nil => rfl
      | cons c tail =>
        rw [beq_iff_eq.mp goesOn.head]
        rfl
    have inner : '=' ∉ [',', ' '].intercalate
        (chains.map fun chain => (chainText group chain).toList) :=
      Text.not_mem_intercalate (by decide) (by simp [equals_not_mem_chainText])
    change withoutDice ((rolledText group chains).toList ++ rest) = group.chars ++ withoutDice rest
    change ' ' ∉ group.chars at blankless
    simp only [toList_rolledText, List.append_assoc, List.cons_append]
    rw [withoutDice_append blankless, withoutDice, behindDice_append inner, total]

/-- No token starts with the arrow of a group. -/
theorem Token.IsRolled.exists_text_eq_cons (rolled : token.IsRolled) :
    ∃ c rest, token.text.toList = c :: rest ∧ c ≠ '→' := by
  have digit {item : Operand} (rolled : Token.IsRolled (.operand item)) :
      ∃ c rest, item.text.toList = c :: rest ∧ c ≠ '→' := by
    obtain ⟨c, rest, spelled, digit⟩ := rolled.text_of_operand
    refine ⟨c, rest, spelled, ?_⟩
    rintro rfl
    exact absurd digit (by decide)
  cases rolled with
  | operator known =>
    obtain ⟨c, spelled, found, _⟩ := Lexeme.exists_char_of_isArithmetic known
    refine ⟨c, [], spelled, ?_⟩
    rintro rfl
    cases found
  | literal nonneg => exact digit (.literal nonneg)
  | rolled counted dice faces => exact digit (.rolled counted dice faces)

theorem filter_spelling (readable : token.plan.Readable) :
    token.plan.lexeme.spelling.filter (· != ' ') = token.plan.lexeme.spelling := by
  refine List.filter_eq_self.mpr fun c member => bne_iff_ne.mpr ?_
  rintro rfl
  exact Lexeme.not_mem_spelling readable.known rfl (by decide) member

/-- Tokens behind the first one come with a blank in front of each. -/
theorem filter_withoutDice_flatMap (rolled : ∀ token ∈ tokens, token.IsRolled)
    (readable : ∀ token ∈ tokens, token.plan.Readable) :
    (withoutDice (tokens.flatMap fun token => ' ' :: token.text.toList)).filter (· != ' ') =
      tokens.flatMap fun token => token.plan.lexeme.spelling := by
  induction tokens with
  | nil => rw [List.flatMap_nil, withoutDice, List.filter_nil, List.flatMap_nil]
  | cons token tokens ih =>
    obtain ⟨rolledHere, rolledLater⟩ := List.forall_mem_cons.mp rolled
    obtain ⟨readableHere, readableLater⟩ := List.forall_mem_cons.mp readable
    have goesOn :
        Text.GoesOn (· == ' ') (tokens.flatMap fun token => ' ' :: token.text.toList) := by
      cases tokens with
      | nil => exact Text.goesOn_nil _
      | cons next rest => exact Text.goesOn_cons rfl _
    have here := withoutDice_text rolledHere readableHere goesOn
    obtain ⟨c, tail, spelled, noArrow⟩ := rolledHere.exists_text_eq_cons
    rw [spelled, List.cons_append] at here
    rw [List.flatMap_cons, List.flatMap_cons, spelled, List.cons_append, List.cons_append,
      withoutDice_blank noArrow, here, List.filter_cons_of_neg (by decide), List.filter_append,
      filter_spelling readableHere, ih rolledLater readableLater]

/-- The normal form of what tokens show is their items in full, side by side. -/
theorem toList_normalForm (rolled : ∀ token ∈ tokens, token.IsRolled)
    (readable : ∀ token ∈ tokens, token.plan.Readable) :
    (normalForm (breakdown tokens)).toList =
      tokens.flatMap fun token => token.plan.lexeme.spelling := by
  rw [← filter_withoutDice_flatMap rolled readable, normalForm, String.toList_ofList, breakdown,
    String.toList_intercalate]
  cases tokens with
  | nil => rfl
  | cons token tokens =>
    obtain ⟨c, tail, spelled, noArrow⟩ :=
      (rolled token List.mem_cons_self).exists_text_eq_cons
    have written : " ".toList.intercalate (((token :: tokens).map Token.text).map String.toList) =
        c :: tail ++ tokens.flatMap fun token => ' ' :: token.text.toList := by
      rw [List.map_cons, List.map_cons, Text.intercalate_cons, spelled, List.flatMap_map,
        List.flatMap_map]
      rfl
    -- A blank in front of the first token is dropped as well.
    rw [written, List.flatMap_cons, spelled, List.cons_append, List.cons_append, List.cons_append,
      withoutDice_blank noArrow, List.filter_cons_of_neg (by decide)]

end Breakdown

namespace Source

variable {σ : Type} {source : Source σ} {limit : Limit} {state : σ} {tokens : List Token}
  {items : List Lexeme}

section Evaluate

variable {text : String} {result : ArithmeticResult}

/-- An arithmetic result has the tokens of the items of its text, and leaves the source where they
do. -/
theorem rollItems_of_evaluate
    (answer : (source.evaluate limit text state).1 = .ok (.arithmetic result)) :
    source.rollItems limit 0 (Lexeme.scan (Text.compact text.toList)).1 state =
      (.ok result.tokens, (source.evaluate limit text state).2) := by
  obtain ⟨expression, classified, rolled⟩ := evaluate_eq_ok.mp answer
  have evaluated : source.evaluate limit text state = source.roll limit expression state := by
    rw [evaluate, classified]
    rfl
  cases expression with
  | test test =>
    have kind := (roll_test_eq_ok rolled).1
    cases kind
  | arithmetic canonical =>
    obtain ⟨tokens, total, tokenized, calculated, same⟩ := roll_arithmetic_eq_ok.mp rolled
    cases same
    obtain ⟨_, rest⟩ := tokenize_eq_ok.mp tokenized
    have tokenizes := source.tokenize_of_scan limit (Prod.ext rfl rest)
    obtain ⟨rfl, _⟩ := calculateTokens_eq_ok calculated
    obtain rfl := Expression.arithmetic_of_classify classified
    rw [String.toList_ofList] at tokenized tokenizes
    rw [evaluated, roll, String.toList_ofList, ← tokenizes, Rolling.bind_apply]
    rcases run : source.tokenize limit (Text.compact text.toList) state with ⟨outcome, after⟩
    rw [run] at tokenized
    cases tokenized
    simp only [calculated]
    rfl

/-- A text that spells items in turns comes to what their tokens come to. -/
theorem evaluate_of_rollItems {after : σ}
    (alternates : Alternates Lexeme.IsOperand Lexeme.IsOperator items)
    (spelled : text.toList = items.flatMap Lexeme.spelling)
    (rolled : source.rollItems limit 0 items state = (.ok tokens, after))
    (calculated : calculateTokens tokens text = .ok result) :
    source.evaluate limit text state = (.ok (.arithmetic result), after) := by
  have member : text.toList ∈ Grammar.arithmetic :=
    Grammar.mem_arithmetic_iff.mpr ⟨items, alternates, spelled.symm⟩
  have compacted := Grammar.compact_of_mem_arithmetic member
  have classified : Expression.classify text = .ok (.arithmetic text) := by
    have kind := Expression.classify_of_mem_arithmetic (compacted.symm ▸ member)
    rwa [compacted, String.ofList_toList] at kind
  have tokenized : source.tokenize limit text.toList state = (.ok tokens, after) := by
    rw [spelled, source.tokenize_of_scan limit (Lexeme.scan_flatMap alternates), rolled]
  rw [evaluate, classified]
  change source.roll limit (.arithmetic text) state = _
  rw [roll, Rolling.bind_apply, tokenized]
  simp only [calculated]
  rfl

end Evaluate

end Source

/-- The items of a calculation in full take turns. -/
theorem alternates_lexeme {tokens : List Token} {calculation : Calculation}
    (written : tokens = calculation.tokens) (readable : ∀ token ∈ tokens, token.plan.Readable) :
    Alternates Lexeme.IsOperand Lexeme.IsOperator ((tokens.map Token.plan).map Plan.lexeme) := by
  subst written
  have known : ∀ item ∈ (calculation.tokens.map Token.plan).map Plan.lexeme,
      item.IsOperand ∨ item.IsOperator := by
    rw [List.forall_mem_map, List.forall_mem_map]
    exact fun token member => (readable token member).known
  have signs : calculation.tokens.map Token.sign? =
      ((calculation.tokens.map Token.plan).map Plan.lexeme).map Lexeme.sign? := by
    rw [List.map_map, List.map_map]
    refine List.map_congr_left fun token _ => ?_
    cases token with
    | operand item => cases item <;> rfl
    | operator op => rfl
  refine Lexeme.alternates_of_alternating known signs (Calculation.alternating_tokens ?_)
  intro step member
  refine Lexeme.isArithmetic_of_signs known signs (List.mem_cons_of_mem _ ?_)
  exact List.mem_flatMap.mpr ⟨step, member, List.mem_cons_self⟩

namespace Source

variable {σ : Type} {source : Source σ} {limit : Limit} {text : String} {state : σ}
  {result : ArithmeticResult}

/-- What an evaluation has rolled is spelled by its normal form, item by item. -/
theorem normalForm_of_evaluate
    (answer : (source.evaluate limit text state).1 = .ok (.arithmetic result)) :
    let plans := result.tokens.map Token.plan
    (∀ plan ∈ plans, plan.Readable) ∧
      Alternates Lexeme.IsOperand Lexeme.IsOperator (plans.map Plan.lexeme) ∧
      (normalForm result.breakdown).toList = (plans.map Plan.lexeme).flatMap Lexeme.spelling ∧
      source.rollItems limit 0 (plans.map Plan.lexeme) state =
        (.ok result.tokens, (source.evaluate limit text state).2) := by
  have run := rollItems_of_evaluate answer
  obtain ⟨calculated, rolled⟩ := evaluate_eq_ok_arithmetic answer
  obtain ⟨readable, same⟩ :=
    rollItems_lexemes (Lexeme.forall_mem_scan _) (congrArg Prod.fst run)
  obtain ⟨_, shown, calculation, written, _⟩ := calculateTokens_eq_ok calculated
  refine ⟨List.forall_mem_map.mpr readable, alternates_lexeme written readable, ?_,
    (congrFun same state).trans run⟩
  rw [shown, toList_normalForm rolled readable, List.flatMap_map, List.flatMap_map]

/-- The normal form of an arithmetic expression is arithmetic. It asks the source for the same dice
and comes to the same result but for the canonical text, and whatever it is evaluated to, with any
source, it is the normal form of that. -/
theorem evaluate_normalForm
    (answer : (source.evaluate limit text state).1 = .ok (.arithmetic result)) :
    let normal := normalForm result.breakdown
    normal.toList ∈ Grammar.arithmetic ∧
      source.evaluate limit normal state =
        (.ok (.arithmetic { result with canonical := normal }),
          (source.evaluate limit text state).2) ∧
      (source.observed.evaluate limit normal (state, [])).2 =
        (source.observed.evaluate limit text (state, [])).2 ∧
      ∀ {τ : Type} (other : Source τ) (otherLimit : Limit) (otherState : τ)
        (again : ArithmeticResult),
        (other.evaluate otherLimit normal otherState).1 = .ok (.arithmetic again) →
        normalForm again.breakdown = normal := by
  intro normal
  obtain ⟨readable, alternates, spelled, run⟩ := normalForm_of_evaluate answer
  have member : normal.toList ∈ Grammar.arithmetic :=
    Grammar.mem_arithmetic_iff.mpr ⟨_, alternates, spelled.symm⟩
  have calculated : calculateTokens result.tokens normal =
      .ok { result with canonical := normal } := by
    obtain ⟨_, shown, calculation, written, total⟩ :=
      calculateTokens_eq_ok (evaluate_eq_ok_arithmetic answer).1
    rw [written, Calculation.calculateTokens_tokens, total, ← written, Except.map, ← shown]
  refine ⟨member, evaluate_of_rollItems alternates spelled run calculated, ?_, ?_⟩
  · -- The log of the requests is part of the state of the observed source.
    obtain ⟨expression, classified, _⟩ := evaluate_eq_ok.mp answer
    obtain ⟨requests, same, _⟩ := source.observes_evaluate limit classified state []
    have observed : (source.observed.evaluate limit text (state, [])).1 =
        .ok (.arithmetic result) := by
      rw [same]
      exact answer
    obtain ⟨_, _, _, observedRun⟩ := normalForm_of_evaluate observed
    have evaluated : source.observed.evaluate limit normal (state, []) = _ :=
      evaluate_of_rollItems alternates spelled observedRun calculated
    rw [evaluated]
  · intro τ other otherLimit otherState again answerAgain
    have rolled := congrArg Prod.fst (rollItems_of_evaluate answerAgain)
    rw [Grammar.compact_of_mem_arithmetic member, spelled, Lexeme.scan_flatMap alternates] at rolled
    have plans := plan_of_rollItems readable rolled
    obtain ⟨_, _, spelledAgain, _⟩ := normalForm_of_evaluate answerAgain
    rw [plans, ← spelled] at spelledAgain
    exact String.toList_injective spelledAgain

/-- Blanks, a capital letter, a count left out and leading zeros are gone from the normal form,
while an explosion stays. -/
theorem evaluate_normalForm_exploding :
    let text := " 2D06!! - 007 *d4"
    let normal := "2d6!!-7*1d4"
    ∃ result : ArithmeticResult,
      listedSource.evaluate 3 text [6, 2, 5, 3, 1] = (.ok (.arithmetic result), [1]) ∧
      result.breakdown = "2d6!! → [[6! + 2], [5]] = 13 - 7 * 1d4 → [3] = 3" ∧
      normalForm result.breakdown = normal ∧ normal.toList ∈ Grammar.arithmetic ∧
      listedSource.evaluate 3 normal [6, 2, 5, 3, 1] =
        (.ok (.arithmetic { result with canonical := normal }), [1]) ∧
      (listedSource.observed.evaluate 3 normal ([6, 2, 5, 3, 1], [])).2 =
        (listedSource.observed.evaluate 3 text ([6, 2, 5, 3, 1], [])).2 := by
  have first : listedSource.evaluate 3 " 2D06!! - 007 *d4" [6, 2, 5, 3, 1] =
      (.ok (.arithmetic
        { canonical := "2D06!!-007*d4", total := -8
          breakdown := "2d6!! → [[6! + 2], [5]] = 13 - 7 * 1d4 → [3] = 3"
          tokens := [.operand (.rolled ⟨2, 6, true⟩ [[6, 2], [5]]), .operator .sub,
            .operand (.literal 7), .operator .mul, .operand (.rolled ⟨1, 4, false⟩ [[3]])] }),
        [1]) := by
    decide +kernel
  have shown : normalForm "2d6!! → [[6! + 2], [5]] = 13 - 7 * 1d4 → [3] = 3" = "2d6!!-7*1d4" := by
    decide +kernel
  obtain ⟨member, evaluated, requests, _⟩ := evaluate_normalForm (congrArg Prod.fst first)
  rw [shown] at member evaluated requests
  rw [first] at evaluated
  exact ⟨_, first, rfl, shown, member, evaluated, requests⟩

end Source

end DiceTable
