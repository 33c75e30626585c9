import DiceTable.Proofs.Calculation.Failure
import DiceTable.Proofs.Grammar.Language
import DiceTable.Proofs.Rolling.Evaluation

/-! # What is accepted

Scanning recognises arithmetic and reading recognises tests. The two meet the languages of the
grammar exactly, so that an evaluation answers only for texts of the grammar, by the kind of the
language, and blames the form of a text only where it is in neither language.
-/

namespace DiceTable

namespace Lexeme

variable {items : List Lexeme} {tokens : List Token}

/-- The operators among tokens are those among the items they were made of. -/
theorem isArithmetic_of_signs (known : ∀ item ∈ items, item.IsOperand ∨ item.IsOperator)
    (signs : tokens.map Token.sign? = items.map sign?) {op : Operator}
    (member : .operator op ∈ tokens) : op.IsArithmetic := by
  have sign : some op ∈ items.map sign? := by
    rw [← signs]
    exact List.mem_map.mpr ⟨_, member, rfl⟩
  obtain ⟨item, inItems, same⟩ := List.mem_map.mp sign
  cases item with
  | operator other =>
    cases same
    exact (known _ inItems).resolve_left id
  | dice group => cases same
  | number run => cases same

/-- Items take turns where the tokens made of them do. -/
theorem alternates_of_alternating (known : ∀ item ∈ items, item.IsOperand ∨ item.IsOperator)
    (signs : tokens.map Token.sign? = items.map sign?) (alternating : Alternating tokens) :
    Alternates IsOperand IsOperator items := by
  have images : Alternates (fun sign => sign = none) (fun sign => sign ≠ none)
      (items.map sign?) := by
    rw [← signs]
    refine Alternates.map alternating ?_ ?_
    · rintro _ ⟨operand, rfl⟩
      rfl
    · rintro _ ⟨op, rfl, _⟩
      exact Option.some_ne_none op
  refine images.of_map ?_ ?_
  · intro item member operand
    refine (known item member).resolve_right fun operator => ?_
    cases item with
    | operator op => cases operand
    | dice group => exact operator
    | number run => exact operator
  · intro item member operator
    cases item with
    | operator op => exact (known _ member).resolve_left id
    | dice group => exact (operator rfl).elim
    | number run => exact (operator rfl).elim

/-- Tokens take turns where the items they are made of do. -/
theorem alternating_of_alternates (alternates : Alternates IsOperand IsOperator items)
    (signs : tokens.map Token.sign? = items.map sign?) : Alternating tokens := by
  have images : Alternates (fun sign => sign = none)
      (fun sign => ∃ op : Operator, sign = some op ∧ op.IsArithmetic) (tokens.map Token.sign?) := by
    rw [signs]
    refine alternates.map ?_ ?_
    · intro item operand
      cases item with
      | operator op => exact operand.elim
      | dice group => rfl
      | number run => rfl
    · intro item operator
      cases item with
      | operator op => exact ⟨op, rfl, operator⟩
      | dice group => exact operator.elim
      | number run => exact operator.elim
  refine images.of_map ?_ ?_
  · intro token _ operand
    cases token with
    | operand item => exact ⟨item, rfl⟩
    | operator op => cases operand
  · rintro token _ ⟨op, sign, known⟩
    cases token with
    | operand item => cases sign
    | operator other =>
      cases sign
      exact ⟨op, rfl, known⟩

end Lexeme

namespace Grammar

/-- Arithmetic is what is scanned to its end into items that take turns. -/
theorem mem_arithmetic_iff_scan {text : List Char} :
    text ∈ arithmetic ↔ (Lexeme.scan text).2 = [] ∧
      Alternates Lexeme.IsOperand Lexeme.IsOperator (Lexeme.scan text).1 := by
  rw [mem_arithmetic_iff]
  constructor
  · rintro ⟨items, alternates, rfl⟩
    rw [Lexeme.scan_flatMap alternates]
    exact ⟨rfl, alternates⟩
  · rintro ⟨rest, alternates⟩
    refine ⟨_, alternates, ?_⟩
    have spelled := Lexeme.scan_spelling text
    rw [rest, List.append_nil] at spelled
    exact spelled

theorem mem_test_iff_read? {text : List Char} :
    text ∈ test ↔ ∃ spelling, TestSpelling.read? text = some spelling := by
  rw [mem_test_iff]
  exact exists_congr fun spelling => TestSpelling.read?_eq_some_iff.symm

/-- Arithmetic without its blanks is itself. -/
theorem compact_of_mem_arithmetic {text : List Char} (member : text ∈ arithmetic) :
    Text.compact text = text := by
  obtain ⟨items, alternates, rfl⟩ := mem_arithmetic_iff.mp member
  refine List.filter_eq_self.mpr fun c inText => ?_
  obtain ⟨item, inItems, inItem⟩ := List.mem_flatMap.mp inText
  rcases Lexeme.mem_spelling (alternates.forall_mem item inItems) inItem with digit | listed
  · rw [Text.not_isBlank_of_isDigit digit]
    rfl
  · have others : ∀ d ∈ ['d', 'D', '!', '+', '-', '*', '/'], !Text.isBlank d :=
      List.all_eq_true.mp (by decide)
    exact others c listed

theorem nil_notMem_arithmetic : [] ∉ arithmetic := by
  intro member
  obtain ⟨_, alternates⟩ := mem_arithmetic_iff_scan.mp member
  rw [Lexeme.scan_of_none rfl] at alternates
  cases alternates

end Grammar

namespace Expression

variable {text : String}

/-- The kind of a text of arithmetic. -/
theorem classify_of_mem_arithmetic (member : Text.compact text.toList ∈ Grammar.arithmetic) :
    classify text = .ok (.arithmetic (String.ofList (Text.compact text.toList))) := by
  rcases classify_cases text with ⟨empty, _⟩ | ⟨spelling, read, _⟩ | ⟨_, classified⟩
  · rw [empty] at member
    exact (Grammar.nil_notMem_arithmetic member).elim
  · have inTest := Grammar.mem_test_iff_read?.mpr ⟨spelling, read⟩
    exact (Grammar.not_mem_arithmetic_of_mem_test inTest member).elim
  · exact classified

/-- A text of a test is a test, if it is anything. -/
theorem classify_of_mem_test (member : Text.compact text.toList ∈ Grammar.test) :
    ∃ spelling : TestSpelling, spelling.WellFormed ∧ classify text =
      (spelling.test (String.ofList (Text.compact text.toList))).map .test := by
  obtain ⟨spelling, read⟩ := Grammar.mem_test_iff_read?.mp member
  rcases classify_cases text with ⟨empty, _⟩ | ⟨same, readSame, classified⟩ | ⟨none, _⟩
  · rw [empty] at read
    cases read
  · exact ⟨same, TestSpelling.wellFormed_of_read? readSame, classified⟩
  · rw [none] at read
    cases read

/-- What is classified is a text of a test, or is taken for arithmetic. -/
theorem eq_arithmetic_of_classify {expression : Expression}
    (classified : classify text = .ok expression)
    (notTest : Text.compact text.toList ∉ Grammar.test) :
    expression = .arithmetic (String.ofList (Text.compact text.toList)) := by
  rcases classify_cases text with ⟨_, failed⟩ | ⟨spelling, read, _⟩ | ⟨_, same⟩
  · rw [failed] at classified
    cases classified
  · exact (notTest (Grammar.mem_test_iff_read?.mpr ⟨spelling, read⟩)).elim
  · rw [same] at classified
    cases classified
    rfl

end Expression

theorem Failure.IsRefusal.not_malformed {limit : Limit} {overlong exceeds : Prop}
    {error : DiceError} (refusal : (Failure.dice error).IsRefusal limit overlong exceeds) :
    error.kind ≠ .malformedExpression := by
  cases refusal with
  | overflow kind => simp [kind]
  | spec kind => simp [kind]

namespace Source

variable {σ : Type} {source : Source σ} {limit : Limit} {state : σ} {canonical : String}

/-- Only arithmetic comes to an arithmetic result. -/
theorem mem_arithmetic_of_roll {result : RollResult}
    (answer : (source.roll limit (.arithmetic canonical) state).1 = .ok result) :
    canonical.toList ∈ Grammar.arithmetic := by
  obtain ⟨tokens, total, tokenized, calculated, rfl⟩ := roll_arithmetic_eq_ok.mp answer
  obtain ⟨rolled, rest⟩ := tokenize_eq_ok.mp tokenized
  have signs := (source.rollItems_signs limit 0 _).good_of_ok rolled
  have known := Lexeme.forall_mem_scan canonical.toList
  obtain ⟨calculation, read, _⟩ := Except.bind_eq_ok.mp calculated
  obtain rfl := Calculation.ofTokens_eq_ok_iff.mp (Except.mapError_eq_ok.mp read)
  refine Grammar.mem_arithmetic_iff_scan.mpr ⟨rest, ?_⟩
  refine Lexeme.alternates_of_alternating known signs (Calculation.alternating_tokens ?_)
  intro step member
  refine Lexeme.isArithmetic_of_signs known signs (List.mem_cons_of_mem _ ?_)
  exact List.mem_flatMap.mpr ⟨step, member, List.mem_cons_self⟩

/-- Arithmetic is never found malformed. -/
theorem not_malformed_of_mem_arithmetic (member : canonical.toList ∈ Grammar.arithmetic)
    {error : DiceError}
    (failed : (source.roll limit (.arithmetic canonical) state).1 = .error (.dice error)) :
    error.kind ≠ .malformedExpression := by
  obtain ⟨rest, alternates⟩ := Grammar.mem_arithmetic_iff_scan.mp member
  rcases roll_arithmetic_error failed with failed | ⟨tokens, tokenized, calculated⟩
  · rcases tokenize_error failed with failed | ⟨nonempty, _⟩
    · rcases source.failsOnlyBy_isFault.rollItems_error alternates.forall_mem failed with
        refusal | ⟨fault, impossible⟩
      · exact refusal.not_malformed
      · cases impossible
    · exact (nonempty rest).elim
  · have signs := (source.rollItems_signs limit 0 _).good_of_ok (tokenize_eq_ok.mp tokenized).1
    have alternating := Lexeme.alternating_of_alternates alternates signs
    obtain ⟨calculation, rfl, known⟩ := Calculation.exists_of_alternating alternating
    rw [Calculation.calculateTokens_tokens] at calculated
    have kinds := calculate_error (fun step member => ?_) (Except.map_eq_error.mp calculated)
    · rcases kinds with overflow | ⟨division, _⟩
      · simp [overflow]
      · simp [division]
    · obtain ⟨written, inSteps, rfl⟩ := List.mem_map.mp member
      exact known written inSteps

/-- An evaluation of arithmetic has an arithmetic result, if any, and never blames its form. -/
theorem evaluate_of_mem_arithmetic {text : String}
    (member : Text.compact text.toList ∈ Grammar.arithmetic) :
    (∀ result, (source.evaluate limit text state).1 = .ok result → result.kind = .arithmetic) ∧
      ∀ error, (source.evaluate limit text state).1 = .error (.dice error) →
        error.kind ≠ .malformedExpression := by
  have classified := Expression.classify_of_mem_arithmetic member
  constructor
  · intro result answer
    obtain ⟨expression, same, answer⟩ := evaluate_eq_ok.mp answer
    rw [classified] at same
    cases same
    obtain ⟨_, _, _, _, rfl⟩ := roll_arithmetic_eq_ok.mp answer
    rfl
  · intro error failed
    rcases evaluate_eq_error.mp failed with failed | ⟨expression, same, failed⟩
    · rw [classified] at failed
      cases failed
    · rw [classified] at same
      cases same
      exact not_malformed_of_mem_arithmetic (by rwa [String.toList_ofList]) failed

/-- An evaluation of a test has a result of that kind, if any, and never blames its form. -/
theorem evaluate_of_mem_test {text : String} (member : Text.compact text.toList ∈ Grammar.test) :
    (∀ result, (source.evaluate limit text state).1 = .ok result → result.kind = .tabletop) ∧
      ∀ error, (source.evaluate limit text state).1 = .error (.dice error) →
        error.kind ≠ .malformedExpression := by
  obtain ⟨spelling, wellFormed, classified⟩ := Expression.classify_of_mem_test member
  constructor
  · intro result answer
    obtain ⟨expression, same, answer⟩ := evaluate_eq_ok.mp answer
    rw [classified] at same
    obtain ⟨test, _, rfl⟩ := Except.map_eq_ok.mp same
    exact (roll_test_eq_ok answer).1
  · intro error failed
    rcases evaluate_eq_error.mp failed with failed | ⟨expression, same, failed⟩
    · rw [classified] at failed
      exact (TestSpelling.test_error wellFormed (Except.map_eq_error.mp failed) limit
        False).not_malformed
    · rw [classified] at same
      obtain ⟨test, read, rfl⟩ := Except.map_eq_ok.mp same
      have rollable := TestSpelling.rollable_of_test wellFormed read
      rcases source.failsOnlyBy_isFault.roll_test_error rollable failed False with
        refusal | ⟨fault, impossible⟩
      · exact refusal.not_malformed
      · cases impossible

/-- An evaluation answers only for the texts of the grammar, by the kind of their language, and
finds none of these malformed; no text is of both kinds. -/
theorem evaluate_grammar (source : Source σ) (limit : Limit) (text : String) (state : σ) :
    let left := Text.compact text.toList
    let outcome := (source.evaluate limit text state).1
    (left ∉ Grammar.test → left ∉ Grammar.arithmetic → ∀ result, outcome ≠ .ok result) ∧
      (left ∈ Grammar.arithmetic →
        (∀ result, outcome = .ok result → result.kind = .arithmetic) ∧
        ∀ error, outcome = .error (.dice error) → error.kind ≠ .malformedExpression) ∧
      (left ∈ Grammar.test →
        (∀ result, outcome = .ok result → result.kind = .tabletop) ∧
        ∀ error, outcome = .error (.dice error) → error.kind ≠ .malformedExpression) ∧
      ∀ word ∈ Grammar.test, word ∉ Grammar.arithmetic := by
  intro left outcome
  refine ⟨?_, evaluate_of_mem_arithmetic, evaluate_of_mem_test,
    fun word => Grammar.not_mem_arithmetic_of_mem_test⟩
  intro notTest notArithmetic result answer
  obtain ⟨expression, classified, answer⟩ := evaluate_eq_ok.mp answer
  obtain rfl := Expression.eq_arithmetic_of_classify classified notTest
  have inArithmetic := mem_arithmetic_of_roll answer
  rw [String.toList_ofList] at inArithmetic
  exact notArithmetic inArithmetic

end Source

end DiceTable
