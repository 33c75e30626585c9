import DiceTable.Proofs.Grammar.Acceptance

/-! # The family of errors

With a source that keeps its promises, an evaluation ends in a result or in one of the errors of an
expression, with two exceptions. It may meet a run of digits that is too long to be converted and
whose leading zeros hide that (`Source.MeetsOverlong`). Such a run has more than 4300 digits, so
that no text of 4300 characters or less is concerned. And its dice may exceed a limit that itself
has more than 4300 digits, so that the error which shows the limit is not written
(`Source.ExceedsLimit`).
-/

namespace DiceTable

namespace Source

variable {σ : Type} {source : Source σ} {fault : Failure → Prop} {limit : Limit} {text : String}
  {state : σ} {failure : Failure}

/-- An evaluation meets an overlong number: one of the dice of a test, or one of the items of
arithmetic once all items in front of it are rolled. -/
def MeetsOverlong (source : Source σ) (limit : Limit) (text : String) (state : σ) : Prop :=
  match TestSpelling.read? (Text.compact text.toList) with
  | some spelling => spelling.IsOverlong
  | none => source.ComesToOverlong limit 0 (Lexeme.scan (Text.compact text.toList)).1 state

/-- An evaluation exceeds its limit of dice: with the dice of a test, or with one of the items of
arithmetic once all items in front of it are rolled. -/
def ExceedsLimit (source : Source σ) (limit : Limit) (text : String) (state : σ) : Prop :=
  match TestSpelling.read? (Text.compact text.toList) with
  | some spelling => ∃ test, spelling.test (String.ofList (Text.compact text.toList)) = .ok test ∧
      limit.exceededBy? test.count = some true
  | none => source.ComesToExcess limit 0 (Lexeme.scan (Text.compact text.toList)).1 state

/-- An overlong number that is met is not read, and that is no error of the expression. -/
theorem evaluate_of_meetsOverlong (meets : source.MeetsOverlong limit text state) :
    ∃ count, Decimal.digitLimit < count ∧
      (source.evaluate limit text state).1 = .error (.unreadable (.tooManyDigits count)) := by
  unfold MeetsOverlong at meets
  rcases Expression.classify_cases text with ⟨empty, _⟩ | ⟨spelling, read, classified⟩ |
    ⟨none, classified⟩
  · rw [empty] at meets
    obtain ⟨before, item, after, items, _⟩ := meets
    rw [Lexeme.scan_of_none rfl] at items
    simp at items
  · simp only [read] at meets
    obtain ⟨count, long, refused⟩ := TestSpelling.test_of_isOverlong
      (TestSpelling.wellFormed_of_read? read) meets (String.ofList (Text.compact text.toList))
    refine ⟨count, long, ?_⟩
    apply evaluate_eq_error.mpr
    left
    rw [classified, refused]
    rfl
  · simp only [none] at meets
    obtain ⟨count, long, refused⟩ :=
      rollItems_of_comesToOverlong (Lexeme.forall_mem_scan _) meets
    refine ⟨count, long, evaluate_eq_error.mpr (.inr ⟨_, classified, ?_⟩)⟩
    apply Rolling.bind_eq_error.mpr
    left
    rw [String.toList_ofList]
    exact Rolling.bind_eq_error.mpr (.inl refused)

/-- Where the limit is exceeded, that is what an evaluation fails for. -/
theorem evaluate_of_exceedsLimit (exceeds : source.ExceedsLimit limit text state) :
    ∃ error, (source.evaluate limit text state).1 = .error (limit.refusal error) := by
  unfold ExceedsLimit at exceeds
  rcases Expression.classify_cases text with ⟨empty, _⟩ | ⟨spelling, read, classified⟩ |
    ⟨none, classified⟩
  · rw [empty] at exceeds
    obtain ⟨before, item, after, items, _⟩ := exceeds
    rw [Lexeme.scan_of_none rfl] at items
    simp at items
  · simp only [read] at exceeds
    obtain ⟨test, readTest, exceeded⟩ := exceeds
    have rollable := TestSpelling.rollable_of_test (TestSpelling.wellFormed_of_read? read) readTest
    have refused := source.roll_test_of_exceeded rollable exceeded state
    refine ⟨_, evaluate_eq_error.mpr (.inr ⟨.test test, ?_, refused⟩)⟩
    rw [classified, readTest]
    rfl
  · simp only [none] at exceeds
    obtain ⟨error, refused⟩ := rollItems_of_comesToExcess (Lexeme.forall_mem_scan _) exceeds
    refine ⟨error, evaluate_eq_error.mpr (.inr ⟨_, classified, ?_⟩)⟩
    apply Rolling.bind_eq_error.mpr
    left
    rw [String.toList_ofList]
    exact Rolling.bind_eq_error.mpr (.inl refused)

/-- An evaluation fails with an error of the expression, for what is refused, or by a fault. -/
theorem FailsOnlyBy.evaluate_error (fails : source.FailsOnlyBy fault)
    (failed : (source.evaluate limit text state).1 = .error failure) :
    (∃ error, failure = .dice error) ∨
      failure.IsRefusal limit (source.MeetsOverlong limit text state)
        (source.ExceedsLimit limit text state) ∨ fault failure := by
  unfold MeetsOverlong ExceedsLimit
  rcases Expression.classify_cases text with ⟨_, classified⟩ | ⟨spelling, read, classified⟩ |
    ⟨none, classified⟩
  · -- Nothing is left of the text.
    rcases evaluate_eq_error.mp failed with refused | ⟨expression, same, _⟩
    · rw [classified] at refused
      cases refused
      exact .inl ⟨_, rfl⟩
    · rw [classified] at same
      cases same
  · simp only [read]
    right
    rcases evaluate_eq_error.mp failed with refused | ⟨expression, same, failed⟩
    · rw [classified] at refused
      have wellFormed := TestSpelling.wellFormed_of_read? read
      exact .inl (TestSpelling.test_error wellFormed (Except.map_eq_error.mp refused) limit _)
    · rw [classified] at same
      obtain ⟨test, readTest, rfl⟩ := Except.map_eq_ok.mp same
      have rollable :=
        TestSpelling.rollable_of_test (TestSpelling.wellFormed_of_read? read) readTest
      refine (fails.roll_test_error rollable failed spelling.IsOverlong).imp_left fun refusal => ?_
      exact refusal.mono id fun exceeded => ⟨test, readTest, exceeded⟩
  · simp only [none]
    rcases evaluate_eq_error.mp failed with refused | ⟨expression, same, failed⟩
    · rw [classified] at refused
      cases refused
    · rw [classified] at same
      cases same
      rcases roll_arithmetic_error failed with failed | ⟨tokens, tokenized, failed⟩
      · rw [String.toList_ofList] at failed
        rcases tokenize_error failed with failed | ⟨_, error, rfl⟩
        · exact .inr (fails.rollItems_error (Lexeme.forall_mem_scan _) failed)
        · exact .inl ⟨error, rfl⟩
      · have short := (source.rollItems_isShort limit (Lexeme.forall_mem_scan _) 0).good_of_ok
          (tokenize_eq_ok.mp tokenized).1
        exact .inl (calculateTokens_error (fun item member => short _ member item rfl) failed)

end Source

section Length

theorem DiceSpelling.IsOverlong.length {dice : DiceSpelling} (overlong : dice.IsOverlong) :
    Decimal.digitLimit < dice.chars.length := by
  have parts : dice.count.length + dice.sides.length ≤ dice.chars.length := by
    simp only [DiceSpelling.chars, List.length_append, List.length_cons]
    omega
  rcases overlong with count | ⟨_, sides⟩
  · have := count.1
    omega
  · have := sides.1
    omega

theorem Lexeme.IsOverlong.length {item : Lexeme} (overlong : item.IsOverlong) :
    Decimal.digitLimit < item.spelling.length := by
  cases item with
  | dice group => exact DiceSpelling.IsOverlong.length overlong
  | number run => exact overlong.1
  | operator op => exact overlong.elim

/-- Only a text that is longer than any number that is converted holds an overlong one. -/
theorem Source.MeetsOverlong.length {σ : Type} {source : Source σ} {limit : Limit} {text : String}
    {state : σ} (meets : source.MeetsOverlong limit text state) :
    Decimal.digitLimit < (Text.compact text.toList).length := by
  unfold MeetsOverlong at meets
  split at meets
  · rename_i spelling read
    obtain ⟨dice, spelled, overlong⟩ := meets
    have long := overlong.length
    rw [← TestSpelling.read?_chars read]
    simp only [TestSpelling.chars, spelled, List.length_append]
    omega
  · obtain ⟨before, item, after, items, overlong, _⟩ := meets
    have long := Lexeme.IsOverlong.length overlong
    rw [← Lexeme.scan_spelling (Text.compact text.toList), items]
    simp only [List.flatMap_append, List.flatMap_cons, List.length_append]
    omega

end Length

namespace Source

variable {σ : Type} {source : Source σ}

/-- With a source that always answers in range and ends every chain, exactly those evaluations end
in a result or in an error of the expression that meet no overlong number, and that do not exceed a
limit of too many digits to be written. -/
theorem InRange.evaluate_family (inRange : source.InRange) (ends : source.EndsChains) (limit : Int)
    (text : String) (state : σ) :
    (((∃ result, (source.evaluate limit text state).1 = .ok result) ∨
        ∃ error, (source.evaluate limit text state).1 = .error (.dice error)) ↔
      ¬source.MeetsOverlong limit text state ∧
        (Decimal.isShort Decimal.digitLimit limit ∨ ¬source.ExceedsLimit limit text state)) ∧
    (source.MeetsOverlong limit text state →
      Decimal.digitLimit < (Text.compact text.toList).length ∧
      ∃ count, Decimal.digitLimit < count ∧
        (source.evaluate limit text state).1 = .error (.unreadable (.tooManyDigits count))) ∧
    (¬Decimal.isShort Decimal.digitLimit limit → source.ExceedsLimit limit text state →
      (source.evaluate limit text state).1 = .error (.unwritable Decimal.digitLimit)) := by
  have unwritten (long : ¬Decimal.isShort Decimal.digitLimit limit)
      (exceeds : source.ExceedsLimit limit text state) :
      (source.evaluate limit text state).1 = .error (.unwritable Decimal.digitLimit) := by
    obtain ⟨error, refused⟩ := evaluate_of_exceedsLimit exceeds
    rw [refused, Limit.refusal_of_not_isShort (mt Limit.isShort_ofInt.mp long)]
  refine ⟨⟨fun closed => ⟨fun meets => ?_, ?_⟩, ?_⟩,
    fun meets => ⟨meets.length, evaluate_of_meetsOverlong meets⟩, unwritten⟩
  · obtain ⟨count, _, escaped⟩ := evaluate_of_meetsOverlong meets
    rw [escaped] at closed
    rcases closed with ⟨_, ⟨⟩⟩ | ⟨_, ⟨⟩⟩
  · by_contra escapes
    obtain ⟨long, exceeds⟩ := not_or.mp escapes
    rw [unwritten long (not_not.mp exceeds)] at closed
    rcases closed with ⟨_, ⟨⟩⟩ | ⟨_, ⟨⟩⟩
  · rintro ⟨short, written⟩
    cases outcome : (source.evaluate limit text state).1 with
    | ok result => exact .inl ⟨result, rfl⟩
    | error failure =>
      refine .inr ?_
      rcases (inRange.serves ends).failsOnlyBy.evaluate_error outcome with
        ⟨error, rfl⟩ | refusal | impossible
      · exact ⟨error, rfl⟩
      · cases refusal with
        | overflow => exact ⟨_, rfl⟩
        | spec => exact ⟨_, rfl⟩
        | unreadable _ meets => exact (short meets).elim
        | unwritable long exceeds =>
          exact (written.elim (fun short => long (Limit.isShort_ofInt.mpr short))
            fun within => within exceeds).elim
        | incomparable undecided => cases undecided
      · exact impossible.elim

theorem evaluate_family_short :
    (∃ result, (lowestSource.evaluate (1000 : Int) "3d6!!/0 - 007" ()).1 = .ok result) ∨
      ∃ error,
        (lowestSource.evaluate (1000 : Int) "3d6!!/0 - 007" ()).1 = .error (.dice error) := by
  have family := lowestSource_inRange.evaluate_family lowestSource_endsChains 1000
    "3d6!!/0 - 007" ()
  refine family.1.mpr ⟨fun meets => ?_, .inl (by decide)⟩
  exact absurd (family.2.1 meets).1 (by decide)

/-- A number that is overlong is not read on its own. -/
theorem evaluate_run {run : List Char} (digits : Decimal.IsRun run)
    (overlong : Decimal.IsOverlong run) (limit : Limit) (state : σ) :
    (source.evaluate limit (String.ofList run) state).1 =
      .error (.unreadable (.tooManyDigits run.length)) := by
  have alternates : Alternates Lexeme.IsOperand Lexeme.IsOperator [.number run] := .single digits
  have spelled : [Lexeme.number run].flatMap Lexeme.spelling = run := by simp [Lexeme.spelling]
  have scanned := Lexeme.scan_flatMap alternates
  rw [spelled] at scanned
  have compact : Text.compact (String.ofList run).toList = run := by
    rw [String.toList_ofList, digits.compact_eq]
  have inArithmetic : Text.compact (String.ofList run).toList ∈ Grammar.arithmetic := by
    rw [compact]
    exact Grammar.mem_arithmetic_iff.mpr ⟨_, alternates, spelled⟩
  have classified := Expression.classify_of_mem_arithmetic inArithmetic
  rw [compact] at classified
  have refused : readNumber run (String.ofList run) =
      .error (.unreadable (.tooManyDigits run.length)) :=
    readNumber_of_isOverlong digits overlong
  have item : (source.rollItem limit 0 (.number run) state).1 =
      .error (.unreadable (.tooManyDigits run.length)) :=
    Rolling.ofExcept_bind_eq_error.mpr (.inl refused)
  refine evaluate_eq_error.mpr (.inr ⟨_, classified, ?_⟩)
  apply Rolling.bind_eq_error.mpr
  left
  rw [String.toList_ofList]
  apply Rolling.bind_eq_error.mpr
  left
  rw [scanned]
  exact Rolling.bind_eq_error.mpr (.inl item)

theorem isRun_zeros {n : Nat} (some : 0 < n) : Decimal.IsRun (List.replicate n '0') := by
  refine ⟨fun empty => ?_, fun c member => ?_⟩
  · rw [List.replicate_eq_nil_iff] at empty
    omega
  · rw [(List.mem_replicate.mp member).2]
    decide

/-- None of any number of zeros is significant. -/
theorem isOverlong_zeros {n : Nat} (long : Decimal.digitLimit < n) :
    Decimal.IsOverlong (List.replicate n '0') := by
  have digits := isRun_zeros (Nat.zero_lt_of_lt long)
  have none : Decimal.significant (List.replicate n '0') = [] := by
    rw [Decimal.significant, Decimal.unsigned_of_isDigit digits.digits, List.dropWhile_eq_nil_iff]
    intro c member
    rw [(List.mem_replicate.mp member).2]
    rfl
  refine ⟨by rwa [List.length_replicate], ?_⟩
  rw [none]
  exact Nat.zero_le _

/-- A zero that is written long enough is no error of the expression. -/
theorem evaluate_zeros :
    lowestSource.InRange ∧ lowestSource.EndsChains ∧
      (lowestSource.evaluate (1000 : Int) (String.ofList (List.replicate 4301 '0')) ()).1 =
        .error (.unreadable (.tooManyDigits 4301)) := by
  refine ⟨lowestSource_inRange, lowestSource_endsChains, ?_⟩
  have long : Decimal.digitLimit < 4301 := by decide
  rw [evaluate_run (isRun_zeros (Nat.zero_lt_of_lt long)) (isOverlong_zeros long),
    List.length_replicate]

end Source

end DiceTable
