import DiceTable.Proofs.Breakdown.AuditTrail
import DiceTable.Proofs.Scoring.Verdict
import DiceTable.Proofs.Text.Lines
import DiceTable.Render

/-! # The plain text of a result

The text of a result has a line for each thing it says, and a single line for the dice of a test
where there is a single one. The line of a die leaves out what its verdict in words implies. So the
user and the result can be read off the text, with all that was rolled (`Render.text_lossless`).
-/

namespace DiceTable

open Text (GoesOn goesOn_cons Unbroken)

theorem Decimal.unbroken_chars (n : Int) : Unbroken (chars n) := by
  intro c member
  rcases mem_chars member with rfl | digit
  · decide
  · have bounds := Text.toNat_of_isDigit digit
    simp only [Text.isLineBoundary, Bool.or_eq_false_iff, Bool.and_eq_false_iff,
      decide_eq_false_iff_not, beq_eq_false_iff_ne]
    omega

namespace Outcome

variable {outcome other : Outcome} {target sides otherTarget otherSides : Int}

theorem succeeded_iff_tag :
    outcome.succeeded ↔ outcome.tag = "CRIT SUCCESS" ∨ outcome.tag = "Success" := by
  unfold tag
  split
  · split <;> simp [*]
  · split <;> simp [*]

section Verdict

variable (consistent : outcome.Consistent target sides)
include consistent

theorem criticalSuccess_iff_tag : outcome.criticalSuccess ↔ outcome.tag = "CRIT SUCCESS" := by
  have success := consistent.success
  unfold tag
  split
  · split <;> simp [*]
  · split <;> simp_all

theorem criticalFailure_iff_tag : outcome.criticalFailure ↔ outcome.tag = "CRIT FAIL" := by
  have failure := consistent.failure
  unfold tag
  split
  · split <;> simp_all
  · split <;> simp_all

end Verdict

theorem toList_signedLevel (outcome : Outcome) :
    outcome.signedLevel.toList =
      (if 0 ≤ outcome.successLevel then ['+'] else []) ++ Decimal.chars outcome.successLevel := by
  unfold signedLevel
  split <;> simp [toList_text, *]

/-- A success level is told apart with its sign. -/
theorem signedLevel_inj {rest more : List Char} (here : GoesOn (fun c => !c.isDigit) rest)
    (there : GoesOn (fun c => !c.isDigit) more)
    (same : outcome.signedLevel.toList ++ rest = other.signedLevel.toList ++ more) :
    outcome.successLevel = other.successLevel ∧ rest = more := by
  have unlike {level : Int} {text behind : List Char} (negative : ¬0 ≤ level) :
      '+' :: text ≠ Decimal.chars level ++ behind := by
    rw [Decimal.chars, if_pos (Int.not_le.mp negative)]
    rintro ⟨⟩
  simp only [toList_signedLevel] at same
  split at same <;> split at same
  · exact Decimal.chars_separable trivial trivial here there (List.cons.inj same).2
  · rename_i negative
    exact (unlike negative same).elim
  · rename_i negative _
    exact (unlike negative same.symm).elim
  · exact Decimal.chars_separable trivial trivial here there same

theorem toList_line (outcome : Outcome) :
    outcome.line.toList = Decimal.chars outcome.raw ++ ' ' :: '→' :: ' ' :: 'S' :: 'L' :: ' ' ::
      (outcome.signedLevel.toList ++ ' ' :: '(' :: (outcome.tag.toList ++ [')'])) := by
  simp [line, toList_text]

/-- An outcome is told by its line. -/
theorem Consistent.line_inj (consistent : outcome.Consistent target sides)
    (otherConsistent : other.Consistent otherTarget otherSides) (same : outcome.line = other.line) :
    outcome = other := by
  have written := congrArg String.toList same
  simp only [toList_line] at written
  obtain ⟨raw, written⟩ := Decimal.chars_separable trivial trivial (goesOn_cons rfl _)
    (goesOn_cons rfl _) written
  simp only [List.cons.injEq, true_and] at written
  obtain ⟨level, written⟩ := signedLevel_inj (goesOn_cons rfl _) (goesOn_cons rfl _) written
  simp only [List.cons.injEq, true_and] at written
  have tag : outcome.tag = other.tag := String.toList_inj.mp (List.append_cancel_right written)
  have succeeded : outcome.succeeded = other.succeeded := by
    rw [Bool.eq_iff_iff, succeeded_iff_tag, succeeded_iff_tag, tag]
  have success : outcome.criticalSuccess = other.criticalSuccess := by
    rw [Bool.eq_iff_iff, criticalSuccess_iff_tag consistent,
      criticalSuccess_iff_tag otherConsistent, tag]
  have failure : outcome.criticalFailure = other.criticalFailure := by
    rw [Bool.eq_iff_iff, criticalFailure_iff_tag consistent,
      criticalFailure_iff_tag otherConsistent, tag]
  cases outcome
  cases other
  rw [mk.injEq]
  exact ⟨raw, level, succeeded, success, failure⟩

theorem unbroken_line (outcome : Outcome) : Unbroken outcome.line.toList := by
  have level : Unbroken outcome.signedLevel.toList := by
    rw [toList_signedLevel]
    refine .append ?_ (Decimal.unbroken_chars _)
    split <;> decide
  have tag : Unbroken outcome.tag.toList := by
    unfold tag
    split <;> split <;> decide
  have arrow : Unbroken [' ', '→', ' ', 'S', 'L', ' '] := by
    decide
  have behind : Unbroken ([' ', '('] ++ (outcome.tag.toList ++ [')'])) :=
    .append (by decide) (tag.append (by decide))
  rw [toList_line]
  exact (Decimal.unbroken_chars _).append (arrow.append (level.append behind))

end Outcome

section Breakdown

theorem unbroken_chainText (group : DiceGroup) (chain : Chain) :
    Unbroken (chainText group chain).toList := by
  have face (face : Int) : Unbroken (faceText group.sides face).toList := by
    rw [toList_faceText]
    refine (Decimal.unbroken_chars face).append ?_
    split <;> decide
  rw [toList_chainText]
  split
  · refine .cons (by decide) (.append (.intercalate (by decide) ?_) (by decide))
    exact List.forall_mem_map.mpr fun shown _ => face shown
  · refine .intercalate (by decide) ?_
    exact List.forall_mem_map.mpr fun shown _ => Decimal.unbroken_chars shown

theorem unbroken_rolledText (group : DiceGroup) (chains : List Chain) :
    Unbroken (rolledText group chains).toList := by
  have spelled : Unbroken group.chars := by
    refine .append ((Decimal.unbroken_chars _).append
      (.cons (by decide) (Decimal.unbroken_chars _))) ?_
    split <;> decide
  have dice : Unbroken ([',', ' '].intercalate
      (chains.map fun chain => (chainText group chain).toList)) :=
    .intercalate (by decide) (List.forall_mem_map.mpr fun chain _ => unbroken_chainText group chain)
  have total : Unbroken ([']', ' ', '=', ' '] ++ Decimal.chars (chainsTotal chains)) :=
    .append (by decide) (Decimal.unbroken_chars _)
  have arrow : Unbroken [' ', '→', ' ', '['] := by
    decide
  rw [toList_rolledText]
  exact spelled.append (arrow.append (dice.append total))

theorem Token.IsRolled.unbroken {token : Token} (rolled : token.IsRolled) :
    Unbroken token.text.toList := by
  cases rolled with
  | @operator op known =>
    cases op with
    | other text =>
      simp [Operator.IsArithmetic, Operator.isAdditive, Operator.isMultiplicative] at known
    | _ => decide
  | literal _ => exact (toList_text_literal _).symm ▸ Decimal.unbroken_chars _
  | rolled _ _ _ => exact unbroken_rolledText _ _

/-- Nothing that a breakdown shows ends a line. -/
theorem unbroken_breakdown {tokens : List Token} (rolled : ∀ token ∈ tokens, token.IsRolled) :
    Unbroken (breakdown tokens).toList := by
  rw [breakdown, String.toList_intercalate, List.map_map]
  exact .intercalate (by decide) (List.forall_mem_map.mpr fun token member =>
    (rolled token member).unbroken)

/-- A breakdown starts with the digit of an operand. -/
theorem not_isBlankText_breakdown {tokens : List Token}
    (rolled : ∀ token ∈ tokens, token.IsRolled) {calculation : Calculation}
    (written : tokens = calculation.tokens) : Text.isBlankText (breakdown tokens) = false := by
  subst written
  obtain ⟨c, rest, spelled, digit⟩ := (rolled _ List.mem_cons_self).text_of_operand
  have start : c ∈ (breakdown calculation.tokens).toList := by
    rw [breakdown, String.toList_intercalate, Calculation.tokens, List.map_cons, List.map_cons,
      Text.intercalate_cons, Token.text, spelled]
    exact List.mem_cons_self
  rw [Text.isBlankText, List.all_eq_false]
  exact ⟨c, start, by rw [Text.not_isBlank_of_isDigit digit]; decide⟩

end Breakdown

/-- What an evaluation comes to: what the tokens of arithmetic come to once they are rolled, or dice
that are scored against the target of a test. -/
inductive RollResult.IsRolled : RollResult → Prop
  | arithmetic {result : ArithmeticResult}
      (calculated : calculateTokens result.tokens result.canonical = .ok result)
      (rolled : ∀ token ∈ result.tokens, token.IsRolled) : IsRolled (.arithmetic result)
  | test {result : TestResult} {sides : Int}
      (scored : ∀ outcome ∈ result.outcomes, outcome.Consistent result.target sides) :
      IsRolled (.test result)

theorem Source.isRolled_of_evaluate {σ : Type} {source : Source σ} {limit : Limit} {text : String}
    {state : σ} {result : RollResult} (run : (source.evaluate limit text state).1 = .ok result) :
    result.IsRolled := by
  cases result with
  | arithmetic result =>
    obtain ⟨calculated, rolled⟩ := evaluate_eq_ok_arithmetic run
    exact .arithmetic calculated rolled
  | test result =>
    obtain ⟨expression, _, run⟩ := evaluate_eq_ok.mp run
    cases expression with
    | arithmetic canonical =>
      obtain ⟨_, _, _, _, same⟩ := roll_arithmetic_eq_ok.mp run
      cases same
    | test test =>
      obtain ⟨rolled, after, run, answer⟩ := Rolling.bind_eq_ok.mp run
      cases answer
      obtain ⟨same, scored⟩ := score_of_runTest (congrArg Prod.fst run)
      have consistent : ∀ outcome ∈ result.outcomes,
          outcome.Consistent result.target test.sides := by
        intro outcome member
        obtain ⟨raw, rfl⟩ := scored outcome member
        rw [same]
        exact Outcome.score_consistent raw test.target test.sides
      exact .test consistent

namespace Render

section Lines

variable {outcomes others : List Outcome} {target sides otherTarget otherSides : Int}

/-- The lines of the dice of a test. -/
theorem fieldLines_rolls (outcomes : List Outcome) :
    fieldLines ⟨"Rolls", "\n".intercalate (outcomes.map Outcome.line), false⟩ =
      match outcomes with
      | [] => ["Rolls: "]
      | [outcome] => ["Rolls: " ++ outcome.line]
      | outcomes => "Rolls:" :: outcomes.map fun outcome => "  " ++ outcome.line := by
  match outcomes with
  | [] => rfl
  | [outcome] =>
    have single : '\n' ∉ outcome.line.toList := outcome.unbroken_line.newline_not_mem
    rw [List.map_singleton, String.intercalate_singleton, fieldLines,
      if_pos (by simpa using single)]
    rfl
  | first :: second :: rest =>
    generalize same : first :: second :: rest = outcomes
    have joined : ("\n".intercalate (outcomes.map Outcome.line)).toList =
        ['\n'].intercalate (outcomes.map fun outcome => outcome.line.toList) := by
      rw [String.toList_intercalate, List.map_map]
      rfl
    have several : '\n' ∈ ("\n".intercalate (outcomes.map Outcome.line)).toList := by
      rw [joined, ← same]
      simp
    have split : Text.lines ("\n".intercalate (outcomes.map Outcome.line)).toList =
        outcomes.map fun outcome => outcome.line.toList := by
      rw [joined]
      refine Text.lines_intercalate ?_ ?_
      · exact List.forall_mem_map.mpr fun outcome _ => by simp [Outcome.toList_line]
      · exact List.forall_mem_map.mpr fun outcome _ => outcome.unbroken_line
    rw [fieldLines, if_neg (by simpa using several), split, List.map_map, ← same]
    simp

/-- The lines of dice as they were before they were laid out. -/
def rollsOfLines : List String → List (List Char)
  | [line] => if line = "Rolls: " then [] else [line.toList.drop "Rolls: ".toList.length]
  | lines => lines.tail.map fun line => line.toList.drop "  ".toList.length

theorem rollsOfLines_fieldLines (outcomes : List Outcome) :
    rollsOfLines (fieldLines ⟨"Rolls", "\n".intercalate (outcomes.map Outcome.line), false⟩) =
      outcomes.map fun outcome => outcome.line.toList := by
  rw [fieldLines_rolls]
  match outcomes with
  | [] => rfl
  | [outcome] =>
    have shown : "Rolls: " ++ outcome.line ≠ "Rolls: " := by
      intro empty
      have written := congrArg String.toList empty
      simp [Outcome.toList_line] at written
    simp only [rollsOfLines, if_neg shown]
    simp
  | first :: second :: rest => simp [rollsOfLines, Function.comp_def]

/-- The dice of a test are told by their lines. -/
theorem outcomes_of_lines (scored : ∀ outcome ∈ outcomes, outcome.Consistent target sides)
    (otherScored : ∀ outcome ∈ others, outcome.Consistent otherTarget otherSides)
    (same : fieldLines ⟨"Rolls", "\n".intercalate (outcomes.map Outcome.line), false⟩ =
      fieldLines ⟨"Rolls", "\n".intercalate (others.map Outcome.line), false⟩) :
    outcomes = others := by
  have lines := congrArg rollsOfLines same
  rw [rollsOfLines_fieldLines, rollsOfLines_fieldLines] at lines
  clear same
  induction outcomes generalizing others with
  | nil => exact (List.map_eq_nil_iff.mp lines.symm).symm
  | cons outcome outcomes ih =>
    cases others with
    | nil => cases lines
    | cons other others =>
      obtain ⟨here, later⟩ := List.forall_mem_cons.mp scored
      obtain ⟨otherHere, otherLater⟩ := List.forall_mem_cons.mp otherScored
      obtain ⟨first, rest⟩ := List.cons.inj lines
      rw [here.line_inj otherHere (String.toList_inj.mp first), ih later otherLater rest]

end Lines

/-- A value that stays on one line stands behind the name of its field. -/
theorem fieldLines_of_unbroken (name : String) {value : String} (unbroken : Unbroken value.toList)
    (inline : Bool) : fieldLines ⟨name, value, inline⟩ = [name ++ ": " ++ value] := by
  have single := unbroken.newline_not_mem
  rw [fieldLines, if_pos (by simp [single])]

theorem unbroken_text (n : Int) : Unbroken (Decimal.text n).toList :=
  toList_text n ▸ Decimal.unbroken_chars n

theorem flatMap_fields_test (result : TestResult) :
    (fields (.test result)).flatMap fieldLines =
      ("Target" ++ ": " ++ Decimal.text result.target) ::
        fieldLines ⟨"Rolls", "\n".intercalate (result.outcomes.map Outcome.line), false⟩ := by
  rw [fields, List.flatMap_cons, List.flatMap_singleton, fieldLines_of_unbroken _ (unbroken_text _),
    List.singleton_append]

theorem flatMap_fields_arithmetic {result : ArithmeticResult}
    (calculated : calculateTokens result.tokens result.canonical = .ok result)
    (rolled : ∀ token ∈ result.tokens, token.IsRolled) :
    (fields (.arithmetic result)).flatMap fieldLines =
      ["Total" ++ ": " ++ Decimal.text result.total, "Details" ++ ": " ++ result.breakdown] := by
  obtain ⟨_, shown, calculation, written, _⟩ := calculateTokens_eq_ok calculated
  have visible : Text.isBlankText result.breakdown = false :=
    shown ▸ not_isBlankText_breakdown rolled written
  have unbroken : Unbroken result.breakdown.toList := shown ▸ unbroken_breakdown rolled
  rw [fields, List.flatMap_cons, List.flatMap_singleton, visible, if_neg Bool.false_ne_true,
    fieldLines_of_unbroken _ (unbroken_text _), fieldLines_of_unbroken _ unbroken,
    List.singleton_append]

/-- A result is told by the lines of its fields, but for its canonical text. -/
theorem result_of_fieldLines {result again : RollResult} (rolled : result.IsRolled)
    (rerolled : again.IsRolled) (canonical : result.canonical = again.canonical)
    (same : (fields result).flatMap fieldLines = (fields again).flatMap fieldLines) :
    result = again := by
  have unlike (target total : Int) :
      "Target" ++ ": " ++ Decimal.text target ≠ "Total" ++ ": " ++ Decimal.text total := by
    intro alike
    have written := congrArg String.toList alike
    simp at written
  cases rolled with
  | @arithmetic result calculated tokens =>
    cases rerolled with
    | @arithmetic again recalculated others =>
      rw [flatMap_fields_arithmetic calculated tokens,
        flatMap_fields_arithmetic recalculated others] at same
      obtain ⟨_, shown, calculation, written, _⟩ := calculateTokens_eq_ok calculated
      obtain ⟨_, reshown, recalculation, rewritten, _⟩ := calculateTokens_eq_ok recalculated
      have nonempty : result.tokens ≠ [] := written ▸ List.cons_ne_nil _ _
      have otherNonempty : again.tokens ≠ [] := rewritten ▸ List.cons_ne_nil _ _
      have details : result.breakdown = again.breakdown :=
        (String.append_right_inj _).mp (List.cons.inj (List.cons.inj same).2).1
      rw [shown, reshown, breakdown_inj nonempty otherNonempty tokens others] at details
      -- The same tokens under the same canonical text are calculated to the same result.
      change result.canonical = again.canonical at canonical
      rw [details, canonical, recalculated] at calculated
      rw [Except.ok.inj calculated]
    | @test again _ _ =>
      rw [flatMap_fields_arithmetic calculated tokens, flatMap_fields_test] at same
      exact (unlike _ _ (List.cons.inj same).1.symm).elim
  | @test result _ scored =>
    cases rerolled with
    | @arithmetic again recalculated others =>
      rw [flatMap_fields_test, flatMap_fields_arithmetic recalculated others] at same
      exact (unlike _ _ (List.cons.inj same).1).elim
    | @test again _ rescored =>
      rw [flatMap_fields_test, flatMap_fields_test] at same
      obtain ⟨target, lines⟩ := List.cons.inj same
      have target : result.target = again.target :=
        Decimal.text_injective ((String.append_right_inj _).mp target)
      have outcomes : result.outcomes = again.outcomes := outcomes_of_lines scored rescored lines
      cases result
      cases again
      congr

theorem title_injective {user other : String} (same : title user = title other) : user = other := by
  have unlike {name : String} : "🎲 Roll" ≠ "🎲 Roll by " ++ name := by
    intro alike
    have written := congrArg String.toList alike
    simp at written
  unfold title at same
  split at same <;> split at same
  · rename_i empty otherEmpty
    rw [empty, otherEmpty]
  · exact (unlike same).elim
  · exact (unlike same.symm).elim
  · exact (String.append_right_inj _).mp same

theorem unbroken_append {front line : String} (first : Unbroken front.toList)
    (second : Unbroken line.toList) : Unbroken (front ++ line).toList := by
  rw [String.toList_append]
  exact first.append second

/-- No line of a field is broken. -/
theorem unbroken_fieldLines {result : RollResult} (rolled : result.IsRolled) :
    ∀ line ∈ (fields result).flatMap fieldLines, Unbroken line.toList := by
  cases rolled with
  | @arithmetic result calculated tokens =>
    obtain ⟨_, shown, _⟩ := calculateTokens_eq_ok calculated
    rw [flatMap_fields_arithmetic calculated tokens, List.forall_mem_cons,
      List.forall_mem_singleton, shown]
    exact ⟨unbroken_append (by decide) (unbroken_text _),
      unbroken_append (by decide) (unbroken_breakdown tokens)⟩
  | @test result _ _ =>
    rw [flatMap_fields_test, List.forall_mem_cons, fieldLines_rolls]
    refine ⟨unbroken_append (by decide) (unbroken_text _), ?_⟩
    split
    · decide
    · rename_i outcome _
      exact List.forall_mem_singleton.mpr (unbroken_append (by decide) outcome.unbroken_line)
    · refine List.forall_mem_cons.mpr ⟨by decide, List.forall_mem_map.mpr fun outcome _ => ?_⟩
      exact unbroken_append (by decide) outcome.unbroken_line

variable {user other : String} {result again : RollResult}

/-- No line of a text holds a line feed, where the name of the user and the canonical text hold
none. -/
theorem newline_not_mem_lines (named : '\n' ∉ user.toList) (rolled : result.IsRolled)
    (unspaced : '\n' ∉ result.canonical.toList) :
    ∀ line ∈ title user :: (fields result).flatMap fieldLines ++ [footer result],
      '\n' ∉ line.toList := by
  have behind {front line : String} (plain : '\n' ∉ front.toList) (later : '\n' ∉ line.toList) :
      '\n' ∉ (front ++ line).toList := by
    rw [String.toList_append, List.mem_append]
    exact not_or.mpr ⟨plain, later⟩
  refine List.forall_mem_append.mpr ⟨List.forall_mem_cons.mpr ⟨?_, fun line member => ?_⟩,
    List.forall_mem_singleton.mpr ?_⟩
  · unfold title
    split
    · decide
    · exact behind (by decide) named
  · exact (unbroken_fieldLines rolled line member).newline_not_mem
  · exact behind (by decide) unspaced

/-- The user and the result are told by the text of the result. -/
theorem text_inj (named : '\n' ∉ user.toList) (otherNamed : '\n' ∉ other.toList)
    (rolled : result.IsRolled) (rerolled : again.IsRolled)
    (unspaced : '\n' ∉ result.canonical.toList) (otherUnspaced : '\n' ∉ again.canonical.toList)
    (same : text result user = text again other) : user = other ∧ result = again := by
  have lines := Text.joinLines_inj (List.cons_ne_nil _ _) (List.cons_ne_nil _ _)
    (newline_not_mem_lines named rolled unspaced)
    (newline_not_mem_lines otherNamed rerolled otherUnspaced) same
  obtain ⟨titles, others⟩ := List.cons.inj lines
  obtain ⟨shown, footers⟩ := List.append_inj' others rfl
  have canonical : result.canonical = again.canonical :=
    (String.append_right_inj _).mp (List.cons.inj footers).1
  exact ⟨title_injective titles, result_of_fieldLines rolled rerolled canonical shown⟩

/-- Whatever was evaluated, with any sources and for any users whose names stay on one line: where
the texts are equal, the users and the results are, with all that was rolled. -/
theorem text_lossless {σ τ : Type} {source : Source σ} {resource : Source τ}
    {limit otherLimit : Limit} {expression otherExpression : String} {state : σ} {otherState : τ}
    (run : (source.evaluate limit expression state).1 = .ok result)
    (rerun : (resource.evaluate otherLimit otherExpression otherState).1 = .ok again)
    (named : '\n' ∉ user.toList) (otherNamed : '\n' ∉ other.toList)
    (same : text result user = text again other) : user = other ∧ result = again := by
  have unspaced {cs : List Char} : '\n' ∉ Text.compact cs := by
    intro member
    have blank := Text.not_isBlank_of_mem_compact member
    revert blank
    decide
  refine text_inj named otherNamed (Source.isRolled_of_evaluate run)
    (Source.isRolled_of_evaluate rerun) ?_ ?_ same
  · rw [Source.canonical_of_evaluate run, String.toList_ofList]
    exact unspaced
  · rw [Source.canonical_of_evaluate rerun, String.toList_ofList]
    exact unspaced

/-- Two dice that are laid out on lines of their own, from different numbers for the same faces. -/
theorem text_lossless_lines :
    ∃ result again : RollResult,
      (listedSource.evaluate (10 : Int) "2 d100 w50" [3, 97]).1 = .ok result ∧
      (listedSource.evaluate (2 : Int) "2d100w50" [103, 197]).1 = .ok again ∧
      text result "ann" = "🎲 Roll by ann\nTarget: 50\nRolls:\n  3 → SL +5 (CRIT SUCCESS)\n  " ++
        "97 → SL -4 (CRIT FAIL)\nExpr: 2d100w50" ∧
      text again "ann" = text result "ann" ∧ result = again := by
  have run : (listedSource.evaluate (10 : Int) "2 d100 w50" [3, 97]).1 =
      .ok (.test ⟨"2d100w50", 50, [⟨3, 5, true, true, false⟩, ⟨97, -4, false, false, true⟩]⟩) := by
    decide +kernel
  have rerun : (listedSource.evaluate (2 : Int) "2d100w50" [103, 197]).1 =
      .ok (.test ⟨"2d100w50", 50, [⟨3, 5, true, true, false⟩, ⟨97, -4, false, false, true⟩]⟩) := by
    decide +kernel
  have named : '\n' ∉ "ann".toList := by
    decide
  refine ⟨_, _, run, rerun, ?_, rfl, (text_lossless run rerun named named rfl).2⟩
  decide +kernel

end Render

end DiceTable
