import DiceTable.Proofs.Grammar.Spelling
import Mathlib.Computability.Language

/-! # The grammar of expressions

The two languages of dice expressions, put together from characters by union, concatenation and
repetition. Their texts are the spellings of well-formed items in turns (`mem_arithmetic_iff`) and
of well-formed tests (`mem_test_iff`); no text is in both.
-/

namespace DiceTable.Grammar

open Computability

def one (kind : Char → Bool) : Language Char :=
  {text | ∃ c, kind c ∧ text = [c]}

def digits : Language Char :=
  one Char.isDigit * (one Char.isDigit)∗

/-- A dice group, `[digits] d digits [!!]`. -/
def dice : Language Char :=
  (1 + digits) * one (· ∈ ['d', 'D']) * digits * (1 + {['!', '!']})

def factor : Language Char :=
  digits + dice

/-- Factors with operators between them, `factor ((+|-|*|/) factor)*`. -/
def arithmetic : Language Char :=
  factor * (one (· ∈ ['+', '-', '*', '/']) * factor)∗

/-- Percentile tests, `([digits] d digits [!!])? w digits [(+|-) digits]`. -/
def test : Language Char :=
  (1 + dice) * one (· ∈ ['w', 'W']) * digits * (1 + one (· ∈ ['+', '-']) * digits)

theorem mem_digits_iff {text : List Char} : text ∈ digits ↔ Decimal.IsRun text := by
  constructor
  · intro member
    obtain ⟨_, ⟨c, first, rfl⟩, _, repeated, rfl⟩ := Language.mem_mul.mp member
    obtain ⟨pieces, rfl, single⟩ := Language.mem_kstar.mp repeated
    refine ⟨by simp, ?_⟩
    intro d member
    rcases List.mem_cons.mp member with rfl | member
    · exact first
    · obtain ⟨piece, inPieces, inPiece⟩ := List.mem_flatten.mp member
      obtain ⟨e, digit, rfl⟩ := single piece inPieces
      rw [List.mem_singleton.mp inPiece]
      exact digit
  · rintro ⟨nonempty, digit⟩
    obtain ⟨c, rest, rfl⟩ := List.exists_cons_of_ne_nil nonempty
    refine Language.mem_mul.mpr ⟨[c], ⟨c, digit c List.mem_cons_self, rfl⟩, rest, ?_, rfl⟩
    refine Language.mem_kstar.mpr ⟨rest.map ([·]), by simp [← List.flatMap_def], ?_⟩
    intro piece member
    obtain ⟨d, inRest, rfl⟩ := List.mem_map.mp member
    exact ⟨d, digit d (List.mem_cons_of_mem _ inRest), rfl⟩

theorem mem_one_add_iff {language : Language Char} {text : List Char} :
    text ∈ 1 + language ↔ text = [] ∨ text ∈ language := Iff.rfl

/-- The digits in front of a dice group may be left out. -/
theorem mem_one_add_digits_iff {text : List Char} :
    text ∈ 1 + digits ↔ ∀ c ∈ text, c.isDigit := by
  rw [mem_one_add_iff, mem_digits_iff]
  constructor
  · rintro (rfl | run)
    · simp
    · exact run.digits
  · intro digit
    by_cases empty : text = []
    · exact .inl empty
    · exact .inr ⟨empty, digit⟩

theorem mem_dice_iff {text : List Char} :
    text ∈ dice ↔ ∃ group : DiceSpelling, group.WellFormed ∧ group.chars = text := by
  constructor
  · intro member
    obtain ⟨_, sided, bang, banged, rfl⟩ := Language.mem_mul.mp member
    obtain ⟨_, marked, sides, inDigits, rfl⟩ := Language.mem_mul.mp sided
    obtain ⟨count, counted, _, ⟨mark, letter, rfl⟩, rfl⟩ := Language.mem_mul.mp marked
    have run := mem_digits_iff.mp inDigits
    have digit := mem_one_add_digits_iff.mp counted
    have letter : Lexeme.isDiceMark mark := by simpa [Lexeme.isDiceMark] using letter
    rcases mem_one_add_iff.mp banged with rfl | exploding
    · exact ⟨⟨count, mark, sides, false⟩, ⟨digit, letter, run⟩, by simp [DiceSpelling.chars]⟩
    · obtain rfl : bang = ['!', '!'] := exploding
      exact ⟨⟨count, mark, sides, true⟩, ⟨digit, letter, run⟩, by simp [DiceSpelling.chars]⟩
  · rintro ⟨⟨count, mark, sides, exploding⟩, ⟨digit, letter, run⟩, rfl⟩
    have marked : [mark] ∈ one (· ∈ ['d', 'D']) :=
      ⟨mark, by simpa [Lexeme.isDiceMark] using letter, rfl⟩
    have banged : (if exploding then ['!', '!'] else []) ∈ (1 + {['!', '!']} : Language Char) := by
      cases exploding with
      | true => exact .inr rfl
      | false => exact .inl rfl
    have front := Language.append_mem_mul (mem_one_add_digits_iff.mpr digit) marked
    have sided := Language.append_mem_mul front (mem_digits_iff.mpr run)
    have parts : DiceSpelling.chars ⟨count, mark, sides, exploding⟩ =
        count ++ [mark] ++ sides ++ if exploding then ['!', '!'] else [] := by
      simp [DiceSpelling.chars]
    rw [parts]
    exact Language.append_mem_mul sided banged

theorem mem_factor_iff {text : List Char} :
    text ∈ factor ↔ ∃ item : Lexeme, item.IsOperand ∧ item.spelling = text := by
  constructor
  · rintro (number | member)
    · exact ⟨.number text, mem_digits_iff.mp number, rfl⟩
    · obtain ⟨group, wellFormed, rfl⟩ := mem_dice_iff.mp member
      exact ⟨.dice group, wellFormed, rfl⟩
  · rintro ⟨item, operand, rfl⟩
    cases item with
    | dice group => exact .inr (mem_dice_iff.mpr ⟨group, operand, rfl⟩)
    | number run => exact .inl (mem_digits_iff.mpr operand)
    | operator op => exact operand.elim

theorem mem_operator_iff {text : List Char} :
    text ∈ one (· ∈ ['+', '-', '*', '/']) ↔
      ∃ item : Lexeme, item.IsOperator ∧ item.spelling = text := by
  constructor
  · rintro ⟨c, sign, rfl⟩
    simp only [List.mem_cons, List.not_mem_nil, or_false, decide_eq_true_eq] at sign
    rcases sign with rfl | rfl | rfl | rfl
    · exact ⟨.operator .add, .inl rfl, rfl⟩
    · exact ⟨.operator .sub, .inl rfl, rfl⟩
    · exact ⟨.operator .mul, .inr rfl, rfl⟩
    · exact ⟨.operator .div, .inr rfl, rfl⟩
  · rintro ⟨item, operator, rfl⟩
    cases item with
    | operator op =>
      cases op with
      | other text => simp [Lexeme.IsOperator, Operator.IsArithmetic, Operator.isAdditive,
          Operator.isMultiplicative] at operator
      | _ => exact ⟨_, by decide, rfl⟩
    | dice group => exact operator.elim
    | number run => exact operator.elim

/-- A factor and more of them behind operators are spelled by items in turns. -/
theorem exists_items_of_factors {first : List Char} {pieces : List (List Char)}
    (firstFactor : first ∈ factor)
    (piece : ∀ piece ∈ pieces, piece ∈ one (· ∈ ['+', '-', '*', '/']) * factor) :
    ∃ items, Alternates Lexeme.IsOperand Lexeme.IsOperator items ∧
      items.flatMap Lexeme.spelling = first ++ pieces.flatten := by
  induction pieces generalizing first with
  | nil =>
    obtain ⟨item, operand, rfl⟩ := mem_factor_iff.mp firstFactor
    exact ⟨[item], .single operand, by simp⟩
  | cons head tail ih =>
    obtain ⟨operated, rest⟩ := List.forall_mem_cons.mp piece
    obtain ⟨sign, signed, second, secondFactor, rfl⟩ := Language.mem_mul.mp operated
    obtain ⟨items, alternates, spelled⟩ := ih secondFactor rest
    obtain ⟨item, operand, rfl⟩ := mem_factor_iff.mp firstFactor
    obtain ⟨operator, isOperator, rfl⟩ := mem_operator_iff.mp signed
    exact ⟨item :: operator :: items, .step operand isOperator alternates, by simp [spelled]⟩

/-- Items in turns spell a factor and more of them behind operators. -/
theorem exists_factors_of_alternates {items : List Lexeme}
    (alternates : Alternates Lexeme.IsOperand Lexeme.IsOperator items) :
    ∃ first ∈ factor, ∃ pieces : List (List Char),
      (∀ piece ∈ pieces, piece ∈ one (· ∈ ['+', '-', '*', '/']) * factor) ∧
      items.flatMap Lexeme.spelling = first ++ pieces.flatten := by
  induction alternates with
  | @single item operand =>
    have inFactor := mem_factor_iff.mpr ⟨item, operand, rfl⟩
    exact ⟨item.spelling, inFactor, [], by simp, by simp⟩
  | @step item operator rest operand isOperator _ ih =>
    obtain ⟨first, firstFactor, pieces, piece, spelled⟩ := ih
    have inFactor := mem_factor_iff.mpr ⟨item, operand, rfl⟩
    have signed := mem_operator_iff.mpr ⟨operator, isOperator, rfl⟩
    refine ⟨item.spelling, inFactor, (operator.spelling ++ first) :: pieces, ?_, by simp [spelled]⟩
    exact List.forall_mem_cons.mpr ⟨Language.append_mem_mul signed firstFactor, piece⟩

/-- The texts of arithmetic are the spellings of operands and operators in turns. -/
theorem mem_arithmetic_iff {text : List Char} :
    text ∈ arithmetic ↔ ∃ items, Alternates Lexeme.IsOperand Lexeme.IsOperator items ∧
      items.flatMap Lexeme.spelling = text := by
  constructor
  · intro member
    obtain ⟨first, firstFactor, _, repeated, rfl⟩ := Language.mem_mul.mp member
    obtain ⟨pieces, rfl, piece⟩ := Language.mem_kstar.mp repeated
    exact exists_items_of_factors firstFactor piece
  · rintro ⟨items, alternates, rfl⟩
    obtain ⟨first, firstFactor, pieces, piece, spelled⟩ := exists_factors_of_alternates alternates
    rw [spelled]
    exact Language.append_mem_mul firstFactor (Language.join_mem_kstar piece)

theorem mem_modifier_iff {text : List Char} :
    text ∈ 1 + one (· ∈ ['+', '-']) * digits ↔ TestSpelling.isModifier text := by
  rw [mem_one_add_iff]
  constructor
  · rintro (rfl | member)
    · rfl
    · obtain ⟨_, ⟨sign, signed, rfl⟩, run, inDigits, rfl⟩ := Language.mem_mul.mp member
      obtain ⟨nonempty, digit⟩ := mem_digits_iff.mp inDigits
      have known : Decimal.isSign sign := by simpa [Decimal.isSign] using signed
      simpa [TestSpelling.isModifier, known, nonempty] using digit
  · intro modifier
    cases text with
    | nil => exact .inl rfl
    | cons sign run =>
      simp only [TestSpelling.isModifier, Bool.and_eq_true, decide_eq_true_eq,
        List.all_eq_true] at modifier
      obtain ⟨⟨known, nonempty⟩, digit⟩ := modifier
      refine .inr (Language.mem_mul.mpr ⟨[sign], ⟨sign, ?_, rfl⟩, run, ?_, rfl⟩)
      · simpa [Decimal.isSign] using known
      · exact mem_digits_iff.mpr ⟨nonempty, digit⟩

/-- The texts of tests are the spellings of well-formed tests. -/
theorem mem_test_iff {text : List Char} :
    text ∈ test ↔ ∃ spelling : TestSpelling, spelling.WellFormed ∧ spelling.chars = text := by
  constructor
  · intro member
    obtain ⟨_, targeted, modifier, modified, rfl⟩ := Language.mem_mul.mp member
    obtain ⟨_, marked, target, inDigits, rfl⟩ := Language.mem_mul.mp targeted
    obtain ⟨group, grouped, _, ⟨mark, letter, rfl⟩, rfl⟩ := Language.mem_mul.mp marked
    have run := mem_digits_iff.mp inDigits
    have known : TestSpelling.isTargetMark mark := by
      simpa [TestSpelling.isTargetMark] using letter
    have isModifier := mem_modifier_iff.mp modified
    rcases mem_one_add_iff.mp grouped with rfl | grouped
    · exact ⟨⟨none, mark, target, modifier⟩, ⟨by rintro _ ⟨⟩, known, run, isModifier⟩,
        by simp [TestSpelling.chars]⟩
    · obtain ⟨group, wellFormed, rfl⟩ := mem_dice_iff.mp grouped
      refine ⟨⟨some group, mark, target, modifier⟩, ⟨?_, known, run, isModifier⟩,
        by simp [TestSpelling.chars]⟩
      rintro _ ⟨⟩
      exact wellFormed
  · rintro ⟨⟨group, mark, target, modifier⟩, ⟨wellFormed, known, run, isModifier⟩, rfl⟩
    have letter : [mark] ∈ one (· ∈ ['w', 'W']) :=
      ⟨mark, by simpa [TestSpelling.isTargetMark] using known, rfl⟩
    have assembled {front : List Char} (grouped : front ∈ 1 + dice) :
        front ++ mark :: (target ++ modifier) ∈ test := by
      have targeted := Language.append_mem_mul (Language.append_mem_mul grouped letter)
        (mem_digits_iff.mpr run)
      have parts : front ++ mark :: (target ++ modifier) =
          front ++ [mark] ++ target ++ modifier := by
        simp
      rw [parts]
      exact Language.append_mem_mul targeted (mem_modifier_iff.mpr isModifier)
    cases group with
    | none => exact assembled (.inl rfl)
    | some group =>
      simpa only [TestSpelling.chars, List.append_assoc, List.cons_append] using
        assembled (.inr (mem_dice_iff.mpr ⟨group, wellFormed group rfl, rfl⟩))

/-- No operand or operator holds the letter in front of a target. -/
theorem not_isTargetMark_of_mem_spelling {item : Lexeme} (known : item.IsOperand ∨ item.IsOperator)
    {c : Char} (member : c ∈ item.spelling) : TestSpelling.isTargetMark c = false := by
  rcases Lexeme.mem_spelling known member with digit | listed
  · by_contra mark
    have noDigit := TestSpelling.isDigit_of_isTargetMark (by simpa using mark)
    simp [noDigit] at digit
  · have others : ∀ d ∈ ['d', 'D', '!', '+', '-', '*', '/'],
        TestSpelling.isTargetMark d = false := by
      simp [TestSpelling.isTargetMark]
    exact others c listed

theorem exists_isTargetMark_of_mem_test {text : List Char} (member : text ∈ test) :
    ∃ c ∈ text, TestSpelling.isTargetMark c := by
  obtain ⟨spelling, wellFormed, rfl⟩ := mem_test_iff.mp member
  exact ⟨spelling.mark, by simp [TestSpelling.chars], wellFormed.mark⟩

/-- No text is both arithmetic and a test. -/
theorem not_mem_arithmetic_of_mem_test {text : List Char} (member : text ∈ test) :
    text ∉ arithmetic := by
  intro inArithmetic
  obtain ⟨items, alternates, rfl⟩ := mem_arithmetic_iff.mp inArithmetic
  obtain ⟨c, inText, mark⟩ := exists_isTargetMark_of_mem_test member
  obtain ⟨item, inItems, inItem⟩ := List.mem_flatMap.mp inText
  rw [not_isTargetMark_of_mem_spelling (alternates.forall_mem item inItems) inItem] at mark
  cases mark

end DiceTable.Grammar
