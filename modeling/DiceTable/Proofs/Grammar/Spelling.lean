import DiceTable.Dice.SkillTest
import DiceTable.Proofs.Calculation.Tree
import Mathlib.Data.List.TakeWhile

/-! # Well-formed spellings are read back

What is read off a text is well-formed, and what is well-formed is read back off its own spelling:
a dice group or a number wherever nothing follows that could be a part of it, a list of items where
operands and operators take turns (`scan_flatMap`), and a skill test as a whole
(`read?_eq_some_iff`).
-/

namespace DiceTable

structure Decimal.IsRun (run : List Char) : Prop where
  nonempty : run ≠ []
  digits : ∀ c ∈ run, c.isDigit

/-- A dice group in the notation `[N]dS[!!]`. -/
structure DiceSpelling.WellFormed (dice : DiceSpelling) : Prop where
  count : ∀ c ∈ dice.count, c.isDigit
  mark : Lexeme.isDiceMark dice.mark
  sides : Decimal.IsRun dice.sides

namespace Lexeme

def IsOperand : Lexeme → Prop
  | .dice group => group.WellFormed
  | .number run => Decimal.IsRun run
  | .operator _ => False

def IsOperator : Lexeme → Prop
  | .operator op => op.IsArithmetic
  | _ => False

/-- A text whose beginning is no part of an operand in front of it. -/
def Closes (rest : List Char) : Prop :=
  ∀ c, rest.head? = some c → c.isDigit = false ∧ isDiceMark c = false ∧ c ≠ '!'

end Lexeme

structure TestSpelling.WellFormed (test : TestSpelling) : Prop where
  dice : ∀ dice, test.dice = some dice → dice.WellFormed
  mark : TestSpelling.isTargetMark test.mark
  target : Decimal.IsRun test.target
  modifier : TestSpelling.isModifier test.modifier

/-- What is at the front of two texts is at the front of the first one, or reaches into the second
one. -/
theorem isPrefix_append_cases {word front back : List Char} (inside : word <+: front ++ back) :
    word <+: front ∨ ∃ c reach more, back = c :: more ∧ word = front ++ c :: reach := by
  rcases List.prefix_or_prefix_of_prefix inside (List.prefix_append front back) with
    shorter | ⟨beyond, rfl⟩
  · exact .inl shorter
  · rw [List.prefix_append_right_inj] at inside
    cases beyond with
    | nil => exact .inl ⟨[], by simp⟩
    | cons c reach =>
      obtain ⟨more, rfl⟩ := inside
      exact .inr ⟨c, reach, reach ++ more, rfl, rfl⟩

section Runs

variable {run rest : List Char}

/-- A run of digits ends where something else begins. -/
theorem takeWhile_isDigit_append (digits : ∀ c ∈ run, c.isDigit)
    (stop : ∀ c, rest.head? = some c → c.isDigit = false) :
    (run ++ rest).takeWhile Char.isDigit = run := by
  rw [List.takeWhile_append_of_pos digits]
  cases rest with
  | nil => simp
  | cons c tail => simp [stop c rfl]

theorem dropWhile_isDigit_append (digits : ∀ c ∈ run, c.isDigit)
    (stop : ∀ c, rest.head? = some c → c.isDigit = false) :
    (run ++ rest).dropWhile Char.isDigit = rest := by
  rw [List.dropWhile_append_of_pos digits]
  cases rest with
  | nil => simp
  | cons c tail => simp [stop c rfl]

theorem isDigit_of_mem_takeWhile {text : List Char} :
    ∀ c ∈ text.takeWhile Char.isDigit, c.isDigit :=
  fun _ member => List.mem_takeWhile_imp member

theorem Text.not_isBlank_of_isDigit {c : Char} (digit : c.isDigit) : Text.isBlank c = false := by
  have bounds := Text.toNat_of_isDigit digit
  simp only [Text.isBlank, Bool.or_eq_false_iff, Bool.and_eq_false_iff, decide_eq_false_iff_not,
    beq_eq_false_iff_ne]
  omega

/-- A run of digits holds no blanks. -/
theorem Decimal.IsRun.compact_eq (digits : Decimal.IsRun run) : Text.compact run = run := by
  refine List.filter_eq_self.mpr fun c member => ?_
  rw [Text.not_isBlank_of_isDigit (digits.digits c member)]
  rfl

end Runs

namespace Lexeme

theorem closes_nil : Closes [] := nofun

theorem isDigit_of_isDiceMark {c : Char} (mark : isDiceMark c) : c.isDigit = false := by
  simp only [isDiceMark, Bool.or_eq_true, beq_iff_eq] at mark
  rcases mark with rfl | rfl <;> decide

theorem takeBang_append (exploding : Bool) {rest : List Char} (closes : Closes rest) :
    takeBang ((if exploding then ['!', '!'] else []) ++ rest) = (exploding, rest) := by
  cases exploding with
  | true => rfl
  | false =>
    simp only [Bool.false_eq_true, if_false, List.nil_append]
    unfold takeBang
    split
    · exact absurd rfl (closes '!' rfl).2.2
    · rfl

/-- A dice group is read back in front of whatever closes it. -/
theorem dice?_chars_append {dice : DiceSpelling} (wellFormed : dice.WellFormed) {rest : List Char}
    (closes : Closes rest) : dice? (dice.chars ++ rest) = some (dice, rest) := by
  obtain ⟨count, mark, sides, exploding⟩ := dice
  have notDigit : ∀ c, (mark :: sides ++ ((if exploding then ['!', '!'] else []) ++ rest)).head? =
      some c → c.isDigit = false := by
    rintro _ ⟨⟩
    exact isDigit_of_isDiceMark wellFormed.mark
  have stop : ∀ c, ((if exploding then ['!', '!'] else []) ++ rest).head? = some c →
      c.isDigit = false := by
    intro c head
    cases exploding with
    | true => cases head; decide
    | false => exact (closes c head).1
  have spelled : DiceSpelling.chars ⟨count, mark, sides, exploding⟩ ++ rest =
      count ++ (mark :: sides ++ ((if exploding then ['!', '!'] else []) ++ rest)) := by
    simp [DiceSpelling.chars]
  rw [spelled, dice?, dropWhile_isDigit_append wellFormed.count notDigit,
    takeWhile_isDigit_append wellFormed.count notDigit]
  simp only [List.cons_append, takeWhile_isDigit_append wellFormed.sides.digits stop,
    dropWhile_isDigit_append wellFormed.sides.digits stop, takeBang_append exploding closes]
  rw [if_pos ⟨wellFormed.mark, wellFormed.sides.nonempty⟩]

/-- No dice group starts with anything but a digit or the letter of dice groups. -/
theorem dice?_cons_eq_none {c : Char} {rest : List Char} (digit : c.isDigit = false)
    (mark : isDiceMark c = false) : dice? (c :: rest) = none := by
  simp [dice?, digit, mark]

theorem dice?_run_append {run rest : List Char} (digits : ∀ c ∈ run, c.isDigit)
    (closes : Closes rest) : dice? (run ++ rest) = none := by
  have stop : ∀ c, rest.head? = some c → c.isDigit = false := fun c head => (closes c head).1
  rw [dice?, dropWhile_isDigit_append digits stop]
  cases rest with
  | nil => rfl
  | cons c tail => simp [(closes c rfl).2.1]

/-- An operand is read back in front of whatever closes it. -/
theorem next?_spelling_append {item : Lexeme} (operand : item.IsOperand) {rest : List Char}
    (closes : Closes rest) : next? (item.spelling ++ rest) = some (item, rest) := by
  cases item with
  | dice group => simp only [next?, spelling, dice?_chars_append operand closes]
  | number run =>
    have stop : ∀ c, rest.head? = some c → c.isDigit = false := fun c head => (closes c head).1
    simp only [next?, spelling, dice?_run_append operand.digits closes, number?,
      takeWhile_isDigit_append operand.digits stop, dropWhile_isDigit_append operand.digits stop]
    rw [if_pos operand.nonempty]
    rfl
  | operator op => exact operand.elim

/-- The character of an operator belongs to no operand. -/
theorem exists_char_of_isArithmetic {op : Operator} (known : op.IsArithmetic) :
    ∃ c, op.text.toList = [c] ∧ Operator.ofChar? c = some op ∧ c.isDigit = false ∧
      isDiceMark c = false ∧ c ≠ '!' ∧ TestSpelling.isTargetMark c = false := by
  cases op with
  | add => exact ⟨'+', by decide⟩
  | sub => exact ⟨'-', by decide⟩
  | mul => exact ⟨'*', by decide⟩
  | div => exact ⟨'/', by decide⟩
  | other text =>
    simp [Operator.IsArithmetic, Operator.isAdditive, Operator.isMultiplicative] at known

theorem next?_operator_append {op : Operator} (known : op.IsArithmetic) (rest : List Char) :
    next? (op.text.toList ++ rest) = some (.operator op, rest) := by
  obtain ⟨c, spelled, found, digit, mark, _⟩ := exists_char_of_isArithmetic known
  rw [spelled, List.cons_append, List.nil_append, next?, dice?_cons_eq_none digit mark]
  simp [number?, digit, operator?, found]

/-- Spelled items hold digits, the letter of dice, the mark of explosions and operators. -/
theorem mem_spelling {item : Lexeme} (known : item.IsOperand ∨ item.IsOperator) {c : Char}
    (member : c ∈ item.spelling) :
    c.isDigit ∨ c ∈ ['d', 'D', '!', '+', '-', '*', '/'] := by
  cases item with
  | dice group =>
    have wellFormed : group.WellFormed := known.resolve_right id
    simp only [spelling, DiceSpelling.chars, List.mem_append, List.mem_cons] at member
    rcases member with (inCount | rfl | inSides) | inBang
    · exact .inl (wellFormed.count c inCount)
    · have letter := wellFormed.mark
      simp only [isDiceMark, Bool.or_eq_true, beq_iff_eq] at letter
      rcases letter with letter | letter <;> simp [letter]
    · exact .inl (wellFormed.sides.digits c inSides)
    · split at inBang
      · obtain rfl : c = '!' := by simpa using inBang
        exact .inr (by decide)
      · cases inBang
  | number run =>
    have digits : Decimal.IsRun run := known.resolve_right id
    exact .inl (digits.digits c member)
  | operator op =>
    have arithmetic : op.IsArithmetic := known.resolve_left id
    cases op with
    | other text => simp [Operator.IsArithmetic, Operator.isAdditive, Operator.isMultiplicative]
        at arithmetic
    | _ =>
      obtain rfl := List.mem_singleton.mp member
      exact .inr (by decide)

theorem not_mem_spelling {item : Lexeme} (known : item.IsOperand ∨ item.IsOperator)
    {c : Char} (noDigit : c.isDigit = false)
    (other : c ∉ ['d', 'D', '!', '+', '-', '*', '/']) : c ∉ item.spelling := by
  intro member
  rcases mem_spelling known member with digit | listed
  · rw [noDigit] at digit
    cases digit
  · exact other listed

/-- An operator closes the operand in front of it. -/
theorem closes_operator_append {op : Operator} (known : op.IsArithmetic) (rest : List Char) :
    Closes (op.text.toList ++ rest) := by
  obtain ⟨c, spelled, _, digit, mark, bang, _⟩ := exists_char_of_isArithmetic known
  rw [spelled]
  rintro _ ⟨⟩
  exact ⟨digit, mark, bang⟩

/-- Items that take turns are read back off their spelling. -/
theorem scan_flatMap {items : List Lexeme} (alternates : Alternates IsOperand IsOperator items) :
    scan (items.flatMap spelling) = (items, []) := by
  induction alternates with
  | @single item here =>
    have found := next?_spelling_append here closes_nil
    have empty : next? [] = none := rfl
    simp only [List.flatMap_cons, List.flatMap_nil, scan_of_some found, scan_of_none empty]
  | @step item operator rest here next _ ih =>
    cases operator with
    | operator op =>
      have found := next?_spelling_append here
        (closes_operator_append next (rest.flatMap spelling))
      have foundNext := next?_operator_append next (rest.flatMap spelling)
      simp only [List.flatMap_cons, spelling] at found ⊢
      rw [scan_of_some found, scan_of_some foundNext, ih]
    | dice group => exact next.elim
    | number run => exact next.elim

theorem wellFormed_of_dice? {text rest : List Char} {group : DiceSpelling}
    (found : dice? text = some (group, rest)) : group.WellFormed := by
  simp only [dice?] at found
  split at found
  · cases found
  · split at found
    · rename_i wellFormed
      cases found
      exact ⟨isDigit_of_mem_takeWhile, wellFormed.1, wellFormed.2, isDigit_of_mem_takeWhile⟩
    · cases found

/-- An item that is read is an operand or an operator. -/
theorem isOperand_or_isOperator_of_next? {text rest : List Char} {item : Lexeme}
    (found : next? text = some (item, rest)) : item.IsOperand ∨ item.IsOperator := by
  simp only [next?] at found
  split at found
  · rename_i foundDice
    cases found
    exact .inl (wellFormed_of_dice? foundDice)
  · rcases Option.or_eq_some_iff.mp found with number | ⟨_, operator⟩
    · simp only [number?] at number
      split at number
      · rename_i nonempty
        cases number
        exact .inl ⟨nonempty, isDigit_of_mem_takeWhile⟩
      · cases number
    · cases text with
      | nil => cases operator
      | cons c tail =>
        obtain ⟨op, known, same⟩ := Option.map_eq_some_iff.mp operator
        cases same
        refine .inr ?_
        unfold Operator.ofChar? at known
        split at known <;> cases known <;> first | exact .inl rfl | exact .inr rfl

/-- All items of a text are operands and operators. -/
theorem forall_mem_scan (text : List Char) :
    ∀ item ∈ (scan text).1, item.IsOperand ∨ item.IsOperator := by
  induction h : text.length using Nat.strongRecOn generalizing text with
  | ind n ih =>
    cases found : next? text with
    | none => simp [scan_of_none found]
    | some pair =>
      obtain ⟨first, rest⟩ := pair
      rw [scan_of_some found]
      have here := isOperand_or_isOperator_of_next? found
      exact List.forall_mem_cons.mpr ⟨here, ih rest.length (h ▸ next?_shorter found) rest rfl⟩

end Lexeme

namespace TestSpelling

theorem isDigit_of_isTargetMark {c : Char} (mark : isTargetMark c) : c.isDigit = false := by
  simp only [isTargetMark, Bool.or_eq_true, beq_iff_eq] at mark
  rcases mark with rfl | rfl <;> decide

/-- The letter in front of the target closes the dice in front of it. -/
theorem closes_cons {mark : Char} (target : isTargetMark mark) (rest : List Char) :
    Lexeme.Closes (mark :: rest) := by
  rintro _ ⟨⟩
  simp only [isTargetMark, Bool.or_eq_true, beq_iff_eq] at target
  rcases target with rfl | rfl <;> decide

theorem targetPart?_eq_some {test : TestSpelling} (wellFormed : test.WellFormed) :
    targetPart? test.dice (test.mark :: test.target ++ test.modifier) = some test := by
  have stop : ∀ c, test.modifier.head? = some c → c.isDigit = false := by
    intro c head
    have modifier := wellFormed.modifier
    cases spelled : test.modifier with
    | nil => simp [spelled] at head
    | cons sign digits =>
      rw [spelled] at head modifier
      cases head
      simp only [isModifier, Bool.and_eq_true, Decimal.isSign, Bool.or_eq_true,
        beq_iff_eq] at modifier
      rcases modifier.1.1 with rfl | rfl <;> decide
  simp only [targetPart?, List.cons_append,
    takeWhile_isDigit_append wellFormed.target.digits stop,
    dropWhile_isDigit_append wellFormed.target.digits stop]
  rw [if_pos ⟨wellFormed.mark, wellFormed.target.nonempty, wellFormed.modifier⟩]

/-- A well-formed test is read back off its characters. -/
theorem read?_chars_eq_some {test : TestSpelling} (wellFormed : test.WellFormed) :
    read? test.chars = some test := by
  have part := targetPart?_eq_some wellFormed
  cases spelled : test.dice with
  | none =>
    have none : Lexeme.dice? test.chars = none := by
      rw [chars, spelled]
      exact Lexeme.dice?_cons_eq_none (isDigit_of_isTargetMark wellFormed.mark)
        (closes_cons wellFormed.mark [] _ rfl).2.1
    rw [read?, none]
    simpa only [chars, spelled, List.nil_append] using part
  | some group =>
    have found : Lexeme.dice? test.chars =
        some (group, test.mark :: test.target ++ test.modifier) := by
      simp only [chars, spelled, List.append_assoc]
      exact Lexeme.dice?_chars_append (wellFormed.dice group spelled)
        (closes_cons wellFormed.mark _)
    simp only [read?, found]
    rw [← spelled]
    exact part

theorem wellFormed_of_targetPart? {dice : Option DiceSpelling} {text : List Char}
    {test : TestSpelling} (group : ∀ spelling, dice = some spelling → spelling.WellFormed)
    (found : targetPart? dice text = some test) : test.WellFormed := by
  cases text with
  | nil => cases found
  | cons mark tail =>
    simp only [targetPart?] at found
    split at found
    · rename_i wellFormed
      cases found
      exact ⟨group, wellFormed.1, ⟨wellFormed.2.1, isDigit_of_mem_takeWhile⟩, wellFormed.2.2⟩
    · cases found

/-- A test that is read is well-formed. -/
theorem wellFormed_of_read? {text : List Char} {test : TestSpelling}
    (found : read? text = some test) : test.WellFormed := by
  unfold read? at found
  split at found
  · rename_i foundDice
    refine wellFormed_of_targetPart? ?_ found
    rintro _ ⟨⟩
    exact Lexeme.wellFormed_of_dice? foundDice
  · refine wellFormed_of_targetPart? ?_ found
    rintro _ ⟨⟩

/-- Exactly the spellings of well-formed tests are read as tests. -/
theorem read?_eq_some_iff {text : List Char} {test : TestSpelling} :
    read? text = some test ↔ test.WellFormed ∧ test.chars = text :=
  ⟨fun found => ⟨wellFormed_of_read? found, read?_chars found⟩,
    fun ⟨wellFormed, spelled⟩ => spelled ▸ read?_chars_eq_some wellFormed⟩

end TestSpelling

end DiceTable
