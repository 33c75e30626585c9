import DiceTable.Proofs.Grammar.Spelling

/-! # The item that a text starts with

Which item a text starts with can be said without reading it: of the items in the notation that
stand at its front, a dice group goes before a number, a number goes before an operator, and of two
of a kind the longer one goes first (`Lexeme.Starts`). This is the item that is taken off
(`Lexeme.next?_eq_some_iff`), so that scanning divides a text in the only way there is
(`Lexeme.scan_eq_iff`). A text can be cut behind its items (`Lexeme.Divides.cut`), and two texts can
be joined where the second one closes what is in front of it (`Lexeme.Divides.append`).
-/

namespace DiceTable.Lexeme

/-- Dice groups go before numbers, and numbers before operators. -/
def rank : Lexeme → Nat
  | .dice _ => 0
  | .number _ => 1
  | .operator _ => 2

/-- An item of the notation that stands at the front of a text. -/
structure Matches (item : Lexeme) (text : List Char) : Prop where
  known : item.IsOperand ∨ item.IsOperator
  front : item.spelling <+: text

/-- An item goes before another one: it is of an earlier kind, or of the same kind and as long. -/
def Precedes (item other : Lexeme) : Prop :=
  item.rank < other.rank ∨
    item.rank = other.rank ∧ other.spelling.length ≤ item.spelling.length

/-- The item that a text starts with, among all items at its front. -/
structure Starts (item : Lexeme) (text : List Char) : Prop extends item.Matches text where
  best : ∀ other : Lexeme, other.Matches text → item.Precedes other

/-- A text is divided into items, each of which is what its part of the text starts with, and a rest
that starts with no item. -/
inductive Divides : List Char → List Lexeme → List Char → Prop
  | rest {text : List Char} (none : ∀ item : Lexeme, ¬item.Matches text) : Divides text [] text
  | item {item : Lexeme} {text rest : List Char} {items : List Lexeme}
      (starts : item.Starts (item.spelling ++ text)) (more : Divides text items rest) :
      Divides (item.spelling ++ text) (item :: items) rest

variable {item other : Lexeme} {text front back rest : List Char} {items others : List Lexeme}

section Reading

/-- An item is read back off its own spelling. -/
theorem next?_spelling_of_known (known : item.IsOperand ∨ item.IsOperator) :
    next? item.spelling = some (item, []) := by
  rcases known with operand | operator
  · have found := next?_spelling_append operand closes_nil
    rwa [List.append_nil] at found
  · cases item with
    | operator op =>
      have found := next?_operator_append operator []
      rwa [List.append_nil] at found
    | dice group => exact operator.elim
    | number run => exact operator.elim

theorem eq_of_spelling_eq (known : item.IsOperand ∨ item.IsOperator)
    (otherKnown : other.IsOperand ∨ other.IsOperator) (same : item.spelling = other.spelling) :
    item = other := by
  have found := next?_spelling_of_known known
  rw [same, next?_spelling_of_known otherKnown] at found
  cases found
  rfl

theorem not_matches_nil (item : Lexeme) : ¬item.Matches [] := fun matched =>
  (next?_spelling (next?_spelling_of_known matched.known)).2
    (List.prefix_nil.mp matched.front)

theorem isPrefix_takeWhile_isDigit {run : List Char} (digits : ∀ c ∈ run, c.isDigit)
    (front : run <+: text) : run <+: text.takeWhile Char.isDigit := by
  obtain ⟨more, rfl⟩ := front
  exact ⟨_, (List.takeWhile_append_of_pos digits).symm⟩

/-- Where a dice group stands, one is read that is at least as long. -/
theorem exists_dice?_of_isPrefix {group : DiceSpelling} (wellFormed : group.WellFormed)
    (front : group.chars <+: text) :
    ∃ longer rest, dice? text = some (longer, rest) ∧
      group.chars.length ≤ longer.chars.length := by
  obtain ⟨count, mark, sides, exploding⟩ := group
  obtain ⟨more, rfl⟩ := front
  let bang := if exploding then ['!', '!'] else []
  have notDigit : ∀ c, (mark :: (sides ++ (bang ++ more))).head? = some c →
      c.isDigit = false := by
    rintro _ ⟨⟩
    exact isDigit_of_isDiceMark wellFormed.mark
  have spelled : DiceSpelling.chars ⟨count, mark, sides, exploding⟩ ++ more =
      count ++ mark :: (sides ++ (bang ++ more)) := by
    simp [DiceSpelling.chars, bang]
  obtain ⟨longer, sided⟩ : sides <+: (sides ++ (bang ++ more)).takeWhile Char.isDigit :=
    isPrefix_takeWhile_isDigit wellFormed.sides.digits (List.prefix_append _ _)
  have nonempty : sides ++ longer ≠ [] :=
    List.append_ne_nil_of_left_ne_nil wellFormed.sides.nonempty _
  have read : dice? (count ++ mark :: (sides ++ (bang ++ more))) =
      some (⟨count, mark, sides ++ longer,
          (takeBang ((sides ++ (bang ++ more)).dropWhile Char.isDigit)).1⟩,
        (takeBang ((sides ++ (bang ++ more)).dropWhile Char.isDigit)).2) := by
    rw [dice?, dropWhile_isDigit_append wellFormed.count notDigit,
      takeWhile_isDigit_append wellFormed.count notDigit]
    simp only [← sided]
    exact if_pos ⟨wellFormed.mark, nonempty⟩
  refine ⟨_, _, spelled ▸ read, ?_⟩
  cases exploding with
  | false => simp [DiceSpelling.chars]
  | true =>
    -- The mark of the explosion is right behind the sides, so it is read as well.
    have stop : ∀ c, (bang ++ more).head? = some c → c.isDigit = false := by
      rintro _ ⟨⟩
      decide
    have exploded : (takeBang ((sides ++ (bang ++ more)).dropWhile Char.isDigit)).1 = true := by
      rw [dropWhile_isDigit_append wellFormed.sides.digits stop]
      rfl
    rw [exploded]
    simp [DiceSpelling.chars]

/-- Where an item stands, one is read that goes before it. -/
theorem Matches.exists_next? (matched : other.Matches text) :
    ∃ item rest, next? text = some (item, rest) ∧ item.Precedes other := by
  obtain ⟨known, front⟩ := matched
  cases other with
  | dice group =>
    obtain ⟨longer, rest, read, length⟩ := exists_dice?_of_isPrefix (known.resolve_right id) front
    exact ⟨.dice longer, rest, by simp only [next?, read], .inr ⟨rfl, length⟩⟩
  | number run =>
    have digits : Decimal.IsRun run := known.resolve_right id
    have longer := isPrefix_takeWhile_isDigit digits.digits front
    have nonempty : text.takeWhile Char.isDigit ≠ [] := fun empty =>
      digits.nonempty (List.prefix_nil.mp (empty ▸ longer))
    cases read : dice? text with
    | some pair => exact ⟨.dice pair.1, pair.2, by simp only [next?, read], .inl Nat.zero_lt_one⟩
    | none =>
      refine ⟨.number (text.takeWhile Char.isDigit), text.dropWhile Char.isDigit, ?_,
        .inr ⟨rfl, longer.length_le⟩⟩
      simp only [next?, read, number?, if_pos nonempty]
      rfl
  | operator op =>
    obtain ⟨more, rfl⟩ := front
    exact ⟨.operator op, more, next?_operator_append (known.resolve_left id) more,
      .inr ⟨rfl, Nat.le_refl _⟩⟩

theorem matches_of_next? (found : next? text = some (item, rest)) : item.Matches text :=
  ⟨isOperand_or_isOperator_of_next? found, rest, (next?_spelling found).1⟩

theorem starts_of_next? (found : next? text = some (item, rest)) : item.Starts text := by
  refine ⟨matches_of_next? found, fun other matched => ?_⟩
  obtain ⟨_, _, read, precedes⟩ := matched.exists_next?
  rw [found] at read
  cases read
  exact precedes

/-- No text starts with two items. -/
theorem Starts.unique (starts : item.Starts text) (also : other.Starts text) : item = other := by
  have before := starts.best other also.toMatches
  have after := also.best item starts.toMatches
  unfold Precedes at before after
  have length : item.spelling.length = other.spelling.length := by omega
  refine eq_of_spelling_eq starts.known also.known ?_
  have inside := List.prefix_of_prefix_length_le starts.front also.front length.le
  exact inside.eq_of_length length

/-- The item that is taken off a text is the one that it starts with. -/
theorem next?_eq_some_iff :
    next? text = some (item, rest) ↔ item.Starts text ∧ item.spelling ++ rest = text := by
  constructor
  · exact fun found => ⟨starts_of_next? found, (next?_spelling found).1⟩
  · rintro ⟨starts, spelled⟩
    obtain ⟨first, left, found, _⟩ := starts.toMatches.exists_next?
    obtain rfl := starts.unique (starts_of_next? found)
    obtain rfl := List.append_cancel_left (spelled.trans (next?_spelling found).1.symm)
    exact found

theorem next?_eq_none_iff : next? text = none ↔ ∀ item : Lexeme, ¬item.Matches text := by
  constructor
  · intro none item matched
    obtain ⟨_, _, found, _⟩ := matched.exists_next?
    rw [none] at found
    cases found
  · intro none
    cases found : next? text with
    | none => rfl
    | some pair => exact (none pair.1 (matches_of_next? found)).elim

end Reading

section Dividing

/-- Nothing is lost where a text is divided. -/
theorem Divides.spelling_append (divides : Divides text items rest) :
    items.flatMap spelling ++ rest = text := by
  induction divides with
  | rest none => rfl
  | item starts more ih => rw [List.flatMap_cons, List.append_assoc, ih]

/-- Scanning divides a text, and there is no other way to divide it. -/
theorem scan_eq_iff : scan text = (items, rest) ↔ Divides text items rest := by
  constructor
  · intro scanned
    induction h : text.length using Nat.strongRecOn generalizing text items rest with
    | ind n ih =>
      cases found : next? text with
      | none =>
        rw [scan_of_none found] at scanned
        cases scanned
        exact .rest (next?_eq_none_iff.mp found)
      | some pair =>
        obtain ⟨first, left⟩ := pair
        rw [scan_of_some found] at scanned
        cases scanned
        obtain ⟨starts, rfl⟩ := next?_eq_some_iff.mp found
        exact .item starts (ih left.length (h ▸ next?_shorter found) rfl rfl)
  · intro divides
    induction divides with
    | rest none => exact scan_of_none (next?_eq_none_iff.mpr none)
    | item starts more ih => rw [scan_of_some (next?_eq_some_iff.mpr ⟨starts, rfl⟩), ih]

theorem divides_scan (text : List Char) : Divides text (scan text).1 (scan text).2 :=
  scan_eq_iff.mp rfl

/-- A text starts with the same item when it is cut behind it. -/
theorem Starts.cut (starts : item.Starts text) (inside : item.spelling <+: front)
    (cut : front <+: text) : item.Starts front :=
  ⟨⟨starts.known, inside⟩,
    fun other matched => starts.best other ⟨matched.known, matched.front.trans cut⟩⟩

/-- The items alone divide into the same items. -/
theorem Divides.cut (divides : Divides text items rest) :
    Divides (items.flatMap spelling) items [] := by
  induction divides with
  | rest none => exact .rest not_matches_nil
  | item starts more ih =>
    rw [List.flatMap_cons]
    refine .item (starts.cut (List.prefix_append _ _) ?_) ih
    rw [List.prefix_append_right_inj, ← more.spelling_append]
    exact List.prefix_append _ _

/-- Nothing in an operand closes what is in front of it. -/
theorem not_mem_spelling_of_closes (operand : item.IsOperand) {c : Char} {rest : List Char}
    (closes : Closes (c :: rest)) : c ∉ item.spelling := by
  obtain ⟨digit, mark, bang⟩ := closes c rfl
  have other {run : List Char} (digits : ∀ c ∈ run, c.isDigit) : c ∉ run := fun member =>
    Bool.false_ne_true (digit.symm.trans (digits c member))
  cases item with
  | dice group =>
    have wellFormed : group.WellFormed := operand
    have marked : c ≠ group.mark := fun same =>
      Bool.false_ne_true (mark.symm.trans (same ▸ wellFormed.mark))
    have exploded : c ∉ if group.exploding then ['!', '!'] else [] := by
      split <;> simp [bang]
    simp [spelling, DiceSpelling.chars, other wellFormed.count, other wellFormed.sides.digits,
      marked, exploded]
  | number run => exact other (show Decimal.IsRun run from operand).digits
  | operator op => exact operand.elim

/-- No item reaches from a text into what closes the text. -/
theorem Matches.of_append (nonempty : text ≠ []) (closes : Closes back)
    (matched : other.Matches (text ++ back)) : other.Matches text := by
  refine ⟨matched.known, ?_⟩
  rcases isPrefix_append_cases matched.front with inside | ⟨c, reach, more, rfl, beyond⟩
  · exact inside
  · rcases matched.known with operand | operator
    · refine (not_mem_spelling_of_closes operand closes ?_).elim
      rw [beyond]
      exact List.mem_append_right text List.mem_cons_self
    · -- An operator is a single character, so it would have to be all behind the text.
      cases other with
      | operator op =>
        obtain ⟨_, single, _⟩ := exists_char_of_isArithmetic operator
        have length := congrArg List.length (beyond.symm.trans single)
        have positive := List.length_pos_iff.mpr nonempty
        simp only [List.length_append, List.length_cons, List.length_nil] at length
        omega
      | dice group => exact operator.elim
      | number run => exact operator.elim

/-- A text starts with the same item in front of what closes it. -/
theorem Starts.append (starts : item.Starts text) (closes : Closes back) :
    item.Starts (text ++ back) := by
  have nonempty : text ≠ [] := by
    rintro rfl
    exact not_matches_nil item starts.toMatches
  exact ⟨⟨starts.known, starts.front.trans (List.prefix_append _ _)⟩,
    fun other matched => starts.best other (matched.of_append nonempty closes)⟩

/-- A text that items make up is divided the same way in front of what closes it. -/
theorem Divides.append (first : Divides front items []) (closes : Closes back)
    (second : Divides back others rest) : Divides (front ++ back) (items ++ others) rest := by
  generalize ends : ([] : List Char) = left at first
  induction first with
  | rest none =>
    subst ends
    exact second
  | item starts more ih =>
    rw [List.append_assoc, List.cons_append]
    have starts := starts.append closes
    rw [List.append_assoc] at starts
    exact .item starts (ih ends)

end Dividing

end DiceTable.Lexeme
