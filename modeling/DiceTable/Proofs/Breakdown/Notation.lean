import DiceTable.Dice.Arithmetic
import DiceTable.Proofs.Text.Separation

/-! # Reading a breakdown back

Faces, chains, groups and tokens are told apart by how they stand in a breakdown, each at the level
where it is separated from the next of its kind: faces by plus signs within the brackets of their
chain, chains by commas within those of their group, and tokens by blanks. So there is only one list
of tokens with a given breakdown (`breakdown_inj`), as long as every group shows some dice.
-/

namespace DiceTable

open Text (GoesOn Separable goesOn_cons)

section Dice

variable {group : DiceGroup}

theorem toList_text (n : Int) : (Decimal.text n).toList = Decimal.chars n :=
  String.toList_ofList

theorem toList_faceText (sides face : Int) :
    (faceText sides face).toList =
      Decimal.chars face ++ if face = sides then ['!'] else [] := by
  unfold faceText
  split <;> simp [toList_text]

/-- The mark of the maximum ends a face, if there is one. -/
theorem faceText_separable (sides : Int) :
    Separable (fun face => (faceText sides face).toList) (fun _ => True)
      (GoesOn fun c => !c.isDigit && c != '!') := by
  intro face other rest more _ _ here there same
  simp only [toList_faceText, List.append_assoc] at same
  have unmarked (x : Int) {text : List Char}
      (goesOn : GoesOn (fun c => !c.isDigit && c != '!') text) :
      GoesOn (fun c => !c.isDigit) ((if x = sides then ['!'] else []) ++ text) := by
    split
    · exact goesOn_cons rfl _
    · exact goesOn.mono fun c kind => (Bool.and_eq_true_iff.mp kind).1
  obtain ⟨rfl, marks⟩ := Decimal.chars_separable trivial trivial (unmarked face here)
    (unmarked other there) same
  exact ⟨rfl, List.append_cancel_left marks⟩

theorem toList_chainText (group : DiceGroup) (chain : Chain) :
    (chainText group chain).toList =
      if group.exploding then
        '[' :: [' ', '+', ' '].intercalate
          (chain.map fun face => (faceText group.sides face).toList) ++ [']']
      else [' ', '+', ' '].intercalate (chain.map Decimal.chars) := by
  unfold chainText
  split
  · simp [String.toList_intercalate, Function.comp_def]
  · simp [String.toList_intercalate, Function.comp_def, toList_text]

/-- The chain of a die stops at the comma in front of the next one. -/
theorem chainText_separable (group : DiceGroup) :
    Separable (fun chain => (chainText group chain).toList) (fun chain => chain ≠ [])
      (GoesOn fun c => c == ',' || c == ']') := by
  intro chain other rest more shown otherShown here there same
  simp only [toList_chainText] at same
  split at same
  · simp only [List.cons_append, List.append_assoc, List.cons.injEq, true_and] at same
    have faces := (faceText_separable group.sides).intercalate [' ', '+', ' ']
      (GoesOn fun c => c == ']') (fun _ => goesOn_cons rfl _)
      (fun _ goesOn => goesOn.mono fun c kind => by rw [beq_iff_eq.mp kind]; rfl)
      (fun _ goesOn => absurd goesOn.head (by decide))
    obtain ⟨rfl, closed⟩ := faces ⟨shown, fun _ _ => trivial⟩ ⟨otherShown, fun _ _ => trivial⟩
      (goesOn_cons rfl _) (goesOn_cons rfl _) same
    exact ⟨rfl, (List.cons.inj closed).2⟩
  · have faces := Decimal.chars_separable.intercalate [' ', '+', ' ']
      (GoesOn fun c => c == ',' || c == ']') (fun _ => goesOn_cons rfl _)
      (fun _ goesOn => goesOn.mono fun c kind => by
        rcases Bool.or_eq_true_iff.mp kind with comma | bracket
        · rw [beq_iff_eq.mp comma]
          rfl
        · rw [beq_iff_eq.mp bracket]
          rfl)
      (fun _ goesOn => absurd goesOn.head (by decide))
    exact faces ⟨shown, fun _ _ => trivial⟩ ⟨otherShown, fun _ _ => trivial⟩ here there same

/-- A written group stops at the blank in front of its dice. -/
theorem DiceGroup.chars_separable :
    Separable DiceGroup.chars (fun _ => True) (GoesOn (· == ' ')) := by
  rintro ⟨count, sides, exploding⟩ ⟨otherCount, otherSides, otherExploding⟩ rest more _ _ here there
    same
  have unmarked (marked : Bool) {text : List Char} (goesOn : GoesOn (· == ' ') text) :
      GoesOn (fun c => !c.isDigit) ((if marked then ['!', '!'] else []) ++ text) := by
    split
    · exact goesOn_cons rfl _
    · exact goesOn.mono fun c blank => by rw [beq_iff_eq.mp blank]; rfl
  simp only [DiceGroup.chars, List.append_assoc, List.cons_append] at same
  obtain ⟨rfl, behindCount⟩ := Decimal.chars_separable trivial trivial (goesOn_cons rfl _)
    (goesOn_cons rfl _) same
  obtain ⟨rfl, marks⟩ := Decimal.chars_separable trivial trivial (unmarked exploding here)
    (unmarked otherExploding there) (List.cons.inj behindCount).2
  -- The blank is no mark.
  cases exploding <;> cases otherExploding
  · exact ⟨rfl, marks⟩
  · rw [show rest = '!' :: '!' :: more from marks] at here
    exact absurd here.head (by decide)
  · rw [show more = '!' :: '!' :: rest from marks.symm] at there
    exact absurd there.head (by decide)
  · exact ⟨rfl, List.append_cancel_left marks⟩

theorem toList_rolledText (group : DiceGroup) (chains : List Chain) :
    (rolledText group chains).toList =
      group.chars ++ ' ' :: '→' :: ' ' :: '[' ::
        ([',', ' '].intercalate (chains.map fun chain => (chainText group chain).toList) ++
          ']' :: ' ' :: '=' :: ' ' :: Decimal.chars (chainsTotal chains)) := by
  simp [rolledText, DiceGroup.text, toList_text, String.toList_intercalate, Function.comp_def]

/-- A rolled group needs nothing behind it to be told apart, as its dice say what they add up to. -/
theorem rolledText_separable :
    Separable (fun rolled : DiceGroup × List Chain => (rolledText rolled.1 rolled.2).toList)
      (fun rolled => rolled.2 ≠ [] ∧ ∀ chain ∈ rolled.2, chain ≠ []) (fun _ => True) := by
  rintro ⟨group, chains⟩ ⟨other, others⟩ rest more shown otherShown _ _ same
  simp only [toList_rolledText, List.append_assoc, List.cons_append] at same
  obtain ⟨rfl, behindGroup⟩ := DiceGroup.chars_separable trivial trivial (goesOn_cons rfl _)
    (goesOn_cons rfl _) same
  simp only [List.cons.injEq, true_and] at behindGroup
  have dice := (chainText_separable group).intercalate [',', ' ']
    (GoesOn fun c => c == ']') (fun _ => goesOn_cons rfl _)
    (fun _ goesOn => goesOn.mono fun c bracket => by rw [beq_iff_eq.mp bracket]; rfl)
    (fun _ goesOn => absurd goesOn.head (by decide))
  obtain ⟨rfl, totals⟩ := dice shown otherShown (goesOn_cons rfl _) (goesOn_cons rfl _)
    behindGroup
  simp only [List.cons.injEq, true_and] at totals
  exact ⟨rfl, List.append_cancel_left totals⟩

end Dice

/-- What an evaluation makes of an item: its literals are not negative, and its groups have dice and
show a face of each. -/
inductive Token.IsRolled : Token → Prop
  | operator {op : Operator} (known : op.IsArithmetic) : IsRolled (.operator op)
  | literal {value : Int} (nonneg : 0 ≤ value) : IsRolled (.operand (.literal value))
  | rolled {group : DiceGroup} {chains : List Chain} (counted : 1 ≤ group.count)
      (dice : chains ≠ []) (faces : ∀ chain ∈ chains, chain ≠ []) :
      IsRolled (.operand (.rolled group chains))

section Tokens

theorem toList_text_literal (value : Int) :
    (Token.operand (.literal value)).text.toList = Decimal.chars value :=
  toList_text value

/-- Every operand starts with a digit. -/
theorem Token.IsRolled.text_of_operand {item : Operand} (rolled : Token.IsRolled (.operand item)) :
    ∃ c rest, item.text.toList = c :: rest ∧ c.isDigit := by
  cases rolled with
  | literal nonneg =>
    obtain ⟨c, rest, spelled, digit⟩ := Decimal.exists_chars_eq_cons nonneg
    exact ⟨c, rest, (toList_text _).trans spelled, digit⟩
  | @rolled group chains counted _ _ =>
    obtain ⟨c, rest, spelled, digit⟩ := Decimal.exists_chars_eq_cons (Int.le_of_lt counted)
    have written := toList_rolledText group chains
    rw [DiceGroup.chars, spelled] at written
    simp only [List.cons_append] at written
    exact ⟨c, _, written, digit⟩

/-- A literal is followed by a blank, and the count of a group by the letter of dice. -/
theorem literal_ne_rolled {value : Int} {group : DiceGroup} {chains : List Chain}
    {rest more : List Char} (here : GoesOn (· == ' ') rest) :
    (Decimal.text value).toList ++ rest ≠ (rolledText group chains).toList ++ more := by
  intro same
  simp only [toList_text, toList_rolledText, DiceGroup.chars, List.append_assoc, List.cons_append]
    at same
  obtain ⟨_, stops⟩ := Decimal.chars_separable trivial trivial
    (here.mono fun c blank => by rw [beq_iff_eq.mp blank]; rfl) (goesOn_cons rfl _) same
  rw [stops] at here
  exact absurd here.head (by decide)

/-- Operands and operators differ in their first character, and each shows where it ends. -/
theorem Token.text_separable :
    Separable (fun token => token.text.toList) Token.IsRolled (GoesOn (· == ' ')) := by
  intro token other rest more rolled otherRolled here there same
  -- No text of an operand starts with the character of an operator.
  have apart {op : Operator} {item : Operand} {rest more : List Char} (known : op.IsArithmetic)
      (rolled : Token.IsRolled (.operand item)) :
      op.text.toList ++ rest ≠ item.text.toList ++ more := by
    obtain ⟨c, spelled, _, noDigit, _⟩ := Lexeme.exists_char_of_isArithmetic known
    obtain ⟨d, tail, starts, digit⟩ := rolled.text_of_operand
    rw [spelled, starts]
    rintro ⟨⟩
    rw [digit] at noDigit
    cases noDigit
  have blank {text : List Char} (goesOn : GoesOn (· == ' ') text) :
      GoesOn (fun c => !c.isDigit) text :=
    goesOn.mono fun c blank => by rw [beq_iff_eq.mp blank]; rfl
  cases rolled with
  | @operator op known =>
    cases otherRolled with
    | @operator otherOp otherKnown =>
      obtain ⟨c, spelled, found, _⟩ := Lexeme.exists_char_of_isArithmetic known
      obtain ⟨d, otherSpelled, otherFound, _⟩ := Lexeme.exists_char_of_isArithmetic otherKnown
      simp only [Token.text, spelled, otherSpelled, List.cons_append, List.nil_append,
        List.cons.injEq] at same
      obtain ⟨rfl, rest⟩ := same
      rw [found] at otherFound
      cases otherFound
      exact ⟨rfl, rest⟩
    | literal nonneg => exact (apart known (.literal nonneg) same).elim
    | rolled counted dice faces => exact (apart known (.rolled counted dice faces) same).elim
  | literal nonneg =>
    cases otherRolled with
    | operator known => exact (apart known (.literal nonneg) same.symm).elim
    | literal _ =>
      simp only [toList_text_literal] at same
      obtain ⟨rfl, rest⟩ := Decimal.chars_separable trivial trivial (blank here) (blank there) same
      exact ⟨rfl, rest⟩
    | rolled _ _ _ => exact (literal_ne_rolled here same).elim
  | @rolled group chains counted dice faces =>
    cases otherRolled with
    | operator known => exact (apart known (.rolled counted dice faces) same.symm).elim
    | literal _ => exact (literal_ne_rolled there same.symm).elim
    | @rolled other others _ otherDice otherFaces =>
      obtain ⟨pairs, rest⟩ := rolledText_separable (a := (group, chains)) (b := (other, others))
        ⟨dice, faces⟩ ⟨otherDice, otherFaces⟩ trivial trivial same
      cases pairs
      exact ⟨rfl, rest⟩

/-- A breakdown stands for one list of rolled tokens only. -/
theorem breakdown_inj {tokens others : List Token} (nonempty : tokens ≠ [])
    (othersNonempty : others ≠ []) (rolled : ∀ token ∈ tokens, token.IsRolled)
    (othersRolled : ∀ token ∈ others, token.IsRolled) :
    breakdown tokens = breakdown others ↔ tokens = others := by
  refine ⟨fun same => ?_, fun same => by rw [same]⟩
  have lists := Token.text_separable.intercalate [' '] (· = [])
    (fun _ => goesOn_cons rfl _) (fun _ done => done ▸ Text.goesOn_nil _)
    (fun _ => List.cons_ne_nil _ _)
  have written := congrArg String.toList same
  simp only [breakdown, String.toList_intercalate, List.map_map] at written
  exact (lists ⟨nonempty, rolled⟩ ⟨othersNonempty, othersRolled⟩ rfl rfl
    (congrArg (· ++ []) written)).1

end Tokens

end DiceTable
