import DiceTable.Proofs.Calculation.Monotone
import DiceTable.Proofs.Totals.Draws
import Mathlib.Algebra.Order.BigOperators.Group.List

/-! # Better dice

Where no die explodes, and no dice stand in a divisor or in a term that is taken away, better dice
never hurt: of two evaluations of the same text, the one whose draws are no smaller, one by one, has
the larger total, or the same (`Source.evaluate_mono`). So every total lies between
those of the lowest and of the highest faces.
-/

namespace DiceTable

open Calculation

/-- Nothing in the text turns a better face into a smaller total. -/
structure Favourable (left : List Char) : Prop where
  /-- No die explodes. -/
  plain : ¬['!', '!'] <:+: left
  /-- No dice stand right behind a division sign. -/
  divisor (spelling : DiceSpelling) :
    ¬[.operator .div, .dice spelling] <:+: (Lexeme.scan left).1
  /-- Behind a minus sign, another term begins before there are dice. -/
  subtrahend (term : List Lexeme) (spelling : DiceSpelling) :
    .operator .sub :: (term ++ [.dice spelling]) <:+: (Lexeme.scan left).1 →
    ∃ op : Operator, .operator op ∈ term ∧ op.isAdditive

namespace Lexeme

/-- What is left of a text that is favourable, behind an item of a term of which `taken` says
whether it is taken away. -/
structure Favours (taken : Bool) (items : List Lexeme) : Prop where
  divisor (spelling : DiceSpelling) : ¬[.operator .div, .dice spelling] <:+: items
  subtrahend (term : List Lexeme) (spelling : DiceSpelling) :
    .operator .sub :: (term ++ [.dice spelling]) <:+: items →
    ∃ op : Operator, .operator op ∈ term ∧ op.isAdditive
  /-- The term that goes on has no dice left if it is taken away. -/
  current (term : List Lexeme) (spelling : DiceSpelling) :
    taken → term ++ [.dice spelling] <+: items →
    ∃ op : Operator, .operator op ∈ term ∧ op.isAdditive

namespace Favours

variable {taken : Bool} {op : Operator} {item : Lexeme} {items : List Lexeme}

theorem behind_operator (favours : Favours taken (.operator op :: items)) :
    Favours (op.takes taken) items where
  divisor spelling inside := favours.divisor spelling (List.infix_cons inside)
  subtrahend term spelling inside := favours.subtrahend term spelling (List.infix_cons inside)
  current term spelling takes inFront := by
    unfold Operator.takes at takes
    split at takes
    · -- The same term goes on.
      rename_i multiplicative
      obtain ⟨other, member, additive⟩ := favours.current (.operator op :: term) spelling takes
        (List.cons_prefix_cons.mpr ⟨rfl, inFront⟩)
      rcases List.mem_cons.mp member with same | member
      · cases same
        rw [Operator.isMultiplicative_of_isAdditive additive] at multiplicative
        cases multiplicative
      · exact ⟨other, member, additive⟩
    · obtain rfl := eq_of_beq takes
      exact favours.subtrahend term spelling
        (List.cons_prefix_cons.mpr ⟨rfl, inFront⟩ : .operator .sub :: _ <+: _).isInfix

theorem behind_operand (favours : Favours taken (item :: items)) (operand : item.sign? = none) :
    Favours taken items where
  divisor spelling inside := favours.divisor spelling (List.infix_cons inside)
  subtrahend term spelling inside := favours.subtrahend term spelling (List.infix_cons inside)
  current term spelling takes inFront := by
    obtain ⟨other, member, additive⟩ := favours.current (item :: term) spelling takes
      (List.cons_prefix_cons.mpr ⟨rfl, inFront⟩)
    rcases List.mem_cons.mp member with rfl | member
    · cases operand
    · exact ⟨other, member, additive⟩

/-- Dice do not stand where a better face makes the total smaller. -/
theorem dice {spelling : DiceSpelling}
    (favours : Favours taken (.operator op :: .dice spelling :: items)) :
    ¬(op = .div ∨ op.takes taken) := by
  rintro (rfl | takes)
  · exact favours.divisor spelling ⟨[], items, rfl⟩
  · obtain ⟨_, member, _⟩ := favours.behind_operator.current [] spelling takes ⟨items, rfl⟩
    cases member

end Favours

end Lexeme

theorem Favourable.favours {left : List Char} (favourable : Favourable left) :
    Lexeme.Favours false (Lexeme.scan left).1 :=
  ⟨favourable.divisor, favourable.subtrahend, nofun⟩

/-- Every item is in the text. -/
theorem Lexeme.spelling_infix_of_mem_scan {left : List Char} {item : Lexeme}
    (member : item ∈ (Lexeme.scan left).1) : item.spelling <:+: left := by
  obtain ⟨front, back, split⟩ := List.append_of_mem member
  have spelled := Lexeme.scan_spelling left
  rw [split, List.flatMap_append, List.flatMap_cons] at spelled
  refine ⟨front.flatMap spelling, back.flatMap spelling ++ (Lexeme.scan left).2, ?_⟩
  rw [← List.append_assoc, List.append_assoc _ item.spelling]
  exact spelled

/-- No group of a favourable text explodes. -/
theorem Favourable.not_exploding {left : List Char} (favourable : Favourable left)
    {spelling : DiceSpelling} (member : .dice spelling ∈ (Lexeme.scan left).1) :
    spelling.exploding = false := by
  cases kind : spelling.exploding with
  | false => rfl
  | true =>
    have bang : ['!', '!'] <:+: (Lexeme.dice spelling).spelling :=
      ⟨spelling.count ++ spelling.mark :: spelling.sides, [], by
        simp [Lexeme.spelling, DiceSpelling.chars, kind]⟩
    exact (favourable.plain (bang.trans (Lexeme.spelling_infix_of_mem_scan member))).elim

/-- Tokens of one item in two evaluations, where the dice of the second one come to no less. -/
inductive Token.NoMore : Token → Token → Prop
  | operator (op : Operator) : NoMore (.operator op) (.operator op)
  | literal (value : Int) : NoMore (.operand (.literal value)) (.operand (.literal value))
  | rolled {group : DiceGroup} {chains others : List Chain}
      (le : chainsTotal chains ≤ chainsTotal others) :
      NoMore (.operand (.rolled group chains)) (.operand (.rolled group others))

theorem DiceSpelling.exploding_of_group {spelling : DiceSpelling} {fragment : String}
    {group : DiceGroup} (read : spelling.group fragment = .ok group) :
    group.exploding = spelling.exploding := by
  rw [DiceSpelling.group_eq] at read
  obtain ⟨count, _, read⟩ := Except.bind_eq_ok.mp read
  obtain ⟨sides, _, answer⟩ := Except.bind_eq_ok.mp read
  cases answer
  rfl

/-- Dice that do not explode show one face each. -/
theorem DiceGroup.length_flatten {group : DiceGroup} {chains : List Chain}
    (plain : ¬group.exploding) (each : ∀ chain ∈ chains, group.IsChain chain) :
    chains.flatten.length = chains.length := by
  induction chains with
  | nil => rfl
  | cons chain chains ih =>
    obtain ⟨⟨again, last, rfl, _, _, _, once⟩, later⟩ := List.forall_mem_cons.mp each
    rw [List.flatten_cons, List.length_append, ih later, once plain, List.length_cons]
    simp [Nat.add_comm]

namespace Lexeme

variable {item : Lexeme} {token other : Token} {items : List Lexeme} {tokens others : List Token}

def IsPlain : Lexeme → Prop
  | .dice spelling => spelling.exploding = false
  | _ => True

/-- An item without explosions has the same number of faces in every evaluation. -/
theorem Becomes.length_faces (plain : item.IsPlain) (worse : item.Becomes token)
    (better : item.Becomes other) : token.faces.length = other.faces.length := by
  cases worse with
  | @dice spelling group chains read rollable each every within =>
    cases better with
    | @dice _ same others readAgain _ eachOther everyOther _ =>
      cases read.symm.trans readAgain
      have plain : ¬group.exploding := by
        rw [DiceSpelling.exploding_of_group read]
        exact Bool.eq_false_iff.mp plain
      simp only [Token.faces, Operand.chains]
      rw [DiceGroup.length_flatten plain each, DiceGroup.length_flatten plain eachOther]
      omega
  | number digits read =>
    cases better
    rfl
  | operator known =>
    cases better
    rfl

/-- Better faces come to no less. -/
theorem Becomes.noMore (plain : item.IsPlain) (worse : item.Becomes token)
    (better : item.Becomes other) (le : ∀ pair ∈ token.faces.zip other.faces, pair.1 ≤ pair.2) :
    token.NoMore other := by
  have length := worse.length_faces plain better
  cases worse with
  | dice read rollable each every within =>
    cases better with
    | dice readAgain =>
      cases read.symm.trans readAgain
      refine .rolled ?_
      rw [chainsTotal_eq_sum_flatten, chainsTotal_eq_sum_flatten]
      exact List.Forall₂.sum_le_sum (List.forall₂_iff_zip.mpr ⟨length, fun member => le _ member⟩)
  | number digits read =>
    cases better with
    | number _ readAgain =>
      cases read.symm.trans readAgain
      exact .literal _
  | operator known =>
    cases better
    exact .operator _

/-- Better draws come to no less, item by item. -/
theorem noMore_of_draws (plain : ∀ item ∈ items, item.IsPlain)
    (worse : List.Forall₂ Becomes items tokens) (better : List.Forall₂ Becomes items others)
    (le : ∀ pair ∈ (tokens.flatMap Token.faces).zip (others.flatMap Token.faces),
      pair.1 ≤ pair.2) : List.Forall₂ Token.NoMore tokens others := by
  induction worse generalizing others with
  | nil =>
    cases better
    exact .nil
  | cons worseHere _ ih =>
    cases better with
    | cons betterHere betterLater =>
      obtain ⟨here, later⟩ := List.forall_mem_cons.mp plain
      have length := worseHere.length_faces here betterHere
      rw [List.flatMap_cons, List.flatMap_cons, List.zip_append length] at le
      refine .cons (worseHere.noMore here betterHere fun pair member => ?_)
        (ih later betterLater fun pair member => ?_)
      · exact le pair (List.mem_append_left _ member)
      · exact le pair (List.mem_append_right _ member)

/-- Faces of a better kind come to no less, item by item. -/
theorem noMore_of_kinds {low high : Int → Int → Prop}
    (le : ∀ sides face another, low sides face → high sides another → face ≤ another)
    (plain : ∀ item ∈ items, item.IsPlain)
    (worse : List.Forall₂ (fun item token => item.Becomes token ∧ token.FacesAre low) items tokens)
    (better :
      List.Forall₂ (fun item token => item.Becomes token ∧ token.FacesAre high) items others) :
    List.Forall₂ Token.NoMore tokens others := by
  induction worse generalizing others with
  | nil =>
    cases better
    exact .nil
  | cons worseHere _ ih =>
    cases better with
    | cons betterHere betterLater =>
      obtain ⟨here, later⟩ := List.forall_mem_cons.mp plain
      obtain ⟨worseHere, lowFaces⟩ := worseHere
      obtain ⟨betterHere, highFaces⟩ := betterHere
      refine .cons (worseHere.noMore here betterHere ?_) (ih later betterLater)
      rintro ⟨face, another⟩ member
      obtain ⟨inWorse, inBetter⟩ := List.of_mem_zip member
      cases worseHere with
      | dice read =>
        cases betterHere with
        | dice readAgain =>
          cases read.symm.trans readAgain
          obtain ⟨chain, inChains, inChain⟩ := List.mem_flatten.mp inWorse
          obtain ⟨more, inOthers, inMore⟩ := List.mem_flatten.mp inBetter
          exact le _ _ _ (lowFaces chain inChains face inChain)
            (highFaces more inOthers another inMore)
      | number => cases inWorse
      | operator => cases inWorse

/-- An operand improves, and it is fixed unless it is rolled. -/
theorem Becomes.improves {left : Operand} (becomes : item.Becomes (.operand left))
    (noMore : (Token.operand left).NoMore other) {fixed : Prop}
    (free : ∀ spelling, item = .dice spelling → ¬fixed) :
    ∃ right, other = .operand right ∧ Improves fixed left.value right.value := by
  have nonneg := becomes.operand_bounds.1
  cases noMore with
  | literal value => exact ⟨_, rfl, nonneg, Int.le_refl value, fun _ => rfl⟩
  | rolled le =>
    cases becomes with
    | dice => exact ⟨_, rfl, nonneg, le, fun fix => (free _ rfl fix).elim⟩

/-- The steps of a favourable text improve with their dice. -/
theorem Favours.stepsImprove {taken : Bool} {steps : Steps} (favours : Favours taken items)
    (made : List.Forall₂ Becomes items (stepTokens steps))
    (noMore : List.Forall₂ Token.NoMore (stepTokens steps) others) :
    ∃ better, others = stepTokens better ∧ StepsImprove taken (values steps) (values better) := by
  induction steps generalizing taken items others with
  | nil =>
    cases noMore
    exact ⟨[], rfl, .nil⟩
  | cons step steps ih =>
    obtain ⟨op, operand⟩ := step
    cases made with
    | @cons sign _ _ _ becomesSign made =>
    cases made with
    | @cons item _ items _ becomes made =>
    cases noMore with
    | cons same noMore =>
    cases noMore with
    | cons here noMore =>
    cases becomesSign
    cases same
    have free : ∀ spelling, item = .dice spelling → ¬(op = .div ∨ op.takes taken) := by
      rintro spelling rfl
      exact favours.dice
    obtain ⟨right, rfl, improves⟩ := becomes.improves here free
    have behind := favours.behind_operator.behind_operand becomes.sign?_eq.symm
    obtain ⟨better, rfl, later⟩ := ih behind made noMore
    exact ⟨(op, right) :: better, rfl, .cons improves later⟩

end Lexeme

/-- A calculation whose dice come to no less has no smaller total. -/
theorem total_le_of_noMore {items : List Lexeme} {result improved : ArithmeticResult}
    {canonical again : String} (favours : Lexeme.Favours false items)
    (made : List.Forall₂ Lexeme.Becomes items result.tokens)
    (noMore : List.Forall₂ Token.NoMore result.tokens improved.tokens)
    (calculated : calculateTokens result.tokens canonical = .ok result)
    (improves : calculateTokens improved.tokens again = .ok improved) :
    result.total ≤ improved.total := by
  obtain ⟨_, _, ⟨first, steps⟩, written, done⟩ := calculateTokens_eq_ok calculated
  rw [written] at made noMore
  generalize improved.tokens = tokens at noMore improves
  cases made with
  | cons becomes made =>
  cases noMore with
  | cons here noMore =>
  obtain ⟨start, rfl, starts⟩ := becomes.improves here fun _ _ => Bool.false_ne_true
  obtain ⟨better, rfl, later⟩ :=
    (favours.behind_operand becomes.sign?_eq.symm).stepsImprove made noMore
  change calculateTokens (Calculation.tokens ⟨start, better⟩) again = _ at improves
  rw [Calculation.calculateTokens_tokens] at improves
  obtain ⟨total, doneAgain, rfl⟩ := Except.map_eq_ok.mp improves
  exact calculate_mono later starts done doneAgain

def highestSource : Source Unit where
  next _ high _ := (.ok high, ())
  patience _ := 0

theorem highestSource_inRange : highestSource.InRange :=
  fun _ high _ range => ⟨high, (), rfl, range, Int.le_refl high⟩

namespace Source

variable {σ τ : Type} {first : Source σ} {second : Source τ} {limit : Limit} {text : String}
  {state : σ} {other : τ} {result improved : ArithmeticResult}

theorem AnswersInRange.becomes_of_evaluate (answers : first.AnswersInRange)
    (answer : (first.evaluate limit text state).1 = .ok (.arithmetic result)) :
    List.Forall₂ Lexeme.Becomes (Lexeme.scan (Text.compact text.toList)).1 result.tokens :=
  (answers.rollItems_becomes (Lexeme.forall_mem_scan _) 0).good_of_ok
    (congrArg Prod.fst (rollItems_of_evaluate answer))

/-- Where all draws are of a kind, all faces of the tokens are. -/
theorem AnswersInRange.faces_of_evaluate {kind : Int → Int → Prop} (answers : first.AnswersInRange)
    (draw : ∀ sides, 1 ≤ sides → (first.draw 1 sides).Yields (kind sides) fun _ => True)
    (answer : (first.evaluate limit text state).1 = .ok (.arithmetic result)) :
    List.Forall₂ (fun item token => item.Becomes token ∧ token.FacesAre kind)
      (Lexeme.scan (Text.compact text.toList)).1 result.tokens :=
  have faces := (rollItems_faces draw (Lexeme.forall_mem_scan _) 0).good_of_ok
    (congrArg Prod.fst (rollItems_of_evaluate answer))
  (answers.becomes_of_evaluate answer).mp (fun _ _ => And.intro) faces

end Source

namespace Favourable

variable {σ τ : Type} {first : Source σ} {second : Source τ} {limit : Limit} {text : String}
  {state : σ} {other : τ} {result improved : ArithmeticResult}

theorem isPlain {left : List Char} (favourable : Favourable left) :
    ∀ item ∈ (Lexeme.scan left).1, item.IsPlain := by
  intro item member
  cases item with
  | dice spelling => exact favourable.not_exploding member
  | number run => trivial
  | operator op => trivial

/-- Draws that are no smaller come to no less. -/
theorem total_le_of_draws (favourable : Favourable (Text.compact text.toList))
    (worse : first.AnswersInRange) (better : second.AnswersInRange)
    (answer : (first.evaluate limit text state).1 = .ok (.arithmetic result))
    (again : (second.evaluate limit text other).1 = .ok (.arithmetic improved))
    (le : ∀ pair ∈ (first.draws limit text state).zip (second.draws limit text other),
      pair.1 ≤ pair.2) : result.total ≤ improved.total := by
  rw [worse.draws_eq answer, better.draws_eq again] at le
  have made := worse.becomes_of_evaluate answer
  have noMore :=
    Lexeme.noMore_of_draws favourable.isPlain made (better.becomes_of_evaluate again) le
  exact total_le_of_noMore favourable.favours made noMore
    (Source.evaluate_eq_ok_arithmetic answer).1 (Source.evaluate_eq_ok_arithmetic again).1

/-- Sources whose draws are of a better kind come to no less. -/
theorem total_le_of_kinds (low high : Int → Int → Prop)
    (favourable : Favourable (Text.compact text.toList))
    (le : ∀ sides face another, low sides face → high sides another → face ≤ another)
    (worse : first.AnswersInRange) (better : second.AnswersInRange)
    (draw : ∀ sides, 1 ≤ sides → (first.draw 1 sides).Yields (low sides) fun _ => True)
    (drawBetter : ∀ sides, 1 ≤ sides → (second.draw 1 sides).Yields (high sides) fun _ => True)
    (answer : (first.evaluate limit text state).1 = .ok (.arithmetic result))
    (again : (second.evaluate limit text other).1 = .ok (.arithmetic improved)) :
    result.total ≤ improved.total := by
  have noMore := Lexeme.noMore_of_kinds le favourable.isPlain (worse.faces_of_evaluate draw answer)
    (better.faces_of_evaluate drawBetter again)
  exact total_le_of_noMore favourable.favours (worse.becomes_of_evaluate answer) noMore
    (Source.evaluate_eq_ok_arithmetic answer).1 (Source.evaluate_eq_ok_arithmetic again).1

end Favourable

/-- Better dice never hurt a favourable expression: a total is no larger than one whose draws are no
smaller, one by one. It is no smaller than the total of all ones and no larger than that of all
maximum faces, wherever there are such totals. -/
theorem Source.evaluate_mono {σ τ : Type} {first : Source σ} {second : Source τ}
    (worse : first.AnswersInRange) (better : second.AnswersInRange) (limit : Limit) (text : String)
    (favourable : Favourable (Text.compact text.toList)) (state : σ) (result : ArithmeticResult)
    (answer : (first.evaluate limit text state).1 = .ok (.arithmetic result)) :
    (∀ other improved, (second.evaluate limit text other).1 = .ok (.arithmetic improved) →
      (∀ pair ∈ (first.draws limit text state).zip (second.draws limit text other),
        pair.1 ≤ pair.2) → result.total ≤ improved.total) ∧
    (∀ lowest, (lowestSource.evaluate limit text ()).1 = .ok (.arithmetic lowest) →
      lowest.total ≤ result.total) ∧
    ∀ highest, (highestSource.evaluate limit text ()).1 = .ok (.arithmetic highest) →
      result.total ≤ highest.total := by
  have drawn (sides : Int) (sided : 1 ≤ sides) :
      (first.draw 1 sides).Yields (fun face => 1 ≤ face ∧ face ≤ sides) fun _ => True :=
    (worse.draw sided).mono (fun _ range => range) fun _ _ => trivial
  refine ⟨fun other improved again le =>
    favourable.total_le_of_draws worse better answer again le, fun lowest low => ?_,
    fun highest high => ?_⟩
  · refine favourable.total_le_of_kinds (fun _ face => face = 1) _ ?_
      lowestSource_inRange.answersInRange worse (fun _ _ _ => rfl) drawn low answer
    rintro sides face another rfl ⟨least, _⟩
    exact least
  · refine favourable.total_le_of_kinds _ (fun sides face => face = sides) ?_ worse
      highestSource_inRange.answersInRange drawn (fun _ _ _ => rfl) answer high
    rintro sides face another ⟨_, most⟩ rfl
    exact most

/-- The last of three dice comes to more in the second run, and a half of it does. -/
theorem Source.evaluate_mono_half :
    let text := "2d6*3 - 4/2 + d8/2"
    listedSource.AnswersInRange ∧ Favourable (Text.compact text.toList) ∧
    ∃ result improved : ArithmeticResult,
      (listedSource.evaluate 3 text [2, 5, 3]).1 = .ok (.arithmetic result) ∧
      (listedSource.evaluate 3 text [2, 5, 8]).1 = .ok (.arithmetic improved) ∧
      (∀ pair ∈ (listedSource.draws 3 text [2, 5, 3]).zip (listedSource.draws 3 text [2, 5, 8]),
        pair.1 ≤ pair.2) ∧
      result.total ≤ improved.total ∧
      (∀ lowest, (lowestSource.evaluate 3 text ()).1 = .ok (.arithmetic lowest) →
        lowest.total ≤ result.total) ∧
      ∀ highest, (highestSource.evaluate 3 text ()).1 = .ok (.arithmetic highest) →
        result.total ≤ highest.total := by
  intro text
  have scanned : (Lexeme.scan (Text.compact text.toList)).1 =
      [.dice ⟨['2'], 'd', ['6'], false⟩, .operator .mul, .number ['3'], .operator .sub,
        .number ['4'], .operator .div, .number ['2'], .operator .add,
        .dice ⟨[], 'd', ['8'], false⟩, .operator .div, .number ['2']] := by
    decide +kernel
  have favourable : Favourable (Text.compact text.toList) := by
    refine ⟨by decide +kernel, fun spelling inside => ?_, fun term spelling inside => ?_⟩
    · rw [scanned] at inside
      simp [List.infix_cons_iff, List.cons_prefix_cons] at inside
    · -- The only term that is taken away ends before the dice behind it.
      rw [scanned] at inside
      simp only [List.infix_cons_iff, List.cons_prefix_cons, Lexeme.operator.injEq, reduceCtorEq,
        false_and, false_or, true_and, or_false, List.infix_nil] at inside
      obtain ⟨rest, same⟩ := inside
      rcases term with _ | ⟨_, _ | ⟨_, _ | ⟨_, _ | ⟨sign, term⟩⟩⟩⟩ <;> simp at same
      exact ⟨.add, by simp [same], rfl⟩
  have first : (listedSource.evaluate 3 text [2, 5, 3]).1 = .ok (.arithmetic
      { canonical := "2d6*3-4/2+d8/2", total := 20
        breakdown := "2d6 → [2, 5] = 7 * 3 - 4 / 2 + 1d8 → [3] = 3 / 2"
        tokens := [.operand (.rolled ⟨2, 6, false⟩ [[2], [5]]), .operator .mul,
          .operand (.literal 3), .operator .sub, .operand (.literal 4), .operator .div,
          .operand (.literal 2), .operator .add, .operand (.rolled ⟨1, 8, false⟩ [[3]]),
          .operator .div, .operand (.literal 2)] }) := by
    decide +kernel
  have second : (listedSource.evaluate 3 text [2, 5, 8]).1 = .ok (.arithmetic
      { canonical := "2d6*3-4/2+d8/2", total := 23
        breakdown := "2d6 → [2, 5] = 7 * 3 - 4 / 2 + 1d8 → [8] = 8 / 2"
        tokens := [.operand (.rolled ⟨2, 6, false⟩ [[2], [5]]), .operator .mul,
          .operand (.literal 3), .operator .sub, .operand (.literal 4), .operator .div,
          .operand (.literal 2), .operator .add, .operand (.rolled ⟨1, 8, false⟩ [[8]]),
          .operator .div, .operand (.literal 2)] }) := by
    decide +kernel
  have le : ∀ pair ∈ (listedSource.draws 3 text [2, 5, 3]).zip
      (listedSource.draws 3 text [2, 5, 8]), pair.1 ≤ pair.2 := by
    decide +kernel
  obtain ⟨better, lowest, highest⟩ := Source.evaluate_mono listedSource_answersInRange
    listedSource_answersInRange 3 text favourable [2, 5, 3] _ first
  exact ⟨listedSource_answersInRange, favourable, _, _, first, second, le, better _ _ second le,
    lowest, highest⟩

end DiceTable
