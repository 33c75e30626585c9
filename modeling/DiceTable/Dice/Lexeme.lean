import DiceTable.Dice.Operator

/-! # The items of an arithmetic expression

`Lexeme.next?` takes one item off the front of a text: a dice group if one starts there, else a
number, else an operator. Each item is as long as it can be. `Lexeme.scan` takes off items for as
long as there is one, and leaves the rest of the text; `scan_spelling` says that nothing is lost,
`next?_scan_rest` that the rest starts with no item.
-/

namespace DiceTable

/-- A dice group as it is written: `mark` is the letter between count and sides, in either case,
and the count may be left out. -/
structure DiceSpelling where
  count : List Char
  mark : Char
  sides : List Char
  exploding : Bool
  deriving DecidableEq, Repr

def DiceSpelling.chars (dice : DiceSpelling) : List Char :=
  dice.count ++ dice.mark :: dice.sides ++ if dice.exploding then ['!', '!'] else []

inductive Lexeme where
  | dice (spelling : DiceSpelling)
  | number (digits : List Char)
  | operator (op : Operator)
  deriving DecidableEq, Repr

namespace Lexeme

def spelling : Lexeme → List Char
  | .dice group => group.chars
  | .number digits => digits
  | .operator op => op.text.toList

def isDiceMark (c : Char) : Bool :=
  c == 'd' || c == 'D'

/-- Takes the explosion mark off a text that starts with it. -/
def takeBang : List Char → Bool × List Char
  | '!' :: '!' :: rest => (true, rest)
  | rest => (false, rest)

def dice? (text : List Char) : Option (DiceSpelling × List Char) :=
  match text.dropWhile Char.isDigit with
  | [] => none
  | mark :: tail =>
    let sides := tail.takeWhile Char.isDigit
    if isDiceMark mark ∧ sides ≠ [] then
      let (exploding, rest) := takeBang (tail.dropWhile Char.isDigit)
      some (⟨text.takeWhile Char.isDigit, mark, sides, exploding⟩, rest)
    else none

def operator? : List Char → Option (Lexeme × List Char)
  | [] => none
  | c :: rest => (Operator.ofChar? c).map fun op => (.operator op, rest)

def number? (text : List Char) : Option (Lexeme × List Char) :=
  let digits := text.takeWhile Char.isDigit
  if digits ≠ [] then some (.number digits, text.dropWhile Char.isDigit) else none

/-- The item at the front of a text, and the rest of the text. -/
def next? (text : List Char) : Option (Lexeme × List Char) :=
  match dice? text with
  | some (group, rest) => some (.dice group, rest)
  | none => (number? text).or (operator? text)

theorem takeBang_spelling (text : List Char) :
    (if (takeBang text).1 then ['!', '!'] else []) ++ (takeBang text).2 = text := by
  unfold takeBang
  split <;> simp

theorem dice?_chars {text rest : List Char} {group : DiceSpelling}
    (found : dice? text = some (group, rest)) : group.chars ++ rest = text := by
  simp only [dice?] at found
  split at found
  · simp at found
  · rename_i mark tail split_text
    split at found
    · simp only [Option.some.injEq, Prod.mk.injEq] at found
      obtain ⟨rfl, rfl⟩ := found
      have bang := takeBang_spelling (tail.dropWhile Char.isDigit)
      simp only [DiceSpelling.chars, List.append_assoc, List.cons_append, bang]
      rw [List.takeWhile_append_dropWhile, ← split_text, List.takeWhile_append_dropWhile]
    · simp at found

/-- An item and the rest make up the text, and no item is empty. -/
theorem next?_spelling {text rest : List Char} {item : Lexeme}
    (found : next? text = some (item, rest)) :
    item.spelling ++ rest = text ∧ item.spelling ≠ [] := by
  simp only [next?] at found
  split at found
  · rename_i found_dice
    cases found
    exact ⟨dice?_chars found_dice, by simp [spelling, DiceSpelling.chars]⟩
  · rcases Option.or_eq_some_iff.mp found with number | ⟨_, operator⟩
    · simp only [number?] at number
      split at number
      · rename_i digits
        cases number
        exact ⟨by simp [spelling, List.takeWhile_append_dropWhile], digits⟩
      · simp at number
    · cases text with
      | nil => simp [operator?] at operator
      | cons c tail =>
        simp only [operator?, Option.map_eq_some_iff] at operator
        obtain ⟨op, known, same⟩ := operator
        cases same
        simp [spelling, Operator.ofChar?_eq_some known]

theorem next?_shorter {text rest : List Char} {item : Lexeme}
    (found : next? text = some (item, rest)) : rest.length < text.length := by
  obtain ⟨rfl, nonempty⟩ := next?_spelling found
  have := List.length_pos_iff.mpr nonempty
  simp only [List.length_append]
  omega

/-- The items of a text from its front, and the rest in which no further item starts. -/
def scan (text : List Char) : List Lexeme × List Char :=
  match _found : next? text with
  | none => ([], text)
  | some (item, rest) =>
    let (items, left) := scan rest
    (item :: items, left)
termination_by text.length
decreasing_by exact next?_shorter _found

theorem scan_of_none {text : List Char} (found : next? text = none) : scan text = ([], text) := by
  rw [scan]
  split
  · rfl
  · simp_all

theorem scan_of_some {text rest : List Char} {item : Lexeme}
    (found : next? text = some (item, rest)) :
    scan text = (item :: (scan rest).1, (scan rest).2) := by
  rw [scan]
  split
  · simp_all
  · rename_i item' rest' found'
    rw [found] at found'
    cases found'
    rfl

/-- Items and rest make up the text. -/
theorem scan_spelling (text : List Char) :
    (scan text).1.flatMap spelling ++ (scan text).2 = text := by
  induction h : text.length using Nat.strongRecOn generalizing text with
  | ind n ih =>
    cases found : next? text with
    | none => simp [scan_of_none found]
    | some pair =>
      obtain ⟨item, rest⟩ := pair
      rw [scan_of_some found, List.flatMap_cons, List.append_assoc,
        ih rest.length (h ▸ next?_shorter found) rest rfl]
      exact (next?_spelling found).1

/-- No item starts where scanning stops. -/
theorem next?_scan_rest (text : List Char) : next? (scan text).2 = none := by
  induction h : text.length using Nat.strongRecOn generalizing text with
  | ind n ih =>
    cases found : next? text with
    | none => simpa [scan_of_none found] using found
    | some pair =>
      obtain ⟨item, rest⟩ := pair
      simpa [scan_of_some found] using ih rest.length (h ▸ next?_shorter found) rest rfl

end Lexeme

end DiceTable
