import DiceTable.Proofs.Grammar.Spelling

/-! # Telling written things apart

Things that are written one behind the other are told apart if each of them shows by itself where it
ends. `Text.Separable` says so of one kind of things, for all rests of a text that such a thing
stops at. Numbers stop where no digit follows (`Decimal.chars_separable`), and a list stops with its
last member if nothing behind it looks like the separator (`Text.Separable.intercalate`).
-/

namespace DiceTable

namespace Text

/-- Nothing is left of a text, or it goes on with a character of some kind. -/
def GoesOn (kind : Char → Bool) (rest : List Char) : Prop :=
  ∀ c, rest.head? = some c → kind c

theorem goesOn_nil (kind : Char → Bool) : GoesOn kind [] := nofun

theorem goesOn_cons {kind : Char → Bool} {c : Char} (here : kind c) (rest : List Char) :
    GoesOn kind (c :: rest) := by
  rintro _ ⟨⟩
  exact here

theorem GoesOn.head {kind : Char → Bool} {c : Char} {rest : List Char}
    (goesOn : GoesOn kind (c :: rest)) : kind c :=
  goesOn c rfl

theorem GoesOn.mono {kind wider : Char → Bool} {rest : List Char} (goesOn : GoesOn kind rest)
    (widen : ∀ c, kind c → wider c) : GoesOn wider rest :=
  fun c head => widen c (goesOn c head)

/-- Each piece but the first comes with the separator in front of it. -/
theorem intercalate_cons {α : Type} (separator piece : List α) (pieces : List (List α)) :
    separator.intercalate (piece :: pieces) = piece ++ pieces.flatMap (separator ++ ·) := by
  induction pieces generalizing piece with
  | nil => simp
  | cons next rest ih =>
    rw [List.intercalate_cons_cons, ih, List.append_assoc, List.flatMap_cons, List.append_assoc]

theorem not_mem_intercalate {α : Type} {separator : List α} {pieces : List (List α)} {x : α}
    (between : x ∉ separator) (within : ∀ piece ∈ pieces, x ∉ piece) :
    x ∉ separator.intercalate pieces := by
  cases pieces with
  | nil => exact List.not_mem_nil
  | cons piece pieces =>
    obtain ⟨here, later⟩ := List.forall_mem_cons.mp within
    simpa [intercalate_cons, here, between] using later

variable {α : Type} {write : α → List Char} {member : α → Prop} {stops : List Char → Prop}

/-- What is written of the members tells them apart, and tells them from the rest of the text where
they stop at it. -/
def Separable (write : α → List Char) (member : α → Prop) (stops : List Char → Prop) : Prop :=
  ∀ ⦃a b : α⦄ ⦃rest more : List Char⦄, member a → member b → stops rest → stops more →
    write a ++ rest = write b ++ more → a = b ∧ rest = more

/-- Members of a list are told apart if each stops at the separator and at what ends the list, and
these two are different. -/
theorem Separable.intercalate (separable : Separable write member stops) (separator : List Char)
    (ends : List Char → Prop) (between : ∀ rest, stops (separator ++ rest))
    (behind : ∀ rest, ends rest → stops rest) (different : ∀ rest, ¬ends (separator ++ rest)) :
    Separable (fun list => separator.intercalate (list.map write))
      (fun list => list ≠ [] ∧ ∀ a ∈ list, member a) ends := by
  rintro list others rest more ⟨nonempty, members⟩ ⟨othersNonempty, otherMembers⟩ here there same
  dsimp only at same
  induction list generalizing others with
  | nil => exact (nonempty rfl).elim
  | cons a list ih =>
    obtain ⟨b, others, rfl⟩ := List.exists_cons_of_ne_nil othersNonempty
    obtain ⟨first, later⟩ := List.forall_mem_cons.mp members
    obtain ⟨otherFirst, otherLater⟩ := List.forall_mem_cons.mp otherMembers
    -- Either list may end here, and both must.
    cases list with
    | nil =>
      cases others with
      | nil =>
        simp only [List.map_cons, List.map_nil, List.intercalate_singleton] at same
        obtain ⟨rfl, rest⟩ := separable first otherFirst (behind _ here) (behind _ there) same
        exact ⟨rfl, rest⟩
      | cons c others =>
        simp only [List.map_cons, List.map_nil, List.intercalate_singleton,
          List.intercalate_cons_cons, List.append_assoc] at same
        obtain ⟨_, goesOn⟩ := separable first otherFirst (behind _ here) (between _) same
        rw [goesOn] at here
        exact (different _ here).elim
    | cons d list =>
      cases others with
      | nil =>
        simp only [List.map_cons, List.map_nil, List.intercalate_singleton,
          List.intercalate_cons_cons, List.append_assoc] at same
        obtain ⟨_, goesOn⟩ := separable first otherFirst (between _) (behind _ there) same
        rw [← goesOn] at there
        exact (different _ there).elim
      | cons c others =>
        simp only [List.map_cons, List.intercalate_cons_cons, List.append_assoc] at same ih
        obtain ⟨rfl, goesOn⟩ := separable first otherFirst (between _) (between _) same
        obtain ⟨tails, rest⟩ := ih (List.cons_ne_nil _ _) later (List.cons_ne_nil _ _) otherLater
          (List.append_cancel_left goesOn)
        exact ⟨by rw [tails], rest⟩

end Text

namespace Decimal

open Text

theorem digits_separable :
    Separable digits (fun _ => True) (GoesOn fun c => !c.isDigit) := by
  intro m n rest more _ _ here there same
  have stop {text : List Char} (goesOn : GoesOn (fun c => !c.isDigit) text) :
      ∀ c, text.head? = some c → c.isDigit = false :=
    fun c head => by simpa using goesOn c head
  have run := congrArg (List.takeWhile Char.isDigit) same
  rw [takeWhile_isDigit_append (fun _ member => isDigit_of_mem_digits member) (stop here),
    takeWhile_isDigit_append (fun _ member => isDigit_of_mem_digits member) (stop there)] at run
  obtain rfl := digits_injective run
  exact ⟨rfl, List.append_cancel_left same⟩

theorem chars_separable : Separable chars (fun _ => True) (GoesOn fun c => !c.isDigit) := by
  intro m n rest more _ _ here there same
  have unsigned (k : Nat) (text other : List Char) : digits k ++ text ≠ '-' :: other := by
    intro signed
    obtain ⟨c, tail, spelled, digit⟩ := exists_digits_eq_cons k
    rw [spelled] at signed
    cases signed
    exact absurd digit (by decide)
  unfold chars at same
  split at same <;> split at same
  · obtain ⟨_, rest⟩ := digits_separable trivial trivial here there (List.cons.inj same).2
    exact ⟨by omega, rest⟩
  · exact (unsigned _ _ _ same.symm).elim
  · exact (unsigned _ _ _ same).elim
  · obtain ⟨_, rest⟩ := digits_separable trivial trivial here there same
    exact ⟨by omega, rest⟩

end Decimal

end DiceTable
