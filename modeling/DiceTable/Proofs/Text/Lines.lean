import DiceTable.Text.Lines

/-! # Putting lines together

Lines that are joined by line feeds can be taken apart again, at the line feeds if no line holds one
(`Text.joinLines_inj`), and at all line boundaries if no line holds any of these
(`Text.lines_intercalate`).
-/

namespace DiceTable.Text

/-- No character of the text ends a line. -/
def Unbroken (text : List Char) : Prop :=
  ∀ c ∈ text, isLineBoundary c = false

instance (text : List Char) : Decidable (Unbroken text) :=
  List.decidableBAll _ text

namespace Unbroken

variable {text rest separator : List Char} {pieces : List (List Char)}

theorem append (first : Unbroken text) (second : Unbroken rest) : Unbroken (text ++ rest) :=
  List.forall_mem_append.mpr ⟨first, second⟩

theorem cons {c : Char} (here : isLineBoundary c = false) (later : Unbroken rest) :
    Unbroken (c :: rest) :=
  List.forall_mem_cons.mpr ⟨here, later⟩

theorem intercalate (between : Unbroken separator) (each : ∀ piece ∈ pieces, Unbroken piece) :
    Unbroken (separator.intercalate pieces) := by
  induction pieces with
  | nil => exact nofun
  | cons piece pieces ih =>
    obtain ⟨here, later⟩ := List.forall_mem_cons.mp each
    cases pieces with
    | nil => exact List.intercalate_singleton ▸ here
    | cons next rest =>
      rw [List.intercalate_cons_cons]
      exact (here.append between).append (ih later)

theorem newline_not_mem (unbroken : Unbroken text) : '\n' ∉ text := by
  intro member
  have broken := unbroken '\n' member
  revert broken
  decide

end Unbroken

/-- Lines without line feeds are told apart when they are joined by line feeds. -/
theorem joinLines_inj {lines others : List String} (nonempty : lines ≠ [])
    (othersNonempty : others ≠ []) (plain : ∀ line ∈ lines, '\n' ∉ line.toList)
    (othersPlain : ∀ line ∈ others, '\n' ∉ line.toList)
    (same : "\n".intercalate lines = "\n".intercalate others) : lines = others := by
  have split {list : List String} (nonempty : list ≠ [])
      (plain : ∀ line ∈ list, '\n' ∉ line.toList) :
      ("\n".intercalate list).toList.splitOn '\n' = list.map String.toList := by
    rw [String.toList_intercalate]
    exact List.splitOn_intercalate _ (List.forall_mem_map.mpr plain)
      fun empty => nonempty (List.map_eq_nil_iff.mp empty)
  have written := split nonempty plain
  rw [same, split othersNonempty othersPlain] at written
  exact ((List.map_inj_right fun _ _ => String.toList_inj.mp).mp written).symm

/-- A line feed ends the first line of a text. -/
theorem lines_append {line : List Char} (plain : Unbroken line)
    (rest : List Char) : lines (line ++ '\n' :: rest) = line :: lines rest := by
  induction line with
  | nil => rfl
  | cons c line ih =>
    obtain ⟨here, later⟩ := List.forall_mem_cons.mp plain
    have notReturn : c ≠ '\r' := by
      rintro rfl
      revert here
      decide
    rw [List.cons_append, lines.eq_3 _ _ (fun _ same => absurd same notReturn), ih later, here]
    rfl

/-- Lines that are joined by line feeds are the lines of the whole. -/
theorem lines_intercalate {pieces : List (List Char)} (nonempty : ∀ piece ∈ pieces, piece ≠ [])
    (plain : ∀ piece ∈ pieces, Unbroken piece) :
    lines (['\n'].intercalate pieces) = pieces := by
  induction pieces with
  | nil => rfl
  | cons piece pieces ih =>
    obtain ⟨first, later⟩ := List.forall_mem_cons.mp nonempty
    obtain ⟨plainFirst, plainLater⟩ := List.forall_mem_cons.mp plain
    cases pieces with
    | nil => rw [List.intercalate_singleton, lines_of_no_boundary plainFirst first]
    | cons next rest =>
      rw [List.intercalate_cons_cons, List.append_assoc, List.singleton_append,
        lines_append plainFirst, ih later plainLater]

end DiceTable.Text
