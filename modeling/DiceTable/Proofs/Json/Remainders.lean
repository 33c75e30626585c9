import DiceTable.Json.Reader
import Mathlib.Data.List.TakeWhile

/-! # What readers of JSON leave

A reader takes what it reads off the front of a text, and what it leaves is an end of the text
(`Json.leavesEnd_value?`). So whatever holds of all ends of a text holds wherever a reader goes on.
-/

namespace DiceTable.Json

open Text (CodePoint)

variable {α τ : Type} {digitLimit : Option Nat}

/-- What is left of a text is an end of it. -/
def LeavesEnd (reader : LooseText → Option (α × LooseText)) : Prop :=
  ∀ text found, reader text = some found → found.2 <:+ text

theorem leavesEnd_none : LeavesEnd (α := α) fun _ => none :=
  fun _ _ read => by cases read

theorem skipSpace_suffix (text : LooseText) : skipSpace text <:+ text :=
  List.dropWhile_suffix _

theorem leavesEnd_unit? : LeavesEnd unit? := by
  intro text found read
  unfold unit? at read
  split at read
  · simp only [Option.bind_eq_bind, Option.bind_eq_some_iff, Option.some.injEq] at read
    obtain ⟨_, _, _, _, _, _, _, _, _, _, rfl⟩ := read
    exact ⟨[_, _, _, _], rfl⟩
  · cases read

theorem joinNext_suffix (point : CodePoint) (rest : LooseText) :
    (joinNext point rest).2 <:+ rest := by
  unfold joinNext
  split
  · exact List.suffix_rfl
  · rename_i next after found
    split
    · exact List.suffix_rfl
    · unfold escapedUnit? at found
      split at found
      · exact (leavesEnd_unit? _ _ found).trans ⟨[_, _], rfl⟩
      · cases found

theorem leavesEnd_escape? : LeavesEnd escape? := by
  intro text found read
  unfold escape? at read
  split at read
  · obtain ⟨⟨point, rest⟩, unit, rfl⟩ := Option.map_eq_some_iff.mp read
    exact (joinNext_suffix point rest).trans
      ((leavesEnd_unit? _ _ unit).trans (List.suffix_cons _ _))
  · obtain ⟨_, _, rfl⟩ := Option.map_eq_some_iff.mp read
    exact List.suffix_cons _ _
  · cases read

theorem leavesEnd_point? : LeavesEnd point? := by
  intro text found read
  unfold point? at read
  split at read
  · cases read
  · split at read
    · exact (leavesEnd_escape? _ _ read).trans (List.suffix_cons _ _)
    · split at read
      · cases read
      · cases read
        exact List.suffix_cons _ _
  · cases read
    exact List.suffix_cons _ _

theorem leavesEnd_string? (done : LooseText) : LeavesEnd (string? done) := by
  intro text found read
  induction done, text using string?.induct with
  | case1 done text closes =>
    rw [string?, if_pos closes] at read
    cases read
    exact List.drop_suffix _ _
  | case2 done text opens none =>
    rw [string?, if_neg opens] at read
    split at read
    · cases read
    · rename_i some
      rw [none] at some
      cases some
  | case3 done text opens point rest first ih =>
    rw [string?, if_neg opens] at read
    split at read
    · cases read
    · rename_i again
      cases first.symm.trans again
      exact (ih read).trans (leavesEnd_point? _ _ first)

theorem leavesEnd_named? : LeavesEnd (named? (τ := τ)) := by
  intro text found read
  obtain ⟨⟨name, value⟩, _, same⟩ := List.exists_of_findSome?_eq_some read
  dsimp only at same
  split at same
  · cases same
    exact List.drop_suffix _ _
  · cases same

section Numbers

variable {cs : List Char}

theorem fraction_suffix (cs : List Char) : (fraction cs).2 <:+ cs := by
  unfold fraction
  split
  · split
    · exact (List.dropWhile_suffix _).trans (List.suffix_cons _ _)
    · exact List.suffix_rfl
  · exact List.suffix_rfl

theorem exponent?_suffix {found : Int × List Char} (read : exponent? cs = some found) :
    found.2 <:+ cs := by
  have afterLetter {cs : List Char} (read : exponentAfterLetter? cs = some found) :
      found.2 <:+ cs := by
    unfold exponentAfterLetter? at read
    dsimp only at read
    split at read
    all_goals
      split at read
      · cases read
      · cases read
        first
        | exact (List.dropWhile_suffix _).trans (List.suffix_cons _ _)
        | exact List.dropWhile_suffix _
  unfold exponent? at read
  split at read
  · split at read
    · exact (afterLetter read).trans (List.suffix_cons _ _)
    · cases read
  · cases read

/-- The digits of an integer are digits, and the rest goes on behind them. -/
theorem integerDigits?_eq_append {whole rest : List Char}
    (read : integerDigits? cs = some (whole, rest)) :
    (∀ c ∈ whole, c.isDigit) ∧ cs = whole ++ rest := by
  unfold integerDigits? at read
  split at read
  · cases read
    exact ⟨List.forall_mem_singleton.mpr rfl, rfl⟩
  · split at read
    · cases read
      exact ⟨fun c member => List.mem_takeWhile_imp member, List.takeWhile_append_dropWhile.symm⟩
    · cases read
  · cases read

theorem number?_suffix {negative : Bool} {found : Json τ × List Char}
    (read : number? digitLimit negative cs = some found) : found.2 <:+ cs := by
  obtain ⟨⟨whole, rest⟩, digits, read⟩ := Option.bind_eq_some_iff.mp read
  have behind : rest <:+ cs := ⟨whole, (integerDigits?_eq_append digits).2.symm⟩
  refine List.IsSuffix.trans ?_ ((fraction_suffix rest).trans behind)
  dsimp only at read
  cases power : exponent? (fraction rest).2 with
  | none =>
    rw [power] at read
    dsimp only at read
    split at read
    · split at read
      · cases read
      · cases read
        exact List.suffix_rfl
    · cases read
      exact List.suffix_rfl
  | some found =>
    rw [power] at read
    dsimp only at read
    rw [if_neg (by simp)] at read
    cases read
    exact exponent?_suffix power

end Numbers

/-- The characters of a numeric run are what the text begins with. -/
theorem eq_ofChars_append (text : LooseText) :
    text = .ofChars ((text.takeWhile (CodePoint.isChar isNumeric)).filterMap CodePoint.char?) ++
      text.dropWhile (CodePoint.isChar isNumeric) := by
  induction text with
  | nil => rfl
  | cons point rest ih =>
    cases point with
    | half offset => rfl
    | char c =>
      cases numeric : isNumeric c with
      | true =>
        have taken : CodePoint.isChar isNumeric (.char c) = true := numeric
        rw [List.takeWhile_cons_of_pos taken, List.dropWhile_cons_of_pos taken]
        exact congrArg _ ih
      | false =>
        have left : ¬CodePoint.isChar isNumeric (.char c) = true := by
          rw [CodePoint.isChar, numeric]
          nofun
        rw [List.takeWhile_cons_of_neg left, List.dropWhile_cons_of_neg left]
        rfl

theorem leavesEnd_signed? : LeavesEnd (signed? (τ := τ) digitLimit) := by
  intro text found read
  have ends {front rest : List Char} (shorter : rest <:+ front) :
      LooseText.ofChars rest ++ text.dropWhile (CodePoint.isChar isNumeric) <:+
        LooseText.ofChars front ++ text.dropWhile (CodePoint.isChar isNumeric) := by
    obtain ⟨start, rfl⟩ := shorter
    exact ⟨LooseText.ofChars start, by simp [LooseText.ofChars]⟩
  rw [eq_ofChars_append text]
  unfold signed? at read
  dsimp only at read
  split at read
  · rename_i front
    obtain ⟨⟨value, rest⟩, number, same⟩ := Option.bind_eq_some_iff.mp read
    cases same
    rw [front]
    exact ends ((number?_suffix number).trans (List.suffix_cons _ _))
  · obtain ⟨⟨value, rest⟩, number, same⟩ := Option.bind_eq_some_iff.mp read
    cases same
    exact ends (number?_suffix number)

/-- What stands behind the next character of what is left is an end of the text, too. -/
theorem LeavesEnd.next {reader : ValueReader τ} (leaves : LeavesEnd reader)
    {text rest after : LooseText} {value : Json τ} {point : CodePoint}
    (read : reader (skipSpace text) = some (value, rest)) (next : skipSpace rest = point :: after) :
    after <:+ text := by
  have here : point :: after <:+ rest := next ▸ skipSpace_suffix rest
  exact (List.suffix_cons _ _).trans
    (here.trans ((leaves _ _ read).trans (skipSpace_suffix text)))

theorem leavesEnd_items? {reader : ValueReader τ} (leaves : LeavesEnd reader)
    (fuel : Nat) (done : List (Json τ)) : LeavesEnd (items? reader fuel done) := by
  intro text found read
  induction fuel generalizing done text with
  | zero => cases read
  | succ fuel ih =>
    obtain ⟨⟨value, rest⟩, first, read⟩ := Option.bind_eq_some_iff.mp read
    dsimp only at read
    split at read
    · rename_i next
      exact (ih _ _ read).trans (leaves.next first next)
    · rename_i next
      cases read
      exact leaves.next first next
    · cases read

section Values

variable [Spelled τ]

theorem leavesEnd_text? : LeavesEnd (text? (τ := τ)) := by
  intro text found read
  obtain ⟨⟨points, rest⟩, string, read⟩ := Option.bind_eq_some_iff.mp read
  obtain ⟨_, _, same⟩ := Option.bind_eq_some_iff.mp read
  cases same
  exact leavesEnd_string? _ _ _ string

variable {reader : ValueReader τ} (leaves : LeavesEnd reader)

include leaves

theorem leavesEnd_members? [DecidableEq τ] (fuel : Nat) (done : List (τ × Json τ)) :
    LeavesEnd (members? reader fuel done) := by
  intro text found read
  induction fuel generalizing done text with
  | zero => cases read
  | succ fuel ih =>
    unfold members? at read
    split at read
    · rename_i quote
      obtain ⟨⟨key, rest⟩, named, read⟩ := Option.bind_eq_some_iff.mp read
      have behindKey : rest <:+ text :=
        (leavesEnd_text? _ _ named).trans ((List.suffix_cons _ _).trans
          (quote ▸ skipSpace_suffix text))
      dsimp only at read
      split at read
      · rename_i colon
        obtain ⟨⟨value, after⟩, first, read⟩ := Option.bind_eq_some_iff.mp read
        have behindColon := (List.suffix_cons _ _).trans
          ((colon ▸ skipSpace_suffix rest : _ <:+ rest).trans behindKey)
        dsimp only at read
        split at read
        · rename_i next
          exact (ih _ _ read).trans ((leaves.next first next).trans behindColon)
        · rename_i next
          cases read
          exact (leaves.next first next).trans behindColon
        · cases read
      · cases read
    · cases read

theorem leavesEnd_valueWith [DecidableEq τ] : LeavesEnd (valueWith digitLimit reader) := by
  intro text found read
  have behindClosing {opening closing : CodePoint} {inside rest : LooseText}
      (closed : skipSpace inside = closing :: rest) : rest <:+ opening :: inside :=
    (List.suffix_cons _ _).trans
      ((closed ▸ skipSpace_suffix inside).trans (List.suffix_cons _ _))
  unfold valueWith at read
  split at read
  · obtain ⟨⟨_, rest⟩, string, same⟩ := Option.map_eq_some_iff.mp read
    cases same
    exact (leavesEnd_text? _ _ string).trans (List.suffix_cons _ _)
  · split at read
    · rename_i closed
      cases read
      exact behindClosing closed
    · obtain ⟨⟨_, _⟩, listed, same⟩ := Option.map_eq_some_iff.mp read
      cases same
      exact (leavesEnd_items? leaves _ _ _ _ listed).trans
        ((skipSpace_suffix _).trans (List.suffix_cons _ _))
  · split at read
    · rename_i closed
      cases read
      exact behindClosing closed
    · obtain ⟨⟨_, _⟩, listed, same⟩ := Option.map_eq_some_iff.mp read
      cases same
      exact (leavesEnd_members? leaves _ _ _ _ listed).trans
        ((skipSpace_suffix _).trans (List.suffix_cons _ _))
  · rcases Option.or_eq_some_iff.mp read with named | ⟨_, number⟩
    · exact leavesEnd_named? _ _ named
    · exact leavesEnd_signed? _ _ number

omit leaves

/-- What a reader of values leaves is an end of the text. -/
theorem leavesEnd_value? [DecidableEq τ] (depth : Nat) :
    LeavesEnd (value? (τ := τ) digitLimit depth) := by
  induction depth with
  | zero => exact leavesEnd_valueWith leavesEnd_none
  | succ depth ih => exact leavesEnd_valueWith ih

/-- The reader of the values within a value. -/
def within? [DecidableEq τ] (digitLimit : Option Nat) : (depth : Nat) → ValueReader τ
  | 0 => fun _ => none
  | depth + 1 => value? digitLimit depth

theorem value?_eq_valueWith [DecidableEq τ] (depth : Nat) :
    value? (τ := τ) digitLimit depth = valueWith digitLimit (within? digitLimit depth) := by
  cases depth <;> rfl

end Values

end DiceTable.Json
