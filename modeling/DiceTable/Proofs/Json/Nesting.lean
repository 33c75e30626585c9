import DiceTable.Proofs.Json.Remainders

/-! # Readers with and without limits

A reader of JSON may refuse long integers, and it refuses values that are nested too deep. These
limits decide on whether a text is read, and not on what it is read as: a reader that goes deeper
and takes integers of any length reads whatever another one reads, as the same value
(`Json.read?_unlimited`). A text with no more brackets than there may be levels, and without long
runs of digits, is read as if there were no limits (`Json.read?_of_keepsTo`).
-/

namespace DiceTable.Json

open Text (CodePoint)

variable {τ : Type} {digitLimit : Option Nat} {inner outer : ValueReader τ}

/-- An opening bracket of a list or an object. -/
def isOpening : CodePoint → Bool :=
  CodePoint.isChar fun c => c == '[' || c == '\x7b'

/-- A text that cannot be nested deeper than some levels, for it has no more brackets than that, and
that has no longer run of digits than a limit. -/
structure KeepsTo (digits depth : Nat) (text : LooseText) : Prop where
  brackets : text.countP isOpening ≤ depth
  runs : ∀ run, LooseText.ofChars run <:+: text → (∀ c ∈ run, c.isDigit) → run.length ≤ digits

theorem KeepsTo.suffix {digits depth : Nat} {text rest : LooseText}
    (keeps : KeepsTo digits depth text) (shorter : rest <:+ text) : KeepsTo digits depth rest where
  brackets := Nat.le_trans (shorter.sublist.countP_le) keeps.brackets
  runs run part := keeps.runs run (part.trans shorter.isInfix)

/-- What stands behind an opening bracket is nested less deep than the text. -/
theorem KeepsTo.inside {digits depth : Nat} {opening : CodePoint} {inside : LooseText}
    (keeps : KeepsTo digits depth (opening :: inside)) (opens : isOpening opening = true) :
    ∃ less, depth = less + 1 ∧ KeepsTo digits less inside := by
  obtain ⟨brackets, runs⟩ := keeps
  rw [List.countP_cons_of_pos opens] at brackets
  obtain ⟨less, rfl⟩ := Nat.exists_eq_add_of_le' (Nat.le_trans (Nat.le_add_left 1 _) brackets)
  exact ⟨less, rfl, Nat.le_of_succ_le_succ brackets, fun run part =>
    runs run (part.trans (List.suffix_cons _ _).isInfix)⟩

section Numbers

theorem number?_unlimited {negative : Bool} {cs : List Char} {found : Json τ × List Char}
    (read : number? digitLimit negative cs = some found) :
    number? none negative cs = some found := by
  have lifted {plain : Prop} [Decidable plain] {long : Bool} {whole other : Json τ × List Char}
      (read : (if plain then if long then none else some whole else some other) = some found) :
      (if plain then some whole else some other) = some found := by
    split at read
    · rename_i isPlain
      split at read
      · cases read
      · rwa [if_pos isPlain]
    · rename_i isOther
      rwa [if_neg isOther]
  obtain ⟨digits, whole, read⟩ := Option.bind_eq_some_iff.mp read
  exact Option.bind_eq_some_iff.mpr ⟨digits, whole, lifted read⟩

theorem signed?_unlimited {text : LooseText} {found : Json τ × LooseText}
    (read : signed? digitLimit text = some found) : signed? none text = some found := by
  unfold signed? at read ⊢
  dsimp only at read ⊢
  split at read
  · obtain ⟨number, run, same⟩ := Option.bind_eq_some_iff.mp read
    exact Option.bind_eq_some_iff.mpr ⟨number, number?_unlimited run, same⟩
  · obtain ⟨number, run, same⟩ := Option.bind_eq_some_iff.mp read
    exact Option.bind_eq_some_iff.mpr ⟨number, number?_unlimited run, same⟩

theorem number?_of_short {digits : Nat} {negative : Bool} {cs : List Char}
    (short : ∀ run, run <+: cs → (∀ c ∈ run, c.isDigit) → run.length ≤ digits) :
    number? (τ := τ) (some digits) negative cs = number? none negative cs := by
  unfold number?
  cases read : integerDigits? cs with
  | none => rfl
  | some found =>
    obtain ⟨whole, rest⟩ := found
    obtain ⟨digit, same⟩ := integerDigits?_eq_append read
    have within : ¬whole.length > digits := Nat.not_lt.mpr (short whole ⟨rest, same.symm⟩ digit)
    simp [within]

theorem signed?_of_keepsTo {digits depth : Nat} {text : LooseText}
    (keeps : KeepsTo digits depth text) :
    signed? (τ := τ) (some digits) text = signed? none text := by
  have short {run cs : List Char} (shorter : cs <:+ run)
      (front : LooseText.ofChars run <+: text) (negative : Bool) :
      number? (τ := τ) (some digits) negative cs = number? none negative cs := by
    refine number?_of_short fun part here => keeps.runs part ?_
    have : LooseText.ofChars part <:+: LooseText.ofChars run :=
      (here.isInfix.trans shorter.isInfix).map _
    exact this.trans front.isInfix
  have front : LooseText.ofChars ((text.takeWhile (CodePoint.isChar isNumeric)).filterMap
      CodePoint.char?) <+: text := ⟨_, (eq_ofChars_append text).symm⟩
  unfold signed?
  dsimp only
  split
  · rename_i negative
    rw [short (List.suffix_cons _ _) (negative ▸ front)]
  · rw [short List.suffix_rfl front]

end Numbers

/-- What the first reader reads of an end of the text, the second one reads as the same value. -/
def ReadsNoLess (inner outer : ValueReader τ) (text : LooseText) : Prop :=
  ∀ part, part <:+ text → ∀ found, inner part = some found → outer part = some found

namespace ReadsNoLess

variable {text : LooseText}

theorem suffix (noLess : ReadsNoLess inner outer text) {rest : LooseText}
    (shorter : rest <:+ text) : ReadsNoLess inner outer rest :=
  fun part here => noLess part (here.trans shorter)

theorem of_none : ReadsNoLess (fun _ => none) outer text :=
  fun _ _ _ read => by cases read

variable (leaves : LeavesEnd inner)

include leaves

theorem items? (noLess : ReadsNoLess inner outer text) {fuel : Nat} {done : List (Json τ)}
    {found : List (Json τ) × LooseText} (read : Json.items? inner fuel done text = some found) :
    Json.items? outer fuel done text = some found := by
  induction fuel generalizing done text with
  | zero => cases read
  | succ fuel ih =>
    obtain ⟨⟨value, rest⟩, item, read⟩ := Option.bind_eq_some_iff.mp read
    refine Option.bind_eq_some_iff.mpr
      ⟨_, noLess _ (skipSpace_suffix text) _ item, ?_⟩
    dsimp only at read ⊢
    split at read
    · rename_i next
      exact ih (noLess.suffix (leaves.next item next)) read
    · exact read
    · cases read

variable [Spelled τ] [DecidableEq τ]

theorem members? (noLess : ReadsNoLess inner outer text) {fuel : Nat}
    {done : List (τ × Json τ)} {found : Members τ × LooseText}
    (read : Json.members? inner fuel done text = some found) :
    Json.members? outer fuel done text = some found := by
  induction fuel generalizing done text with
  | zero => cases read
  | succ fuel ih =>
    unfold Json.members? at read ⊢
    split at read
    · rename_i quote
      obtain ⟨⟨key, rest⟩, named, read⟩ := Option.bind_eq_some_iff.mp read
      have behindKey : rest <:+ text := (leavesEnd_text? _ _ named).trans
        ((List.suffix_cons _ _).trans (quote ▸ skipSpace_suffix text))
      refine Option.bind_eq_some_iff.mpr ⟨_, named, ?_⟩
      dsimp only at read ⊢
      split at read
      · rename_i colon
        have behindColon := (List.suffix_cons _ _).trans
          ((colon ▸ skipSpace_suffix rest : _ <:+ rest).trans behindKey)
        obtain ⟨⟨value, after⟩, first, read⟩ := Option.bind_eq_some_iff.mp read
        refine Option.bind_eq_some_iff.mpr
          ⟨_, noLess _ ((skipSpace_suffix _).trans behindColon) _ first, ?_⟩
        dsimp only at read ⊢
        split at read
        · rename_i next
          exact ih (noLess.suffix ((leaves.next first next).trans behindColon)) read
        · exact read
        · cases read
      · cases read
    · cases read

/-- Around values that are read as well, and with numbers that are, a value is read as well. -/
theorem valueWith {other : Option Nat}
    (numbers : ∀ found, signed? (τ := τ) digitLimit text = some found →
      signed? other text = some found)
    (noLess : ∀ opening inside, text = opening :: inside → isOpening opening = true →
      ReadsNoLess inner outer inside)
    {found : Json τ × LooseText} (read : Json.valueWith digitLimit inner text = some found) :
    Json.valueWith other outer text = some found := by
  unfold Json.valueWith at read ⊢
  split at read
  · exact read
  · split at read
    · exact read
    · obtain ⟨items, listed, same⟩ := Option.map_eq_some_iff.mp read
      have inside := (noLess _ _ rfl rfl).suffix (skipSpace_suffix _)
      exact Option.map_eq_some_iff.mpr ⟨items, inside.items? leaves listed, same⟩
  · split at read
    · exact read
    · obtain ⟨members, listed, same⟩ := Option.map_eq_some_iff.mp read
      have inside := (noLess _ _ rfl rfl).suffix (skipSpace_suffix _)
      exact Option.map_eq_some_iff.mpr ⟨members, inside.members? leaves listed, same⟩
  · rcases Option.or_eq_some_iff.mp read with named | ⟨unnamed, number⟩
    · exact Option.or_eq_some_iff.mpr (.inl named)
    · exact Option.or_eq_some_iff.mpr (.inr ⟨unnamed, numbers _ number⟩)

end ReadsNoLess

variable [Spelled τ] [DecidableEq τ] {depth deeper : Nat} {text : LooseText}

theorem value?_unlimited {found : Json τ × LooseText} (less : depth ≤ deeper)
    (read : value? digitLimit depth text = some found) : value? none deeper text = some found := by
  induction depth generalizing deeper text found with
  | zero =>
    rw [value?_eq_valueWith]
    exact ReadsNoLess.valueWith leavesEnd_none (fun _ => signed?_unlimited)
      (fun _ _ _ _ => .of_none) read
  | succ depth ih =>
    obtain ⟨deeper, rfl⟩ := Nat.exists_eq_add_of_le' (Nat.lt_of_lt_of_le (Nat.succ_pos _) less)
    exact ReadsNoLess.valueWith (leavesEnd_value? depth) (fun _ => signed?_unlimited)
      (fun _ _ _ _ _ _ _ => ih (Nat.le_of_succ_le_succ less)) read

/-- Without a limit on digits, and with no less depth, a text is read as the same value. -/
theorem read?_unlimited {value : Json τ} (less : depth ≤ deeper)
    (read : read? digitLimit depth text = some value) : read? none deeper text = some value := by
  obtain ⟨found, front, read⟩ := Option.bind_eq_some_iff.mp read
  exact Option.bind_eq_some_iff.mpr ⟨found, value?_unlimited less front, read⟩

theorem value?_of_keepsTo {digits : Nat} {found : Json τ × LooseText}
    (keeps : KeepsTo digits depth text) (read : value? none deeper text = some found) :
    value? (some digits) depth text = some found := by
  -- The depth at hand bounds the brackets of what is left, so the induction is on the other one.
  induction deeper generalizing depth text found with
  | zero =>
    rw [value?_eq_valueWith]
    exact ReadsNoLess.valueWith leavesEnd_none (fun _ => (signed?_of_keepsTo keeps).trans)
      (fun _ _ _ _ => .of_none) read
  | succ deeper ih =>
    rw [value?_eq_valueWith]
    refine ReadsNoLess.valueWith (leavesEnd_value? deeper)
      (fun _ => (signed?_of_keepsTo keeps).trans) ?_ read
    rintro opening inside rfl opens part shorter found read
    obtain ⟨less, rfl, within⟩ := keeps.inside opens
    exact ih (within.suffix shorter) read

/-- A text that keeps to the limits is read as it is without them. -/
theorem read?_of_keepsTo {digits : Nat} {value : Json τ} (keeps : KeepsTo digits depth text)
    (read : read? none deeper text = some value) : read? (some digits) depth text = some value := by
  obtain ⟨found, front, read⟩ := Option.bind_eq_some_iff.mp read
  exact Option.bind_eq_some_iff.mpr
    ⟨found, value?_of_keepsTo (keeps.suffix (skipSpace_suffix text)) front, read⟩

end DiceTable.Json
