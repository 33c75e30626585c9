import DiceTable.Settings.Placeholder
import Mathlib.Data.List.Infix
import Mathlib.Data.List.TakeWhile

/-! # What is put in the place of placeholders

A text can be cut in one way only into placeholders and single characters such that every spelled
placeholder is cut out as one (`existsUnique_pieces`). What a text resolves to is the values of
these pieces in order, and the pieces are those of the text as it was written. So whatever the
variables hold is neither cut nor looked up again, and the names that a value mentions are all that
it depends on (`resolve_single_pass`).
-/

namespace DiceTable.Settings

/-- A name of a variable: one or more word characters. -/
structure IsName (name : List Char) : Prop where
  nonempty : name ≠ []
  wordChars : ∀ c ∈ name, Text.isWordChar c = true

/-- How the placeholder of a name is spelled. -/
def placeholderChars (name : List Char) : List Char :=
  '$' :: '\x7b' :: (name ++ ['\x7d'])

inductive Piece where
  /-- A character that is in no placeholder. -/
  | char (c : Char)
  | placeholder (name : List Char)

namespace Piece

def chars : Piece → List Char
  | char c => [c]
  | placeholder name => placeholderChars name

/-- What a piece stands for: a placeholder for its variable, any other one for itself. -/
def value (environment : Environment) : Piece → List Char
  | char c => [c]
  | placeholder name => (environment.valueOf (String.ofList name)).toList

end Piece

/-- A text is cut into pieces: they spell it out in order, their placeholders have names, and
wherever a placeholder is spelled in the text, it is one of the pieces. -/
structure Pieces (text : List Char) (pieces : List Piece) : Prop where
  spelled : pieces.flatMap Piece.chars = text
  named : ∀ name, .placeholder name ∈ pieces → IsName name
  every : ∀ front name back, IsName name → front ++ placeholderChars name ++ back = text →
    ∃ before after, pieces = before ++ .placeholder name :: after ∧
      before.flatMap Piece.chars = front

variable {environment : Environment} {name front back text after rest : List Char} {c : Char}
  {piece : Piece} {pieces others : List Piece} {value result : Json}

/-! ## Occurrences -/

theorem placeholderChars_append (name rest : List Char) :
    placeholderChars name ++ rest = '$' :: '\x7b' :: (name ++ '\x7d' :: rest) := by
  simp [placeholderChars]

theorem IsName.takeWhile_append (isName : IsName name) (rest : List Char) :
    (name ++ '\x7d' :: rest).takeWhile Text.isWordChar = name := by
  rw [List.takeWhile_append_of_pos isName.wordChars,
    List.takeWhile_cons_of_neg (by decide), List.append_nil]

theorem IsName.dropWhile_append (isName : IsName name) (rest : List Char) :
    (name ++ '\x7d' :: rest).dropWhile Text.isWordChar = '\x7d' :: rest := by
  rw [List.dropWhile_append_of_pos isName.wordChars, List.dropWhile_cons_of_neg (by decide)]

/-- A placeholder is found where one is spelled, and there only. -/
theorem placeholder?_eq_some_iff :
    placeholder? text = some (name, after) ↔
      IsName name ∧ placeholderChars name ++ after = text := by
  constructor
  · intro found
    have isName : IsName name := by
      unfold placeholder? at found
      split at found
      · split at found
        · split at found
          · cases found
          · rename_i nonempty
            cases found
            exact ⟨nonempty, fun _ member => List.mem_takeWhile_imp member⟩
        · cases found
      · cases found
    rw [placeholderChars_append]
    exact ⟨isName, (placeholder?_spelling found).1.symm⟩
  · rintro ⟨isName, rfl⟩
    rw [placeholderChars_append, placeholder?]
    simp only [isName.takeWhile_append, isName.dropWhile_append, isName.nonempty, if_false]

/-- No placeholder starts within another one. -/
theorem starts_apart (isName : IsName name)
    (same : front ++ '$' :: back = placeholderChars name ++ rest) :
    front = [] ∨ ∃ later, front = placeholderChars name ++ later := by
  have noDollar : '$' ∉ '\x7b' :: (name ++ ['\x7d']) := by
    intro member
    rcases List.mem_cons.mp member with brace | member
    · exact absurd brace (by decide)
    · rcases List.mem_append.mp member with inside | brace
      · exact absurd (isName.wordChars '$' inside) (by decide)
      · exact absurd (List.mem_singleton.mp brace) (by decide)
  rcases List.append_eq_append_iff.mp same with ⟨middle, spelled, tail⟩ | ⟨later, longer, _⟩
  · cases middle with
    | nil => exact .inr ⟨[], by rw [spelled, List.append_nil, List.append_nil]⟩
    | cons first middle =>
      obtain ⟨rfl, _⟩ := List.cons.inj tail
      cases front with
      | nil => exact .inl rfl
      | cons _ front =>
        obtain ⟨_, inside⟩ := List.cons.inj spelled
        exact absurd (inside ▸ List.mem_append_right front List.mem_cons_self) noDollar
  · exact .inr ⟨later, longer⟩

/-! ## Pieces of a text -/

theorem Piece.chars_ne_nil (piece : Piece) : piece.chars ≠ [] := by
  cases piece <;> exact List.cons_ne_nil _ _

/-- Only no pieces spell nothing. -/
theorem eq_nil_of_flatMap_chars (nothing : pieces.flatMap Piece.chars = []) : pieces = [] := by
  cases pieces with
  | nil => rfl
  | cons piece rest =>
    exact absurd (List.append_eq_nil_iff.mp nothing).1 piece.chars_ne_nil

namespace Pieces

theorem nil : Pieces [] [] where
  spelled := rfl
  named := nofun
  every front name back _ same := by
    simp [placeholderChars] at same

theorem char (none : placeholder? (c :: rest) = none) (later : Pieces rest pieces) :
    Pieces (c :: rest) (.char c :: pieces) where
  spelled := congrArg (c :: ·) later.spelled
  named name member := later.named name ((List.mem_cons.mp member).resolve_left nofun)
  every front name back isName same := by
    cases front with
    | nil =>
      rw [List.nil_append] at same
      cases none.symm.trans (placeholder?_eq_some_iff.mpr ⟨isName, same⟩)
    | cons first front =>
      rw [List.cons_append, List.cons_append] at same
      obtain ⟨rfl, within⟩ := List.cons.inj same
      obtain ⟨before, after, rfl, spelled⟩ := later.every front name back isName within
      exact ⟨.char first :: before, after, rfl, congrArg (first :: ·) spelled⟩

theorem placeholder (isName : IsName name) (later : Pieces rest pieces) :
    Pieces (placeholderChars name ++ rest) (.placeholder name :: pieces) where
  spelled := congrArg (placeholderChars name ++ ·) later.spelled
  named other member := by
    rcases List.mem_cons.mp member with same | member
    · cases same
      exact isName
    · exact later.named other member
  every front other back isOther same := by
    have starts := same
    rw [List.append_assoc, placeholderChars_append other] at starts
    rcases starts_apart isName starts with rfl | ⟨front, rfl⟩
    · have first := placeholder?_eq_some_iff.mpr ⟨isOther, same⟩
      rw [placeholder?_eq_some_iff.mpr ⟨isName, rfl⟩] at first
      cases first
      exact ⟨[], pieces, rfl, rfl⟩
    · rw [List.append_assoc, List.append_assoc] at same
      have same := List.append_cancel_left same
      rw [← List.append_assoc] at same
      obtain ⟨before, after, rfl, spelled⟩ := later.every front other back isOther same
      exact ⟨.placeholder name :: before, after, rfl,
        congrArg (placeholderChars name ++ ·) spelled⟩

/-- The pieces after the first one are those of the text after it. -/
theorem tail (cut : Pieces text (piece :: pieces)) :
    Pieces (pieces.flatMap Piece.chars) pieces where
  spelled := rfl
  named name member := cut.named name (List.mem_cons_of_mem piece member)
  every front name back isName same := by
    have whole : piece.chars ++ front ++ placeholderChars name ++ back = text := by
      rw [← cut.spelled, List.flatMap_cons, ← same]
      simp only [List.append_assoc]
    obtain ⟨before, after, split, spelled⟩ := cut.every _ name back isName whole
    cases before with
    | nil => exact absurd (List.append_eq_nil_iff.mp spelled.symm).1 piece.chars_ne_nil
    | cons first before =>
      obtain ⟨rfl, rfl⟩ := List.cons.inj split
      exact ⟨before, after, rfl, List.append_cancel_left spelled⟩

/-- The first piece is the placeholder that starts the text, or its first character where none
does. -/
theorem head (cut : Pieces text (piece :: pieces)) :
    (∃ name, piece = .placeholder name ∧
      placeholder? text = some (name, pieces.flatMap Piece.chars)) ∨
    ∃ c, piece = .char c ∧ text = c :: pieces.flatMap Piece.chars ∧ placeholder? text = none := by
  cases piece with
  | placeholder name =>
    have isName := cut.named name List.mem_cons_self
    exact .inl ⟨name, rfl, placeholder?_eq_some_iff.mpr ⟨isName, cut.spelled⟩⟩
  | char c =>
    refine .inr ⟨c, rfl, cut.spelled.symm, ?_⟩
    cases found : placeholder? text with
    | none => rfl
    | some there =>
      obtain ⟨isName, spelled⟩ := placeholder?_eq_some_iff.mp found
      obtain ⟨before, after, split, nothing⟩ := cut.every [] _ _ isName spelled
      rw [eq_nil_of_flatMap_chars nothing] at split
      cases split

/-- A text can be cut. -/
theorem exists_of (text : List Char) : ∃ pieces, Pieces text pieces := by
  induction size : text.length using Nat.strong_induction_on generalizing text with
  | _ size ih =>
    subst size
    cases found : placeholder? text with
    | some there =>
      obtain ⟨isName, rfl⟩ := placeholder?_eq_some_iff.mp found
      obtain ⟨pieces, cut⟩ := ih _ (by rw [placeholderChars_append]; simp; omega) there.2 rfl
      exact ⟨_, .placeholder isName cut⟩
    | none =>
      cases text with
      | nil => exact ⟨[], .nil⟩
      | cons c rest =>
        obtain ⟨pieces, cut⟩ := ih _ (Nat.lt_succ_self _) rest rfl
        exact ⟨_, .char found cut⟩

theorem eq (cut : Pieces text pieces) (other : Pieces text others) : pieces = others := by
  induction pieces generalizing text others with
  | nil => exact (eq_nil_of_flatMap_chars (other.spelled.trans cut.spelled.symm)).symm
  | cons piece pieces ih =>
    cases others with
    | nil => exact eq_nil_of_flatMap_chars (cut.spelled.trans other.spelled.symm)
    | cons next others =>
      have same : piece = next ∧ pieces.flatMap Piece.chars = others.flatMap Piece.chars := by
        rcases cut.head with ⟨name, rfl, found⟩ | ⟨c, rfl, rfl, none⟩ <;>
          rcases other.head with ⟨name', rfl, found'⟩ | ⟨c', rfl, split, none'⟩
        · obtain ⟨rfl, same⟩ := Prod.mk.inj (Option.some.inj (found.symm.trans found'))
          exact ⟨rfl, same⟩
        · cases found.symm.trans none'
        · cases none.symm.trans found'
        · obtain ⟨rfl, same⟩ := List.cons.inj split
          exact ⟨rfl, same⟩
      rw [same.1, ih cut.tail (same.2 ▸ other.tail)]

/-- An expanded text is the values of the pieces, in order. -/
theorem expand_eq (cut : Pieces text pieces) :
    expand environment text = pieces.flatMap (Piece.value environment) := by
  induction pieces generalizing text with
  | nil =>
    rw [← cut.spelled]
    exact expand_nil environment
  | cons piece pieces ih =>
    rw [List.flatMap_cons, ← ih cut.tail]
    rcases cut.head with ⟨name, rfl, found⟩ | ⟨c, rfl, rfl, none⟩
    · exact expand_of_placeholder found
    · exact expand_cons none

/-- A placeholder among the pieces comes in the text. -/
theorem isInfix (cut : Pieces text pieces) (member : .placeholder name ∈ pieces) :
    placeholderChars name <:+: text := by
  obtain ⟨before, after, rfl⟩ := List.append_of_mem member
  rw [← cut.spelled, List.flatMap_append, List.flatMap_cons, ← List.append_assoc]
  exact ⟨_, _, rfl⟩

end Pieces

theorem existsUnique_pieces (text : List Char) : ∃! pieces, Pieces text pieces := by
  obtain ⟨pieces, cut⟩ := Pieces.exists_of text
  exact ⟨pieces, cut, fun _ other => other.eq cut⟩

/-! ## Values -/

/-- A value with neither texts nor other values in it. -/
def IsLeaf : Json → Prop
  | .null | .bool _ | .int _ | .float _ => True
  | _ => False

/-- A value comes of another one: each text is that of the values of its pieces, each list has as
many items, each mapping has the same keys in the same order, and the rest is as it was. -/
inductive Resolves (environment : Environment) : Json → Json → Prop
  | leaf {value : Json} (isLeaf : IsLeaf value) : Resolves environment value value
  | text {text : String} {pieces : List Piece} (cut : Pieces text.toList pieces) :
    Resolves environment (.str text)
      (.str (String.ofList (pieces.flatMap (Piece.value environment))))
  | list {items results : List Json} (length : results.length = items.length)
    (each : ∀ (place : Nat) (item result : Json), items[place]? = some item →
      results[place]? = some result → Resolves environment item result) :
    Resolves environment (.arr items) (.arr results)
  | mapping {members results : Members}
    (keys : results.map Prod.fst = members.map Prod.fst)
    (each : ∀ (place : Nat) (member result : String × Json), members[place]? = some member →
      results[place]? = some result → Resolves environment member.2 result.2) :
    Resolves environment (.obj members) (.obj results)

/-- A name comes as a placeholder in a text of a value. -/
inductive Mentions (name : List Char) : Json → Prop
  | text {text : String} (spelled : placeholderChars name <:+: text.toList) :
    Mentions name (.str text)
  | item {items : List Json} {item : Json} (member : item ∈ items) (within : Mentions name item) :
    Mentions name (.arr items)
  | value {members : Members} {key : String} {value : Json} (member : (key, value) ∈ members)
    (within : Mentions name value) : Mentions name (.obj members)

theorem resolveItems_eq_map (environment : Environment) (items : List Json) :
    resolveItems environment items = items.map (resolve environment) := by
  induction items with
  | nil => rfl
  | cons item rest ih => rw [resolveItems, ih, List.map_cons]

theorem resolveMembers_eq_map (environment : Environment) (members : Members) :
    resolveMembers environment members =
      members.map fun member => (member.1, resolve environment member.2) := by
  induction members with
  | nil => rfl
  | cons member rest ih => rw [resolveMembers, ih, List.map_cons]

theorem Resolves.eq_resolve (resolves : Resolves environment value result) :
    result = resolve environment value := by
  induction resolves with
  | @leaf value isLeaf => cases value <;> first | rfl | cases isLeaf
  | text cut => rw [resolve, cut.expand_eq]
  | @list items results length each ih =>
    rw [resolve, resolveItems_eq_map]
    refine congrArg Json.arr (List.ext_getElem (by rw [length, List.length_map]) ?_)
    intro place inside _
    rw [List.getElem_map]
    have inside' : place < items.length := length ▸ inside
    exact ih place _ _ (List.getElem?_eq_getElem inside') (List.getElem?_eq_getElem inside)
  | @mapping members results keys each ih =>
    have length : results.length = members.length := by
      simpa using congrArg List.length keys
    rw [resolve, resolveMembers_eq_map]
    refine congrArg Json.obj (List.ext_getElem (by rw [length, List.length_map]) ?_)
    intro place inside _
    have inside' : place < members.length := length ▸ inside
    have key : results[place].1 = members[place].1 := by
      have same : (results.map Prod.fst)[place]? = (members.map Prod.fst)[place]? := by rw [keys]
      simpa [inside, inside'] using same
    have value := ih place _ _ (List.getElem?_eq_getElem inside') (List.getElem?_eq_getElem inside)
    rw [List.getElem_map, ← key, ← value]

theorem resolves_resolve (environment : Environment) (value : Json) :
    Resolves environment value (resolve environment value) :=
  match value with
  | .null | .bool _ | .int _ | .float _ => .leaf trivial
  | .str text => by
    obtain ⟨pieces, cut⟩ := Pieces.exists_of text.toList
    rw [resolve, cut.expand_eq]
    exact .text cut
  | .arr items => by
    rw [resolve, resolveItems_eq_map]
    refine .list (List.length_map _) fun place item result there resolved => ?_
    rw [List.getElem?_map, there] at resolved
    cases resolved
    have member := List.mem_of_getElem? there
    exact resolves_resolve environment item
  | .obj members => by
    rw [resolve, resolveMembers_eq_map]
    refine .mapping (by rw [List.map_map]; rfl) fun place member result there resolved => ?_
    rw [List.getElem?_map, there] at resolved
    cases resolved
    obtain ⟨key, inner⟩ := member
    have inside := List.mem_of_getElem? there
    exact resolves_resolve environment inner
termination_by sizeOf value
decreasing_by
  · have smaller := List.sizeOf_lt_of_mem member
    simp only [Json.arr.sizeOf_spec]
    omega
  · have smaller := List.sizeOf_lt_of_mem inside
    simp only [Json.obj.sizeOf_spec, Prod.mk.sizeOf_spec] at smaller ⊢
    omega

theorem resolves_iff : Resolves environment value result ↔ result = resolve environment value :=
  ⟨Resolves.eq_resolve, fun same => same ▸ resolves_resolve environment value⟩

theorem Resolves.of_agree {other : Environment} (resolves : Resolves environment value result)
    (agree : ∀ name, IsName name → Mentions name value →
      environment.valueOf (String.ofList name) = other.valueOf (String.ofList name)) :
    Resolves other value result := by
  induction resolves with
  | leaf isLeaf => exact .leaf isLeaf
  | @text text pieces cut =>
    have same : pieces.flatMap (Piece.value environment) = pieces.flatMap (Piece.value other) := by
      refine List.flatMap_congr fun piece member => ?_
      cases piece with
      | char c => rfl
      | placeholder name =>
        have mentions : Mentions name (.str text) := .text (cut.isInfix member)
        rw [Piece.value, Piece.value, agree name (cut.named name member) mentions]
    rw [same]
    exact .text cut
  | list length each ih =>
    refine .list length fun place item result there resolved => ?_
    refine ih place item result there resolved fun name isName within => agree name isName ?_
    exact .item (List.mem_of_getElem? there) within
  | mapping keys each ih =>
    refine .mapping keys fun place member result there resolved => ?_
    refine ih place member result there resolved fun name isName within => agree name isName ?_
    exact .value (List.mem_of_getElem? there) within

/-- Placeholders are resolved in a single pass that stays within the value. The resolved value has
the shape of the value it comes of, and each of its texts is that of the values of the pieces, in
order, into which the text that was there can be cut in one way only. So two environments in which
the names that a value mentions stand for the same make the same of it, whatever these names stand
for. -/
theorem resolve_single_pass (value : Json) :
    (∀ environment result, Resolves environment value result ↔
      result = resolve environment value) ∧
    (∀ text : List Char, ∃! pieces, Pieces text pieces) ∧
    ∀ first second : Environment,
      (∀ name, IsName name → Mentions name value →
        first.valueOf (String.ofList name) = second.valueOf (String.ofList name)) →
      resolve first value = resolve second value := by
  refine ⟨fun _ _ => resolves_iff, existsUnique_pieces, fun first second agree => ?_⟩
  exact ((resolves_resolve first value).of_agree agree).eq_resolve

/-- A variable holds a placeholder and is put within what becomes a placeholder by that. The
variable of this name is never looked up, and the key stays as it is. -/
theorem resolve_single_pass_nested :
    let value : Json :=
      .obj [("$\x7bA\x7d", .arr [.str "$\x7b$\x7bA\x7d\x7d", .str "$$\x7bA\x7d", .int 7])]
    let first : Environment := [("A", "$\x7bB\x7d"), ("B", "1")]
    let second : Environment := [("A", "$\x7bB\x7d"), ("B", "2")]
    resolve first value =
      .obj [("$\x7bA\x7d", .arr [.str "$\x7b$\x7bB\x7d\x7d", .str "$$\x7bB\x7d", .int 7])] ∧
      resolve first value = resolve second value := by
  intro value first second
  obtain ⟨shaped, _, confined⟩ := resolve_single_pass value
  have isName : IsName ['A'] := ⟨by decide, List.forall_mem_singleton.mpr (by decide)⟩
  have nested : Pieces "$\x7b$\x7bA\x7d\x7d".toList
      [.char '$', .char '\x7b', .placeholder ['A'], .char '\x7d'] :=
    .char (by decide) (.char (by decide) (.placeholder isName (.char (by decide) .nil)))
  have doubled : Pieces "$$\x7bA\x7d".toList [.char '$', .placeholder ['A']] :=
    .char (by decide) (.placeholder isName .nil)
  have nestedText : String.ofList
      ([.char '$', .char '\x7b', .placeholder ['A'], .char '\x7d'].flatMap (Piece.value first)) =
        "$\x7b$\x7bB\x7d\x7d" := by decide
  have doubledText : String.ofList ([.char '$', .placeholder ['A']].flatMap (Piece.value first)) =
      "$$\x7bB\x7d" := by decide
  refine ⟨((shaped first _).mp ?_).symm, confined first second ?_⟩
  · refine .mapping rfl fun place member result there resolved => ?_
    obtain rfl : place = 0 := by
      have inside := (List.getElem?_eq_some_iff.mp there).1
      simpa using inside
    cases there
    cases resolved
    refine .list rfl fun place item result there resolved => ?_
    match place with
    | 0 =>
      cases there
      cases resolved
      exact nestedText ▸ .text nested
    | 1 =>
      cases there
      cases resolved
      exact doubledText ▸ .text doubled
    | 2 =>
      cases there
      cases resolved
      exact .leaf trivial
  · intro name _ mentions
    by_cases same : String.ofList name = "B"
    · obtain rfl : name = ['B'] := String.ofList_injective same
      change Mentions _ (Json.obj _) at mentions
      cases mentions with
      | value member within =>
        obtain ⟨rfl, rfl⟩ := Prod.mk.inj (List.mem_singleton.mp member)
        cases within with
        | item member within =>
          simp only [List.mem_cons, List.not_mem_nil, or_false] at member
          rcases member with rfl | rfl | rfl
          · cases within with
            | text spelled => exact absurd spelled (by decide)
          · cases within with
            | text spelled => exact absurd spelled (by decide)
          · cases within
    · have other : (String.ofList name == "B") = false := beq_eq_false_iff_ne.mpr same
      simp [Environment.valueOf, first, second, List.lookup_cons, other]

end DiceTable.Settings
