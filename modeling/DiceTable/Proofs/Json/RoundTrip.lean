import DiceTable.Json.Writer
import DiceTable.Proofs.Decimal.Magnitude
import DiceTable.Proofs.Json.Remainders
import Mathlib.Data.List.Induction
import Mathlib.Data.List.TakeWhile

/-! # Written values are read back

What is written of a value on one line is read back as that value, in front of whatever is no part
of a number (`Json.Plain.readsBack`): every text, whatever it holds, every integer within the limit
of digits, and lists and objects of values that are read back. Numbers with a fraction are left out.
-/

namespace DiceTable

open Text (CodePoint)

namespace LooseText

@[simp] theorem ofChars_nil : ofChars [] = [] := rfl

@[simp] theorem ofChars_cons (c : Char) (cs : List Char) :
    ofChars (c :: cs) = .char c :: ofChars cs := rfl

@[simp] theorem ofChars_append (cs more : List Char) :
    ofChars (cs ++ more) = ofChars cs ++ ofChars more :=
  List.map_append

end LooseText

namespace Json

open LooseText (ofChars)

section Strings

variable {c : Char} {rest : LooseText}

theorem hexValue?_hexDigit (n : Nat) : hexValue? (Text.hexDigit n) = some (n % 16) := by
  have digit : ∀ k < 16, hexValue? (Nat.digitChar k) = some k := by
    decide
  exact digit (n % 16) (Nat.mod_lt _ (by decide))

/-- Four hexadecimal digits stand for a character of the basic plane. -/
theorem unit?_hexDigits (basic : c.toNat < 0x10000) (rest : LooseText) :
    unit? (ofChars (Text.hexDigits 4 c.toNat) ++ rest) = some (.char c, rest) := by
  have number : ((c.toNat / 16 / 16 / 16 % 16 * 16 + c.toNat / 16 / 16 % 16) * 16 +
      c.toNat / 16 % 16) * 16 + c.toNat % 16 = c.toNat := by
    omega
  have point : CodePoint.ofNat? c.toNat = some (.char c) := by
    have valid : c.toNat.isValidChar := c.valid
    rw [CodePoint.ofNat?, if_pos valid, Char.ofNat_toNat]
  simp [Text.hexDigits, unit?, hexValue?_hexDigit, number, point]

/-- Only halves of characters are joined with what comes next. -/
theorem joinNext_char (c : Char) (rest : LooseText) :
    joinNext (.char c) rest = (.char c, rest) := by
  unfold joinNext
  split
  · rfl
  · split
    · rfl
    · rename_i joined
      cases joined

/-- A character as it is escaped is read back. -/
theorem point?_escapeChar (c : Char) (rest : LooseText) :
    point? (ofChars (escapeChar c) ++ rest) = some (.char c, rest) := by
  have named : ∀ d ∈ ['"', '\\', '\n', '\r', '\t', '\x0C', '\x08'],
      point? (ofChars (escapeChar d) ++ rest) = some (.char d, rest) := by
    simp only [List.forall_mem_cons]
    exact ⟨rfl, rfl, rfl, rfl, rfl, rfl, rfl, nofun⟩
  by_cases short : c ∈ ['"', '\\', '\n', '\r', '\t', '\x0C', '\x08']
  · exact named c short
  · simp only [List.mem_cons, List.not_mem_nil, or_false, not_or] at short
    simp only [escapeChar, beq_iff_eq, short, if_false]
    split
    · rename_i control
      have read := unit?_hexDigits (by omega : c.toNat < 0x10000) rest
      simp only [LooseText.ofChars_cons, List.cons_append, point?, if_true, escape?, read,
        Option.map_some, joinNext_char]
    · rename_i visible
      simp only [LooseText.ofChars_cons, LooseText.ofChars_nil, List.cons_append, List.nil_append,
        point?, short, visible, if_false]

/-- No escaped character looks like the end of its string. -/
theorem head?_escapeChar (c : Char) (rest : LooseText) :
    (ofChars (escapeChar c) ++ rest).head? ≠ some (.char '"') := by
  intro quote
  obtain ⟨more, same⟩ := List.head?_eq_some_iff.mp quote
  have read := point?_escapeChar c rest
  rw [same] at read
  cases read
  cases same

theorem string?_of_quote (done rest : LooseText) :
    string? done (.char '"' :: rest) = some (done.reverse, rest) := by
  rw [string?]
  exact if_pos rfl

theorem string?_of_point {done text rest : LooseText} {point : CodePoint}
    (open_ : text.head? ≠ some (.char '"')) (found : point? text = some (point, rest)) :
    string? done text = string? (point :: done) rest := by
  rw [string?, if_neg open_]
  split
  · rename_i none
    rw [none] at found
    cases found
  · rename_i other
    rw [other] at found
    cases found
    rfl

/-- The characters of a string are read back up to its closing quote. -/
theorem string?_flatMap (cs : List Char) (done rest : LooseText) :
    string? done (ofChars (cs.flatMap escapeChar) ++ .char '"' :: rest) =
      some (done.reverse ++ ofChars cs, rest) := by
  induction cs generalizing done with
  | nil =>
    rw [List.flatMap_nil, LooseText.ofChars_nil, List.nil_append, string?_of_quote,
      List.append_nil]
  | cons c cs ih =>
    rw [List.flatMap_cons, LooseText.ofChars_append, List.append_assoc,
      string?_of_point (head?_escapeChar c _) (point?_escapeChar c _), ih, List.reverse_cons,
      List.append_assoc]
    rfl

/-- A text is read back, whatever it holds. -/
theorem text?_flatMap (text : String) (rest : LooseText) :
    text? (ofChars (text.toList.flatMap escapeChar) ++ .char '"' :: rest) = some (text, rest) := by
  have points : Spelled.ofPoints? (ofChars text.toList) = some text := Spelled.ofPoints?_points text
  rw [text?, string?_flatMap]
  change (Spelled.ofPoints? (ofChars text.toList) >>= _) = _
  rw [points]
  rfl

end Strings

section Numbers

theorem integerDigits?_digits (n : Nat) :
    integerDigits? (Decimal.digits n) = some (Decimal.digits n, []) := by
  by_cases zero : n = 0
  · rw [zero]
    rfl
  · obtain ⟨c, rest, spelled, _⟩ := Decimal.exists_digits_eq_cons n
    have nonzero := Decimal.head_digits_ne (Nat.pos_of_ne_zero zero) spelled
    have digits : ∀ d ∈ c :: rest, d.isDigit := by
      rw [← spelled]
      exact fun _ member => Decimal.isDigit_of_mem_digits member
    have all := List.takeWhile_eq_self_iff.mpr digits
    have none := List.dropWhile_eq_nil_iff.mpr digits
    rw [spelled, integerDigits?, if_pos (digits c List.mem_cons_self), all, none]
    exact nonzero

variable {digitLimit : Option Nat}

/-- Digits that are not too many are read as an integer. -/
theorem number?_digits {n : Nat} (short : ¬digitLimit.any ((Decimal.digits n).length > ·))
    (negative : Bool) :
    number? digitLimit negative (Decimal.digits n) =
      some ((.int (if negative then -(n : Int) else n) : Json), []) := by
  rw [number?, integerDigits?_digits]
  simp only [fraction, exponent?, Option.bind_eq_bind, Option.bind_some, and_self, if_true,
    if_neg short, Decimal.value_digits]

/-- A text that does not go on with what numbers are written with. -/
def EndsNumber (rest : LooseText) : Prop :=
  ∀ c, rest.head? = some (.char c) → isNumeric c = false

theorem endsNumber_cons {c : Char} (other : isNumeric c = false) (rest : LooseText) :
    EndsNumber (.char c :: rest) := by
  rintro _ ⟨⟩
  exact other

/-- What numbers are written with is taken off up to where they end. -/
theorem takeWhile_isNumeric {run : List Char} (numeric : ∀ c ∈ run, isNumeric c)
    {rest : LooseText} (ends : EndsNumber rest) :
    (ofChars run ++ rest).takeWhile (CodePoint.isChar isNumeric) = ofChars run ∧
      (ofChars run ++ rest).dropWhile (CodePoint.isChar isNumeric) = rest := by
  have all : ∀ point ∈ ofChars run, point.isChar isNumeric := by
    intro point member
    obtain ⟨c, inRun, rfl⟩ := List.mem_map.mp member
    exact numeric c inRun
  rw [List.takeWhile_append_of_pos all, List.dropWhile_append_of_pos all]
  cases rest with
  | nil => simp
  | cons point tail =>
    have stops : point.isChar isNumeric = false := by
      cases point with
      | char c => exact ends c rfl
      | half offset => rfl
    simp [stops]

theorem filterMap_char?_ofChars (run : List Char) :
    (ofChars run).filterMap CodePoint.char? = run := by
  induction run with
  | nil => rfl
  | cons c run ih =>
    have here : CodePoint.char? (.char c) = some c := rfl
    rw [LooseText.ofChars_cons, List.filterMap_cons_some here, ih]

theorem isNumeric_of_mem_chars {n : Int} {c : Char} (member : c ∈ Decimal.chars n) :
    isNumeric c := by
  rcases Decimal.mem_chars member with rfl | digit
  · rfl
  · simp [isNumeric, digit]

/-- An integer is read back in front of what ends it. -/
theorem signed?_chars {n : Int} (short : ¬digitLimit.any ((Decimal.digits n.natAbs).length > ·))
    {rest : LooseText} (ends : EndsNumber rest) :
    signed? digitLimit (ofChars (Decimal.chars n) ++ rest) = some ((.int n : Json), rest) := by
  obtain ⟨taken, left⟩ := takeWhile_isNumeric (fun c => isNumeric_of_mem_chars) ends
  rw [signed?, taken, left, filterMap_char?_ofChars]
  by_cases negative : n < 0
  · have value : -(n.natAbs : Int) = n := by
      omega
    rw [Decimal.chars, if_pos negative]
    simp only [number?_digits short, if_true, value]
    rfl
  · have value : (n.natAbs : Int) = n := by
      omega
    obtain ⟨c, tail, spelled, digit⟩ := Decimal.exists_digits_eq_cons n.natAbs
    have read := number?_digits short false
    rw [Decimal.chars, if_neg negative]
    rw [spelled] at read ⊢
    split
    · rename_i minus
      cases minus
      exact absurd digit (by decide)
    · simp only [read, Bool.false_eq_true, if_false, value]
      rfl

/-- An integer starts with a digit, or with a minus sign in front of one. -/
theorem chars_cases (n : Int) :
    (∃ c tail, Decimal.chars n = c :: tail ∧ c.isDigit) ∨
      ∃ c tail, Decimal.chars n = '-' :: c :: tail ∧ c.isDigit := by
  obtain ⟨c, tail, spelled, digit⟩ := Decimal.exists_digits_eq_cons n.natAbs
  rw [Decimal.chars, spelled]
  split
  · exact .inr ⟨c, tail, rfl, digit⟩
  · exact .inl ⟨c, tail, rfl, digit⟩

/-- A digit is none of characters that are no digits. -/
theorem ne_of_isDigit {c : Char} (digit : c.isDigit) {others : List Char}
    (noDigits : others.all fun d => !d.isDigit) : ∀ d ∈ others, d ≠ c := by
  rintro d member rfl
  have noDigit := List.all_eq_true.mp noDigits d member
  rw [digit] at noDigit
  cases noDigit

/-- No name starts like an integer. -/
theorem named?_chars (n : Int) (rest : LooseText) :
    (named? (ofChars (Decimal.chars n) ++ rest) : Option (Json × LooseText)) = none := by
  rcases chars_cases n with ⟨c, tail, spelled, digit⟩ | ⟨c, tail, spelled, digit⟩
  · have other : ∀ d ∈ ['n', 't', 'f', 'N', 'I', '-'], d ≠ c := ne_of_isDigit digit (by decide)
    simp only [List.forall_mem_cons] at other
    simp [spelled, named?, names, LooseText.ofString, other]
  · have other : ∀ d ∈ ['n', 't', 'f', 'N', 'I', '-'], d ≠ c := ne_of_isDigit digit (by decide)
    simp only [List.forall_mem_cons] at other
    simp [spelled, named?, names, LooseText.ofString, other]

end Numbers

section Values

variable {digitLimit : Option Nat} {inner : ValueReader String} {rest : LooseText}

theorem skipSpace_cons {c : Char} (visible : isSpace c = false) (rest : LooseText) :
    skipSpace (.char c :: rest) = .char c :: rest :=
  List.dropWhile_cons_of_neg (by simp [CodePoint.isChar, visible])

theorem skipSpace_blank (rest : LooseText) : skipSpace (.char ' ' :: rest) = skipSpace rest := rfl

/-- The reader reads a value back in front of what ends a number. -/
def ReadsBack (reader : ValueReader String) (value : Json) : Prop :=
  ∀ rest, EndsNumber rest → reader (ofChars value.lineChars ++ rest) = some (value, rest)

/-- What is written of a value starts with no space and with no end of a list. -/
def Opens (text : List Char) : Prop :=
  ∃ c tail, text = c :: tail ∧ isSpace c = false ∧ c ≠ ']'

theorem Opens.skipSpace_eq {text : List Char} (opens : Opens text) (rest : LooseText) :
    skipSpace (ofChars text ++ rest) = ofChars text ++ rest := by
  obtain ⟨c, tail, rfl, visible, _⟩ := opens
  exact skipSpace_cons visible _

section Items

variable {text : LooseText} {fuel : Nat} {done : List Json} {value : Json}

/-- A closing bracket behind an item ends its list. -/
theorem items?_of_last (read : inner (skipSpace text) = some (value, .char ']' :: rest)) :
    items? inner (fuel + 1) done text = some ((value :: done).reverse, rest) := by
  rw [items?, read]
  rfl

/-- Behind a comma comes the next item. -/
theorem items?_of_next (read : inner (skipSpace text) = some (value, .char ',' :: rest)) :
    items? inner (fuel + 1) done text = items? inner fuel (value :: done) rest := by
  rw [items?, read]
  rfl

theorem items?_blank :
    items? inner fuel done (.char ' ' :: text) = items? inner fuel done text := by
  cases fuel with
  | zero => rfl
  | succ fuel => rw [items?, items?, skipSpace_blank]

end Items

/-- The items of a list are read back up to its closing bracket. -/
theorem items?_itemsLine {items : List Json} (nonempty : items ≠ [])
    (reads : ∀ item ∈ items, ReadsBack inner item) (opens : ∀ item ∈ items, Opens item.lineChars)
    {fuel : Nat} (enough : items.length ≤ fuel) (done : List Json) (rest : LooseText) :
    items? inner fuel done (ofChars (itemsLine items) ++ .char ']' :: rest) =
      some (done.reverse ++ items, rest) := by
  induction items generalizing fuel done with
  | nil => exact (nonempty rfl).elim
  | cons item items ih =>
    obtain ⟨readsHere, readsLater⟩ := List.forall_mem_cons.mp reads
    obtain ⟨opensHere, opensLater⟩ := List.forall_mem_cons.mp opens
    obtain ⟨fuel, rfl⟩ : ∃ more, fuel = more + 1 := by
      rw [List.length_cons] at enough
      exact Nat.exists_eq_add_of_le' (Nat.le_of_add_left_le enough)
    cases items with
    | nil =>
      have read := readsHere (.char ']' :: rest) (endsNumber_cons rfl _)
      rw [itemsLine, items?_of_last (by rw [opensHere.skipSpace_eq, read]), List.reverse_cons]
    | cons next more =>
      have read := readsHere (.char ',' :: .char ' ' ::
        (ofChars (itemsLine (next :: more)) ++ .char ']' :: rest)) (endsNumber_cons rfl _)
      have later := ih (List.cons_ne_nil _ _) readsLater opensLater
        (Nat.le_of_succ_le_succ enough) (item :: done)
      rw [itemsLine, LooseText.ofChars_append, List.append_assoc]
      simp only [LooseText.ofChars_cons, List.cons_append]
      rw [items?_of_next (by rw [opensHere.skipSpace_eq, read]), items?_blank, later,
        List.reverse_cons, List.append_assoc]
      rfl

section Members

variable {key : String} {value : Json} {fuel : Nat} {done members : Members}

/-- Members with different keys stay as they are. -/
theorem ofList_of_nodup (distinct : (members.map Prod.fst).Nodup) :
    Members.ofList members = members := by
  induction members using List.reverseRecOn with
  | nil => rfl
  | append_singleton members member ih =>
    rw [List.map_append, List.nodup_append] at distinct
    obtain ⟨front, _, apart⟩ := distinct
    have fresh : member.1 ∉ members.map Prod.fst := fun inFront =>
      apart _ inFront _ (List.mem_singleton.mpr rfl) rfl
    have folded : Members.ofList (members ++ [member]) =
        Members.put member.1 member.2 (Members.ofList members) := by
      rw [Members.ofList, List.foldl_append]
      rfl
    rw [folded, ih front, Members.put_of_not_mem fresh]

def memberChars (key : String) (value : Json) : List Char :=
  stringChars key ++ ':' :: ' ' :: value.lineChars

theorem ofChars_memberChars (key : String) (value : Json) (rest : LooseText) :
    ofChars (memberChars key value) ++ rest =
      .char '"' :: (ofChars (key.toList.flatMap escapeChar) ++
        .char '"' :: .char ':' :: .char ' ' :: (ofChars value.lineChars ++ rest)) := by
  simp [memberChars, stringChars]

/-- A closing brace behind a member ends its object. -/
theorem members?_of_last (reads : ReadsBack inner value) (opens : Opens value.lineChars)
    (rest : LooseText) :
    members? inner (fuel + 1) done (ofChars (memberChars key value) ++ .char '\x7d' :: rest) =
      some (Members.ofList ((key, value) :: done).reverse, rest) := by
  have read := reads (.char '\x7d' :: rest) (endsNumber_cons rfl _)
  have colon (text : LooseText) : skipSpace (.char ':' :: text) = .char ':' :: text := rfl
  rw [ofChars_memberChars, members?, skipSpace_cons rfl]
  simp only [text?_flatMap, Option.bind_eq_bind, Option.bind_some, colon, skipSpace_blank,
    opens.skipSpace_eq, read]
  rfl

/-- Behind a comma comes the next member. -/
theorem members?_of_next (reads : ReadsBack inner value) (opens : Opens value.lineChars)
    (rest : LooseText) :
    members? inner (fuel + 1) done (ofChars (memberChars key value) ++ .char ',' :: rest) =
      members? inner fuel ((key, value) :: done) rest := by
  have read := reads (.char ',' :: rest) (endsNumber_cons rfl _)
  have colon (text : LooseText) : skipSpace (.char ':' :: text) = .char ':' :: text := rfl
  rw [ofChars_memberChars, members?, skipSpace_cons rfl]
  simp only [text?_flatMap, Option.bind_eq_bind, Option.bind_some, colon, skipSpace_blank,
    opens.skipSpace_eq, read]
  rfl

theorem members?_blank {text : LooseText} :
    members? inner fuel done (.char ' ' :: text) = members? inner fuel done text := by
  cases fuel with
  | zero => rfl
  | succ fuel => rw [members?, members?, skipSpace_blank]

/-- The members of an object are read back up to its closing brace. -/
theorem members?_membersLine (nonempty : members ≠ [])
    (reads : ∀ member ∈ members, ReadsBack inner member.2)
    (opens : ∀ member ∈ members, Opens member.2.lineChars) (enough : members.length ≤ fuel)
    (done : Members) (rest : LooseText) :
    members? inner fuel done (ofChars (membersLine members) ++ .char '\x7d' :: rest) =
      some (Members.ofList (done.reverse ++ members), rest) := by
  induction members generalizing fuel done with
  | nil => exact (nonempty rfl).elim
  | cons member members ih =>
    obtain ⟨key, value⟩ := member
    obtain ⟨readsHere, readsLater⟩ := List.forall_mem_cons.mp reads
    obtain ⟨opensHere, opensLater⟩ := List.forall_mem_cons.mp opens
    obtain ⟨fuel, rfl⟩ : ∃ more, fuel = more + 1 :=
      Nat.exists_eq_add_of_le' (Nat.le_trans (Nat.le_add_left _ _) enough)
    cases members with
    | nil =>
      change members? inner _ done (ofChars (memberChars key value) ++ _) = _
      rw [members?_of_last readsHere opensHere, List.reverse_cons]
    | cons next more =>
      have later := ih (List.cons_ne_nil _ _) readsLater opensLater
        (Nat.le_of_succ_le_succ enough) ((key, value) :: done)
      have written : ofChars (membersLine ((key, value) :: next :: more)) ++ .char '\x7d' :: rest =
          ofChars (memberChars key value) ++ .char ',' :: .char ' ' ::
            (ofChars (membersLine (next :: more)) ++ .char '\x7d' :: rest) := by
        simp [membersLine, memberChars]
      rw [written, members?_of_next readsHere opensHere, members?_blank, later,
        List.reverse_cons, List.append_assoc]
      rfl

end Members

/-- Values without fractions, nested at most `depth` levels deep, whose integers are not too long
and whose objects have each key once. -/
inductive Plain (digitLimit : Option Nat) : (depth : Nat) → Json → Prop
  | null {depth : Nat} : Plain digitLimit depth .null
  | bool {depth : Nat} (value : Bool) : Plain digitLimit depth (.bool value)
  | int {depth : Nat} {value : Int}
      (short : ¬digitLimit.any ((Decimal.digits value.natAbs).length > ·)) :
      Plain digitLimit depth (.int value)
  | str {depth : Nat} (text : String) : Plain digitLimit depth (.str text)
  | arr {depth : Nat} {items : List Json} (each : ∀ item ∈ items, Plain digitLimit depth item) :
      Plain digitLimit (depth + 1) (.arr items)
  | obj {depth : Nat} {members : Members} (distinct : (members.map Prod.fst).Nodup)
      (each : ∀ member ∈ members, Plain digitLimit depth member.2) :
      Plain digitLimit (depth + 1) (.obj members)

theorem Plain.opens {depth : Nat} {value : Json} (plain : Plain digitLimit depth value) :
    Opens value.lineChars := by
  cases plain with
  | null => exact ⟨'n', _, rfl, rfl, by decide⟩
  | bool value =>
    cases value with
    | true => exact ⟨'t', _, rfl, rfl, by decide⟩
    | false => exact ⟨'f', _, rfl, rfl, by decide⟩
  | @int depth value short =>
    rw [lineChars]
    rcases chars_cases value with ⟨c, tail, spelled, digit⟩ | ⟨c, tail, spelled, digit⟩
    · have others : ∀ d ∈ [' ', '\t', '\n', '\r', ']'], c ≠ d := fun d listed =>
        (ne_of_isDigit digit (by decide) d listed).symm
      simp only [List.forall_mem_cons] at others
      exact ⟨c, tail, spelled, by simp [isSpace, others], others.2.2.2.2.1⟩
    · exact ⟨'-', _, spelled, rfl, by decide⟩
  | str text => exact ⟨'"', _, rfl, rfl, by decide⟩
  | arr each =>
    rw [lineChars]
    exact ⟨'[', _, rfl, rfl, by decide⟩
  | obj distinct each =>
    rw [lineChars]
    exact ⟨'\x7b', _, rfl, rfl, by decide⟩

/-- There are at least as many characters as items. -/
theorem length_le_length_itemsLine {items : List Json}
    (opens : ∀ item ∈ items, Opens item.lineChars) : items.length ≤ (itemsLine items).length := by
  induction items with
  | nil => exact Nat.zero_le _
  | cons item items ih =>
    obtain ⟨⟨c, tail, spelled, _⟩, later⟩ := List.forall_mem_cons.mp opens
    have rest := ih later
    cases items with
    | nil => simp [itemsLine, spelled]
    | cons next more =>
      simp only [itemsLine, spelled, List.length_cons, List.length_append] at rest ⊢
      omega

theorem length_le_length_membersLine (members : Members) :
    members.length ≤ (membersLine members).length := by
  induction members with
  | nil => exact Nat.zero_le _
  | cons member members ih =>
    obtain ⟨key, value⟩ := member
    cases members with
    | nil => simp [membersLine, stringChars]
    | cons next more =>
      simp only [membersLine, stringChars, List.length_cons, List.length_append] at ih ⊢
      omega

theorem opens_itemsLine {item : Json} (opens : Opens item.lineChars) (items : List Json) :
    Opens (itemsLine (item :: items)) := by
  obtain ⟨c, tail, spelled, visible, other⟩ := opens
  cases items with
  | nil => exact ⟨c, tail, by rw [itemsLine, spelled], visible, other⟩
  | cons next more => exact ⟨c, _, by rw [itemsLine, spelled]; rfl, visible, other⟩

/-- What opens a value behind an opening bracket is the first item of a list. -/
theorem valueWith_bracket {text : List Char} (opens : Opens text) (rest : LooseText) :
    valueWith digitLimit inner (.char '[' :: (ofChars text ++ rest)) =
      (items? inner (ofChars text ++ rest).length [] (ofChars text ++ rest)).map
        fun (items, rest) => (.arr items, rest) := by
  rw [valueWith, opens.skipSpace_eq]
  obtain ⟨c, tail, rfl, _, other⟩ := opens
  split
  · rename_i bracket
    cases bracket
    exact (other rfl).elim
  · rfl

theorem readsBack_arr {items : List Json} (reads : ∀ item ∈ items, ReadsBack inner item)
    (opens : ∀ item ∈ items, Opens item.lineChars) :
    ReadsBack (valueWith digitLimit inner) (.arr items) := by
  intro rest ends
  cases items with
  | nil => rfl
  | cons item more =>
    have enough := length_le_length_itemsLine opens
    have written : ofChars (lineChars (.arr (item :: more))) ++ rest =
        .char '[' :: (ofChars (itemsLine (item :: more)) ++ .char ']' :: rest) := by
      simp [lineChars]
    rw [written, valueWith_bracket (opens_itemsLine (opens item List.mem_cons_self) more),
      items?_itemsLine (List.cons_ne_nil _ _) reads opens _ []]
    · rfl
    · simp only [List.length_append, LooseText.ofChars, List.length_map]
      omega

theorem readsBack_obj {members : Members} (distinct : (members.map Prod.fst).Nodup)
    (reads : ∀ member ∈ members, ReadsBack inner member.2)
    (opens : ∀ member ∈ members, Opens member.2.lineChars) :
    ReadsBack (valueWith digitLimit inner) (.obj members) := by
  intro rest ends
  cases members with
  | nil => rfl
  | cons member more =>
    have enough := length_le_length_membersLine (member :: more)
    have written : ofChars (lineChars (.obj (member :: more))) ++ rest =
        .char '\x7b' :: (ofChars (membersLine (member :: more)) ++ .char '\x7d' :: rest) := by
      simp [lineChars]
    obtain ⟨text, quoted⟩ : ∃ text, membersLine (member :: more) = '"' :: text := by
      cases more with
      | nil => exact ⟨_, rfl⟩
      | cons next more => exact ⟨_, rfl⟩
    have brace (text : LooseText) :
        valueWith digitLimit inner (.char '\x7b' :: .char '"' :: text) =
          (members? inner (text.length + 1) [] (.char '"' :: text)).map
            fun (members, rest) => (.obj members, rest) := rfl
    have fits : (member :: more).length ≤
        (ofChars text ++ .char '\x7d' :: rest).length + 1 := by
      simp only [quoted, List.length_cons] at enough
      simp only [List.length_cons, List.length_append, LooseText.ofChars, List.length_map]
      omega
    have read := members?_membersLine (List.cons_ne_nil _ _) reads opens fits [] rest
    rw [quoted, LooseText.ofChars_cons, List.cons_append] at written read
    rw [written, brace, read, List.reverse_nil, List.nil_append, ofList_of_nodup distinct]
    rfl

/-- What starts like a number is no text, list or object. -/
theorem valueWith_of_isNumeric {c : Char} (numeric : isNumeric c) (rest : LooseText) :
    valueWith digitLimit inner (.char c :: rest) =
      (named? (.char c :: rest)).or (signed? digitLimit (.char c :: rest)) := by
  have others : c ≠ '"' ∧ c ≠ '[' ∧ c ≠ '\x7b' := by
    refine ⟨?_, ?_, ?_⟩ <;> (rintro rfl; exact absurd numeric (by decide))
  rw [valueWith]
  · rintro _ ⟨⟩
    exact others.1 rfl
  · rintro _ ⟨⟩
    exact others.2.1 rfl
  · rintro _ ⟨⟩
    exact others.2.2 rfl

theorem readsBack_int {n : Int} (short : ¬digitLimit.any ((Decimal.digits n.natAbs).length > ·)) :
    ReadsBack (valueWith digitLimit inner) (.int n) := by
  intro rest ends
  obtain ⟨c, tail, spelled⟩ : ∃ c tail, Decimal.chars n = c :: tail := by
    rcases chars_cases n with ⟨c, tail, spelled, _⟩ | ⟨c, tail, spelled, _⟩
    · exact ⟨c, tail, spelled⟩
    · exact ⟨'-', c :: tail, spelled⟩
  have numeric : isNumeric c :=
    isNumeric_of_mem_chars (n := n) (by rw [spelled]; exact List.mem_cons_self)
  have read : (named? (ofChars (Decimal.chars n) ++ rest)).or
      (signed? digitLimit (ofChars (Decimal.chars n) ++ rest)) = some ((.int n : Json), rest) := by
    rw [named?_chars, signed?_chars short ends]
    rfl
  rw [lineChars]
  rw [spelled] at read ⊢
  exact (valueWith_of_isNumeric numeric _).trans read

/-- A plain value is read back from its line. -/
theorem Plain.readsBack {depth : Nat} {value : Json} (plain : Plain digitLimit depth value) :
    ReadsBack (value? digitLimit depth) value := by
  induction plain with
  | @null depth =>
    rw [value?_eq_valueWith]
    exact fun rest _ => rfl
  | @bool depth value =>
    rw [value?_eq_valueWith]
    cases value <;> exact fun rest _ => rfl
  | @int depth value short =>
    rw [value?_eq_valueWith]
    exact readsBack_int short
  | @str depth text =>
    rw [value?_eq_valueWith]
    intro rest _
    have written : ofChars (lineChars (.str text)) ++ rest =
        .char '"' :: (ofChars (text.toList.flatMap escapeChar) ++ .char '"' :: rest) := by
      simp [lineChars, stringChars]
    rw [written, valueWith, text?_flatMap]
    rfl
  | arr each ih => exact readsBack_arr ih fun item member => (each item member).opens
  | obj distinct each ih =>
    exact readsBack_obj distinct ih fun member inMembers => (each member inMembers).opens

/-- A plain value is what its line stands for, with spaces behind it or without. -/
theorem Plain.read?_lineChars {depth : Nat} {value : Json} (plain : Plain digitLimit depth value)
    {margin : LooseText} (ends : EndsNumber margin) (blank : skipSpace margin = []) :
    read? digitLimit depth (ofChars value.lineChars ++ margin) = some value := by
  rw [read?, plain.opens.skipSpace_eq, plain.readsBack margin ends]
  exact if_pos blank

end Values

end Json

end DiceTable
