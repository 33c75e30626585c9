import DiceTable.Decimal.Digits
import DiceTable.Json.Basic

/-! # Reading JSON

`Json.read?` takes a whole text. Of equal keys the last value counts, in the place of the first.
The names `NaN`, `Infinity` and `-Infinity` are numbers; a control character within a string and a
comma at the end of a list are refused. A half of a surrogate pair may stand in a string, and two
escaped ones that belong together make a character; whether the string is a text is up to the type
of texts. How long an integer may be and how deep values may nest is up to the caller.
-/

namespace DiceTable.Json

open Text (CodePoint)

def isSpace (c : Char) : Bool :=
  c == ' ' || c == '\t' || c == '\n' || c == '\r'

def skipSpace (text : LooseText) : LooseText :=
  text.dropWhile (CodePoint.isChar isSpace)

def hexValue? (c : Char) : Option Nat :=
  if c.isDigit then some (c.toNat - 0x30)
  else if 'a' ≤ c ∧ c ≤ 'f' then some (c.toNat - 0x57)
  else if 'A' ≤ c ∧ c ≤ 'F' then some (c.toNat - 0x37)
  else none

/-- The code point of four hexadecimal digits at the front of a text. -/
def unit? : LooseText → Option (CodePoint × LooseText)
  | .char a :: .char b :: .char c :: .char d :: rest => do
    let a ← hexValue? a
    let b ← hexValue? b
    let c ← hexValue? c
    let d ← hexValue? d
    let point ← CodePoint.ofNat? (((a * 16 + b) * 16 + c) * 16 + d)
    some (point, rest)
  | _ => none

/-- A code point that is escaped at the front of a text. -/
def escapedUnit? : LooseText → Option (CodePoint × LooseText)
  | .char '\\' :: .char 'u' :: rest => unit? rest
  | _ => none

/-- Joins an escaped code point with the one after it, if they are the halves of a character. -/
def joinNext (point : CodePoint) (rest : LooseText) : CodePoint × LooseText :=
  match escapedUnit? rest with
  | none => (point, rest)
  | some (next, after) =>
    match CodePoint.joined? point next with
    | none => (point, rest)
    | some c => (.char c, after)

/-- The character that a backslash and one further character stand for. -/
def escaped? : Char → Option Char
  | '"' => some '"'
  | '\\' => some '\\'
  | '/' => some '/'
  | 'b' => some '\x08'
  | 'f' => some '\x0C'
  | 'n' => some '\n'
  | 'r' => some '\r'
  | 't' => some '\t'
  | _ => none

def escape? : LooseText → Option (CodePoint × LooseText)
  | .char 'u' :: rest => (unit? rest).map fun (point, rest) => joinNext point rest
  | .char c :: rest => (escaped? c).map fun c => (.char c, rest)
  | _ => none

/-- The code point at the front of what is left of a string. -/
def point? : LooseText → Option (CodePoint × LooseText)
  | [] => none
  | .char c :: rest =>
    if c = '\\' then escape? rest
    else if c.toNat < 0x20 then none
    else some (.char c, rest)
  | .half offset :: rest => some (.half offset, rest)

theorem unit?_length_lt {text rest : LooseText} {point : CodePoint}
    (found : unit? text = some (point, rest)) : rest.length < text.length := by
  unfold unit? at found
  split at found
  · simp only [Option.bind_eq_bind, Option.bind_eq_some_iff, Option.some.injEq,
      Prod.mk.injEq] at found
    obtain ⟨_, _, _, _, _, _, _, _, _, _, _, rfl⟩ := found
    simp only [List.length_cons]
    omega
  · simp at found

theorem joinNext_length_le (point : CodePoint) (rest : LooseText) :
    (joinNext point rest).2.length ≤ rest.length := by
  unfold joinNext
  split
  · exact Nat.le_refl _
  · rename_i next after found
    have shorter : after.length < rest.length := by
      unfold escapedUnit? at found
      split at found
      · have := unit?_length_lt found
        simp only [List.length_cons]
        omega
      · simp at found
    split
    · exact Nat.le_refl _
    · exact Nat.le_of_lt shorter

theorem escape?_length_lt {text rest : LooseText} {point : CodePoint}
    (found : escape? text = some (point, rest)) : rest.length < text.length := by
  unfold escape? at found
  split at found
  · simp only [Option.map_eq_some_iff] at found
    obtain ⟨⟨first, after⟩, read, joined⟩ := found
    have shorter := unit?_length_lt read
    have kept := joinNext_length_le first after
    simp only [joined] at kept
    simp only [List.length_cons]
    omega
  · simp only [Option.map_eq_some_iff, Prod.mk.injEq] at found
    obtain ⟨_, _, _, rfl⟩ := found
    simp
  · simp at found

theorem point?_length_lt {text rest : LooseText} {point : CodePoint}
    (found : point? text = some (point, rest)) : rest.length < text.length := by
  unfold point? at found
  split at found
  · simp at found
  · split at found
    · have := escape?_length_lt found
      simp only [List.length_cons]
      omega
    · split at found
      · simp at found
      · simp only [Option.some.injEq, Prod.mk.injEq] at found
        simp [found.2]
  · simp only [Option.some.injEq, Prod.mk.injEq] at found
    simp [found.2]

/-- The rest of a string, after its opening quote; `done` holds the code points read so far, the
latest first. -/
def string? (done text : LooseText) : Option (LooseText × LooseText) :=
  if text.head? = some (.char '"') then some (done.reverse, text.drop 1)
  else
    match _found : point? text with
    | none => none
    | some (point, rest) => string? (point :: done) rest
termination_by text.length
decreasing_by exact point?_length_lt _found

/-- The fraction digits at the front of a text, if a point and a digit are there. -/
def fraction : List Char → List Char × List Char
  | '.' :: c :: rest =>
    if c.isDigit then ((c :: rest).takeWhile Char.isDigit, (c :: rest).dropWhile Char.isDigit)
    else ([], '.' :: c :: rest)
  | rest => ([], rest)

/-- An exponent after its letter: a sign or none, and at least one digit. -/
def exponentAfterLetter? (cs : List Char) : Option (Int × List Char) :=
  let (negative, body) := match cs with
    | '-' :: rest => (true, rest)
    | '+' :: rest => (false, rest)
    | _ => (false, cs)
  let run := body.takeWhile Char.isDigit
  if run = [] then none
  else
    let magnitude := Decimal.value run
    some (if negative then -(magnitude : Int) else magnitude, body.dropWhile Char.isDigit)

/-- The exponent at the front of a text, if one is there. -/
def exponent? : List Char → Option (Int × List Char)
  | c :: rest => if c == 'e' || c == 'E' then exponentAfterLetter? rest else none
  | [] => none

/-- The integer digits at the front of a text: a zero, or digits that start with another one. -/
def integerDigits? : List Char → Option (List Char × List Char)
  | '0' :: rest => some (['0'], rest)
  | c :: rest =>
    if c.isDigit then
      some ((c :: rest).takeWhile Char.isDigit, (c :: rest).dropWhile Char.isDigit)
    else none
  | [] => none

/-- A number after its sign. An integer of more than `digitLimit` digits is refused. -/
def number? {τ : Type} (digitLimit : Option Nat) (negative : Bool) (cs : List Char) :
    Option (Json τ × List Char) := do
  let (whole, rest) ← integerDigits? cs
  let (decimals, rest) := fraction rest
  let (exponent, rest) := match exponent? rest with
    | some (exponent, rest) => (some exponent, rest)
    | none => (none, rest)
  if decimals = [] ∧ exponent = none then
    if digitLimit.any (whole.length > ·) then none
    else
      let magnitude := Decimal.value whole
      some (.int (if negative then -(magnitude : Int) else magnitude), rest)
  else
    let run := whole ++ decimals
    some (.float (Decimal.Binary64.ofDecimal negative (Decimal.value run) run.length
      (exponent.getD 0 - decimals.length)), rest)

def isNumeric (c : Char) : Bool :=
  c.isDigit || c == '-' || c == '+' || c == '.' || c == 'e' || c == 'E'

/-- A number with its sign, or without one, at the front of a text. -/
def signed? {τ : Type} (digitLimit : Option Nat) (text : LooseText) :
    Option (Json τ × LooseText) := do
  let run := (text.takeWhile (CodePoint.isChar isNumeric)).filterMap CodePoint.char?
  let (value, rest) ← match run with
    | '-' :: cs => number? digitLimit true cs
    | cs => number? digitLimit false cs
  some (value, .ofChars rest ++ text.dropWhile (CodePoint.isChar isNumeric))

def names {τ : Type} : List (String × Json τ) :=
  [("null", .null), ("true", .bool true), ("false", .bool false), ("NaN", .float .nan),
    ("Infinity", .float (.infinity false)), ("-Infinity", .float (.infinity true))]

def named? {τ : Type} (text : LooseText) : Option (Json τ × LooseText) :=
  names.findSome? fun (name, value) =>
    if (LooseText.ofString name).isPrefixOf text then some (value, text.drop name.length) else none

abbrev ValueReader (τ : Type) := LooseText → Option (Json τ × LooseText)

section Values

variable {τ : Type} [Spelled τ]

/-- A text, after its opening quote. -/
def text? (text : LooseText) : Option (τ × LooseText) := do
  let (points, rest) ← string? [] text
  let read ← Spelled.ofPoints? points
  some (read, rest)

/-- The rest of a list that has an item next, where `done` holds the items so far, the latest
first, and there are at most `fuel` more. -/
def items? (item : ValueReader τ) :
    (fuel : Nat) → (done : List (Json τ)) → LooseText → Option (List (Json τ) × LooseText)
  | 0, _, _ => none
  | fuel + 1, done, text => do
    let (value, rest) ← item (skipSpace text)
    match skipSpace rest with
    | .char ',' :: rest => items? item fuel (value :: done) rest
    | .char ']' :: rest => some ((value :: done).reverse, rest)
    | _ => none

/-- The rest of an object that has a member next. -/
def members? [DecidableEq τ] (item : ValueReader τ) :
    (fuel : Nat) → (done : List (τ × Json τ)) → LooseText → Option (Members τ × LooseText)
  | 0, _, _ => none
  | fuel + 1, done, text =>
    match skipSpace text with
    | .char '"' :: rest => do
      let (key, rest) ← text? rest
      match skipSpace rest with
      | .char ':' :: rest => do
        let (value, rest) ← item (skipSpace rest)
        match skipSpace rest with
        | .char ',' :: rest => members? item fuel ((key, value) :: done) rest
        | .char '\x7d' :: rest => some (Members.ofList ((key, value) :: done).reverse, rest)
        | _ => none
      | _ => none
    | _ => none

/-- A value, given a reader for the values within it. -/
def valueWith [DecidableEq τ] (digitLimit : Option Nat) (inner : ValueReader τ) : ValueReader τ
  | .char '"' :: rest => (text? rest).map fun (text, rest) => (.str text, rest)
  | .char '[' :: rest =>
    match skipSpace rest with
    | .char ']' :: rest => some (.arr [], rest)
    | rest => (items? inner rest.length [] rest).map fun (items, rest) => (.arr items, rest)
  | .char '\x7b' :: rest =>
    match skipSpace rest with
    | .char '\x7d' :: rest => some (.obj [], rest)
    | rest =>
      (members? inner rest.length [] rest).map fun (members, rest) => (.obj members, rest)
  | text => (named? text).or (signed? digitLimit text)

/-- The value at the front of a text, with values nested at most `depth` levels deep. -/
def value? [DecidableEq τ] (digitLimit : Option Nat) : (depth : Nat) → ValueReader τ
  | 0 => valueWith digitLimit fun _ => none
  | depth + 1 => valueWith digitLimit (value? digitLimit depth)

def read? [DecidableEq τ] (digitLimit : Option Nat) (depth : Nat) (text : LooseText) :
    Option (Json τ) := do
  let (value, rest) ← value? digitLimit depth (skipSpace text)
  if skipSpace rest = [] then some value else none

end Values

end DiceTable.Json
