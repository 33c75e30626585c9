import DiceTable.Text.CodePoint

/-! # Encodings of Unicode

Bytes are decoded strictly, where anything malformed refuses the whole, or leniently, where each
malformed piece of UTF-8 is replaced by U+FFFD. Strict decoding lets halves of surrogate pairs
pass. `decodeDetected` tells UTF-8, UTF-16 and UTF-32 apart by the byte-order mark, or else by the
zero bytes around the first characters.
-/

namespace DiceTable.Text

/-- A first byte of UTF-8 beyond ASCII: how many bytes follow, the bits it contributes, and the
range of the byte after it, which leaves no room for halves unless they may pass. -/
def leadByte? (halves : Bool) (byte : Nat) : Option (Nat × Nat × Nat × Nat) :=
  if byte < 0xC2 then none
  else if byte < 0xE0 then some (1, byte - 0xC0, 0x80, 0xBF)
  else if byte = 0xE0 then some (2, 0, 0xA0, 0xBF)
  else if byte = 0xED ∧ !halves then some (2, 0xD, 0x80, 0x9F)
  else if byte < 0xF0 then some (2, byte - 0xE0, 0x80, 0xBF)
  else if byte = 0xF0 then some (3, 0, 0x90, 0xBF)
  else if byte < 0xF4 then some (3, byte - 0xF0, 0x80, 0xBF)
  else if byte = 0xF4 then some (3, 4, 0x80, 0x8F)
  else none

/-- Takes the given number of following bytes, the first of them from a range of its own. Without
them there is no code point, and what fitted is gone all the same. -/
def takeTail : (count bits low high : Nat) → List UInt8 → Option CodePoint × List UInt8
  | 0, bits, _, _, rest => (CodePoint.ofNat? bits, rest)
  | _ + 1, _, _, _, [] => (none, [])
  | count + 1, bits, low, high, byte :: rest =>
    if low ≤ byte.toNat ∧ byte.toNat ≤ high then
      takeTail count (bits * 64 + byte.toNat % 64) 0x80 0xBF rest
    else (none, byte :: rest)

theorem takeTail_length_le (count bits low high : Nat) (bytes : List UInt8) :
    (takeTail count bits low high bytes).2.length ≤ bytes.length := by
  induction count generalizing bits low high bytes with
  | zero => simp [takeTail]
  | succ count ih =>
    cases bytes with
    | nil => simp [takeTail]
    | cons byte rest =>
      simp only [takeTail]
      split
      · exact Nat.le_succ_of_le (ih ..)
      · exact Nat.le_refl _

/-- The code point at the front of UTF-8, if it is well formed, and what follows. -/
def takeUtf8 (halves : Bool) (byte : UInt8) (rest : List UInt8) :
    Option CodePoint × List UInt8 :=
  if byte.toNat < 0x80 then (CodePoint.ofNat? byte.toNat, rest)
  else
    match leadByte? halves byte.toNat with
    | none => (none, rest)
    | some (count, bits, low, high) => takeTail count bits low high rest

theorem takeUtf8_length_le (halves : Bool) (byte : UInt8) (rest : List UInt8) :
    (takeUtf8 halves byte rest).2.length ≤ rest.length := by
  unfold takeUtf8
  split
  · exact Nat.le_refl _
  · split
    · exact Nat.le_refl _
    · exact takeTail_length_le ..

/-- The code points of UTF-8, with nothing for each malformed piece. -/
def utf8Pieces (halves : Bool) : List UInt8 → List (Option CodePoint)
  | [] => []
  | byte :: rest =>
    (takeUtf8 halves byte rest).1 :: utf8Pieces halves (takeUtf8 halves byte rest).2
termination_by bytes => bytes.length
decreasing_by exact Nat.lt_succ_of_le (takeUtf8_length_le halves byte rest)

/-- UTF-8 with each malformed piece replaced. -/
def decodeUtf8Leniently (bytes : List UInt8) : List Char :=
  (utf8Pieces false bytes).map fun point => (point.bind CodePoint.char?).getD '\uFFFD'

def decodeUtf8 (bytes : List UInt8) : Option LooseText :=
  (utf8Pieces true bytes).mapM id

/-- Numbers of two bytes. -/
def pairUnits (bigEndian : Bool) : List UInt8 → Option (List Nat)
  | [] => some []
  | [_] => none
  | a :: b :: rest =>
    let unit := if bigEndian then a.toNat * 256 + b.toNat else b.toNat * 256 + a.toNat
    (pairUnits bigEndian rest).map (unit :: ·)

/-- Joins each first half and the second half right after it. -/
def joinHalves : LooseText → LooseText
  | [] => []
  | [point] => [point]
  | point :: next :: rest =>
    match CodePoint.joined? point next with
    | some c => .char c :: joinHalves rest
    | none => point :: joinHalves (next :: rest)

def decodeUtf16 (bigEndian : Bool) (bytes : List UInt8) : Option LooseText := do
  let units ← pairUnits bigEndian bytes
  let points ← units.mapM CodePoint.ofNat?
  some (joinHalves points)

def decodeUtf32 (bigEndian : Bool) : List UInt8 → Option LooseText
  | [] => some []
  | a :: b :: c :: d :: rest => do
    let number (w x y z : UInt8) : Nat :=
      ((w.toNat * 256 + x.toNat) * 256 + y.toNat) * 256 + z.toNat
    let point ← CodePoint.ofNat? (if bigEndian then number a b c d else number d c b a)
    let points ← decodeUtf32 bigEndian rest
    some (point :: points)
  | _ => none

/-- Bytes without a mark, by where their zeros are. -/
def decodeUnmarked (bytes : List UInt8) : Option LooseText :=
  match bytes with
  | a :: b :: c :: d :: _ =>
    if a = 0 then if b = 0 then decodeUtf32 true bytes else decodeUtf16 true bytes
    else if b = 0 then
      if c = 0 ∧ d = 0 then decodeUtf32 false bytes else decodeUtf16 false bytes
    else decodeUtf8 bytes
  | [a, b] =>
    if a = 0 then decodeUtf16 true bytes
    else if b = 0 then decodeUtf16 false bytes
    else decodeUtf8 bytes
  | _ => decodeUtf8 bytes

/-- Bytes in the encoding that they show themselves to be in. -/
def decodeDetected : List UInt8 → Option LooseText
  | 0x00 :: 0x00 :: 0xFE :: 0xFF :: rest => decodeUtf32 true rest
  | 0xFF :: 0xFE :: 0x00 :: 0x00 :: rest => decodeUtf32 false rest
  | 0xFE :: 0xFF :: rest => decodeUtf16 true rest
  | 0xFF :: 0xFE :: rest => decodeUtf16 false rest
  | 0xEF :: 0xBB :: 0xBF :: rest => decodeUtf8 rest
  | bytes => decodeUnmarked bytes

end DiceTable.Text
