import DiceTable.Proofs.Decimal.Magnitude
import DiceTable.Proofs.Rolling.Refusal

/-! # Variants of a written test

A test can be written in many ways: with either case of its letters, with zeros in front of its
numbers, with or without the mark of explosions, and with a single die or a hundred sides left out
(`TestSpelling.Variant`). All of them are read as the same dice against the same target, or refused
for the same kind of reason (`TestSpelling.Variant.test_agree`).
-/

namespace DiceTable

/-- Refusals of the same kind: errors of one kind, or the same limit, which is no number or has too
many digits to be shown. -/
inductive Failure.SameKind : Failure → Failure → Prop
  | dice {error other : DiceError} (kind : error.kind = other.kind) :
      SameKind (.dice error) (.dice other)
  | incomparable (typeName : String) : SameKind (.incomparable typeName) (.incomparable typeName)
  | unwritable (most : Nat) : SameKind (.unwritable most) (.unwritable most)

/-- Two computations come to related answers, or to refusals of the same kind. -/
inductive Agree {α β : Type} (related : α → β → Prop) :
    Except Failure α → Except Failure β → Prop
  | ok {a : α} {b : β} (here : related a b) : Agree related (.ok a) (.ok b)
  | error {failure other : Failure} (kind : failure.SameKind other) :
      Agree related (.error failure) (.error other)

namespace Agree

variable {α β γ δ : Type} {related : α → β → Prop} {x : Except Failure α} {y : Except Failure β}

theorem bind (first : Agree related x y) {later : γ → δ → Prop} {f : α → Except Failure γ}
    {g : β → Except Failure δ} (second : ∀ a b, related a b → Agree later (f a) (g b)) :
    Agree later (x >>= f) (y >>= g) := by
  cases first with
  | ok here => exact second _ _ here
  | error kind => exact .error kind

end Agree

section Numbers

variable {run other written variant : List Char}

/-- The runs are the same but for zeros in front. -/
def Decimal.SameNumber (run other : List Char) : Prop :=
  run.dropWhile (· == '0') = other.dropWhile (· == '0')

theorem Decimal.SameNumber.value_eq (same : SameNumber run other) : value run = value other := by
  rw [← value_dropWhile run, same, value_dropWhile]

theorem Decimal.SameNumber.significant_eq (same : SameNumber run other)
    (digits : ∀ c ∈ run, c.isDigit) (otherDigits : ∀ c ∈ other, c.isDigit) :
    significant run = significant other := by
  rw [significant, significant, unsigned_of_isDigit digits, unsigned_of_isDigit otherDigits]
  exact same

/-- Zeros in front of a number that is not too long do not matter. -/
theorem readNumber_agree (same : Decimal.SameNumber run other) (digits : Decimal.IsRun run)
    (otherDigits : Decimal.IsRun other) (short : run.length ≤ Decimal.digitLimit)
    (otherShort : other.length ≤ Decimal.digitLimit) (fragment otherFragment : String) :
    Agree Eq (readNumber run fragment) (readNumber other otherFragment) := by
  unfold readNumber
  rw [Decimal.bounded_of_isDigit digits.nonempty digits.digits,
    Decimal.bounded_of_isDigit otherDigits.nonempty otherDigits.digits,
    same.significant_eq digits.digits otherDigits.digits, same.value_eq,
    if_neg (Nat.not_lt.mpr short), if_neg (Nat.not_lt.mpr otherShort)]
  split
  · exact .error (.dice rfl)
  · split
    · exact .error (.dice rfl)
    · exact .ok rfl

theorem readClamped_congr (significant : Decimal.significant written = Decimal.significant variant)
    (sign : Decimal.isNegative written = Decimal.isNegative variant) :
    readClamped written = readClamped variant := by
  rw [readClamped, readClamped, Decimal.clamped, Decimal.clamped, significant, sign]

/-- Both modifiers are left out, or they have the same sign and the same number. -/
inductive TestSpelling.SameModifier : List Char → List Char → Prop
  | none : SameModifier [] []
  | signed (sign : Char) {run other : List Char} (same : Decimal.SameNumber run other) :
      SameModifier (sign :: run) (sign :: other)

end Numbers

namespace TestSpelling

/-- The dice of a test as they are written where nothing is left out: a count is one, and a group is
a single die of a hundred sides. -/
def fullDice (spelling : TestSpelling) : DiceSpelling :=
  match spelling.dice with
  | none => ⟨['1'], 'd', ['1', '0', '0'], false⟩
  | some dice => { dice with count := if dice.count = [] then ['1'] else dice.count }

/-- Two ways to write a test. Neither the letters nor the mark of explosions need be the same. -/
structure Variant (spelling other : TestSpelling) : Prop where
  count : Decimal.SameNumber spelling.fullDice.count other.fullDice.count
  sides : Decimal.SameNumber spelling.fullDice.sides other.fullDice.sides
  target : Decimal.SameNumber spelling.target other.target
  modifier : SameModifier spelling.modifier other.modifier

/-- The numbers of dice and sides have no more digits than are converted. -/
structure Short (spelling : TestSpelling) : Prop where
  count : spelling.fullDice.count.length ≤ Decimal.digitLimit
  sides : spelling.fullDice.sides.length ≤ Decimal.digitLimit

variable {spelling other : TestSpelling}

theorem WellFormed.isRun_fullDice (wellFormed : spelling.WellFormed) :
    Decimal.IsRun spelling.fullDice.count ∧ Decimal.IsRun spelling.fullDice.sides := by
  unfold TestSpelling.fullDice
  split
  · exact ⟨⟨by decide, List.all_eq_true.mp (by decide)⟩,
      ⟨by decide, List.all_eq_true.mp (by decide)⟩⟩
  · rename_i dice written
    have group := wellFormed.dice dice written
    refine ⟨?_, group.sides⟩
    dsimp only
    split
    · exact ⟨by decide, List.all_eq_true.mp (by decide)⟩
    · rename_i nonempty
      exact ⟨nonempty, group.count⟩

/-- What is left out is read as if it were written. -/
theorem group_eq_fullDice (spelling : TestSpelling) (canonical : String) :
    ∃ exploding, spelling.group canonical =
      readNumber spelling.fullDice.count canonical >>= fun count =>
        readNumber spelling.fullDice.sides canonical >>= fun sides =>
          .ok ⟨count, sides, exploding⟩ := by
  have one : readNumber ['1'] canonical = .ok 1 := readNumber_eq_ok.mpr (by decide +kernel)
  have hundred : readNumber ['1', '0', '0'] canonical = .ok 100 :=
    readNumber_eq_ok.mpr (by decide +kernel)
  cases written : spelling.dice with
  | none =>
    refine ⟨false, ?_⟩
    simp only [group, fullDice, written, one, hundred]
    rfl
  | some dice =>
    refine ⟨dice.exploding, ?_⟩
    simp only [group, fullDice, written, DiceSpelling.group_eq, DiceSpelling.readCount]
    by_cases empty : dice.count = []
    · rw [if_pos empty, if_pos empty, one]
    · rw [if_neg empty, if_neg empty]

namespace Variant

variable (variant : spelling.Variant other) (wellFormed : spelling.WellFormed)
  (otherWellFormed : other.WellFormed)
include variant wellFormed otherWellFormed

/-- The same number of dice with the same sides, or a refusal of the same kind. -/
theorem group_agree (short : spelling.Short) (otherShort : other.Short)
    (canonical otherCanonical : String) :
    Agree (fun a b => a.count = b.count ∧ a.sides = b.sides) (spelling.group canonical)
      (other.group otherCanonical) := by
  obtain ⟨_, read⟩ := spelling.group_eq_fullDice canonical
  obtain ⟨_, otherRead⟩ := other.group_eq_fullDice otherCanonical
  obtain ⟨countRun, sidesRun⟩ := wellFormed.isRun_fullDice
  obtain ⟨otherCountRun, otherSidesRun⟩ := otherWellFormed.isRun_fullDice
  have counts := readNumber_agree variant.count countRun otherCountRun short.count
    otherShort.count canonical otherCanonical
  have sides := readNumber_agree variant.sides sidesRun otherSidesRun short.sides
    otherShort.sides canonical otherCanonical
  rw [read, otherRead]
  refine counts.bind fun count otherCount sameCount => ?_
  exact sides.bind fun side otherSide sameSides => .ok ⟨sameCount, sameSides⟩

theorem readTarget_eq : readClamped spelling.target = readClamped other.target := by
  refine readClamped_congr ?_ ?_
  · exact variant.target.significant_eq wellFormed.target.digits otherWellFormed.target.digits
  · rw [Decimal.isNegative_of_isDigit wellFormed.target.digits,
      Decimal.isNegative_of_isDigit otherWellFormed.target.digits]

theorem readModifier_eq : readClamped spelling.modifier = readClamped other.modifier := by
  have digits := wellFormed.modifier
  have otherDigits := otherWellFormed.modifier
  obtain ⟨_, _, _, modifier⟩ := variant
  generalize spelling.modifier = written at *
  generalize other.modifier = otherWritten at *
  cases modifier with
  | none => rfl
  | signed sign same =>
    simp only [isModifier, Bool.and_eq_true, List.all_eq_true] at digits otherDigits
    refine readClamped_congr ?_ rfl
    have significant {run : List Char} (digit : ∀ c ∈ run, c.isDigit) :
        Decimal.significant (sign :: run) = Decimal.significant run := by
      rw [Decimal.significant, Decimal.significant, Decimal.unsigned, Decimal.unsigned,
        List.dropWhile_cons_of_pos digits.1.1]
    rw [significant digits.2, significant otherDigits.2]
    exact same.significant_eq digits.2 otherDigits.2

/-- Variants of a test are read as the same dice against the same target, or they are refused with
the same kind of error. -/
theorem test_agree (short : spelling.Short) (otherShort : other.Short)
    (canonical otherCanonical : String) :
    Agree (fun a b => a.count = b.count ∧ a.sides = b.sides ∧ a.target = b.target)
      (spelling.test canonical) (other.test otherCanonical) := by
  refine (variant.group_agree wellFormed otherWellFormed short otherShort canonical
    otherCanonical).bind ?_
  rintro group otherGroup ⟨counts, sides⟩
  rw [← counts, ← sides, variant.readTarget_eq wellFormed otherWellFormed,
    variant.readModifier_eq wellFormed otherWellFormed]
  split
  · exact .error (.dice rfl)
  · obtain ⟨target, readTarget⟩ :=
      exists_readClamped (Decimal.isDigit_of_mem_unsigned otherWellFormed.target.digits)
    obtain ⟨modifier, readModifier⟩ :=
      exists_readClamped (isDigit_of_isModifier otherWellFormed.modifier)
    rw [readTarget, readModifier]
    exact .ok ⟨rfl, rfl, rfl⟩

end Variant

end TestSpelling

end DiceTable
