import DiceTable.Dice.SkillTest
import DiceTable.Proofs.Rolling.Plan

/-! # What is refused without a roll

Numbers, groups and tests that are read off a text are checked before any of their dice is rolled.
They are refused for what they are, in one of five ways (`Failure.IsRefusal`). Two of these are no
errors of the expression although all types are right: a run of digits that passes for short, since
its leading zeros do not count, is not converted, since for the conversion they do
(`Decimal.IsOverlong`); and a limit that is exceeded is not shown if it has too many digits.
-/

namespace DiceTable

/-- A run with more digits than are converted, of which no more are significant than are read. -/
def Decimal.IsOverlong (run : List Char) : Prop :=
  digitLimit < run.length ∧ (significant run).length ≤ boundedDigits

/-- A group whose count is overlong, or whose sides are once its count is read. -/
def DiceSpelling.IsOverlong (dice : DiceSpelling) : Prop :=
  Decimal.IsOverlong dice.count ∨
    (dice.count = [] ∨ ∃ n, Decimal.bounded dice.count = .ok n) ∧ Decimal.IsOverlong dice.sides

def Lexeme.IsOverlong : Lexeme → Prop
  | .dice group => group.IsOverlong
  | .number run => Decimal.IsOverlong run
  | .operator _ => False

def TestSpelling.IsOverlong (test : TestSpelling) : Prop :=
  ∃ dice, test.dice = some dice ∧ dice.IsOverlong

/-- An item whose group takes the dice over the limit, where `started` dice come before it. -/
def Lexeme.Exceeds (limit : Limit) (started : Int) : Lexeme → Prop
  | .dice spelling => ∃ group, spelling.group (String.ofList spelling.chars) = .ok group ∧
      limit.exceededBy? (started + group.count) = some true
  | .number _ => False
  | .operator _ => False

def Limit.IsShort (limit : Limit) : Prop :=
  ∀ n ∈ limit.numbers, Decimal.isShort Decimal.digitLimit n

theorem Limit.isShort_ofInt {bound : Int} :
    (ofInt bound).IsShort ↔ Decimal.isShort Decimal.digitLimit bound :=
  List.forall_mem_singleton

/-- The failure of something that is refused under a limit, where it may be overlong and may exceed
the limit. -/
inductive Failure.IsRefusal (limit : Limit) (overlong exceeds : Prop) : Failure → Prop
  | overflow {error : DiceError} (kind : error.kind = .arithmeticOverflow) :
      IsRefusal limit overlong exceeds (.dice error)
  | spec {error : DiceError} (kind : error.kind = .invalidDiceSpec) :
      IsRefusal limit overlong exceeds (.dice error)
  | unreadable {count : Nat} (long : Decimal.digitLimit < count) (here : overlong) :
      IsRefusal limit overlong exceeds (.unreadable (.tooManyDigits count))
  | unwritable (long : ¬limit.IsShort) (here : exceeds) :
      IsRefusal limit overlong exceeds (.unwritable Decimal.digitLimit)
  | incomparable {n : Int} (undecided : limit.exceededBy? n = none) :
      IsRefusal limit overlong exceeds (.incomparable limit.setting.typeName)

theorem Failure.IsRefusal.mono {limit : Limit} {overlong longer exceeds wider : Prop}
    {failure : Failure} (refusal : failure.IsRefusal limit overlong exceeds)
    (lengthen : overlong → longer) (widen : exceeds → wider) :
    failure.IsRefusal limit longer wider := by
  cases refusal with
  | overflow kind => exact .overflow kind
  | spec kind => exact .spec kind
  | unreadable long here => exact .unreadable long (lengthen here)
  | unwritable long here => exact .unwritable long (widen here)
  | incomparable undecided => exact .incomparable undecided

section Numbers

variable {run : List Char} {fragment : String} {failure : Failure}

/-- A number is refused because it is too large or overlong. -/
theorem readNumber_error (digits : Decimal.IsRun run)
    (failed : readNumber run fragment = .error failure) (limit : Limit) (exceeds : Prop) :
    failure.IsRefusal limit (Decimal.IsOverlong run) exceeds := by
  obtain ⟨refusal, refused, rfl⟩ := Except.mapError_eq_error.mp failed
  rw [Decimal.bounded_of_isDigit digits.nonempty digits.digits] at refused
  split at refused
  · cases refused
    exact .overflow rfl
  · rename_i short
    split at refused
    · rename_i long
      cases refused
      exact .unreadable long ⟨long, Nat.le_of_not_lt short⟩
    · split at refused
      · cases refused
        exact .overflow rfl
      · cases refused

theorem readNumber_of_isOverlong (digits : Decimal.IsRun run) (overlong : Decimal.IsOverlong run) :
    readNumber run fragment = .error (.unreadable (.tooManyDigits run.length)) := by
  obtain ⟨long, short⟩ := overlong
  rw [readNumber, Decimal.bounded_of_isDigit digits.nonempty digits.digits,
    if_neg (Nat.not_lt.mpr short), if_pos long]
  rfl

theorem readNumber_eq_ok {n : Int} :
    readNumber run fragment = .ok n ↔ Decimal.bounded run = .ok n :=
  Except.mapError_eq_ok

/-- A number that is read is read exactly. -/
theorem value_of_readNumber {n : Int} (digits : Decimal.IsRun run)
    (read : readNumber run fragment = .ok n) : n = Decimal.value run ∧ n ≤ Decimal.maxInt := by
  rw [readNumber_eq_ok, Decimal.bounded_of_isDigit digits.nonempty digits.digits] at read
  split at read
  · cases read
  · split at read
    · cases read
    · split at read
      · cases read
      · rename_i bounded
        cases read
        exact ⟨rfl, Int.not_lt.mp bounded⟩

/-- A number that is read is in the range. -/
theorem le_maxInt_of_readNumber {n : Int} (digits : Decimal.IsRun run)
    (read : readNumber run fragment = .ok n) : 0 ≤ n ∧ n ≤ Decimal.maxInt := by
  obtain ⟨rfl, bounded⟩ := value_of_readNumber digits read
  exact ⟨Int.natCast_nonneg _, bounded⟩

/-- The target and the modifier of a test are read whatever their length. -/
theorem exists_readClamped {written : List Char}
    (digits : ∀ c ∈ Decimal.unsigned written, c.isDigit) : ∃ n, readClamped written = .ok n := by
  rw [readClamped, Decimal.clamped_of_isDigit digits]
  exact ⟨_, rfl⟩

end Numbers

section Limits

variable {limit : Limit} {m n : Int} {error : DiceError} {others : List Int} {failure : Failure}

/-- Numbers that are written are no matter for what a limit comes to. -/
theorem Limit.refusal_of_writing (written : writing others = .ok ()) (error : DiceError) :
    limit.refusal error others = limit.refusal error := by
  have same : writing (others ++ limit.numbers) = writing limit.numbers := by
    have short := List.all_eq_true.mpr (writing_some_eq_ok.mp written)
    simp only [writing, List.all_append, short, Bool.true_and]
  rw [refusal, refusal, Failure.naming, Failure.naming, same, List.nil_append]

theorem Limit.IsShort.refusal_eq (short : limit.IsShort) (error : DiceError) :
    limit.refusal error = .dice error :=
  Failure.naming_of_short short error

theorem Limit.refusal_of_not_isShort (long : ¬limit.IsShort) (error : DiceError) :
    limit.refusal error = .unwritable Decimal.digitLimit := by
  refine (Failure.naming_cases _ error).resolve_left fun named => long ?_
  cases written : writing ([] ++ limit.numbers) with
  | ok => exact writing_some_eq_ok.mp written
  | error failure =>
    obtain ⟨_, _, rfl⟩ := writing_error written
    rw [Failure.naming, written] at named
    cases named

theorem Limit.guard_eq_ok :
    limit.guard n error others = .ok () ↔ limit.exceededBy? n = some false := by
  unfold guard
  split <;> simp_all

theorem Limit.guard_eq_error (exceeded : limit.exceededBy? n = some true)
    (written : writing others = .ok ()) (error : DiceError) :
    limit.guard n error others = .error (limit.refusal error) := by
  rw [guard, exceeded, ← refusal_of_writing written]

theorem Limit.guard_error (spec : error.kind = .invalidDiceSpec)
    (written : writing others = .ok ()) (failed : limit.guard n error others = .error failure)
    (overlong : Prop) : failure.IsRefusal limit overlong (limit.exceededBy? n = some true) := by
  cases exceeded : limit.exceededBy? n with
  | none =>
    rw [guard, exceeded] at failed
    cases failed
    exact .incomparable exceeded
  | some isOver =>
    cases isOver with
    | false =>
      rw [guard_eq_ok.mpr exceeded] at failed
      cases failed
    | true =>
      rw [guard_eq_error exceeded written] at failed
      cases failed
      by_cases short : limit.IsShort
      · rw [short.refusal_eq]
        exact .spec spec
      · rw [refusal_of_not_isShort short]
        exact .unwritable short rfl

theorem Decimal.Binary64.isBelow_mono {x : Binary64} {m n : Int} (less : m ≤ n)
    (above : x.isBelow n = false) : x.isBelow m = false := by
  unfold isBelow at above ⊢
  cases finite : x.isFinite with
  | true =>
    simp only [finite, if_true, decide_eq_false_iff_not, Int.not_lt] at above ⊢
    exact Int.le_trans (Int.mul_le_mul_of_nonneg_right less (Int.natCast_nonneg _)) above
  | false =>
    rw [finite] at above
    exact above

/-- What is less than a number within a limit is within the limit. -/
theorem Limit.exceededBy?_mono (less : m ≤ n)
    (within : limit.exceededBy? n = some false) : limit.exceededBy? m = some false := by
  unfold exceededBy? at within ⊢
  split at within
  · simp only [Option.some.injEq, decide_eq_false_iff_not] at within ⊢
    omega
  · simp only [Option.some.injEq, decide_eq_false_iff_not] at within ⊢
    omega
  · simp only [Option.some.injEq] at within ⊢
    exact Decimal.Binary64.isBelow_mono less within
  · cases within

/-- What is under a limit passes wherever more than that passes. -/
theorem Limit.guard_mono (less : m ≤ n) (passed : limit.guard n error others = .ok ())
    (other : DiceError) : limit.guard m other = .ok () :=
  guard_eq_ok.mpr (exceededBy?_mono less (guard_eq_ok.mp passed))

end Limits

section Groups

variable {dice : DiceSpelling} {fragment : String} {failure : Failure}

/-- The count of a group, which is one where it is left out. -/
def DiceSpelling.readCount (dice : DiceSpelling) (fragment : String) : Except Failure Int :=
  if dice.count = [] then .ok 1 else readNumber dice.count fragment

/-- A group is read from its count and its sides, in this order. -/
theorem DiceSpelling.group_eq (dice : DiceSpelling) (fragment : String) :
    dice.group fragment = dice.readCount fragment >>= fun count =>
      readNumber dice.sides fragment >>= fun sides => .ok ⟨count, sides, dice.exploding⟩ := by
  unfold group readCount
  split <;> rfl

theorem DiceSpelling.readCount_eq_ok {n : Int} (counted : dice.readCount fragment = .ok n) :
    dice.count = [] ∨ Decimal.bounded dice.count = .ok n := by
  unfold readCount at counted
  split at counted
  · rename_i empty
    exact .inl empty
  · exact .inr (readNumber_eq_ok.mp counted)

theorem DiceSpelling.exists_readCount
    (counted : dice.count = [] ∨ ∃ n, Decimal.bounded dice.count = .ok n) (fragment : String) :
    ∃ n, dice.readCount fragment = .ok n := by
  unfold readCount
  split
  · exact ⟨1, rfl⟩
  · rename_i nonempty
    obtain ⟨n, bounded⟩ := counted.resolve_left nonempty
    exact ⟨n, readNumber_eq_ok.mpr bounded⟩

theorem DiceSpelling.group_error (wellFormed : dice.WellFormed)
    (failed : dice.group fragment = .error failure) (limit : Limit) (exceeds : Prop) :
    failure.IsRefusal limit dice.IsOverlong exceeds := by
  rw [group_eq] at failed
  rcases Except.bind_eq_error.mp failed with failed | ⟨count, counted, failed⟩
  · unfold readCount at failed
    split at failed
    · cases failed
    · rename_i nonempty
      exact (readNumber_error ⟨nonempty, wellFormed.count⟩ failed limit exceeds).mono .inl id
  · rcases Except.bind_eq_error.mp failed with failed | ⟨sides, _, failed⟩
    · have read : dice.count = [] ∨ ∃ n, Decimal.bounded dice.count = .ok n :=
        (readCount_eq_ok counted).imp_right fun bounded => ⟨count, bounded⟩
      exact (readNumber_error wellFormed.sides failed limit exceeds).mono
        (fun overlong => .inr ⟨read, overlong⟩) id
    · cases failed

/-- An overlong group is not read. -/
theorem DiceSpelling.group_of_isOverlong (wellFormed : dice.WellFormed)
    (overlong : dice.IsOverlong) (fragment : String) :
    ∃ count, Decimal.digitLimit < count ∧
      dice.group fragment = .error (.unreadable (.tooManyDigits count)) := by
  rw [group_eq]
  rcases overlong with overlong | ⟨counted, overlong⟩
  · have nonempty : dice.count ≠ [] := by
      intro empty
      rw [empty] at overlong
      exact absurd overlong.1 (by decide)
    refine ⟨dice.count.length, overlong.1, Except.bind_eq_error.mpr (.inl ?_)⟩
    rw [readCount, if_neg nonempty]
    exact readNumber_of_isOverlong ⟨nonempty, wellFormed.count⟩ overlong
  · obtain ⟨n, read⟩ := exists_readCount counted fragment
    refine ⟨dice.sides.length, overlong.1, Except.bind_eq_error.mpr (.inr ⟨n, read, ?_⟩)⟩
    refine Except.bind_eq_error.mpr (.inl ?_)
    exact readNumber_of_isOverlong wellFormed.sides overlong

/-- The count and the sides of a group that is read are in the range. -/
theorem DiceSpelling.bounds_of_group {group : DiceGroup} (wellFormed : dice.WellFormed)
    (read : dice.group fragment = .ok group) :
    (0 ≤ group.count ∧ group.count ≤ Decimal.maxInt) ∧
      0 ≤ group.sides ∧ group.sides ≤ Decimal.maxInt := by
  rw [group_eq] at read
  obtain ⟨count, readCount, read⟩ := Except.bind_eq_ok.mp read
  obtain ⟨sides, readSides, answer⟩ := Except.bind_eq_ok.mp read
  cases answer
  refine ⟨?_, le_maxInt_of_readNumber wellFormed.sides readSides⟩
  unfold DiceSpelling.readCount at readCount
  split at readCount
  · cases readCount
    exact (by decide : (0 : Int) ≤ 1 ∧ (1 : Int) ≤ Decimal.maxInt)
  · rename_i nonempty
    exact le_maxInt_of_readNumber ⟨nonempty, wellFormed.count⟩ readCount

/-- The numbers of a group that is read are written. -/
theorem DiceSpelling.writing_of_group {group : DiceGroup} (wellFormed : dice.WellFormed)
    (read : dice.group fragment = .ok group) : writing group.numbers = .ok () := by
  obtain ⟨⟨count, counted⟩, sides, bounded⟩ := bounds_of_group wellFormed read
  exact DiceGroup.writing_numbers count counted sides bounded

theorem DiceGroup.check_error {group : DiceGroup} (written : writing group.numbers = .ok ())
    (failed : group.check = .error failure) (limit : Limit) (overlong exceeds : Prop) :
    failure.IsRefusal limit overlong exceeds := by
  have named (error : String → DiceError) : group.failure error = .dice (error group.text) :=
    Failure.naming_of_writing written _
  unfold check at failed
  rw [named, named] at failed
  split at failed
  · cases failed
    exact .spec rfl
  · split at failed
    · cases failed
      exact .spec rfl
    · cases failed

/-- A group that passes its check can be rolled. -/
theorem DiceGroup.rollable_of_check {group : DiceGroup} (checked : group.check = .ok ())
    (counted : group.count ≤ Decimal.maxInt) (bounded : group.sides ≤ Decimal.maxInt) :
    group.Rollable := by
  unfold check at checked
  split at checked
  · cases checked
  · split at checked
    · cases checked
    · rename_i sized ending
      refine ⟨by omega, counted, by omega, bounded, ?_⟩
      intro exploding one
      exact ending ⟨exploding, one⟩

end Groups

namespace Lexeme

variable {limit : Limit} {started next : Int} {item : Lexeme} {plan : Plan} {failure : Failure}

/-- A group has a plan where it can be read, is within the limit and passes its check. -/
theorem plan_dice_eq_ok {spelling : DiceSpelling} :
    (Lexeme.dice spelling).plan limit started = .ok (plan, next) ↔
      ∃ group, spelling.group (String.ofList spelling.chars) = .ok group ∧
        limit.exceededBy? (started + group.count) = some false ∧ group.check = .ok () ∧
        plan = .roll group ∧ next = started + group.count := by
  constructor
  · intro planned
    obtain ⟨group, read, planned⟩ := Except.bind_eq_ok.mp planned
    obtain ⟨_, guarded, planned⟩ := Except.bind_eq_ok.mp planned
    obtain ⟨_, checked, answer⟩ := Except.bind_eq_ok.mp planned
    cases answer
    exact ⟨group, read, Limit.guard_eq_ok.mp guarded, checked, rfl, rfl⟩
  · rintro ⟨group, read, within, checked, rfl, rfl⟩
    refine Except.bind_eq_ok.mpr ⟨group, read, Except.bind_eq_ok.mpr ⟨(), ?_, ?_⟩⟩
    · exact Limit.guard_eq_ok.mpr within
    · exact Except.bind_eq_ok.mpr ⟨(), checked, rfl⟩

/-- A number has a plan where it can be read. -/
theorem plan_number_eq_ok {run : List Char} :
    (Lexeme.number run).plan limit started = .ok (plan, next) ↔
      ∃ value, readNumber run (String.ofList run) = .ok value ∧ plan = .literal value ∧
        next = started := by
  constructor
  · intro planned
    obtain ⟨value, read, answer⟩ := Except.bind_eq_ok.mp planned
    cases answer
    exact ⟨value, read, rfl, rfl⟩
  · rintro ⟨value, read, rfl, rfl⟩
    exact Except.bind_eq_ok.mpr ⟨value, read, rfl⟩

/-- An item is refused for what it is. -/
theorem plan_error (known : item.IsOperand ∨ item.IsOperator)
    (failed : item.plan limit started = .error failure) :
    failure.IsRefusal limit item.IsOverlong (item.Exceeds limit started) := by
  cases item with
  | dice spelling =>
    have wellFormed : spelling.WellFormed := known.resolve_right id
    rcases Except.bind_eq_error.mp failed with failed | ⟨group, read, failed⟩
    · exact DiceSpelling.group_error wellFormed failed limit _
    · have written := DiceSpelling.writing_of_group wellFormed read
      rcases Except.bind_eq_error.mp failed with failed | ⟨_, _, failed⟩
      · exact (Limit.guard_error rfl written failed _).mono id fun isOver => ⟨group, read, isOver⟩
      · rcases Except.bind_eq_error.mp failed with failed | ⟨_, _, failed⟩
        · exact DiceGroup.check_error written failed limit _ _
        · cases failed
  | number run =>
    rcases Except.bind_eq_error.mp failed with failed | ⟨_, _, failed⟩
    · exact readNumber_error (known.resolve_right id) failed limit _
    · cases failed
  | operator op => cases failed

/-- A group that takes the dice over the limit has no plan. -/
theorem plan_of_exceeded {spelling : DiceSpelling} {group : DiceGroup}
    (wellFormed : spelling.WellFormed)
    (read : spelling.group (String.ofList spelling.chars) = .ok group)
    (exceeded : limit.exceededBy? (started + group.count) = some true) :
    (Lexeme.dice spelling).plan limit started = .error
      (limit.refusal (.tooManyDice group.text limit.text (String.ofList spelling.chars))) := by
  have written := DiceSpelling.writing_of_group wellFormed read
  simp only [plan, read, Limit.guard_eq_error exceeded written, bind, Except.bind]

/-- A group that has a plan can be rolled. -/
theorem rollable_of_plan {group : DiceGroup} {next : Int} (known : item.IsOperand ∨ item.IsOperator)
    (planned : item.plan limit started = .ok (.roll group, next)) : group.Rollable := by
  cases item with
  | dice spelling =>
    have wellFormed : spelling.WellFormed := known.resolve_right id
    obtain ⟨read, readGroup, _, checked, same, _⟩ := plan_dice_eq_ok.mp planned
    cases same
    obtain ⟨⟨_, counted⟩, _, bounded⟩ := DiceSpelling.bounds_of_group wellFormed readGroup
    exact DiceGroup.rollable_of_check checked counted bounded
  | number run =>
    obtain ⟨value, _, same, _⟩ := plan_number_eq_ok.mp planned
    cases same
  | operator op => cases planned

/-- An overlong item is not read. -/
theorem plan_of_isOverlong (known : item.IsOperand ∨ item.IsOperator)
    (overlong : item.IsOverlong) (limit : Limit) (started : Int) :
    ∃ count, Decimal.digitLimit < count ∧
      item.plan limit started = .error (.unreadable (.tooManyDigits count)) := by
  cases item with
  | dice spelling =>
    have wellFormed : spelling.WellFormed := known.resolve_right id
    obtain ⟨count, long, refused⟩ := DiceSpelling.group_of_isOverlong wellFormed overlong
      (String.ofList spelling.chars)
    exact ⟨count, long, Except.bind_eq_error.mpr (.inl refused)⟩
  | number run =>
    have digits : Decimal.IsRun run := known.resolve_right id
    exact ⟨run.length, overlong.1,
      Except.bind_eq_error.mpr (.inl (readNumber_of_isOverlong digits overlong))⟩
  | operator op => exact overlong.elim

end Lexeme

namespace TestSpelling

variable {spelling : TestSpelling} {canonical : String} {failure : Failure}

/-- Behind the sign of a modifier there are only digits. -/
theorem isDigit_of_isModifier {written : List Char} (modifier : isModifier written) :
    ∀ c ∈ Decimal.unsigned written, c.isDigit := by
  cases written with
  | nil => simp [Decimal.unsigned]
  | cons sign digits =>
    simp only [isModifier, Bool.and_eq_true, List.all_eq_true] at modifier
    obtain ⟨⟨signed, _⟩, digit⟩ := modifier
    have unsigned : Decimal.unsigned (sign :: digits) = digits := by
      rw [Decimal.unsigned, List.dropWhile_cons_of_pos signed]
      exact Decimal.unsigned_of_isDigit digit
    rw [unsigned]
    exact digit

/-- A test is refused for its dice. -/
theorem test_error (wellFormed : spelling.WellFormed)
    (failed : spelling.test canonical = .error failure) (limit : Limit) (exceeds : Prop) :
    failure.IsRefusal limit spelling.IsOverlong exceeds := by
  rcases Except.bind_eq_error.mp failed with failed | ⟨group, _, failed⟩
  · unfold group at failed
    split at failed
    · cases failed
    · rename_i dice spelled
      exact (DiceSpelling.group_error (wellFormed.dice dice spelled) failed limit exceeds).mono
        (fun overlong => ⟨dice, spelled, overlong⟩) id
  · split at failed
    · cases failed
      exact .spec rfl
    · obtain ⟨target, readTarget⟩ :=
        exists_readClamped (Decimal.isDigit_of_mem_unsigned wellFormed.target.digits)
      obtain ⟨modifier, readModifier⟩ :=
        exists_readClamped (isDigit_of_isModifier wellFormed.modifier)
      simp only [readTarget, readModifier, bind, Except.bind] at failed
      cases failed

/-- An overlong test is not read. -/
theorem test_of_isOverlong (wellFormed : spelling.WellFormed) (overlong : spelling.IsOverlong)
    (canonical : String) :
    ∃ count, Decimal.digitLimit < count ∧
      spelling.test canonical = .error (.unreadable (.tooManyDigits count)) := by
  obtain ⟨dice, spelled, overlong⟩ := overlong
  obtain ⟨count, long, refused⟩ :=
    DiceSpelling.group_of_isOverlong (wellFormed.dice dice spelled) overlong canonical
  refine ⟨count, long, Except.bind_eq_error.mpr (.inl ?_)⟩
  unfold group
  rw [spelled]
  exact refused

/-- A test that is read keeps its canonical text, and its dice have at least one side. -/
theorem test_eq_ok {test : SkillTest} (read : spelling.test canonical = .ok test) :
    test.canonical = canonical ∧ 1 ≤ test.sides := by
  obtain ⟨group, _, read⟩ := Except.bind_eq_ok.mp read
  split at read
  · cases read
  · rename_i sized
    obtain ⟨target, _, read⟩ := Except.bind_eq_ok.mp read
    obtain ⟨modifier, _, read⟩ := Except.bind_eq_ok.mp read
    cases read
    exact ⟨rfl, Int.not_lt.mp fun less => sized (.inr less)⟩

end TestSpelling

end DiceTable
