import DiceTable.Proofs.Rolling.Luck
import DiceTable.Proofs.Service.Run

/-! # Rerolls

A remembered roll was evaluated once, and its canonical text passes again whatever the original text
passed: it is no longer, and it has the same evaluation. So a reroll of a held id is only refused
for a total that leaves the range, as long as the source answers in range
(`RollService.reroll_of_contains`).
-/

namespace DiceTable

theorem length_compact_le (text : String) :
    (String.ofList (Text.compact text.toList)).length ≤ text.length := by
  rw [String.length_ofList, ← String.length_toList]
  exact List.length_filter_le ..

namespace RollService

variable {σ : Type} {supplies : Supplies σ} {service : RollService σ}

/-- A text passes the check of its length where a longer one does. -/
theorem guardLength_mono {text shorter : String} (less : shorter.length ≤ text.length)
    (short : service.guardLength (.str text) = .ok ()) :
    service.guardLength (.str shorter) = .ok () :=
  Limit.guard_mono (Int.ofNat_le.mpr less) short _

/-- Services with the same limits check the length of an expression alike. -/
theorem guardLength_congr {other : RollService σ} (same : other.limits = service.limits)
    (expression : Json) : other.guardLength expression = service.guardLength expression := by
  have lengthLimit : other.lengthLimit = service.lengthLimit := congrArg Prod.snd same
  unfold guardLength
  rw [lengthLimit]

/-- The canonical text of a result is rolled to the same result. -/
theorem Rolls.canonical {text : String} {result : RollResult} {dice : σ}
    (rolls : service.Rolls supplies text result dice) :
    service.Rolls supplies result.canonical result dice := by
  have same := Source.canonical_of_evaluate (congrArg Prod.fst rolls.evaluated)
  rw [same]
  refine ⟨guardLength_mono (length_compact_le text) rolls.short, ?_⟩
  rw [Source.evaluate_compact]
  exact rolls.evaluated

/-- An expression was rolled to a result by a service with such limits. -/
def Admitted (supplies : Supplies σ) (limits : Limit × Limit) (expression : String) : Prop :=
  ∃ (service : RollService σ) (result : RollResult) (dice : σ), service.limits = limits ∧
    service.Rolls supplies expression result dice

theorem tracks_admitted (limits : Limit × Limit) :
    Tracks supplies limits fun roll => Admitted supplies limits roll.expression := by
  intro service text result dice roll same rolls stored
  rw [stored]
  exact ⟨service, result, dice, same, rolls.canonical⟩

/-- All rolls that a service remembers after a run were rolled under its limits. -/
theorem remembers_admitted (settings : ServiceSettings) (dice : σ) (requests : List (Request σ)) :
    let service := (ofSettings settings dice).run supplies requests
    service.Remembers fun roll => Admitted supplies service.limits roll.expression := by
  intro service
  have limits : service.limits = (ofSettings settings dice).limits := limits_run requests
  rw [limits]
  exact remembers_run (tracks_admitted _) (remembers_ofSettings settings dice) requests

/-- An expression that was rolled once is only refused for its total or by a fault. -/
theorem refusal_of_admitted (answers : supplies.source.AnswersInRange) {expression : String}
    (admitted : Admitted supplies service.limits expression) {failure : Failure}
    (refused : service.Refuses supplies (.str expression) failure) :
    (∃ error, failure = .dice error ∧ error.kind = .arithmeticOverflow) ∨ failure.IsFault := by
  obtain ⟨before, result, dice, limits, rolls⟩ := admitted
  have diceLimit : before.diceLimit = service.diceLimit := congrArg Prod.fst limits
  have short : service.guardLength (.str expression) = .ok () :=
    (guardLength_congr limits _).symm.trans rolls.short
  have evaluated : (supplies.source.evaluate service.diceLimit expression before.dice).1 =
      .ok result := by
    rw [← diceLimit, rolls.evaluated]
  rcases refused with long | ⟨_, failed⟩
  · rw [short] at long
    cases long
  · rcases (answers.serves.evaluate_again evaluated).allowed_of_error failed with
      ⟨_, overflow⟩ | fault
    · exact .inl overflow
    · exact .inr fault

/-- A held roll is rolled again, or refused for its total or by a fault. -/
theorem reroll_of_contains (answers : supplies.source.AnswersInRange)
    (admitted : service.Remembers fun roll => Admitted supplies service.limits roll.expression)
    {id : String} (held : service.memory.contains id) (user : String) :
    (∃ record, (service.reroll supplies id user).outcome = .ok (some record)) ∨
      ∃ failure, (service.reroll supplies id user).outcome = .error failure ∧
        ((∃ error, failure = .dice error ∧ error.kind = .arithmeticOverflow) ∨
          failure.IsFault) := by
  obtain ⟨roll, found, member⟩ := RollMemory.exists_mem_of_contains held
  unfold reroll
  rw [found]
  rcases perform_cases supplies service (.str roll.expression) user (some id) with
    ⟨failure, dice, refused, outcome, _⟩ | ⟨text, result, dice, _, _, same⟩
  · refine .inr ⟨failure, ?_, refusal_of_admitted answers (admitted _ member) refused⟩
    simp only [logFirst, outcome]
    rfl
  · refine .inl ?_
    simp only [logFirst, same]
    exact ⟨_, rfl⟩

end RollService

/-- Luck decides of nothing but a total that leaves the range. What was evaluated with one source is
evaluated with any other to a result of the same kind and canonical text, unless it is arithmetic
and overflows; and after any run of a service, a roll that is held is rolled again, unless it
overflows or the source gives no answer. -/
theorem luck_leaves_overflow {σ τ : Type} :
    (∀ (first : Source σ) (second : Source τ) (limit : Limit) (text : String) (state : σ)
        (other : τ) (result : RollResult), second.InRange → second.EndsChains →
        (first.evaluate limit text state).1 = .ok result →
      (∃ again, (second.evaluate limit text other).1 = .ok again ∧ again.kind = result.kind ∧
        again.canonical = result.canonical) ∨
      result.kind = .arithmetic ∧ ∃ error,
        (second.evaluate limit text other).1 = .error (.dice error) ∧
          error.kind = .arithmeticOverflow) ∧
    ∀ (supplies : Supplies σ) (settings : ServiceSettings) (dice : σ) (requests : List (Request σ))
        (id user : String), supplies.source.AnswersInRange →
      let service := (RollService.ofSettings settings dice).run supplies requests
      service.memory.contains id →
      (∃ record, (service.reroll supplies id user).outcome = .ok (some record)) ∨
      (∃ error, (service.reroll supplies id user).outcome = .error (.dice error) ∧
        error.kind = .arithmeticOverflow) ∨
      ∃ fault, (service.reroll supplies id user).outcome = .error (.source fault) := by
  constructor
  · intro first second limit text state other result inRange ends run
    have again := (inRange.serves ends).evaluate_again run
    rcases again.answer_or_failure other with ⟨answer, rolled, same⟩ | ⟨failure, failed, unlucky⟩
    · exact .inl ⟨answer, rolled, same⟩
    · obtain ⟨kind, error, rfl, overflow⟩ := unlucky.resolve_right id
      exact .inr ⟨kind, error, failed, overflow⟩
  · intro supplies settings dice requests id user answers service held
    have admitted : service.Remembers fun roll =>
        RollService.Admitted supplies service.limits roll.expression :=
      RollService.remembers_admitted settings dice requests
    rcases RollService.reroll_of_contains answers admitted held user with
      rolled | ⟨failure, outcome, ⟨error, rfl, overflow⟩ | ⟨fault, rfl⟩⟩
    · exact .inl rolled
    · exact .inr (.inl ⟨error, outcome, overflow⟩)
    · exact .inr (.inr ⟨fault, outcome⟩)

/-- Dice that are divided, with a list of integers and with the lowest faces, and rolled again by a
service that has forgotten the first of its rolls. -/
theorem luck_leaves_overflow_divided :
    let supplies : Supplies (List Int) := .numbered listedSource
    let requests : List (Request (List Int)) :=
      [.roll (.str "2d6 / 3") "ann", .roll (.str "1 / d") "ann", .reroll "0" "bob", .forget "0"]
    let service := (RollService.ofSettings {} [5, 4, 3, 2]).run supplies requests
    (∃ result, (listedSource.evaluate (1000 : Int) "2d6 / 3" [5, 4]).1 = .ok result ∧
      ((∃ again, (lowestSource.evaluate (1000 : Int) "2d6 / 3" ()).1 = .ok again ∧
          again.kind = result.kind ∧ again.canonical = result.canonical) ∨
        result.kind = .arithmetic ∧ ∃ error,
          (lowestSource.evaluate (1000 : Int) "2d6 / 3" ()).1 = .error (.dice error) ∧
            error.kind = .arithmeticOverflow)) ∧
    service.memory.ids = ["1"] ∧
    ((∃ record, (service.reroll supplies "1" "cid").outcome = .ok (some record)) ∨
      (∃ error, (service.reroll supplies "1" "cid").outcome = .error (.dice error) ∧
        error.kind = .arithmeticOverflow) ∨
      ∃ fault, (service.reroll supplies "1" "cid").outcome = .error (.source fault)) := by
  intro supplies requests service
  have rolled : (listedSource.evaluate (1000 : Int) "2d6 / 3" [5, 4]).1.map RollResult.kind =
      .ok .arithmetic := by
    decide +kernel
  obtain ⟨result, run, _⟩ := Except.map_eq_ok.mp rolled
  have again := luck_leaves_overflow.1 listedSource lowestSource (1000 : Int) "2d6 / 3" [5, 4] ()
    result lowestSource_inRange lowestSource_endsChains run
  have held : service.memory.ids = ["1"] := by
    decide +kernel
  have contained : service.memory.contains "1" := by
    decide +kernel
  have reroll := (@luck_leaves_overflow (List Int) Unit).2 supplies {} [5, 4, 3, 2] requests "1"
    "cid" listedSource_answersInRange contained
  exact ⟨⟨result, run, again⟩, held, reroll⟩

end DiceTable
