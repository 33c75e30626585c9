import DiceTable.Proofs.Rolling.ErrorFamily
import DiceTable.Proofs.Service.Run

/-! # What a service refuses

A text is accepted by a service if it is short enough and rolled to a result. Where the source keeps
its promises and both limits are integers, of which that on the length excludes overlong numbers, a
text that is not accepted is refused with an error of the expression, unless that would have to show
a limit that has too many digits itself (`RollService.perform_verdict`).
-/

namespace DiceTable

/-- Limits as they are meant to be: integers, and texts too short for any number not to be read. -/
structure Limit.Typed (diceLimit lengthLimit : Limit) : Prop where
  dice : ∃ bound : Int, diceLimit = bound
  length : ∃ bound : Int, bound ≤ Decimal.digitLimit ∧ lengthLimit = bound

/-- A configuration with such limits. -/
def Settings.WellTyped (config : Members) : Prop :=
  ∃ settings, ServiceSettings.ofConfig config = .ok settings ∧
    Limit.Typed settings.diceLimit settings.lengthLimit

namespace RollService

variable {σ : Type} {supplies : Supplies σ} {service : RollService σ} {text : String}
  {failure : Failure}

/-- A text is rolled to a result within the limits. -/
def Accepts (supplies : Supplies σ) (service : RollService σ) (text : String) : Prop :=
  ∃ result dice, service.Rolls supplies text result dice

theorem Accepts.not_refuses (accepts : service.Accepts supplies text) :
    ¬service.Refuses supplies (.str text) failure := by
  obtain ⟨result, dice, short, evaluated⟩ := accepts
  rintro (long | ⟨_, failed⟩)
  · rw [short] at long
    cases long
  · have answered : (supplies.source.evaluate service.diceLimit text service.dice).1 =
        .error failure := failed
    rw [evaluated] at answered
    cases answered

/-- An expression is refused in one way only. -/
theorem Refuses.unique {expression : Json} {other : Failure}
    (refused : service.Refuses supplies expression failure)
    (again : service.Refuses supplies expression other) : failure = other := by
  rcases refused with long | ⟨short, failed⟩
  · rcases again with longAgain | ⟨short, _⟩
    · exact Except.error.inj (long.symm.trans longAgain)
    · rw [long] at short
      cases short
  · rcases again with long | ⟨_, failedAgain⟩
    · rw [short] at long
      cases long
    · exact Except.error.inj (failed.symm.trans failedAgain)

/-- A text is short enough, or is refused as too long. -/
theorem guardLength_cases {bound : Int} (lengthLimit : service.lengthLimit = bound)
    (text : String) :
    (text.length ≤ bound ∧ service.guardLength (.str text) = .ok ()) ∨
      ∃ error, service.guardLength (.str text) = .error ((Limit.ofInt bound).refusal error) := by
  simp only [guardLength, lengthLimit, Limit.guard_ofInt]
  by_cases long : bound < text.length
  · exact .inr ⟨_, if_pos long⟩
  · exact .inl ⟨Int.not_lt.mp long, if_neg long⟩

def ShowsLimits (service : RollService σ) : Prop :=
  service.diceLimit.IsShort ∧ service.lengthLimit.IsShort

/-- What is refused is refused for what the expression is, or for a limit that is not shown. -/
theorem failure_of_refuses (inRange : supplies.source.InRange)
    (ends : supplies.source.EndsChains) (typed : Limit.Typed service.diceLimit service.lengthLimit)
    (refused : service.Refuses supplies (.str text) failure) :
    (∃ error, failure = .dice error) ∨
      failure = .unwritable Decimal.digitLimit ∧ ¬service.ShowsLimits := by
  obtain ⟨⟨diceBound, diceLimit⟩, lengthBound, within, lengthLimit⟩ := typed
  rcases refused with long | ⟨short, failed⟩
  · rcases guardLength_cases lengthLimit text with ⟨_, guarded⟩ | ⟨error, guarded⟩
    · rw [guarded] at long
      cases long
    · rw [guarded, ← lengthLimit] at long
      cases long
      by_cases shown : service.lengthLimit.IsShort
      · exact .inl ⟨error, shown.refusal_eq error⟩
      · exact .inr ⟨Limit.refusal_of_not_isShort shown error, fun both => shown both.2⟩
  · have atMost : (text.length : Int) ≤ lengthBound := by
      rcases guardLength_cases lengthLimit text with ⟨atMost, _⟩ | ⟨error, guarded⟩
      · exact atMost
      · rw [guarded] at short
        cases short
    have failed : (supplies.source.evaluate service.diceLimit text service.dice).1 =
        .error failure := failed
    rcases (inRange.serves ends).failsOnlyBy.evaluate_error failed with error | refusal | impossible
    · exact .inl error
    · cases refusal with
      | overflow => exact .inl ⟨_, rfl⟩
      | spec => exact .inl ⟨_, rfl⟩
      | unwritable long _ => exact .inr ⟨rfl, fun both => long both.1⟩
      | unreadable _ meets =>
        have long := meets.length
        have compact : (Text.compact text.toList).length ≤ text.toList.length :=
          List.length_filter_le ..
        rw [String.length_toList] at compact
        omega
      | incomparable undecided =>
        rw [diceLimit] at undecided
        cases undecided
    · exact impossible.elim

/-- An attempt makes a record if its text is accepted, and otherwise fails with an error of the
expression, or for a limit that is not shown. -/
theorem perform_verdict (inRange : supplies.source.InRange) (ends : supplies.source.EndsChains)
    (typed : Limit.Typed service.diceLimit service.lengthLimit) (text : String) (user : String)
    (origin : Option String) :
    (service.Accepts supplies text ∧
        ∃ record, (service.perform supplies (.str text) user origin).outcome = .ok record) ∨
      ¬service.Accepts supplies text ∧
        ∃ failure, service.Refuses supplies (.str text) failure ∧
          (service.perform supplies (.str text) user origin).outcome = .error failure ∧
          ((∃ error, failure = .dice error) ∨
            failure = .unwritable Decimal.digitLimit ∧ ¬service.ShowsLimits) := by
  rcases perform_cases supplies service (.str text) user origin with
    ⟨failure, _, refused, outcome, _⟩ | ⟨_, result, dice, same, rolls, tracked⟩
  · exact .inr ⟨fun accepts => accepts.not_refuses refused, failure, refused, outcome,
      failure_of_refuses inRange ends typed refused⟩
  · cases same
    exact .inl ⟨⟨result, dice, rolls⟩, _, by rw [tracked]; rfl⟩

end RollService

end DiceTable
