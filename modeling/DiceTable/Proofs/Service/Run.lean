import DiceTable.Proofs.Memory.Entries
import DiceTable.Proofs.Rolling.Outcome
import DiceTable.Service

/-! # Runs of a service

A service takes requests one after the other, and its surroundings may change in between. A roll
that fails changes nothing but the state of the source, and one that succeeds is tracked
(`RollService.perform_cases`). So a service remembers nothing but what was stored for a result, and
whatever all such rolls have in common still holds of the memory after any run
(`RollService.remembers_run`).
-/

namespace DiceTable

/-- A request to a service, or a change of what is around it. -/
inductive Request (σ : Type) where
  | roll (expression : Json) (user : String)
  | reroll (id user : String)
  | forget (id : String)
  /-- The source has been used elsewhere, time has passed, the network behaves otherwise. -/
  | surroundings (dice : σ) (clock : List Moment) (network : Network)

/-- Supplies that give out the numbers from zero on as ids. -/
def Supplies.numbered {σ : Type} (source : Source σ) : Supplies σ where
  source
  sourceName := "Rng"
  rollId n := Decimal.text n
  now := ""
  embedTime := ""
  bodyDepth := 9

theorem Supplies.numbered_injective {σ : Type} (source : Source σ) :
    Function.Injective (numbered source).rollId :=
  fun _ _ same => Int.ofNat.inj (Decimal.text_injective same)

namespace RollService

variable {σ : Type} {supplies : Supplies σ} {service : RollService σ}

def after (supplies : Supplies σ) (service : RollService σ) : Request σ → RollService σ
  | .roll expression user => (service.roll supplies expression user).service
  | .reroll id user => (service.reroll supplies id user).service
  | .forget id => (service.forget id).2
  | .surroundings dice clock network => { service with dice, clock, network }

def run (supplies : Supplies σ) (service : RollService σ) (requests : List (Request σ)) :
    RollService σ :=
  requests.foldl (after supplies) service

/-- An expression is rolled to a result, which leaves the source in a state. -/
structure Rolls (supplies : Supplies σ) (service : RollService σ) (text : String)
    (result : RollResult) (dice : σ) : Prop where
  short : service.guardLength (.str text) = .ok ()
  evaluated : supplies.source.evaluate service.diceLimit text service.dice = (.ok result, dice)

/-- An expression is refused: it is too long, or it is not evaluated. -/
def Refuses (supplies : Supplies σ) (service : RollService σ) (expression : Json)
    (failure : Failure) : Prop :=
  service.guardLength expression = .error failure ∨
    service.guardLength expression = .ok () ∧
      (supplies.source.evaluateJson service.diceLimit expression service.dice).1 = .error failure

theorem evaluateJson_eq_ok {source : Source σ} {limit : Limit} {expression : Json} {dice last : σ}
    {result : RollResult}
    (answer : source.evaluateJson limit expression dice = (.ok result, last)) :
    ∃ text, expression = .str text ∧ source.evaluate limit text dice = (.ok result, last) := by
  cases expression with
  | str text => exact ⟨text, rfl, answer⟩
  | _ => cases answer

/-- What tracking a result comes to: the roll is stored first, so the announcement finds the memory
as it is afterwards. -/
theorem track_eq (supplies : Supplies σ) (service : RollService σ) (result : RollResult)
    (user : String) (origin : Option String) :
    let record : RollRecord := ⟨supplies.rollId service.issued, user, result, origin⟩
    let roll : StoredRoll := ⟨result.canonical, user, service.time⟩
    let memory := service.memory.store record.id roll
    let payload := Payload.ofRecord record supplies.now supplies.embedTime
    let delivery := service.notifier.deliver service.network payload
    track supplies service result user origin =
      { outcome := .ok record
        service := { service with
          memory, issued := service.issued + 1, clock := service.clock.tail }
        announcements := [⟨payload, memory, delivery⟩]
        log := (service.memory.evicted record.id roll).map (fun old =>
          ⟨.debug, memoryChannel, "RollMemory evicted " ++ old⟩) ++ delivery.log } :=
  rfl

/-- A refusal is logged by the service itself, if at all. -/
theorem channel_of_mem_refusal {user : String} {expression : Json} {failure : Failure}
    {entry : LogEntry} (member : entry ∈ refusal user expression failure) :
    entry.channel = channel := by
  cases failure with
  | dice error =>
    rw [List.mem_singleton.mp member]
  | _ => cases member

/-- A roll is refused and leaves all but the source as it was, or succeeds and is tracked. -/
theorem perform_cases (supplies : Supplies σ) (service : RollService σ) (expression : Json)
    (user : String) (rerolledFrom : Option String) :
    let step := service.perform supplies expression user rerolledFrom
    (∃ failure dice, service.Refuses supplies expression failure ∧ step.outcome = .error failure ∧
        step.service = { service with dice } ∧ step.announcements = [] ∧
        ∀ entry ∈ step.log, entry.channel = channel) ∨
      ∃ text result dice, expression = .str text ∧ service.Rolls supplies text result dice ∧
        step = track supplies { service with dice } result user rerolledFrom := by
  intro step
  simp only [step, perform]
  cases guarded : service.guardLength expression with
  | error failure => exact .inl ⟨failure, service.dice, .inl guarded, rfl, rfl, rfl, nofun⟩
  | ok =>
    rcases evaluated : supplies.source.evaluateJson service.diceLimit expression service.dice with
      ⟨outcome, dice⟩
    cases outcome with
    | error failure =>
      exact .inl ⟨failure, dice, .inr ⟨guarded, congrArg Prod.fst evaluated⟩, rfl, rfl, rfl,
        fun _ => channel_of_mem_refusal⟩
    | ok result =>
      obtain ⟨text, rfl, evaluated⟩ := evaluateJson_eq_ok evaluated
      exact .inr ⟨text, result, dice, rfl, ⟨guarded, evaluated⟩, rfl⟩

/-- The limits that a service was built with. -/
def limits (service : RollService σ) : Limit × Limit :=
  (service.diceLimit, service.lengthLimit)

theorem limits_perform (expression : Json) (user : String) (rerolledFrom : Option String) :
    (service.perform supplies expression user rerolledFrom).service.limits = service.limits := by
  rcases perform_cases supplies service expression user rerolledFrom with
    ⟨_, dice, _, _, same, _⟩ | ⟨_, result, dice, _, _, same⟩
  · rw [same]
    rfl
  · rw [same]
    rfl

theorem limits_after (request : Request σ) :
    (service.after supplies request).limits = service.limits := by
  cases request with
  | roll expression user => exact limits_perform expression user none
  | reroll id user =>
    simp only [after, reroll]
    split
    · rfl
    · exact limits_perform _ user (some id)
  | forget id => rfl
  | surroundings dice clock network => rfl

/-- No request changes the limits of a service. -/
theorem limits_run (requests : List (Request σ)) :
    (service.run supplies requests).limits = service.limits := by
  induction requests generalizing service with
  | nil => rfl
  | cons request requests ih => exact ih.trans (limits_after request)

/-- All remembered rolls have something in common. -/
def Remembers (service : RollService σ) (property : StoredRoll → Prop) : Prop :=
  ∀ entry ∈ service.memory.entries, property entry.2

/-- What is stored for a result has something in common, whatever state a service is in. -/
def Tracks (supplies : Supplies σ) (limits : Limit × Limit) (property : StoredRoll → Prop) : Prop :=
  ∀ (service : RollService σ) text result dice roll, service.limits = limits →
    service.Rolls supplies text result dice → roll.expression = result.canonical → property roll

variable {property : StoredRoll → Prop}

theorem remembers_perform (tracks : Tracks supplies service.limits property)
    (before : service.Remembers property) (expression : Json) (user : String)
    (rerolledFrom : Option String) :
    (service.perform supplies expression user rerolledFrom).service.Remembers property := by
  rcases perform_cases supplies service expression user rerolledFrom with
    ⟨_, dice, _, _, same, _⟩ | ⟨text, result, dice, _, rolls, same⟩
  · rw [same]
    exact before
  · rw [same]
    intro entry member
    rcases RollMemory.mem_entries_store member with rfl | member
    · exact tracks service text result dice _ rfl rolls rfl
    · exact before entry member

theorem remembers_after (tracks : Tracks supplies service.limits property)
    (before : service.Remembers property) (request : Request σ) :
    (service.after supplies request).Remembers property := by
  cases request with
  | roll expression user => exact remembers_perform tracks before expression user none
  | reroll id user =>
    simp only [after, reroll]
    split
    · exact before
    · exact remembers_perform tracks before _ user (some id)
  | forget id => exact fun entry member => before entry (RollMemory.mem_entries_remove member)
  | surroundings dice clock network => exact before

/-- After a run, all remembered rolls have in common what is always stored. -/
theorem remembers_run (tracks : Tracks supplies service.limits property)
    (before : service.Remembers property) (requests : List (Request σ)) :
    (service.run supplies requests).Remembers property := by
  induction requests generalizing service with
  | nil => exact before
  | cons request requests ih =>
    refine ih ?_ (remembers_after tracks before request)
    rw [limits_after]
    exact tracks

theorem remembers_ofSettings (settings : ServiceSettings) (dice : σ) :
    (ofSettings settings dice).Remembers property := by
  intro entry member
  cases member

end RollService

end DiceTable
