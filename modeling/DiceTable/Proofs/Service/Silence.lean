import DiceTable.Proofs.Rolling.Observation
import DiceTable.Proofs.Service.Delivery
import DiceTable.Proofs.Service.Run

/-! # Silent services

A service is silenced by switching its notifier off and giving it a network that works. That takes
nothing away but what the notifier sends and logs: each step of the silent service is the silenced
step of the other one (`RollService.roll_silenced`, `RollService.reroll_silenced`), and a whole run
has the same effects (`RollService.effects_silenced`). So services that are the same once silenced
cannot be told apart but by their announcements.
-/

namespace DiceTable

variable {σ α : Type}

/-- A request as it is where the network works. -/
def Request.silenced : Request σ → Request σ
  | .surroundings dice clock _ => .surroundings dice clock {}
  | request => request

def RollService.silenced (service : RollService σ) : RollService σ :=
  { service with notifier := Notifier.ofUrl "", network := {} }

def ServiceStep.silenced (step : ServiceStep σ α) : ServiceStep σ α where
  outcome := step.outcome
  service := step.service.silenced
  announcements := step.announcements.map fun announcement =>
    { announcement with delivery := {} }
  log := step.log.filter fun entry => entry.channel ≠ Notifier.channel

inductive Reply where
  | rolled (outcome : Except Failure RollRecord)
  | rerolled (outcome : Except Failure (Option RollRecord))
  | forgotten (removed : Bool)
  | nothing

/-- What comes of a request, apart from announcements: the reply, and then the state of the source
and the memory. -/
structure Effect (σ : Type) where
  reply : Reply
  dice : σ
  memory : RollMemory

/-- The supplies with a log of what the source is asked for. -/
def Supplies.observed (supplies : Supplies σ) : Supplies (σ × List Inquiry) where
  source := supplies.source.observed
  sourceName := supplies.sourceName
  rollId := supplies.rollId
  now := supplies.now
  embedTime := supplies.embedTime
  bodyDepth := supplies.bodyDepth

namespace RollService

variable {supplies : Supplies σ} {service other : RollService σ}

def reply (supplies : Supplies σ) (service : RollService σ) : Request σ → Reply
  | .roll expression user => .rolled (service.roll supplies expression user).outcome
  | .reroll id user => .rerolled (service.reroll supplies id user).outcome
  | .forget id => .forgotten (service.forget id).1
  | .surroundings .. => .nothing

/-- What comes of requests, one after the other. -/
def effects (supplies : Supplies σ) (service : RollService σ) :
    List (Request σ) → List (Effect σ)
  | [] => []
  | request :: requests =>
    let after := service.after supplies request
    ⟨service.reply supplies request, after.dice, after.memory⟩ :: effects supplies after requests

section Steps

/-- What a service logs in its own name is kept. -/
theorem silenced_cons (level : LogLevel) (message : String) (log : List LogEntry) :
    ((⟨level, channel, message⟩ : LogEntry) :: log).filter
        (fun entry => entry.channel ≠ Notifier.channel) =
      ⟨level, channel, message⟩ :: log.filter fun entry => entry.channel ≠ Notifier.channel :=
  List.filter_cons_of_pos (decide_eq_true channel_ne)

theorem logFirst_silenced (level : LogLevel) (message : String) (step : ServiceStep σ α) :
    logFirst [⟨level, channel, message⟩] step.silenced =
      (logFirst [⟨level, channel, message⟩] step).silenced := by
  simp only [logFirst, ServiceStep.silenced, List.singleton_append, silenced_cons]

/-- What is tracked does not depend on who hears of it. -/
theorem track_silenced (supplies : Supplies σ) (service : RollService σ) (result : RollResult)
    (user : String) (origin : Option String) :
    track supplies service.silenced result user origin =
      (track supplies service result user origin).silenced := by
  have evictions : ∀ ids : List String, (ids.map fun old =>
      (⟨.debug, memoryChannel, "RollMemory evicted " ++ old⟩ : LogEntry)).filter
        (fun entry => entry.channel ≠ Notifier.channel) = ids.map fun old =>
          ⟨.debug, memoryChannel, "RollMemory evicted " ++ old⟩ := fun ids =>
    List.filter_eq_self.mpr fun entry member => decide_eq_true (channel_of_mem_evictions member)
  have announced : ∀ payload, (service.notifier.deliver service.network payload).log.filter
      (fun entry => entry.channel ≠ Notifier.channel) = [] := fun payload =>
    List.filter_eq_nil_iff.mpr fun entry member => by
      simp [Notifier.log_deliver _ _ payload entry member]
  simp only [ServiceStep.silenced, track_eq, List.filter_append, announced, evictions]
  rfl

/-- An attempt draws, succeeds and fails alike without a notifier. -/
theorem perform_silenced (supplies : Supplies σ) (service : RollService σ) (expression : Json)
    (user : String) (origin : Option String) :
    service.silenced.perform supplies expression user origin =
      (service.perform supplies expression user origin).silenced := by
  have guard : service.silenced.guardLength expression = service.guardLength expression := by
    cases expression <;> rfl
  have limit : service.silenced.diceLimit = service.diceLimit := rfl
  have dice : service.silenced.dice = service.dice := rfl
  simp only [perform, guard, limit, dice]
  cases service.guardLength expression with
  | error failure => rfl
  | ok =>
    rcases supplies.source.evaluateJson service.diceLimit expression service.dice with
      ⟨outcome, after⟩
    cases outcome with
    | ok result => exact track_silenced supplies { service with dice := after } result user origin
    | error failure =>
      have kept : (refusal user expression failure).filter
          (fun entry => entry.channel ≠ Notifier.channel) = refusal user expression failure :=
        List.filter_eq_self.mpr fun entry member => by
          rw [channel_of_mem_refusal member]
          decide
      simp only [ServiceStep.silenced, kept]
      rfl

theorem roll_silenced (supplies : Supplies σ) (service : RollService σ) (expression : Json)
    (user : String) :
    service.silenced.roll supplies expression user =
      (service.roll supplies expression user).silenced := by
  rw [roll, perform_silenced, logFirst_silenced, roll]

theorem reroll_silenced (supplies : Supplies σ) (service : RollService σ) (id user : String) :
    service.silenced.reroll supplies id user =
      (service.reroll supplies id user).silenced := by
  have memory : service.silenced.memory = service.memory := rfl
  simp only [reroll, memory]
  cases service.memory.get? id with
  | none =>
    simp only [ServiceStep.silenced, silenced_cons]
    rfl
  | some stored =>
    simp only [perform_silenced]
    rw [logFirst_silenced]
    rfl

/-- A request to the silent service leads to the silenced service, with the same reply. -/
theorem after_silenced (supplies : Supplies σ) (service : RollService σ) (request : Request σ) :
    service.silenced.after supplies request.silenced =
        (service.after supplies request).silenced ∧
      service.silenced.reply supplies request.silenced = service.reply supplies request := by
  cases request with
  | roll expression user =>
    simp only [Request.silenced, after, reply, roll_silenced]
    exact ⟨rfl, rfl⟩
  | reroll id user =>
    simp only [Request.silenced, after, reply, reroll_silenced]
    exact ⟨rfl, rfl⟩
  | forget id => exact ⟨rfl, rfl⟩
  | surroundings dice clock network => exact ⟨rfl, rfl⟩

end Steps

/-- A run of the silent service has the effects of the other one. -/
theorem effects_silenced (supplies : Supplies σ) (service : RollService σ)
    (requests : List (Request σ)) :
    service.silenced.effects supplies (requests.map Request.silenced) =
      service.effects supplies requests := by
  induction requests generalizing service with
  | nil => rfl
  | cons request requests ih =>
    obtain ⟨after, reply⟩ := after_silenced supplies service request
    simp only [List.map_cons, effects, after, reply, ih]
    rfl

/-- The URL of a new service is not heard once it is silenced. -/
theorem silenced_ofSettings (settings : ServiceSettings) (url : String) (dice : σ) :
    (ofSettings { settings with webhookUrl := url } dice).silenced =
      (ofSettings settings dice).silenced := rfl

/-- Services that are the same once silenced have the same effects, however the networks behave. -/
theorem effects_congr (same : service.silenced = other.silenced)
    {requests others : List (Request σ)}
    (alike : requests.map Request.silenced = others.map Request.silenced) :
    service.effects supplies requests = other.effects supplies others := by
  rw [← effects_silenced, same, alike, effects_silenced]

end RollService

end DiceTable
