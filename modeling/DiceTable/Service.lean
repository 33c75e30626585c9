import DiceTable.Dice.Input
import DiceTable.Json.Display
import DiceTable.Memory
import DiceTable.Notify
import DiceTable.Settings.Section

/-! # The roll service

The service rolls expressions for users. A roll that succeeds gets an id, is remembered, and is
announced; a roll that fails changes nothing but the state of the source of random integers. A
remembered roll can be made again by anyone who has its id.
-/

namespace DiceTable

/-- What a service is supplied with from outside: random integers, the ids of its rolls in the
order they are given out, and the times at which rolls are announced. -/
structure Supplies (σ : Type) where
  source : Source σ
  /-- The name of the source in the log. -/
  sourceName : String
  rollId : Nat → String
  now : String
  /-- The time when the embed of an announcement is made, for which the clock is read again. -/
  embedTime : String
  /-- How deeply nested a request may be to be read. -/
  bodyDepth : Nat

/-- A roll service, where `σ` is the type of states of its source of random integers. -/
structure RollService (σ : Type) where
  diceLimit : Limit
  lengthLimit : Limit
  notifier : Notifier
  memory : RollMemory
  /-- The state of the source of random integers. -/
  dice : σ
  /-- How many ids have been given out. -/
  issued : Nat := 0
  /-- The times at which the next rolls are remembered. -/
  clock : List Moment := []
  network : Network := {}

/-- An announcement, with the memory as it is at that moment. -/
structure Announcement where
  payload : Payload
  memory : RollMemory
  delivery : Delivery

structure ServiceStep (σ α : Type) where
  outcome : Except Failure α
  service : RollService σ
  /-- The announcements that are made, in their order. -/
  announcements : List Announcement := []
  log : List LogEntry := []

def ServiceStep.sent {σ α : Type} (step : ServiceStep σ α) : List Transmission :=
  step.announcements.flatMap (·.delivery.sent)

inductive Tracking where
  /-- The roll is remembered under an id. -/
  | store (id : String) (roll : StoredRoll)
  | announce (payload : Payload)

namespace RollService

variable {σ : Type}

def channel : String := "rollbox.service"

def memoryChannel : String := "rollbox.roll_memory"

def engineChannel : String := "rollbox.dice.engine"

def ofSettings (settings : ServiceSettings) (dice : σ) : RollService σ where
  diceLimit := settings.diceLimit
  lengthLimit := settings.lengthLimit
  notifier := Notifier.ofUrl settings.webhookUrl
  memory := RollMemory.ofLimit settings.memoryLimit
  dice

/-- What a new engine logs, if the log can show its limit. -/
def engineOpening (sourceName : String) (limit : Limit) : List LogEntry :=
  (Settings.loggedNumber? limit).toList.map fun shown =>
    ⟨.info, engineChannel,
      "DiceEngine initialized (rng=" ++ sourceName ++ ", max_dice=" ++ Decimal.text shown ++ ")"⟩

def opening (supplies : Supplies σ) (settings : ServiceSettings) : List LogEntry :=
  engineOpening supplies.sourceName settings.diceLimit ++
    (Notifier.ofUrl settings.webhookUrl).opening

def time (service : RollService σ) : Moment :=
  service.clock.headD (.whole 0)

/-- How much of a text that is too long is shown. -/
def openingLength : Nat := 32

def guardLength (service : RollService σ) : Json → Except Failure Unit
  | .str text =>
    service.lengthLimit.guard text.length
      (.tooLong service.lengthLimit.text (String.ofList (text.toList.take openingLength)))
  | _ => .ok ()

/-- The entry for an expression that could not be rolled, unless the cause lies elsewhere. -/
def refusal (user : String) (expression : Json) : Failure → List LogEntry
  | .dice error =>
    [⟨.warning, channel,
      "[Dice] eval failed by:" ++ user ++ " expr:'" ++ expression.display ++ "' (" ++
        error.kind.name ++ ": " ++ error.message ++ ")"⟩]
  | _ => []

/-- What is done about a roll, behind what has been done already. -/
def act {α : Type} (step : ServiceStep σ α) : Tracking → ServiceStep σ α
  | .store id roll =>
    let service := step.service
    { step with
      service :=
        { service with memory := service.memory.store id roll, clock := service.clock.tail }
      log := step.log ++ (service.memory.evicted id roll).map fun old =>
        ⟨.debug, memoryChannel, "RollMemory evicted " ++ old⟩ }
  | .announce payload =>
    let service := step.service
    let delivery := service.notifier.deliver service.network payload
    { step with
      announcements := step.announcements ++ [⟨payload, service.memory, delivery⟩]
      log := step.log ++ delivery.log }

/-- Gives a result an id, remembers its expression and then announces it. -/
def track (supplies : Supplies σ) (service : RollService σ) (result : RollResult) (user : String)
    (rerolledFrom : Option String) : ServiceStep σ RollRecord :=
  let id := supplies.rollId service.issued
  let record : RollRecord := { id, user, result, rerolledFrom }
  let stored : StoredRoll :=
    { expression := result.canonical, user, createdAt := service.time }
  let payload := Payload.ofRecord record supplies.now supplies.embedTime
  [.store id stored, .announce payload].foldl act
    { outcome := .ok record, service := { service with issued := service.issued + 1 } }

/-- Evaluates an expression and tracks its result. -/
def perform (supplies : Supplies σ) (service : RollService σ) (expression : Json) (user : String)
    (rerolledFrom : Option String) : ServiceStep σ RollRecord :=
  match service.guardLength expression with
  | .error failure => { outcome := .error failure, service }
  | .ok () =>
    let (outcome, dice) := supplies.source.evaluateJson service.diceLimit expression service.dice
    let service := { service with dice }
    match outcome with
    | .error failure =>
      { outcome := .error failure, service, log := refusal user expression failure }
    | .ok result => track supplies service result user rerolledFrom

def logFirst {α : Type} (entries : List LogEntry) (step : ServiceStep σ α) : ServiceStep σ α :=
  { step with log := entries ++ step.log }

def logName (user : String) : String :=
  if user = "" then "-" else user

def roll (supplies : Supplies σ) (service : RollService σ) (expression : Json) (user : String) :
    ServiceStep σ RollRecord :=
  logFirst [⟨.info, channel,
      "[Dice] roll by:" ++ logName user ++ " expr:'" ++ expression.display ++ "'"⟩]
    (perform supplies service expression user none)

/-- Rolls a remembered expression again; there is no record if the id is not held. -/
def reroll (supplies : Supplies σ) (service : RollService σ) (id : String) (user : String) :
    ServiceStep σ (Option RollRecord) :=
  match service.memory.get? id with
  | none =>
    { outcome := .ok none
      service
      log := [⟨.debug, channel, "[Dice] reroll of unknown roll " ++ id⟩] }
  | some stored =>
    let step := logFirst [⟨.info, channel,
        "[Dice] reroll by:" ++ logName user ++ " of:" ++ id ++ " expr:'" ++ stored.expression ++
          "'"⟩]
      (perform supplies service (.str stored.expression) user (some id))
    { outcome := step.outcome.map some, service := step.service,
      announcements := step.announcements, log := step.log }

def forget (service : RollService σ) (id : String) : Bool × RollService σ :=
  (service.memory.contains id, { service with memory := service.memory.remove id })

end RollService

end DiceTable
