import DiceTable.Http.Route
import DiceTable.Service
import DiceTable.Settings.LogSetup
import DiceTable.Version

/-! # The HTTP surface

The app serves one roll service. Whatever a request leads to is a response: an error of an
expression is answered with status 400, an id that is not held with 404, and a failure that is no
error of the expression with 500. So is every response that would show a half of a character, which
has no encoding: a body may name a user with such halves, and the roll is made all the same.
-/

namespace DiceTable.Http

inductive Body where
  | json (value : Json)
  | text (text : String)
  deriving Repr

structure Response where
  status : Nat
  body : Body
  deriving Repr

structure App (σ : Type) where
  config : Members
  service : RollService σ
  /-- The ids of rolls for users with halves of characters in their names. -/
  unshowable : List String := []

/-- The response to a request, what was sent on the way, and the app afterwards. -/
structure Exchange (σ : Type) where
  response : Response
  app : App σ
  sent : List Transmission := []

def respond (status : Nat) (members : Members) : Response :=
  ⟨status, .json (.obj members)⟩

/-- The response where something fails that the app does not foresee. -/
def serverError : Response :=
  ⟨500, .text "Internal Server Error"⟩

def rolled (user : LooseText) (record : RollRecord) : Response :=
  if user.hasHalves then serverError else respond 200 record.members

/-- Whether an error shows a half of a character of the expression. No item holds one, so it takes
an error that shows what is not read as items. -/
def showsHalf (expression : LooseText) : DiceError → Bool
  | .tooLong _ _ => LooseText.hasHalves (expression.take RollService.openingLength)
  | .unexpected _ _ _ => expression.hasHalves
  | _ => false

def failed (expression : LooseText) : Failure → Response
  | .dice error =>
    if showsHalf expression error then serverError else respond 400 error.report.members
  | _ => serverError

/-- The response where an id is not held. -/
def unknownRoll (id : String) : Response :=
  respond 404 [("error", .str "unknown roll"), ("roll_id", .str id)]

/-- The members of a body that holds a JSON object, if it is nested no deeper than `depth` and its
integers have no more digits than are converted. -/
def bodyMembers? (depth : Nat) (body : List UInt8) : Option (Members LooseText) :=
  match (Text.decodeDetected body).bind (Json.read? (some Decimal.digitLimit) depth) with
  | some (.obj members) => some members
  | _ => none

/-- The user that a body names: any value that is not void, as messages show it. -/
def userOf (members : Members LooseText) : LooseText :=
  match members.get? (.ofString "user") with
  | none => []
  | some (.str text) => text
  | some value => if value.isVoid then [] else .ofChars value.shownChars

/-- What gets sent for a user: a line of text cannot hold halves of characters. -/
def sentFor (user : LooseText) (sent : List Transmission) : List Transmission :=
  if user.hasHalves then sent.map Transmission.withoutLine else sent

namespace App

variable {σ : Type}

def channel : String := "rollbox.main"

/-- What an app logs when it has started. -/
def opening (config : Members) (settings : ServiceSettings) :
    Except Settings.ConfigError (List LogEntry) := do
  let host ← Settings.required config "server" "host"
  let port ← Settings.required config "server" "port"
  let url := (Notifier.ofUrl settings.webhookUrl).url
  .ok (⟨.info, channel,
      "RollBox started — listening on " ++ host.display ++ ":" ++ port.display⟩ ::
    ((Settings.loggedNumber? settings.memoryLimit).toList.map fun capacity =>
      ⟨.info, channel, "Roll memory: " ++ Decimal.text capacity ++ " entries max"⟩) ++
    [⟨.info, channel, "Notifier: " ++ if url = "" then "disabled" else url⟩])

/-- Starts an app with a configuration. The log is set up first, and the app is there once it has
logged what it starts with. -/
def start (config : Members) (dice : σ) :
    Except Settings.ConfigError (App σ × List LogEntry) := do
  let _ ← Settings.LogSetup.ofConfig config
  let settings ← ServiceSettings.ofConfig config
  let log ← opening config settings
  .ok ({ config, service := .ofSettings settings dice }, log)

def closing : List LogEntry :=
  [⟨.info, channel, "RollBox shutting down"⟩]

def shownSection (app : App σ) (key : String) : Json :=
  (app.config.get? key).getD (.obj [])

/-- The response that shows the configuration, all numbers of which have to be writable. -/
def configuration (app : App σ) : Response :=
  let members : Members :=
    [("server", app.shownSection "server"), ("dice", app.shownSection "dice"),
      ("memory", app.shownSection "memory"),
      ("notifier", .obj [("enabled", .bool app.service.notifier.enabled)])]
  if (Json.obj members).isWritable then respond 200 members else serverError

/-- The app after a step of its service for a user. -/
def after (app : App σ) (user : LooseText) (step : ServiceStep σ (Option RollRecord)) : App σ :=
  { app with
    service := step.service
    unshowable := match step.outcome with
      | .ok (some record) =>
        if user.hasHalves then record.id :: app.unshowable else app.unshowable
      | _ => app.unshowable }

def roll (supplies : Supplies σ) (app : App σ) (body : List UInt8) : Exchange σ :=
  match bodyMembers? supplies.bodyDepth body with
  | none => { response := respond 400 [("error", .str "invalid JSON")], app }
  | some members =>
    match members.get? (.ofString "expression") with
    | some (.str expression) =>
      let user := userOf members
      let step := app.service.roll supplies (.str expression.replaced) user.replaced
      { response := match step.outcome with
          | .ok record => rolled user record
          | .error failure => failed expression failure
        app := app.after user { step with outcome := step.outcome.map some }
        sent := sentFor user step.sent }
    | _ => { response := respond 400 [("error", .str "expression must be a string")], app }

/-- The exchange that a request to roll again leads to. A body that cannot be read names nobody. -/
def reroll (supplies : Supplies σ) (app : App σ) (id : String) (body : List UInt8) :
    Exchange σ :=
  let user := userOf ((bodyMembers? supplies.bodyDepth body).getD [])
  let step := app.service.reroll supplies id user.replaced
  { response := match step.outcome with
      | .ok (some record) => rolled user record
      | .ok none => unknownRoll id
      | .error failure => failed [] failure
    app := app.after user step
    sent := sentFor user step.sent }

def lookup (app : App σ) (id : String) : Response :=
  match app.service.memory.get? id with
  | none => unknownRoll id
  | some stored =>
    match stored.createdAt.iso? with
    | none => serverError
    | some time =>
      if app.unshowable.contains id then serverError
      else respond 200 [("roll_id", .str id), ("expression", .str stored.expression),
        ("user", .str stored.user), ("created_at", .str time)]

def follow (supplies : Supplies σ) (app : App σ) (body : List UInt8) : Route → Exchange σ
  | .health =>
    { response := respond 200 [("status", .str "ok"), ("version", .str version)], app }
  | .config => { response := app.configuration, app }
  | .roll => app.roll supplies body
  | .reroll id => app.reroll supplies id body
  | .lookup id => { response := app.lookup id, app }
  | .forget id =>
    let (removed, service) := app.service.forget id
    { response := respond 200 [("removed", .bool removed)], app := { app with service } }
  | .unknownPath => { response := respond 404 [("detail", .str "Not Found")], app }
  | .wrongMethod => { response := respond 405 [("detail", .str "Method Not Allowed")], app }

/-- The exchange that a request leads to. A request for the head of a response gets no body. -/
def handle (supplies : Supplies σ) (app : App σ) (request : Request) : Exchange σ :=
  let exchange := app.follow supplies request.body (route request)
  if request.verb = "HEAD" then
    { exchange with response := { exchange.response with body := .text "" } }
  else exchange

end App

end DiceTable.Http
