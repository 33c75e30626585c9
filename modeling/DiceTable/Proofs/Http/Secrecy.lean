import DiceTable.Proofs.Http.Run
import DiceTable.Proofs.Service.Announcement
import DiceTable.Proofs.Service.Silence

/-! # Who is told makes no difference

Two configurations may name different URLs for announcements, and the networks of their services may
behave as they like. The services still have the same effects, and two apps answer every request
alike (`App.Alike.handle`): one thing only is shown of the URL, and that is whether it is empty
(`webhook_secrecy`).
-/

namespace DiceTable

/-- Two configurations that differ in nothing outside of the section of the notifier, where each
names a URL. -/
structure Settings.DifferInUrl (config other : Members) (url otherUrl : String) : Prop where
  elsewhere : ∀ key, key ≠ "notifier" → config.get? key = other.get? key
  named : ∃ members : Members, config.get? "notifier" = some (.obj members) ∧
    members.get? "webhook_url" = some (.str url)
  otherNamed : ∃ members : Members, other.get? "notifier" = some (.obj members) ∧
    members.get? "webhook_url" = some (.str otherUrl)

namespace Settings

variable {config other : Members} {url otherUrl : String}

theorem optionalUrl_of_named
    (named : ∃ members : Members, config.get? "notifier" = some (.obj members) ∧
      members.get? "webhook_url" = some (.str url)) :
    (optionalSection config "notifier" >>= fun notifier => optionalUrl notifier "webhook_url") =
      .ok url := by
  obtain ⟨members, here, value⟩ := named
  unfold optionalSection
  rw [here]
  simp only [bind, Except.bind, optionalUrl, value]

theorem DifferInUrl.optionalSection (differ : DifferInUrl config other url otherUrl) {key : String}
    (elsewhere : key ≠ "notifier") :
    Settings.optionalSection config key = Settings.optionalSection other key := by
  unfold Settings.optionalSection
  rw [differ.elsewhere key elsewhere]

theorem DifferInUrl.required (differ : DifferInUrl config other url otherUrl) {part : String}
    (elsewhere : part ≠ "notifier") (key : String) :
    Settings.required config part key = Settings.required other part key := by
  unfold Settings.required
  rw [differ.elsewhere part elsewhere]

/-- A service of the other configuration is built alike, but for its URL. -/
theorem DifferInUrl.ofConfig (differ : DifferInUrl config other url otherUrl)
    {settings : ServiceSettings} (read : ServiceSettings.ofConfig config = .ok settings) :
    settings.webhookUrl = url ∧
      ServiceSettings.ofConfig other = .ok { settings with webhookUrl := otherUrl } := by
  unfold ServiceSettings.ofConfig at read ⊢
  obtain ⟨dice, diceSection, read⟩ := Except.bind_eq_ok.mp read
  obtain ⟨memory, memorySection, read⟩ := Except.bind_eq_ok.mp read
  obtain ⟨limit, fromOne, read⟩ := Except.bind_eq_ok.mp read
  obtain ⟨notifier, notifierSection, read⟩ := Except.bind_eq_ok.mp read
  obtain ⟨named, urlRead, answer⟩ := Except.bind_eq_ok.mp read
  cases answer
  have here := optionalUrl_of_named differ.named
  rw [notifierSection] at here
  have there := optionalUrl_of_named differ.otherNamed
  obtain ⟨otherNotifier, otherSection, otherRead⟩ := Except.bind_eq_ok.mp there
  rw [differ.optionalSection (by decide)] at diceSection memorySection
  refine ⟨Except.ok.inj (urlRead.symm.trans here), ?_⟩
  simp only [bind, Except.bind, diceSection, memorySection, fromOne, otherSection, otherRead]

end Settings

variable {σ : Type} {supplies : Supplies σ} {service otherService : RollService σ}

/-- Steps that are the same once silenced have the same outcome. -/
theorem ServiceStep.outcome_congr {α : Type} {step otherStep : ServiceStep σ α}
    (same : step.silenced = otherStep.silenced) : step.outcome = otherStep.outcome := by
  have outcomes : step.silenced.outcome = otherStep.silenced.outcome :=
    congrArg ServiceStep.outcome same
  exact outcomes

theorem ServiceStep.silenced_with_outcome {α β : Type} {step otherStep : ServiceStep σ α}
    (same : step.silenced = otherStep.silenced) (outcome : Except Failure β) :
    ({ step with outcome } : ServiceStep σ β).silenced =
      ({ otherStep with outcome } : ServiceStep σ β).silenced := by
  simp only [silenced, ServiceStep.mk.injEq] at same ⊢
  exact ⟨trivial, same.2⟩

namespace RollService

/-- Services that are the same once silenced roll alike. -/
theorem roll_congr (same : service.silenced = otherService.silenced) (supplies : Supplies σ)
    (expression : Json) (user : String) :
    (service.roll supplies expression user).silenced =
      (otherService.roll supplies expression user).silenced := by
  rw [← roll_silenced, same, roll_silenced]

theorem reroll_congr (same : service.silenced = otherService.silenced) (supplies : Supplies σ)
    (id user : String) :
    (service.reroll supplies id user).silenced =
      (otherService.reroll supplies id user).silenced := by
  rw [← reroll_silenced, same, reroll_silenced]

end RollService

namespace Http

/-- An event as it is where the network works. -/
def Event.silenced : Event σ → Event σ
  | .surroundings dice clock _ => .surroundings dice clock {}
  | .received request => .received request

/-- Two responses of an endpoint are the same, or they show configurations that differ in whether a
URL is empty. -/
inductive SameButEnabled (url otherUrl : String) : Route → Response → Response → Prop
  | same (endpoint : Route) (response : Response) :
      SameButEnabled url otherUrl endpoint response response
  | shown (members : Members) :
      SameButEnabled url otherUrl .config
        (respond 200 (members ++ [("notifier", .obj [("enabled", .bool (url ≠ ""))])]))
        (respond 200 (members ++ [("notifier", .obj [("enabled", .bool (otherUrl ≠ ""))])]))

namespace App

variable {app other : App σ} {url otherUrl : String}

/-- Two apps that differ in nothing but whom they tell. -/
structure Alike (url otherUrl : String) (app other : App σ) : Prop where
  service : app.service.silenced = other.service.silenced
  unshowable : app.unshowable = other.unshowable
  sections : ∀ key, key ≠ "notifier" → app.config.get? key = other.config.get? key
  notifier : app.service.notifier = Notifier.ofUrl url
  otherNotifier : other.service.notifier = Notifier.ofUrl otherUrl

theorem Alike.memory (alike : Alike url otherUrl app other) :
    app.service.memory = other.service.memory := by
  have same : app.service.silenced.memory = other.service.silenced.memory :=
    congrArg RollService.memory alike.service
  exact same

theorem Alike.configuration (alike : Alike url otherUrl app other) :
    SameButEnabled url otherUrl .config app.configuration other.configuration := by
  have shown (key : String) (elsewhere : key ≠ "notifier") :
      app.shownSection key = other.shownSection key := by
    rw [shownSection, shownSection, alike.sections key elsewhere]
  simp only [App.configuration, shown "server" (by decide), shown "dice" (by decide),
    shown "memory" (by decide), alike.notifier, alike.otherNotifier]
  simp only [Json.isWritable, Json.membersWritable, Bool.and_true]
  split
  · exact .shown [("server", other.shownSection "server"), ("dice", other.shownSection "dice"),
      ("memory", other.shownSection "memory")]
  · exact .same _ _

/-- Steps of the two services that are the same once silenced leave the apps alike. -/
theorem Alike.after (alike : Alike url otherUrl app other) (user : LooseText)
    {step otherStep : ServiceStep σ (Option RollRecord)}
    (same : step.silenced = otherStep.silenced)
    (notifier : step.service.notifier = app.service.notifier)
    (otherNotifier : otherStep.service.notifier = other.service.notifier) :
    Alike url otherUrl (app.after user step) (other.after user otherStep) where
  service := by
    have services : step.silenced.service = otherStep.silenced.service :=
      congrArg ServiceStep.service same
    exact services
  unshowable := by
    simp only [App.after, ServiceStep.outcome_congr same, alike.unshowable]
  sections := alike.sections
  notifier := notifier.trans alike.notifier
  otherNotifier := otherNotifier.trans alike.otherNotifier

/-- Apps that are alike follow every route alike, and stay so. -/
theorem Alike.follow (alike : Alike url otherUrl app other) (supplies : Supplies σ)
    (body : List UInt8) (endpoint : Route) :
    SameButEnabled url otherUrl endpoint (app.follow supplies body endpoint).response
        (other.follow supplies body endpoint).response ∧
      Alike url otherUrl (app.follow supplies body endpoint).app
        (other.follow supplies body endpoint).app := by
  cases endpoint with
  | health => exact ⟨.same _ _, alike⟩
  | config => exact ⟨alike.configuration, alike⟩
  | roll =>
    cases asked : expression? supplies.bodyDepth body with
    | none =>
      obtain ⟨_, refused⟩ := roll_of_expression?_eq_none asked
      simp only [App.follow, refused]
      exact ⟨.same _ _, alike⟩
    | some expression =>
      have same := RollService.roll_congr alike.service supplies (.str expression.replaced)
        (namedUser supplies.bodyDepth body).replaced
      have outcome := ServiceStep.outcome_congr same
      simp only [App.follow, roll_of_expression? supplies _ asked, outcome]
      refine ⟨.same _ _, alike.after _ ?_ ?_ ?_⟩
      · exact ServiceStep.silenced_with_outcome same _
      · exact RollService.notifier_after supplies app.service (.roll _ _)
      · exact RollService.notifier_after supplies other.service (.roll _ _)
  | reroll id =>
    have same := RollService.reroll_congr alike.service supplies id
      (namedUser supplies.bodyDepth body).replaced
    have outcome := ServiceStep.outcome_congr same
    refine ⟨?_, alike.after _ same ?_ ?_⟩
    · simp only [namedUser] at outcome
      simp only [App.follow, App.reroll, outcome]
      exact .same _ _
    · exact RollService.notifier_after supplies app.service (.reroll _ _)
    · exact RollService.notifier_after supplies other.service (.reroll _ _)
  | lookup id =>
    have shown : app.lookup id = other.lookup id := by
      simp only [lookup, alike.memory, alike.unshowable]
    simp only [App.follow, shown]
    exact ⟨.same _ _, alike⟩
  | forget id =>
    have removed : app.service.memory.contains id = other.service.memory.contains id := by
      rw [alike.memory]
    simp only [App.follow, RollService.forget, removed]
    refine ⟨.same _ _, ?_, alike.unshowable, alike.sections, alike.notifier, alike.otherNotifier⟩
    have services : app.service.silenced.forget id = other.service.silenced.forget id := by
      rw [alike.service]
    exact congrArg Prod.snd services
  | unknownPath => exact ⟨.same _ _, alike⟩
  | wrongMethod => exact ⟨.same _ _, alike⟩

/-- Apps that are alike answer every request alike, and stay so. -/
theorem Alike.handle (alike : Alike url otherUrl app other) (supplies : Supplies σ)
    (request : Request) :
    SameButEnabled url otherUrl (route request) (app.handle supplies request).response
        (other.handle supplies request).response ∧
      Alike url otherUrl (app.handle supplies request).app (other.handle supplies request).app := by
  obtain ⟨responses, apps⟩ := alike.follow supplies request.body (route request)
  rw [handle_app, handle_app]
  refine ⟨?_, apps⟩
  unfold App.handle
  dsimp only
  split
  · rename_i head
    -- No head of a configuration is shown.
    rcases route_of_head head with unknown | wrong
    · rw [unknown]
      exact .same _ _
    · rw [wrong]
      exact .same _ _
  · exact responses

/-- The requests among events and the responses to them, in their order. -/
def exchanges (supplies : Supplies σ) (app : App σ) :
    List (Event σ) → List (Request × Response)
  | [] => []
  | .received request :: events =>
    (request, (app.handle supplies request).response) ::
      exchanges supplies (app.next supplies (.received request)) events
  | event :: events => exchanges supplies (app.next supplies event) events

/-- Runs of apps that are alike are answered alike. -/
theorem Alike.exchanges (alike : Alike url otherUrl app other) (supplies : Supplies σ)
    {events others : List (Event σ)}
    (same : events.map Event.silenced = others.map Event.silenced) :
    List.Forall₂ (fun one two => one.1 = two.1 ∧
        SameButEnabled url otherUrl (route one.1) one.2 two.2)
      (app.exchanges supplies events) (other.exchanges supplies others) := by
  induction events generalizing app other others with
  | nil =>
    cases others with
    | nil => exact .nil
    | cons => cases same
  | cons event events ih =>
    cases others with
    | nil => cases same
    | cons otherEvent others =>
      obtain ⟨here, later⟩ := List.cons.inj same
      cases event with
      | received request =>
        cases otherEvent with
        | received otherRequest =>
          cases here
          obtain ⟨response, after⟩ := alike.handle supplies request
          exact .cons ⟨rfl, response⟩ (ih after later)
        | surroundings dice clock network => cases here
      | surroundings dice clock network =>
        cases otherEvent with
        | received otherRequest => cases here
        | surroundings otherDice otherClock otherNetwork =>
          cases here
          have after : Alike url otherUrl (app.next supplies (.surroundings dice clock network))
              (other.next supplies (.surroundings dice clock otherNetwork)) :=
            ⟨congrArg (fun service : RollService σ => { service with dice, clock }) alike.service,
              alike.unshowable, alike.sections, alike.notifier, alike.otherNotifier⟩
          exact ih after later

/-- An app of the other configuration starts alike. -/
theorem start_of_differInUrl {config otherConfig : Members} {dice : σ} {log : List LogEntry}
    (differ : Settings.DifferInUrl config otherConfig url otherUrl)
    (started : start config dice = .ok (app, log)) :
    ∃ other otherLog, start otherConfig dice = .ok (other, otherLog) ∧
      Alike url otherUrl app other := by
  obtain ⟨setup, settings, laid, read, opened, rfl⟩ := start_eq_ok.mp started
  obtain ⟨rfl, otherRead⟩ := differ.ofConfig read
  have otherLaid : Settings.LogSetup.ofConfig otherConfig = .ok setup := by
    rw [← laid, Settings.LogSetup.ofConfig, Settings.LogSetup.ofConfig,
      differ.optionalSection (by decide)]
  have otherOpened : ∃ otherLog,
      opening otherConfig { settings with webhookUrl := otherUrl } = .ok otherLog := by
    unfold opening at opened ⊢
    obtain ⟨host, hostRead, opened⟩ := Except.bind_eq_ok.mp opened
    obtain ⟨port, portRead, opened⟩ := Except.bind_eq_ok.mp opened
    rw [differ.required (by decide)] at hostRead portRead
    simp only [bind, Except.bind, hostRead, portRead]
    exact ⟨_, rfl⟩
  obtain ⟨otherLog, otherOpened⟩ := otherOpened
  refine ⟨_, otherLog, start_eq_ok.mpr ⟨setup, _, otherLaid, otherRead, otherOpened, rfl⟩, ?_⟩
  exact ⟨rfl, rfl, differ.elsewhere, rfl, rfl⟩

end App

end Http

/-- Neither the URL that rolls are announced to nor the network has a say in rolling. Services that
are built with different URLs give the same replies and leave the same source, with the same
inquiries, and the same memory behind at every step. Apps that are started with them give the same
responses, of which the shown configuration alone may tell that a URL is set. -/
theorem webhook_secrecy (supplies : Supplies σ) {config other : Members} {url otherUrl : String}
    (differ : Settings.DifferInUrl config other url otherUrl) (dice : σ) :
    (∀ settings, ServiceSettings.ofConfig config = .ok settings →
      ∃ otherSettings, ServiceSettings.ofConfig other = .ok otherSettings ∧
        ∀ requests others : List (Request (σ × List Inquiry)),
          requests.map Request.silenced = others.map Request.silenced →
          (RollService.ofSettings settings (dice, [])).effects supplies.observed requests =
            (RollService.ofSettings otherSettings (dice, [])).effects supplies.observed others) ∧
    ∀ app log, Http.App.start config dice = .ok (app, log) →
      ∃ otherApp otherLog, Http.App.start other dice = .ok (otherApp, otherLog) ∧
        ∀ events others : List (Http.Event σ),
          events.map Http.Event.silenced = others.map Http.Event.silenced →
          List.Forall₂ (fun one two => one.1 = two.1 ∧
              Http.SameButEnabled url otherUrl (Http.route one.1) one.2 two.2)
            (app.exchanges supplies events) (otherApp.exchanges supplies others) := by
  constructor
  · intro settings read
    refine ⟨_, (differ.ofConfig read).2, fun requests others same => ?_⟩
    exact RollService.effects_congr
      (RollService.silenced_ofSettings settings otherUrl (dice, [])).symm same
  · intro app log started
    obtain ⟨otherApp, otherLog, otherStarted, alike⟩ :=
      Http.App.start_of_differInUrl differ started
    exact ⟨otherApp, otherLog, otherStarted, fun events others same =>
      alike.exchanges supplies same⟩

/-- The defaults, which name no URL, and a URL that nobody listens to. -/
theorem webhook_secrecy_refused :
    let supplies : Supplies (List Int) := .numbered listedSource
    let dice : List Int := [5, 3]
    let other := Members.put "notifier" (.obj [("webhook_url", .str "tcp://hook:1")])
      Settings.defaults
    let events (network : Network) : List (Http.Event (List Int)) :=
      [.surroundings dice [] network,
        .received { method := "POST", target := "/api/v1/roll"
                    body := "\x7b\"expression\": \"2d6\"\x7d".toUTF8.toList },
        .received { method := "GET", target := "/api/v1/config" }]
    ∃ app log otherApp otherLog,
      Http.App.start Settings.defaults dice = .ok (app, log) ∧
      Http.App.start other dice = .ok (otherApp, otherLog) ∧
      List.Forall₂ (fun one two => one.1 = two.1 ∧
          Http.SameButEnabled "" "tcp://hook:1" (Http.route one.1) one.2 two.2)
        (app.exchanges supplies (events {}))
        (otherApp.exchanges supplies (events { outage := some .connect })) := by
  intro supplies dice other events
  have differ : Settings.DifferInUrl Settings.defaults other "" "tcp://hook:1" :=
    ⟨fun key elsewhere => by rw [Members.get?_put, if_neg elsewhere], ⟨_, rfl, rfl⟩, ⟨_, rfl, rfl⟩⟩
  obtain ⟨app, log, started⟩ :
      ∃ app log, Http.App.start Settings.defaults dice = .ok (app, log) := ⟨_, _, rfl⟩
  obtain ⟨_, apps⟩ := webhook_secrecy supplies differ dice
  obtain ⟨otherApp, otherLog, otherStarted, answered⟩ := apps app log started
  exact ⟨app, log, otherApp, otherLog, started, otherStarted, answered _ _ rfl⟩

end DiceTable
