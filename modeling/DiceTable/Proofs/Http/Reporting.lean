import DiceTable.Command.Run
import DiceTable.Proofs.Http.Secrecy

/-! # What is reported of a notifier

The log of a start, the command line and the shown configuration each report whether rolls are
announced, and each looks at another thing for it: at the URL without the slashes at its end, at the
URL as it is configured, and at the notifier. The notifier announces every roll unless the URL as it
is configured is empty. So the reports agree with one another and with what is done, except where a
URL holds slashes and nothing else, or reads like the report of none (`App.reported_of_start`).
-/

namespace DiceTable

/-- A configuration that gives a URL for announcements. -/
def Settings.NamesUrl (config : Members) (url : String) : Prop :=
  ∃ members : Members, config.get? "notifier" = some (.obj members) ∧
    members.get? "webhook_url" = some (.str url)

def shownUrl (url : String) : String :=
  if url = "" then "disabled" else url

/-- What is reported of a notifier: the texts of the log and of the command line, and what the shown
configuration says. -/
structure Report where
  logged : String
  displayed : String
  enabled : Bool

theorem shownUrl_eq_disabled_iff {url : String} :
    shownUrl url = "disabled" ↔ url = "" ∨ url = "disabled" := by
  unfold shownUrl
  split <;> simp [*]

namespace Notifier

/-- A notifier keeps silent only where no URL is configured. -/
theorem deliver_eq_nil_iff {url : String} {network : Network} {payload : Payload} :
    (ofUrl url).deliver network payload = {} ↔ url = "" := by
  constructor
  · intro silent
    by_contra enabled
    exact (announces_deliver enabled network payload).noticed silent
  · rintro rfl
    rfl

end Notifier

namespace Command

variable {σ : Type} {config : Members} {url : String}

/-- Lines that can all be made are printed. -/
theorem printWhile_eq_none {lines : List (Except Settings.ConfigError String)} {text : String}
    (made : printWhile lines = (text, none)) :
    ∃ texts : List String, lines = texts.map .ok ∧ text = printed texts := by
  induction lines generalizing text with
  | nil =>
    cases made
    exact ⟨[], rfl, rfl⟩
  | cons line lines ih =>
    cases line with
    | error error => cases made
    | ok line =>
      rcases rest : printWhile lines with ⟨more, trouble⟩
      simp only [printWhile, rest, Prod.mk.injEq] at made
      obtain ⟨rfl, rfl⟩ := made
      obtain ⟨texts, rfl, rfl⟩ := ih rest
      refine ⟨line :: texts, rfl, ?_⟩
      rw [printed, printed, List.map_cons, String.join_cons]

/-- A run that gets done has printed each of its lines in its place. -/
theorem stdout_of_done {dice : σ} {start line : String} {served : List Serving}
    (front back : List (Except Settings.ConfigError String))
    (done : (printRun dice start (front ++ .ok line :: back) served).ending = .done 0) :
    ∃ before after : List String, before.length = front.length ∧ after.length = back.length ∧
      (printRun dice start (front ++ .ok line :: back) served).stdout =
        start ++ printed (before ++ line :: after) := by
  unfold printRun at done ⊢
  split at done
  · rename_i text made
    obtain ⟨texts, lines, rfl⟩ := printWhile_eq_none made
    obtain ⟨before, rest, rfl, rfl, behind⟩ := List.map_eq_append_iff.mp lines.symm
    obtain ⟨_, after, rfl, same, rfl⟩ := List.map_eq_cons_iff.mp behind
    cases same
    exact ⟨before, after, (List.length_map _).symm, (List.length_map _).symm, rfl⟩
  · cases done

/-- A text is void where it is empty. -/
theorem isVoid_str_iff {text : String} : (Json.str text).isVoid = true ↔ text = "" := by
  have points : Spelled.points text = LooseText.ofChars text.toList := rfl
  rw [Json.isVoid, points, LooseText.ofChars, List.isEmpty_iff, List.map_eq_nil_iff,
    String.toList_eq_nil_iff]

theorem webhookLine_of_namesUrl (named : Settings.NamesUrl config url) (start : String) :
    webhookLine config start = .ok (start ++ shownUrl url) := by
  obtain ⟨members, here, value⟩ := named
  have shown : shownOr (some (.str url)) "disabled" = shownUrl url := by
    unfold shownOr shownUrl
    simp only [isVoid_str_iff]
    rfl
  unfold webhookLine Settings.requiredSection
  rw [here]
  simp only [bind, Except.bind, value, shown]

/-- The configuration that is printed has the webhook in its sixth line. -/
theorem flash_displays (named : Settings.NamesUrl config url) (dice : σ) (source : Source σ)
    (network : Network) (help : String)
    (done : (Invocation.flash.run config dice source network help).ending = .done 0) :
    ∃ before after : List String, before.length = 5 ∧ after.length = 1 ∧
      (Invocation.flash.run config dice source network help).stdout =
        banner ++ printed (before ++ ("  ├─ Webhook:    " ++ shownUrl url) :: after) := by
  have webhook := webhookLine_of_namesUrl named "  ├─ Webhook:    "
  have lines : flashLines config = (flashLines config).take 5 ++
      .ok ("  ├─ Webhook:    " ++ shownUrl url) :: (flashLines config).drop 6 := by
    rw [← webhook]
    rfl
  have run : Invocation.flash.run config dice source network help =
      printRun dice banner (flashLines config) [] := rfl
  rw [run, lines] at done ⊢
  exact stdout_of_done _ _ done

/-- A server that is started has the webhook printed behind its address. -/
theorem serve_displays (named : Settings.NamesUrl config url) (dice : σ) (source : Source σ)
    (network : Network) (help host : String) (port : Option Int) (reload : Bool)
    (done : ((Invocation.serve host port reload).run config dice source network help).ending =
      .done 0) :
    ∃ before after : List String, before.length = 1 ∧ after.length = 1 ∧
      ((Invocation.serve host port reload).run config dice source network help).stdout =
        banner ++ printed (before ++ ("  Webhook: " ++ shownUrl url) :: after) := by
  have webhook := webhookLine_of_namesUrl named "  Webhook: "
  have run : (Invocation.serve host port reload).run config dice source network help =
      serveRun config dice host port reload := rfl
  rw [run] at done ⊢
  unfold serveRun at done ⊢
  split at done
  · cases done
  · rw [webhook] at done ⊢
    exact stdout_of_done [_] [_] done

end Command

namespace RollService

variable {σ : Type} {supplies : Supplies σ} {service : RollService σ} {request : Request σ}
  {url : String}

/-- Each record is announced, unless no URL is configured. -/
theorem delivery_ne_nil_iff {record : RollRecord} (built : service.notifier = Notifier.ofUrl url)
    (made : service.record? supplies request = some record) :
    service.delivery supplies request ≠ {} ↔ url ≠ "" := by
  rcases announced_cases supplies service request with
    ⟨none, _⟩ | ⟨_, _, _, _, delivered, _, here⟩
  · rw [made] at none
    cases none
  · rw [delivered, here.delivery, built, Ne, Notifier.deliver_eq_nil_iff]

end RollService

namespace Http

variable {σ : Type} {supplies : Supplies σ} {app : App σ} {config : Members} {url : String}
  {dice : σ} {log : List LogEntry}

def App.delivery (supplies : Supplies σ) (app : App σ) (request : Request) : Delivery :=
  match demand? supplies.bodyDepth request with
  | none => {}
  | some demand => app.service.delivery supplies demand

namespace App

/-- What is reported of the notifier of an app: at the end of the log of its start, by the commands
that show the configuration, and whenever the app is asked for it. -/
structure Reported (supplies : Supplies σ) (config : Members) (app : App σ) (log : List LogEntry)
    (report : Report) : Prop where
  started : ∃ settings before, ServiceSettings.ofConfig config = .ok settings ∧
    before.length = 1 + (Settings.loggedNumber? settings.memoryLimit).toList.length ∧
    log = before ++ [⟨.info, channel, "Notifier: " ++ report.logged⟩]
  flash : ∀ (dice : σ) source network help,
    let run := Command.Invocation.flash.run config dice source network help
    run.ending = .done 0 → ∃ before after : List String, before.length = 5 ∧ after.length = 1 ∧
      run.stdout = Command.banner ++
        Command.printed (before ++ ("  ├─ Webhook:    " ++ report.displayed) :: after)
  serve : ∀ (dice : σ) source network help host port reload,
    let run := (Command.Invocation.serve host port reload).run config dice source network help
    run.ending = .done 0 → ∃ before after : List String, before.length = 1 ∧ after.length = 1 ∧
      run.stdout = Command.banner ++
        Command.printed (before ++ ("  Webhook: " ++ report.displayed) :: after)
  answered : ∀ events request, route request = .config →
    let response := ((app.run supplies events).handle supplies request).response
    response = serverError ∨ ∃ members : Members, response = respond 200 members ∧
      members.get? "notifier" = some (.obj [("enabled", .bool report.enabled)])

/-- The app has the notifier of the URL that is configured, and logs this URL without slashes at its
end. -/
theorem start_of_namesUrl (named : Settings.NamesUrl config url)
    (started : start config dice = .ok (app, log)) :
    app.service.notifier = Notifier.ofUrl url ∧
      ∃ settings before, ServiceSettings.ofConfig config = .ok settings ∧
        before.length = 1 + (Settings.loggedNumber? settings.memoryLimit).toList.length ∧
        log = before ++
          [⟨.info, channel, "Notifier: " ++ shownUrl (dropTrailingSlashes url)⟩] := by
  obtain ⟨_, settings, _, read, opened, rfl⟩ := start_eq_ok.mp started
  have same : Settings.DifferInUrl config config url url := ⟨fun _ _ => rfl, named, named⟩
  obtain ⟨rfl, _⟩ := same.ofConfig read
  obtain ⟨host, _, opened⟩ := Except.bind_eq_ok.mp opened
  obtain ⟨port, _, opened⟩ := Except.bind_eq_ok.mp opened
  cases opened
  refine ⟨rfl, settings, _ :: _, read, ?_, rfl⟩
  rw [List.length_cons, List.length_map, Nat.add_comm]

/-- An app keeps its notifier. -/
theorem notifier_run (supplies : Supplies σ) (app : App σ) (events : List (Event σ)) :
    (app.run supplies events).service.notifier = app.service.notifier := by
  rw [service_run, RollService.notifier_run]

/-- What is shown of the configuration is whether the notifier is switched on. -/
theorem configuration_shows (app : App σ) :
    app.configuration = serverError ∨ ∃ members : Members,
      app.configuration = respond 200 members ∧ members.get? "notifier" =
        some (.obj [("enabled", .bool app.service.notifier.enabled)]) := by
  unfold configuration
  dsimp only
  split
  · exact .inr ⟨_, rfl, rfl⟩
  · exact .inl rfl

theorem reported_of_notifier (named : Settings.NamesUrl config url)
    (started : start config dice = .ok (app, log)) (supplies : Supplies σ) :
    app.Reported supplies config log
      ⟨shownUrl (dropTrailingSlashes url), shownUrl url, url ≠ ""⟩ := by
  obtain ⟨notifier, logged⟩ := start_of_namesUrl named started
  refine ⟨logged, Command.flash_displays named, Command.serve_displays named, ?_⟩
  intro events request endpoint
  have shows := configuration_shows (app.run supplies events)
  rw [notifier_run, notifier] at shows
  rwa [handle_of_route (by rw [endpoint]; nofun) (by rw [endpoint]; nofun), endpoint]

/-- Each roll that is made is announced, unless no URL is configured, and nothing else is. -/
theorem delivery_run (named : Settings.NamesUrl config url)
    (started : start config dice = .ok (app, log)) (supplies : Supplies σ)
    (events : List (Event σ)) (request : Request) :
    ((app.run supplies events).makes? supplies request = none →
      (app.run supplies events).delivery supplies request = {}) ∧
    ∀ record, (app.run supplies events).makes? supplies request = some record →
      ((app.run supplies events).delivery supplies request ≠ {} ↔ url ≠ "") := by
  have built : (app.run supplies events).service.notifier = Notifier.ofUrl url :=
    (notifier_run supplies app events).trans (start_of_namesUrl named started).1
  unfold makes? delivery
  cases demand? (σ := σ) supplies.bodyDepth request with
  | none => exact ⟨fun _ => rfl, nofun⟩
  | some demand =>
    exact ⟨RollService.delivery_eq_nil_of_record?_eq_none,
      fun _ => RollService.delivery_ne_nil_iff built⟩

/-- Where a URL is configured, the log of the start reports it without the slashes at its end, the
command line reports it as it is, and the app reports that the notifier is switched on unless it is
empty; that is also when the rolls are announced. Unless slashes are all there is of the URL, or it
reads like the report of none, all of these come to whether the URL without the slashes is empty.
Where slashes are all there is, only the log reports that the notifier is switched off, and every
roll is announced. -/
theorem reported_of_start (named : Settings.NamesUrl config url)
    (started : start config dice = .ok (app, log)) (supplies : Supplies σ) :
    let off := dropTrailingSlashes url = ""
    let report : Report := ⟨shownUrl (dropTrailingSlashes url), shownUrl url, url ≠ ""⟩
    let announces events request := (app.run supplies events).delivery supplies request ≠ {}
    app.Reported supplies config log report ∧
    (∀ events request, (app.run supplies events).makes? supplies request = none →
      ¬announces events request) ∧
    (∀ events request record, (app.run supplies events).makes? supplies request = some record →
      (announces events request ↔ report.enabled = true)) ∧
    ((off → url = "") → dropTrailingSlashes url ≠ "disabled" →
      (report.logged = "disabled" ↔ off) ∧ (report.displayed = "disabled" ↔ off) ∧
        (report.enabled = false ↔ off)) ∧
    (off → url ≠ "" →
      report.logged = "disabled" ∧ report.displayed ≠ "disabled" ∧ report.enabled = true) := by
  intro off report announces
  have enabled : report.enabled = true ↔ url ≠ "" := decide_eq_true_iff
  have empty (none : url = "") : off := by
    subst none
    rfl
  have reading (same : url = "disabled") : dropTrailingSlashes url = "disabled" := by
    subst same
    rfl
  refine ⟨reported_of_notifier named started supplies, fun events request made => ?_,
    fun events request record made => ?_, fun proper told => ⟨?_, ?_, ?_⟩,
    fun slashes configured => ⟨?_, ?_, ?_⟩⟩
  · exact not_not.mpr ((delivery_run named started supplies events request).1 made)
  · rw [enabled]
    exact (delivery_run named started supplies events request).2 record made
  · exact shownUrl_eq_disabled_iff.trans (or_iff_left told)
  · refine shownUrl_eq_disabled_iff.trans ⟨fun shown => ?_, fun slashes => .inl (proper slashes)⟩
    exact shown.elim empty fun same => (told (reading same)).elim
  · rw [← Bool.not_eq_true, enabled, not_not]
    exact ⟨empty, proper⟩
  · exact shownUrl_eq_disabled_iff.mpr (.inl slashes)
  · intro shown
    rcases shownUrl_eq_disabled_iff.mp shown with none | same
    · exact configured none
    · have reads := reading same
      rw [slashes] at reads
      exact absurd reads (by decide)
  · exact enabled.mpr configured

/-- A URL whose slashes are dropped: all reports show that there is one, and the roll is
announced. -/
theorem reported_of_start_hook :
    let supplies : Supplies Unit := .numbered lowestSource
    let config := Members.put "notifier" (.obj [("webhook_url", .str "tcp://hook:1//")])
      Settings.defaults
    let request : Request :=
      { method := "POST", target := "/api/v1/roll"
        body := "\x7b\"expression\": \"d6\"\x7d".toUTF8.toList }
    ∃ app log, start config () = .ok (app, log) ∧ Settings.NamesUrl config "tcp://hook:1//" ∧
      app.Reported supplies config log ⟨"tcp://hook:1", "tcp://hook:1//", true⟩ ∧
      (Command.Invocation.flash.run config () lowestSource {} "").ending = .done 0 ∧
      (app.makes? supplies request).isSome ∧ app.delivery supplies request ≠ {} := by
  intro supplies config request
  have named : Settings.NamesUrl config "tcp://hook:1//" := ⟨_, rfl, rfl⟩
  obtain ⟨app, log, started, made⟩ : ∃ app log, start config () = .ok (app, log) ∧
      (app.makes? supplies request).isSome := ⟨_, _, rfl, by decide +kernel⟩
  have flashed : (Command.Invocation.flash.run config () lowestSource {} "").ending = .done 0 := by
    decide +kernel
  obtain ⟨record, makes⟩ := Option.isSome_iff_exists.mp made
  obtain ⟨reported, _, announced, _⟩ := reported_of_start named started supplies
  exact ⟨app, log, started, named, reported, flashed, made,
    (announced [] request record makes).mpr rfl⟩

/-- The URL is a slash. Without it nothing is left, and the log reports that the notifier is
switched off. The command line shows the slash, the shown configuration says that the notifier is
switched on, and the roll is announced to a host without a name. -/
theorem reported_slash :
    let supplies : Supplies Unit := .numbered lowestSource
    let config := Members.put "notifier" (.obj [("webhook_url", .str "/")]) Settings.defaults
    let request : Request :=
      { method := "POST", target := "/api/v1/roll"
        body := "\x7b\"expression\": \"d6\"\x7d".toUTF8.toList }
    dropTrailingSlashes "/" = "" ∧ Command.webhookLine config "" = .ok "/" ∧
    ∃ app log, start config () = .ok (app, log) ∧
      (⟨.info, channel, "Notifier: disabled"⟩ : LogEntry) ∈ log ∧
      (∃ members : Members, app.configuration = respond 200 members ∧
        members.get? "notifier" = some (.obj [("enabled", .bool true)])) ∧
      (app.makes? supplies request).isSome ∧
      (app.handle supplies request).sent.map Transmission.withoutLine =
        [.connection "" 9999 none] := by
  intro supplies config request
  refine ⟨by decide +kernel, rfl, _, _, rfl, by decide +kernel, ⟨_, rfl, rfl⟩, ?_, ?_⟩
  · decide +kernel
  · decide +kernel

end App

end Http

end DiceTable
