import DiceTable.Command.Run
import DiceTable.Proofs.Except
import DiceTable.Proofs.Http.Run
import DiceTable.Proofs.Service.Silence

/-! # The command and the service

The command to roll and the roll service look into the configuration on ways of their own, and each
has its own form for what comes out. Where the sections of the configuration are mappings with
integers for limits and a text for the webhook, both find the same limit on the dice
(`Settings.Regular.exists_settings`). So a run of the command leads to what the service leads to, as
long as the text is short enough for the service (`Command.rollRun_agrees`).
-/

namespace DiceTable

namespace Settings

/-- A section has an integer under a key, or nothing. -/
def WholeAt (members : Members) (key : String) : Prop :=
  ∀ value, members.get? key = some value → ∃ n, value = .int n

/-- The sections that a service is built from are mappings, with integers for limits and a text for
the webhook. Keys may be missing. -/
structure Regular (config : Members) : Prop where
  dice : ∃ dice, config.get? "dice" = some (.obj dice) ∧ WholeAt dice "max_dice" ∧
    WholeAt dice "max_expression_length"
  memory : ∃ memory, config.get? "memory" = some (.obj memory) ∧ WholeAt memory "max_entries"
  notifier : ∃ notifier : Members, config.get? "notifier" = some (.obj notifier) ∧
    ∀ value, notifier.get? "webhook_url" = some value → ∃ url, value = .str url

variable {config members : Members} {key : String}

/-- A limit that may be given as an integer is one, as its default is. -/
theorem WholeAt.exists_limitOr (whole : WholeAt members key) (default : Int) :
    ∃ n : Int, limitOr members key default = n := by
  unfold limitOr
  cases found : members.get? key with
  | none => exact ⟨default, rfl⟩
  | some value =>
    obtain ⟨n, rfl⟩ := whole value found
    exact ⟨n, rfl⟩

/-- A service can be built of a regular configuration. Its limit on dice is the one that the command
finds, and its limit on characters is an integer. -/
theorem Regular.exists_settings (regular : Regular config) :
    ∃ settings, ServiceSettings.ofConfig config = .ok settings ∧
      Command.configuredLimit config = .ok settings.diceLimit ∧
      ∃ bound : Int, settings.lengthLimit = bound := by
  obtain ⟨dice, diceThere, _, wholeLength⟩ := regular.dice
  obtain ⟨memory, memoryThere, wholeEntries⟩ := regular.memory
  obtain ⟨notifier, notifierThere, texts⟩ := regular.notifier
  obtain ⟨lengthBound, lengthLimit⟩ : ∃ n : Int, limitOr dice "max_expression_length" 200 = n :=
    wholeLength.exists_limitOr 200
  obtain ⟨entriesBound, entriesLimit⟩ : ∃ n : Int, limitOr memory "max_entries" 1000 = n :=
    wholeEntries.exists_limitOr 1000
  obtain ⟨memoryLimit, fromOne⟩ :
      ∃ limit, limitFromOne (limitOr memory "max_entries" 1000) = .ok limit := by
    rw [entriesLimit]
    exact ⟨if 1 < entriesBound then entriesBound else 1, rfl⟩
  obtain ⟨url, webhook⟩ : ∃ url, optionalUrl notifier "webhook_url" = .ok url := by
    unfold optionalUrl
    cases found : Members.get? notifier "webhook_url" with
    | none => exact ⟨"", rfl⟩
    | some value =>
      obtain ⟨url, rfl⟩ := texts value found
      exact ⟨url, rfl⟩
  refine ⟨{ diceLimit := limitOr dice "max_dice" 1000
            lengthLimit := limitOr dice "max_expression_length" 200
            memoryLimit
            webhookUrl := url }, ?_, ?_, lengthBound, lengthLimit⟩
  · refine Except.bind_eq_ok.mpr ⟨dice, by rw [optionalSection, diceThere], ?_⟩
    refine Except.bind_eq_ok.mpr ⟨memory, by rw [optionalSection, memoryThere], ?_⟩
    refine Except.bind_eq_ok.mpr ⟨memoryLimit, fromOne, ?_⟩
    refine Except.bind_eq_ok.mpr ⟨notifier, by rw [optionalSection, notifierThere], ?_⟩
    exact Except.bind_eq_ok.mpr ⟨url, webhook, rfl⟩
  · refine Except.bind_eq_ok.mpr ⟨dice, by rw [requiredSection, diceThere], rfl⟩

end Settings

namespace RollService

variable {σ : Type} {service : RollService σ} {text : String}

theorem guardLength_of_le {bound : Int} (lengthLimit : service.lengthLimit = bound)
    (short : text.length ≤ bound) : service.guardLength (.str text) = .ok () := by
  simp only [guardLength, lengthLimit, Limit.guard_ofInt]
  exact if_neg (Int.not_lt.mpr short)

/-- A service rolls a text that is short enough as it stands. -/
theorem roll_of_short (short : service.guardLength (.str text) = .ok ()) (supplies : Supplies σ)
    (user : String) :
    let rolled := supplies.source.evaluate service.diceLimit text service.dice
    let step := service.roll supplies (.str text) user
    step.service.dice = rolled.2 ∧
      step.outcome = rolled.1.map fun result =>
        { id := supplies.rollId service.issued, user, result } := by
  intro rolled step
  have same : supplies.source.evaluateJson service.diceLimit (.str text) service.dice = rolled :=
    rfl
  simp only [step, roll, logFirst, perform, short, same]
  cases rolled.1 <;> exact ⟨rfl, rfl⟩

end RollService

/-- What a record shows in addition to the result. -/
def RollRecord.ownKeys : List String := ["roll_id", "user", "rerolled_from", "text"]

/-- Without these, a record shows the result. -/
theorem RollRecord.filter_members (record : RollRecord) :
    record.members.filter (fun member => member.1 ∉ RollRecord.ownKeys) =
      record.result.members := by
  cases result : record.result with
  | arithmetic => simp [RollRecord.members, RollResult.members, result, RollRecord.ownKeys]
  | test => simp [RollRecord.members, RollResult.members, result, RollRecord.ownKeys]

namespace LooseText

theorem replaced_ofString (text : String) : (ofString text).replaced = text := by
  have chars : (ofString text).map (fun point => point.char?.getD '\uFFFD') = text.toList := by
    rw [ofString, ofChars, List.map_map]
    exact List.map_id _
  rw [replaced, chars, String.ofList_toList]

theorem hasHalves_ofChars (cs : List Char) : hasHalves (ofChars cs) = false := by
  rw [hasHalves, ofChars, List.any_map, List.any_eq_false]
  exact fun _ _ => Bool.false_ne_true

end LooseText

namespace Http

/-- What holds no halves of characters shows none. -/
theorem showsHalf_ofString (text : String) (error : DiceError) :
    showsHalf (.ofString text) error = false := by
  cases error with
  | tooLong limit opening =>
    have taken : (LooseText.ofString text).take RollService.openingLength =
        LooseText.ofChars (text.toList.take RollService.openingLength) := List.map_take.symm
    rw [showsHalf, taken, LooseText.hasHalves_ofChars]
  | unexpected => exact LooseText.hasHalves_ofChars text.toList
  | _ => rfl

end Http

namespace Command

variable {σ : Type}

/-- A run of the command comes to what a step of the service comes to. -/
structure Agrees (asJson : Bool) (run : Run σ) (step : ServiceStep σ RollRecord) : Prop where
  dice : run.dice = step.service.dice
  code : run.ending = .done 0 ↔ ∃ record, step.outcome = .ok record
  /-- A record is printed as its text, or without what is its own. -/
  made : ∀ record, step.outcome = .ok record → run.stderr = "" ∧
    run.stdout =
      (if asJson then
        (Json.obj (record.members.filter fun member => member.1 ∉ RollRecord.ownKeys)).indented
      else record.text) ++ "\n"
  refused : ∀ error, step.outcome = .error (.dice error) → run.ending = .done 1 ∧
    run.stdout = if asJson then (Json.obj error.report.members).line ++ "\n" else ""
  broken : ∀ failure, step.outcome = .error failure → (∀ error, failure ≠ .dice error) →
    run.ending = .broken (.failure failure)

variable {config : Members} {limit : Limit} {words : List String} {user : String} {asJson : Bool}

/-- With the same limit on dice, the command and a service agree on what is short enough. -/
theorem agrees_of_short (configured : configuredLimit config = .ok limit) (supplies : Supplies σ)
    (service : RollService σ) (same : service.diceLimit = limit)
    (short : service.guardLength (.str (" ".intercalate words)) = .ok ()) :
    Agrees asJson (rollRun config service.dice supplies.source words user asJson)
      (service.roll supplies (.str (" ".intercalate words)) user) := by
  subst same
  obtain ⟨dice, outcome⟩ := RollService.roll_of_short short supplies user
  generalize service.roll supplies (.str (" ".intercalate words)) user = step at dice outcome ⊢
  unfold rollRun
  rw [configured]
  dsimp only
  rcases rolled : supplies.source.evaluate service.diceLimit (" ".intercalate words) service.dice
    with ⟨answer, after⟩
  rw [rolled] at dice outcome
  cases answer with
  | ok result =>
    refine ⟨dice.symm, iff_of_true rfl ⟨_, outcome⟩, fun record made => ?_, fun _ refused => ?_,
      fun _ failed _ => ?_⟩
    · cases outcome.symm.trans made
      refine ⟨rfl, ?_⟩
      rw [RollRecord.filter_members]
      rfl
    · cases outcome.symm.trans refused
    · cases outcome.symm.trans failed
  | error failure =>
    have none (record : RollRecord) : step.outcome ≠ .ok record := by
      intro made
      cases outcome.symm.trans made
    cases failure with
    | dice error =>
      refine ⟨?_, iff_of_false ?_ (not_exists.mpr none),
        fun record made => absurd made (none record), fun other refused => ?_,
        fun other failed apart => ?_⟩
      · cases asJson <;> exact dice.symm
      · cases asJson <;> nofun
      · cases outcome.symm.trans refused
        cases asJson <;> exact ⟨rfl, rfl⟩
      · cases outcome.symm.trans failed
        exact absurd rfl (apart error)
    | _ =>
      refine ⟨dice.symm, iff_of_false nofun (not_exists.mpr none),
        fun record made => absurd made (none record), fun other refused => ?_,
        fun other failed _ => ?_⟩
      · cases outcome.symm.trans refused
      · cases outcome.symm.trans failed
        rfl

end Command

namespace Http.App

/-- An app answers a text with the error for which its service does not roll it. -/
theorem response_of_refused {σ : Type} {supplies : Supplies σ} {app : App σ} {request : Request}
    {text : String} {error : DiceError} (endpoint : route request = .roll)
    (asked : expression? supplies.bodyDepth request.body = some (.ofString text))
    (short : app.service.guardLength (.str text) = .ok ())
    (failed : (supplies.source.evaluate app.service.diceLimit text app.service.dice).1 =
      .error (.dice error)) :
    (app.handle supplies request).response = respond 400 error.report.members := by
  have follows : app.handle supplies request = app.follow supplies request.body .roll := by
    rw [handle_of_route (by rw [endpoint]; nofun) (by rw [endpoint]; nofun), endpoint]
  have outcome := (RollService.roll_of_short short supplies
    (namedUser supplies.bodyDepth request.body).replaced).2
  have rolled := roll_of_expression? supplies app asked
  rw [LooseText.replaced_ofString] at rolled
  dsimp only at outcome rolled
  rw [failed] at outcome
  rw [follows, follow, rolled, outcome]
  simp only [Except.map, Http.failed, showsHalf_ofString, Bool.false_eq_true, if_false]

end Http.App

namespace Command

/-- Where a configuration has sections of the right form, a run of the command to roll agrees with a
service built of the same configuration, whatever the words, the user and the form of the output, as
long as the joined words are not too long for the service. Both leave the source in the same state,
and so they do with a source that logs all requests. What the command prints of an error is what any
app that was started with the configuration answers with status 400, after any events, when it is
asked for the same text while its source is in the same state. -/
theorem rollRun_agrees {config : Members} (regular : Settings.Regular config) :
    ∃ settings, ServiceSettings.ofConfig config = .ok settings ∧
      ∃ bound : Int, settings.lengthLimit = bound ∧
        ∀ {σ : Type} (supplies : Supplies σ) (dice : σ) (network : Network) (help : String)
          (words : List String) (user : String) (asJson : Bool),
          let text := " ".intercalate words
          let invocation := Invocation.roll words user asJson
          let service := RollService.ofSettings settings dice
          let observed := RollService.ofSettings settings (dice, ([] : List Inquiry))
          text.length ≤ bound →
            Agrees asJson (invocation.run config dice supplies.source network help)
              (service.roll supplies (.str text) user) ∧
            Agrees asJson (invocation.run config (dice, []) supplies.observed.source network help)
              (observed.roll supplies.observed (.str text) user) ∧
            ∀ error, (service.roll supplies (.str text) user).outcome = .error (.dice error) →
              ∀ (first : σ) (start : Http.App σ) (log : List LogEntry)
                (events : List (Http.Event σ)) (request : Http.Request),
                Http.App.start config first = .ok (start, log) →
                (start.run supplies events).service.dice = dice →
                Http.route request = .roll →
                Http.expression? supplies.bodyDepth request.body = some (.ofString text) →
                ((start.run supplies events).handle supplies request).response =
                  Http.respond 400 error.report.members := by
  obtain ⟨settings, built, configured, bound, lengthLimit⟩ := regular.exists_settings
  refine ⟨settings, built, bound, lengthLimit, ?_⟩
  intro σ supplies dice network help words user asJson text invocation service observed short
  have guarded {τ : Type} (dice : τ) :
      (RollService.ofSettings settings dice).guardLength (.str text) = .ok () :=
    RollService.guardLength_of_le lengthLimit short
  have agree {τ : Type} (supplies : Supplies τ) (dice : τ) :
      Agrees asJson (invocation.run config dice supplies.source network help)
        ((RollService.ofSettings settings dice).roll supplies (.str text) user) :=
    agrees_of_short configured supplies _ rfl (guarded dice)
  refine ⟨agree supplies dice, agree supplies.observed (dice, []), ?_⟩
  intro error refused first start log events request started state endpoint asked
  obtain ⟨_, other, _, again, _, rfl⟩ := Http.App.start_eq_ok.mp started
  cases built.symm.trans again
  have failed : (supplies.source.evaluate settings.diceLimit text dice).1 = .error (.dice error) :=
    Except.map_eq_error.mp
      ((RollService.roll_of_short (guarded dice) supplies user).2.symm.trans refused)
  generalize reached : Http.App.run supplies _ events = app at state ⊢
  have limits : app.service.limits = (settings.diceLimit, settings.lengthLimit) := by
    rw [← reached, Http.App.service_run, RollService.limits_run]
    rfl
  obtain ⟨diceLimit, lengthSame⟩ := Prod.mk.inj limits
  refine Http.App.response_of_refused endpoint asked ?_ ?_
  · exact RollService.guardLength_of_le (lengthSame.trans lengthLimit) short
  · rw [diceLimit, state]
    exact failed

/-- Words that roll nothing: the command and the app, asked for the same by a body, put the same
error in the same form. -/
theorem rollRun_agrees_refused :
    let supplies : Supplies Unit := .numbered lowestSource
    let start : Http.App Unit := { config := Settings.defaults, service := .ofSettings {} () }
    let request : Http.Request :=
      { method := "POST", target := "/api/v1/roll"
        body := "\x7b\"expression\": \"2 d0\"\x7d".toUTF8.toList }
    let invocation := Invocation.roll ["2", "d0"] "ann" true
    let run := invocation.run Settings.defaults () supplies.source {} ""
    let report : ErrorReport :=
      ⟨.invalidDiceSpec, "Dice count and sides must be >= 1.", "2d0"⟩
    Settings.Regular Settings.defaults ∧ run.ending = .done 1 ∧
      run.stdout = (Json.obj report.members).line ++ "\n" ∧
      (start.handle supplies request).response = Http.respond 400 report.members := by
  intro supplies start request invocation run report
  have regular : Settings.Regular Settings.defaults := by
    refine ⟨⟨_, rfl, ?_, ?_⟩, ⟨_, rfl, ?_⟩, _, rfl, ?_⟩
    · rintro value ⟨⟩
      exact ⟨1000, rfl⟩
    · rintro value ⟨⟩
      exact ⟨200, rfl⟩
    · rintro value ⟨⟩
      exact ⟨1000, rfl⟩
    · rintro value ⟨⟩
      exact ⟨"", rfl⟩
  obtain ⟨settings, built, bound, lengthLimit, agrees⟩ := rollRun_agrees regular
  obtain rfl : {} = settings := Except.ok.inj built
  cases lengthLimit
  obtain ⟨agree, _, answers⟩ := agrees supplies () {} "" ["2", "d0"] "ann" true (by decide)
  have refused : ((RollService.ofSettings {} ()).roll supplies (.str "2 d0") "ann").outcome =
      .error (.dice (.countOrSides "2d0")) := by
    decide +kernel
  obtain ⟨log, started⟩ : ∃ log, Http.App.start Settings.defaults () = .ok (start, log) := ⟨_, rfl⟩
  have endpoint : Http.route request = .roll := by
    decide +kernel
  have asked : Http.expression? supplies.bodyDepth request.body = some (.ofString "2 d0") := by
    decide +kernel
  obtain ⟨code, shown⟩ := agree.refused _ refused
  exact ⟨regular, code, shown, answers _ refused () start log [] request started rfl endpoint asked⟩

end Command

end DiceTable
