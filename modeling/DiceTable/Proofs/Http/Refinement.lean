import DiceTable.Proofs.Http.Origins
import DiceTable.Proofs.Json.Nesting
import DiceTable.Proofs.Service.Refusals

/-! # The app as a face of its service

What an app answers is decided by the object that the body of a request holds
(`bodyMembers?_of_keepsTo`), by what its service accepts, and by what is held. The statuses say
which of these it was: 400 for a body or an expression that is refused, 404 for an id that is not
held, 200 for all else (`App.roll_answer`, `App.reroll_answer`, `App.lookup_answer`). The exceptions
are answered with 500, whatever has been done: a user, or an expression that is quoted in an error,
with halves of characters, which no response can show, and a limit of the configuration that has too
many digits to be put in an error.
-/

namespace DiceTable.Http

variable {σ : Type}

/-- A body holds a JSON object, however deep and with integers of any length. -/
def HoldsObject (body : List UInt8) (members : Members LooseText) : Prop :=
  ∃ text depth, Text.decodeDetected body = some text ∧
    Json.read? none depth text = some (.obj members)

/-- A body holds one object at most. -/
theorem HoldsObject.unique {body : List UInt8} {members others : Members LooseText}
    (one : HoldsObject body members) (other : HoldsObject body others) : members = others := by
  obtain ⟨text, depth, decoded, read⟩ := one
  obtain ⟨again, otherDepth, decodedAgain, otherRead⟩ := other
  cases decoded.symm.trans decodedAgain
  have deeper := Json.read?_unlimited (Nat.le_max_left depth otherDepth) read
  cases deeper.symm.trans (Json.read?_unlimited (Nat.le_max_right depth otherDepth) otherRead)
  rfl

/-- What is read of a body is the object that it holds, if it is read at all. -/
theorem bodyMembers?_eq_some_iff {depth : Nat} {body : List UInt8} {members : Members LooseText} :
    bodyMembers? depth body = some members ↔
      HoldsObject body members ∧ bodyMembers? depth body ≠ none := by
  have holds {members : Members LooseText} (found : bodyMembers? depth body = some members) :
      HoldsObject body members := by
    unfold bodyMembers? at found
    split at found
    · rename_i object
      cases found
      obtain ⟨text, decoded, read⟩ := Option.bind_eq_some_iff.mp object
      exact ⟨text, depth, decoded, Json.read?_unlimited (Nat.le_refl _) read⟩
    · cases found
  constructor
  · intro found
    exact ⟨holds found, by rw [found]; nofun⟩
  · rintro ⟨object, isRead⟩
    obtain ⟨others, found⟩ := Option.ne_none_iff_exists'.mp isRead
    rw [found, object.unique (holds found)]

/-- A body that keeps to the limits is read if it holds an object. -/
theorem bodyMembers?_of_keepsTo {depth : Nat} {body : List UInt8} {text : LooseText}
    (decoded : Text.decodeDetected body = some text)
    (keeps : Json.KeepsTo Decimal.digitLimit depth text) {members : Members LooseText} :
    bodyMembers? depth body = some members ↔ HoldsObject body members := by
  refine ⟨fun found => (bodyMembers?_eq_some_iff.mp found).1, ?_⟩
  rintro ⟨same, other, again, read⟩
  cases decoded.symm.trans again
  simp only [bodyMembers?, decoded, Option.bind_some, Json.read?_of_keepsTo keeps read]

/-- The answer to a request for a roll, by what the service makes of its expression. -/
structure RollAnswer (supplies : Supplies σ) (service : RollService σ) (body : List UInt8)
    (status : Nat) : Prop where
  made : status = 200 ↔ ∃ expression, expression? supplies.bodyDepth body = some expression ∧
    service.Accepts supplies expression.replaced ∧
      (namedUser supplies.bodyDepth body).hasHalves = false
  refused : status = 400 ↔ ∀ expression, expression? supplies.bodyDepth body = some expression →
    ∃ error, service.Refuses supplies (.str expression.replaced) (.dice error) ∧
      showsHalf expression error = false
  unshowable : status = 500 ↔
    ∃ expression, expression? supplies.bodyDepth body = some expression ∧
      (service.Accepts supplies expression.replaced ∧
          (namedUser supplies.bodyDepth body).hasHalves = true ∨
        (∃ error, service.Refuses supplies (.str expression.replaced) (.dice error) ∧
          showsHalf expression error = true) ∨
        service.Refuses supplies (.str expression.replaced) (.unwritable Decimal.digitLimit))

/-- The answer to a request to roll again, by what the service holds and makes of it. -/
structure RerollAnswer (supplies : Supplies σ) (service : RollService σ) (id : String)
    (body : List UInt8) (status : Nat) : Prop where
  unknown : status = 404 ↔ service.memory.contains id = false
  refused : status = 400 ↔ ∃ stored error, service.memory.get? id = some stored ∧
    service.Refuses supplies (.str stored.expression) (.dice error)
  made : status = 200 ↔ ∃ stored, service.memory.get? id = some stored ∧
    service.Accepts supplies stored.expression ∧
      (namedUser supplies.bodyDepth body).hasHalves = false
  unshowable : status = 500 ↔ ∃ stored, service.memory.get? id = some stored ∧
    (service.Accepts supplies stored.expression ∧
        (namedUser supplies.bodyDepth body).hasHalves = true ∨
      service.Refuses supplies (.str stored.expression) (.unwritable Decimal.digitLimit))

/-- The answer to a request for a held roll, by the request that the roll was made for. -/
structure LookupAnswer (supplies : Supplies σ) (start : App σ) (events : List (Event σ))
    (id : String) (response : Response) : Prop where
  unknown : response.status = 404 ↔
    (start.run supplies events).service.memory.contains id = false
  held : ∀ stored, (start.run supplies events).service.memory.get? id = some stored →
    ∃ request record time, App.Made supplies start events id stored request record ∧
      response = if (namedUser supplies.bodyDepth request.body).hasHalves then serverError
        else respond 200 [("roll_id", .str id), ("expression", .str record.result.canonical),
          ("user", .str record.user), ("created_at", .str time)]

/-- What does not hold halves of characters shows none. -/
theorem showsHalf_nil (error : DiceError) : showsHalf [] error = false := by
  cases error <;> rfl

namespace App

variable {supplies : Supplies σ} {start app : App σ} {events : List (Event σ)} {request : Request}

theorem status_rolled (user : LooseText) (record : RollRecord) :
    (rolled user record).status = if user.hasHalves then 500 else 200 := by
  unfold rolled
  split <;> rfl

theorem status_failed (expression : LooseText) (error : DiceError) :
    (failed expression (.dice error)).status = if showsHalf expression error then 500 else 400 := by
  simp only [failed]
  split <;> rfl

section Statuses

variable (inRange : supplies.source.InRange) (ends : supplies.source.EndsChains)
  (typed : Limit.Typed app.service.diceLimit app.service.lengthLimit)

include inRange ends typed

theorem roll_answer (body : List UInt8) :
    RollAnswer supplies app.service body (app.roll supplies body).response.status := by
  cases asked : expression? supplies.bodyDepth body with
  | none =>
    obtain ⟨_, refusal⟩ := roll_of_expression?_eq_none asked
    have status : (app.roll supplies body).response.status = 400 := by
      rw [refusal]
      rfl
    rw [status]
    constructor <;> simp [asked]
  | some expression =>
    have verdict := RollService.perform_verdict inRange ends typed expression.replaced
      (namedUser supplies.bodyDepth body).replaced none
    have response := congrArg Exchange.response (roll_of_expression? supplies app asked)
    dsimp only [RollService.roll, RollService.logFirst] at response
    rcases verdict with ⟨accepts, record, made⟩ |
      ⟨rejects, failure, refused, answer, ⟨error, rfl⟩ | ⟨rfl, _⟩⟩
    · have unrefused (failure : Failure) :
          ¬app.service.Refuses supplies (.str expression.replaced) failure :=
        accepts.not_refuses
      rw [made] at response
      rw [response, status_rolled]
      cases halves : (namedUser supplies.bodyDepth body).hasHalves <;>
        constructor <;> simp [asked, accepts, unrefused, halves]
    · have shown : ¬app.service.Refuses supplies (.str expression.replaced)
          (.unwritable Decimal.digitLimit) := fun again => by
        cases refused.unique again
      have sole (P : DiceError → Prop) :
          (∃ other, app.service.Refuses supplies (.str expression.replaced) (.dice other) ∧
            P other) ↔ P error := by
        refine ⟨fun ⟨other, again, holds⟩ => ?_, fun holds => ⟨error, refused, holds⟩⟩
        cases refused.unique again
        exact holds
      rw [answer] at response
      rw [response, status_failed]
      cases half : showsHalf expression error <;>
        constructor <;> simp [asked, rejects, sole, half, shown]
    · have noError (error : DiceError) :
          ¬app.service.Refuses supplies (.str expression.replaced) (.dice error) := fun again => by
        cases refused.unique again
      rw [answer] at response
      rw [response]
      constructor <;> simp [asked, rejects, noError, refused, failed, serverError]

theorem reroll_answer (id : String) (body : List UInt8) :
    RerollAnswer supplies app.service id body
      (app.reroll supplies id body).response.status := by
  cases found : app.service.memory.get? id with
  | none =>
    have unknown := RollService.reroll_of_get?_eq_none found supplies
      (namedUser supplies.bodyDepth body).replaced
    have status : (app.reroll supplies id body).response.status = 404 := by
      unfold namedUser at unknown
      simp only [reroll, unknown]
      rfl
    rw [status]
    constructor <;> simp [RollMemory.contains, found]
  | some stored =>
    have verdict := RollService.perform_verdict inRange ends typed stored.expression
      (namedUser supplies.bodyDepth body).replaced (some id)
    obtain ⟨_, again⟩ := RollService.reroll_of_get?_eq_some found supplies
      (namedUser supplies.bodyDepth body).replaced
    rcases verdict with ⟨accepts, record, made⟩ |
      ⟨rejects, failure, refused, answer, ⟨error, rfl⟩ | ⟨rfl, _⟩⟩
    · have unrefused (failure : Failure) :
          ¬app.service.Refuses supplies (.str stored.expression) failure :=
        accepts.not_refuses
      have response : (app.reroll supplies id body).response =
          rolled (namedUser supplies.bodyDepth body) record := by
        unfold namedUser at again made ⊢
        simp only [reroll, again, made, Except.map]
      rw [response, status_rolled]
      cases halves : (namedUser supplies.bodyDepth body).hasHalves <;>
        constructor <;> simp [RollMemory.contains, found, accepts, unrefused, halves]
    · have some : ∃ error, app.service.Refuses supplies (.str stored.expression) (.dice error) :=
        ⟨error, refused⟩
      have shown : ¬app.service.Refuses supplies (.str stored.expression)
          (.unwritable Decimal.digitLimit) := fun again => by
        cases refused.unique again
      have response : (app.reroll supplies id body).response = failed [] (.dice error) := by
        unfold namedUser at again answer
        simp only [reroll, again, answer, Except.map]
      rw [response, status_failed, showsHalf_nil]
      constructor <;> simp [RollMemory.contains, found, rejects, some, shown]
    · have noError (error : DiceError) :
          ¬app.service.Refuses supplies (.str stored.expression) (.dice error) := fun again => by
        cases refused.unique again
      have response : (app.reroll supplies id body).response = serverError := by
        unfold namedUser at again answer
        simp only [reroll, again, answer, Except.map]
        rfl
      rw [response]
      constructor <;> simp [RollMemory.contains, found, rejects, noError, refused, serverError]

end Statuses

theorem Traced.lookup_answer
    (traced : Traced supplies start events (start.run supplies events)) (id : String) :
    LookupAnswer supplies start events id ((start.run supplies events).lookup id) := by
  unfold lookup
  cases found : (start.run supplies events).service.memory.get? id with
  | none =>
    have unheld : (start.run supplies events).service.memory.contains id = false := by
      simp [RollMemory.contains, found]
    exact ⟨iff_of_true rfl unheld, fun stored held => by rw [found] at held; cases held⟩
  | some stored =>
    have held : (start.run supplies events).service.memory.contains id = true := by
      simp [RollMemory.contains, found]
    obtain ⟨timely, request, record, made, marked⟩ :=
      traced.origin _ (RollMemory.mem_entries_of_get?_eq_some found)
    obtain ⟨time, iso⟩ := Option.isSome_iff_exists.mp timely
    have response : (if (start.run supplies events).unshowable.contains id then serverError
        else respond 200 [("roll_id", .str id), ("expression", .str stored.expression),
          ("user", .str stored.user), ("created_at", .str time)]) =
        if (namedUser supplies.bodyDepth request.body).hasHalves then serverError
        else respond 200 [("roll_id", .str id), ("expression", .str record.result.canonical),
          ("user", .str record.user), ("created_at", .str time)] := by
      rw [made.expression, made.user]
      simp only [List.contains_iff_mem, marked]
    dsimp only at iso ⊢
    rw [iso]
    dsimp only
    rw [response]
    constructor
    · refine iff_of_false ?_ (by rw [held]; nofun)
      split <;> exact nofun
    · intro _ same
      rw [found] at same
      cases same
      exact ⟨request, record, time, made, rfl⟩

theorem typed_run {config : Members} (typed : Settings.WellTyped config) {dice : σ}
    {log : List LogEntry} (started : App.start config dice = .ok (start, log))
    (supplies : Supplies σ) (events : List (Event σ)) :
    Limit.Typed (start.run supplies events).service.diceLimit
      (start.run supplies events).service.lengthLimit := by
  obtain ⟨settings, read, limits⟩ := typed
  obtain ⟨_, other, _, readOther, _, rfl⟩ := start_eq_ok.mp started
  obtain rfl := Except.ok.inj (read.symm.trans readOther)
  obtain ⟨diceLimit, lengthLimit⟩ :=
    Prod.mk.inj (RollService.limits_run (events.filterMap (Event.demand? supplies.bodyDepth)))
  rw [service_run, diceLimit, lengthLimit]
  exact limits

/-- Requests that are neither answered with a roll nor forget one leave the memory as it is. -/
theorem memory_handle (supplies : Supplies σ) (app : App σ) (request : Request) :
    (app.handle supplies request).app.service.memory = app.service.memory ∨
      (∃ record, app.makes? supplies request = some record) ∨
      ∃ id, route request = .forget id ∧ app.service.memory.contains id = true := by
  rcases handle_cases supplies app request with
    ⟨_, ⟨id, endpoint, same⟩ | ⟨dice, same⟩⟩ | ⟨_, _, _, made, _⟩
  · cases held : app.service.memory.contains id with
    | true => exact .inr (.inr ⟨id, endpoint, held⟩)
    | false =>
      rw [same]
      exact .inl (RollMemory.remove_of_not_contains held)
  · rw [same]
    exact .inl rfl
  · exact .inr (.inl ⟨_, made⟩)

/-- After any run of an app with typed limits and a source that keeps its promises, the service
decides on the answer to every request: requests for rolls and rerolls by what it accepts and holds,
and those for held rolls by the request that the roll was made for. A body is read as the JSON
object that it holds, and it is read if it keeps to the limits on depth and digits. A roll that is
made is shown, unless the user's name holds halves of characters, and nothing but such a roll, shown
or not, and forgetting a roll that is held changes the memory. -/
theorem refines_service (inRange : supplies.source.InRange) (ends : supplies.source.EndsChains)
    (fresh : Function.Injective supplies.rollId) {config : Members}
    (typed : Settings.WellTyped config) {dice : σ} {log : List LogEntry}
    (started : App.start config dice = .ok (start, log)) (timely : ∀ event ∈ events, event.Timely)
    (request : Request) :
    let app := start.run supplies events
    let exchange := app.handle supplies request
    let user := namedUser supplies.bodyDepth request.body
    (route request = .roll →
      RollAnswer supplies app.service request.body exchange.response.status) ∧
    (∀ id, route request = .reroll id →
      RerollAnswer supplies app.service id request.body exchange.response.status) ∧
    (∀ id, route request = .lookup id →
      LookupAnswer supplies start events id exchange.response) ∧
    (∀ id, route request = .forget id → exchange.response =
      respond 200 [("removed", .bool (app.service.memory.contains id))]) ∧
    (∀ members, bodyMembers? supplies.bodyDepth request.body = some members ↔
      HoldsObject request.body members ∧
        bodyMembers? supplies.bodyDepth request.body ≠ none) ∧
    (∀ text, Text.decodeDetected request.body = some text →
      Json.KeepsTo Decimal.digitLimit supplies.bodyDepth text → ∀ members,
        bodyMembers? supplies.bodyDepth request.body = some members ↔
          HoldsObject request.body members) ∧
    (bodyMembers? supplies.bodyDepth request.body = none → user = []) ∧
    (app.service.ShowsLimits →
      ∀ text, ¬app.service.Refuses supplies (.str text) (.unwritable Decimal.digitLimit)) ∧
    (∀ record, app.makes? supplies request = some record →
      exchange.response = rolled user record ∧ record.user = user.replaced) ∧
    (exchange.app.service.memory = app.service.memory ∨
      (∃ record, app.makes? supplies request = some record) ∨
      ∃ id, route request = .forget id ∧ app.service.memory.contains id = true) := by
  intro app exchange user
  have limits := typed_run typed started supplies events
  have follows {endpoint : Route} (here : route request = endpoint)
      (known : endpoint ≠ .unknownPath) (right : endpoint ≠ .wrongMethod) :
      exchange.response = (app.follow supplies request.body endpoint).response := by
    rw [← here] at known right ⊢
    exact congrArg Exchange.response (handle_of_route known right)
  refine ⟨fun endpoint => ?_, fun id endpoint => ?_, fun id endpoint => ?_, fun id endpoint => ?_,
    fun members => bodyMembers?_eq_some_iff,
    fun text decoded keeps members => bodyMembers?_of_keepsTo decoded keeps,
    fun unreadable => ?_, fun shown text refused => ?_,
    fun record made => ⟨(handle_of_makes? made).1, ?_⟩, memory_handle supplies app request⟩
  · rw [follows endpoint nofun nofun]
    exact roll_answer inRange ends limits request.body
  · rw [follows endpoint nofun nofun]
    exact reroll_answer inRange ends limits id request.body
  · rw [follows endpoint nofun nofun]
    exact (traced_run fresh started timely).lookup_answer id
  · exact follows endpoint nofun nofun
  · simp only [user, namedUser, unreadable]
    rfl
  · rcases RollService.failure_of_refuses inRange ends limits refused with ⟨_, ⟨⟩⟩ | ⟨_, hidden⟩
    exact hidden shown
  · rcases handle_cases supplies app request with ⟨none, _⟩ | ⟨_, _, _, makes, _⟩
    · rw [made] at none
      cases none
    · cases made.symm.trans makes
      rfl

/-- A roll for a user with a whole name is made, and is shown when it is asked for. -/
theorem refines_service_lookup :
    let supplies : Supplies Unit := .numbered lowestSource
    let start : App Unit := { config := Settings.defaults, service := .ofSettings {} () }
    let asked : Request :=
      { method := "post", target := "/api/v1/roll"
        body := "\x7b\"expression\": \" 1 + D6\", \"user\": \"ann\"\x7d".toUTF8.toList }
    let events : List (Event Unit) :=
      [.surroundings () [.whole 5] { outage := some .connect }, .received asked]
    let request : Request := { method := "GET", target := "/api/v1/rolls/0" }
    let app := start.run supplies events
    (∃ log, App.start Settings.defaults () = .ok (start, log)) ∧
    LookupAnswer supplies start events "0" (app.handle supplies request).response ∧
    app.service.memory.get? "0" = some ⟨"1+D6", "ann", .whole 5⟩ ∧
    (app.handle supplies request).response.status = 200 := by
  intro supplies start asked events request app
  have typed : Settings.WellTyped Settings.defaults :=
    ⟨{}, rfl, ⟨1000, rfl⟩, 200, by decide, rfl⟩
  obtain ⟨log, started⟩ : ∃ log, App.start Settings.defaults () = .ok (start, log) := ⟨_, rfl⟩
  have timely : ∀ event ∈ events, event.Timely := by
    refine List.forall_mem_cons.mpr ⟨List.forall_mem_singleton.mpr ?_, ?_⟩
    · decide +kernel
    · exact List.forall_mem_singleton.mpr trivial
  have endpoint : route request = .lookup "0" := by
    decide +kernel
  have held : app.service.memory.get? "0" = some ⟨"1+D6", "ann", .whole 5⟩ := by
    decide +kernel
  have status : (app.handle supplies request).response.status = 200 := by
    decide +kernel
  have inRange : supplies.source.InRange := lowestSource_inRange
  obtain ⟨_, _, lookup, _⟩ := refines_service inRange lowestSource_endsChains
    (Supplies.numbered_injective _) typed started timely request
  exact ⟨⟨log, started⟩, lookup "0" endpoint, held, status⟩

/-- A user whose name is half a character: the expression is accepted and the roll is made and
remembered, and the response is that of a failure. -/
theorem roll_half_user :
    let supplies : Supplies Unit := .numbered lowestSource
    let app : App Unit := { config := Settings.defaults, service := .ofSettings {} () }
    let request : Request :=
      { method := "POST", target := "/api/v1/roll"
        body := "\x7b\"expression\": \"1\", \"user\": \"\\ud800\"\x7d".toUTF8.toList }
    let exchange := app.handle supplies request
    Settings.WellTyped Settings.defaults ∧
    (∃ log, App.start Settings.defaults () = .ok (app, log)) ∧
    expression? supplies.bodyDepth request.body = some (.ofString "1") ∧
    app.service.Accepts supplies "1" ∧
    exchange.response.status = 500 ∧ exchange.app.service.memory.ids = ["0"] := by
  intro supplies app request exchange
  have typed : Settings.WellTyped Settings.defaults :=
    ⟨{}, rfl, ⟨1000, rfl⟩, 200, by decide, rfl⟩
  have asked : expression? supplies.bodyDepth request.body = some (.ofString "1") := by
    decide +kernel
  have evaluated : supplies.source.evaluate app.service.diceLimit "1" app.service.dice =
      (.ok (.arithmetic ⟨"1", 1, "1", [.operand (.literal 1)]⟩), ()) := by
    decide +kernel
  have status : exchange.response.status = 500 := by
    decide +kernel
  have held : exchange.app.service.memory.ids = ["0"] := by
    decide +kernel
  exact ⟨typed, ⟨_, rfl⟩, asked, ⟨_, _, rfl, evaluated⟩, status, held⟩

end App

end DiceTable.Http
