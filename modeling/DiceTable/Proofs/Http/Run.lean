import DiceTable.Http.App
import DiceTable.Proofs.Except
import DiceTable.Proofs.Service.Records

/-! # Runs of an app

A request to an app asks its roll service for at most one thing (`demand?`), and it is the service
alone that this changes (`App.service_handle`). So a run of the app is a run of its service, over
those requests that ask for something (`App.service_run`).
-/

namespace DiceTable.Http

variable {σ : Type}

/-- A request to an app, or a change of what is around it. -/
inductive Event (σ : Type) where
  | received (request : Request)
  | surroundings (dice : σ) (clock : List Moment) (network : Network)

/-- The expression of a body that is an object with a text for it. -/
def expression? (depth : Nat) (body : List UInt8) : Option LooseText :=
  (bodyMembers? depth body).bind fun members =>
    match members.get? (.ofString "expression") with
    | some (.str expression) => some expression
    | _ => none

/-- The user that a body names; one that cannot be read names nobody. -/
def namedUser (depth : Nat) (body : List UInt8) : LooseText :=
  userOf ((bodyMembers? depth body).getD [])

def demand? (depth : Nat) (request : Request) : Option (DiceTable.Request σ) :=
  match route request with
  | .roll =>
    (expression? depth request.body).map fun expression =>
      .roll (.str expression.replaced) (namedUser depth request.body).replaced
  | .reroll id => some (.reroll id (namedUser depth request.body).replaced)
  | .forget id => some (.forget id)
  | _ => none

def Event.demand? (depth : Nat) : Event σ → Option (DiceTable.Request σ)
  | .received request => Http.demand? depth request
  | .surroundings dice clock network => some (.surroundings dice clock network)

theorem fixedRoute?_head (path : List Char) :
    ∀ found ∈ fixedRoute? "HEAD" path, found = .wrongMethod := by
  intro found member
  unfold fixedRoute? at member
  split at member
  · cases member
    rfl
  · cases member
    rfl
  · cases member
    rfl
  · split at member
    · cases member
    · cases member
      rfl
  · cases member

theorem idRoute?_head (path : List Char) :
    ∀ found ∈ idRoute? "HEAD" path, found = .wrongMethod := by
  intro found member
  unfold idRoute? at member
  split at member
  · split at member
    · cases member
    · cases member
      rfl
  · cases member

/-- A request for the head of a response goes to no endpoint. -/
theorem route_of_head {request : Request} (head : request.verb = "HEAD") :
    route request = .unknownPath ∨ route request = .wrongMethod := by
  unfold route
  rw [head]
  dsimp only
  cases found : (fixedRoute? "HEAD" (Target.ofChars request.target.toList).decodedPath).or
      (idRoute? "HEAD" (Target.ofChars request.target.toList).decodedPath) with
  | none => exact .inl rfl
  | some endpoint =>
    right
    rcases Option.or_eq_some_iff.mp found with fixed | ⟨_, named⟩
    · exact fixedRoute?_head _ endpoint fixed
    · exact idRoute?_head _ endpoint named

namespace App

variable {supplies : Supplies σ} {app : App σ} {request : Request}

def next (supplies : Supplies σ) (app : App σ) : Event σ → App σ
  | .received request => (app.handle supplies request).app
  | .surroundings dice clock network =>
    { app with service := { app.service with dice, clock, network } }

def run (supplies : Supplies σ) (app : App σ) (events : List (Event σ)) : App σ :=
  events.foldl (next supplies) app

theorem run_append (supplies : Supplies σ) (app : App σ) (events : List (Event σ))
    (event : Event σ) :
    app.run supplies (events ++ [event]) = (app.run supplies events).next supplies event := by
  simp [run]

/-- An endpoint answers with the whole response. -/
theorem handle_of_route (known : route request ≠ .unknownPath)
    (right : route request ≠ .wrongMethod) :
    app.handle supplies request = app.follow supplies request.body (route request) := by
  unfold handle
  rw [if_neg]
  exact fun head => (route_of_head head).elim known right

theorem handle_app (supplies : Supplies σ) (app : App σ) (request : Request) :
    (app.handle supplies request).app = (app.follow supplies request.body (route request)).app := by
  unfold handle
  dsimp only
  split <;> rfl

theorem start_eq_ok {config : Members} {dice : σ} {log : List LogEntry} :
    start config dice = .ok (app, log) ↔
      ∃ setup settings, Settings.LogSetup.ofConfig config = .ok setup ∧
        ServiceSettings.ofConfig config = .ok settings ∧ opening config settings = .ok log ∧
        app = { config, service := .ofSettings settings dice } := by
  unfold start
  constructor
  · intro started
    obtain ⟨setup, laid, started⟩ := Except.bind_eq_ok.mp started
    obtain ⟨settings, read, started⟩ := Except.bind_eq_ok.mp started
    obtain ⟨_, opened, answer⟩ := Except.bind_eq_ok.mp started
    cases answer
    exact ⟨setup, settings, laid, read, opened, rfl⟩
  · rintro ⟨setup, settings, laid, read, opened, rfl⟩
    refine Except.bind_eq_ok.mpr ⟨setup, laid, Except.bind_eq_ok.mpr ⟨settings, read, ?_⟩⟩
    exact Except.bind_eq_ok.mpr ⟨_, opened, rfl⟩

theorem roll_of_expression? (supplies : Supplies σ) (app : App σ) {body : List UInt8}
    {expression : LooseText} (asked : expression? supplies.bodyDepth body = some expression) :
    let user := namedUser supplies.bodyDepth body
    let step := app.service.roll supplies (.str expression.replaced) user.replaced
    app.roll supplies body =
      { response := match step.outcome with
          | .ok record => rolled user record
          | .error failure => failed expression failure
        app := app.after user { step with outcome := step.outcome.map some }
        sent := sentFor user step.sent } := by
  obtain ⟨members, read, asked⟩ := Option.bind_eq_some_iff.mp asked
  split at asked
  · rename_i found
    cases asked
    cases outcome : (app.service.roll supplies (.str expression.replaced)
        (userOf members).replaced).outcome <;>
      simp only [roll, namedUser, read, found, Option.getD_some, outcome]
  · cases asked

/-- The refusal of a body that asks for no roll does not depend on the app. -/
theorem roll_of_expression?_eq_none {body : List UInt8}
    (asked : expression? supplies.bodyDepth body = none) :
    ∃ message, ∀ app : App σ, app.roll supplies body =
      { response := respond 400 [("error", .str message)], app } := by
  unfold roll
  cases read : bodyMembers? supplies.bodyDepth body with
  | none => exact ⟨_, fun _ => rfl⟩
  | some members =>
    rw [expression?, read] at asked
    dsimp only [Option.bind_some] at asked ⊢
    split
    · rename_i found
      rw [found] at asked
      cases asked
    · exact ⟨_, fun _ => rfl⟩

/-- What a request does to the service is what it asks for. -/
theorem service_handle (supplies : Supplies σ) (app : App σ) (request : Request) :
    (app.handle supplies request).app.service =
      match demand? supplies.bodyDepth request with
      | none => app.service
      | some demand => app.service.after supplies demand := by
  rw [handle_app, demand?]
  cases route request with
  | roll =>
    cases asked : expression? supplies.bodyDepth request.body with
    | none =>
      obtain ⟨_, refused⟩ := roll_of_expression?_eq_none asked
      simp only [follow, refused, Option.map_none]
    | some expression =>
      simp only [follow, roll_of_expression? supplies app asked, Option.map_some]
      rfl
  | reroll id => rfl
  | forget id => rfl
  | _ => rfl

theorem service_next (supplies : Supplies σ) (app : App σ) (event : Event σ) :
    (app.next supplies event).service =
      match event.demand? supplies.bodyDepth with
      | none => app.service
      | some demand => app.service.after supplies demand := by
  cases event with
  | received request => exact service_handle supplies app request
  | surroundings dice clock network => rfl

/-- A run of the app is a run of its service. -/
theorem service_run (supplies : Supplies σ) (app : App σ) (events : List (Event σ)) :
    (app.run supplies events).service =
      app.service.run supplies (events.filterMap (Event.demand? supplies.bodyDepth)) := by
  induction events generalizing app with
  | nil => rfl
  | cons event events ih =>
    have here := service_next supplies app event
    refine (ih _).trans ?_
    cases asks : event.demand? supplies.bodyDepth with
    | none =>
      rw [asks] at here
      rw [here, List.filterMap_cons_none asks]
    | some demand =>
      rw [asks] at here
      rw [here, List.filterMap_cons_some asks]
      rfl

def makes? (supplies : Supplies σ) (app : App σ) (request : Request) : Option RollRecord :=
  (demand? supplies.bodyDepth request).bind (app.service.record? supplies)

/-- A roll that is made for a user is marked if the user's name holds halves of characters, and does
not show then. -/
theorem handle_of_makes? {record : RollRecord} (made : app.makes? supplies request = some record) :
    let user := namedUser supplies.bodyDepth request.body
    (app.handle supplies request).response = rolled user record ∧
      (app.handle supplies request).app.unshowable =
        if user.hasHalves then record.id :: app.unshowable else app.unshowable := by
  dsimp only
  obtain ⟨demand, asks, made⟩ := Option.bind_eq_some_iff.mp made
  unfold demand? at asks
  split at asks
  · rename_i endpoint
    obtain ⟨expression, asked, rfl⟩ := Option.map_eq_some_iff.mp asks
    have outcome := Except.toOption_eq_some.mp made
    rw [handle_of_route (by rw [endpoint]; nofun) (by rw [endpoint]; nofun), endpoint, follow,
      roll_of_expression? supplies app asked]
    simp only [outcome, after]
    exact ⟨trivial, rfl⟩
  · rename_i id endpoint
    cases asks
    have outcome := Except.toOption_eq_some.mp (Option.join_eq_some_iff.mp made)
    rw [handle_of_route (by rw [endpoint]; nofun) (by rw [endpoint]; nofun), endpoint]
    unfold namedUser at outcome ⊢
    simp only [follow, reroll, outcome, after, and_self]
  · cases asks
    cases made
  · cases asks

/-- Where no roll is made, none is marked. -/
theorem handle_of_makes?_eq_none (made : app.makes? supplies request = none) :
    (app.handle supplies request).app.unshowable = app.unshowable := by
  rw [handle_app]
  unfold makes? demand? at made
  cases endpoint : route request with
  | roll =>
    rw [endpoint] at made
    cases asked : expression? supplies.bodyDepth request.body with
    | none =>
      obtain ⟨_, refused⟩ := roll_of_expression?_eq_none asked
      rw [follow, refused]
    | some expression =>
      rw [asked] at made
      rw [follow, roll_of_expression? supplies app asked]
      cases outcome : (app.service.roll supplies (.str expression.replaced)
          (namedUser supplies.bodyDepth request.body).replaced).outcome with
      | ok record =>
        have answered : some record = none := by
          rw [← made]
          exact (Except.toOption_eq_some.mpr outcome).symm
        cases answered
      | error failure => simp only [after, Except.map]
  | reroll id =>
    rw [endpoint] at made
    unfold namedUser at made
    cases outcome : (app.service.reroll supplies id
        (userOf ((bodyMembers? supplies.bodyDepth request.body).getD [])).replaced).outcome with
    | ok answer =>
      cases answer with
      | none => simp only [follow, reroll, after, outcome]
      | some record =>
        have answered : some record = none := by
          rw [← made]
          exact (Option.join_eq_some_iff.mpr (Except.toOption_eq_some.mpr outcome)).symm
        cases answered
    | error failure => simp only [follow, reroll, after, outcome]
  | _ => rfl

theorem demand?_eq_forget {depth : Nat} {id : String}
    (asks : demand? depth request = some (.forget id : DiceTable.Request σ)) :
    route request = .forget id := by
  unfold demand? at asks
  split at asks
  · obtain ⟨_, _, same⟩ := Option.map_eq_some_iff.mp asks
    cases same
  · cases asks
  · rename_i endpoint
    cases asks
    exact endpoint
  · cases asks

/-- What is rolled for a request is rolled for the user that its body names. -/
theorem user_of_attempt? {depth : Nat} {demand : DiceTable.Request σ}
    (asks : demand? depth request = some demand)
    {service : RollService σ} {expression : Json} {user : String} {origin : Option String}
    (attempt : service.attempt? demand = some (expression, user, origin)) :
    user = (namedUser depth request.body).replaced := by
  unfold demand? at asks
  split at asks
  · obtain ⟨_, _, rfl⟩ := Option.map_eq_some_iff.mp asks
    cases attempt
    rfl
  · cases asks
    obtain ⟨_, _, same⟩ := Option.map_eq_some_iff.mp attempt
    cases same
    rfl
  · cases asks
    cases attempt
  · cases asks

/-- A request makes no roll, and has at most drawn from the source or made the service forget; or it
makes one, which is tracked for the user that its body names. -/
theorem handle_cases (supplies : Supplies σ) (app : App σ) (request : Request) :
    (app.makes? supplies request = none ∧
      ((∃ id, route request = .forget id ∧
          (app.handle supplies request).app.service = (app.service.forget id).2) ∨
        ∃ dice, (app.handle supplies request).app.service = { app.service with dice })) ∨
    ∃ result dice origin,
      let user := (namedUser supplies.bodyDepth request.body).replaced
      app.makes? supplies request =
        some ⟨supplies.rollId app.service.issued, user, result, origin⟩ ∧
      (app.handle supplies request).app.service =
        (RollService.track supplies { app.service with dice } result user origin).service := by
  have service := service_handle supplies app request
  cases asks : demand? (σ := σ) supplies.bodyDepth request with
  | none =>
    rw [asks] at service
    exact .inl ⟨by rw [makes?, asks]; rfl, .inr ⟨app.service.dice, service⟩⟩
  | some demand =>
    rw [asks] at service
    have makes : app.makes? supplies request = app.service.record? supplies demand := by
      rw [makes?, asks]
      rfl
    rw [makes, service]
    rcases RollService.after_cases supplies app.service demand with
      ⟨made, _⟩ | ⟨_, user, origin, result, dice, attempt, _, made, after⟩
    · refine .inl ⟨made, ?_⟩
      rcases RollService.after_of_record?_eq_none made with
        ⟨id, rfl⟩ | ⟨_, _, _, rfl⟩ | ⟨dice, same⟩
      · exact .inl ⟨id, demand?_eq_forget asks, rfl⟩
      · unfold demand? at asks
        split at asks
        · obtain ⟨_, _, same⟩ := Option.map_eq_some_iff.mp asks
          cases same
        all_goals cases asks
      · exact .inr ⟨dice, same⟩
    · obtain rfl := user_of_attempt? asks attempt
      exact .inr ⟨result, dice, origin, made, after⟩

end App

end DiceTable.Http
