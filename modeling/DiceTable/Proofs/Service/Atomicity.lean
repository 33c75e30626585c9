import DiceTable.Proofs.Except
import DiceTable.Proofs.Service.Records

/-! # All or nothing

A roll that fails has at most drawn from the source: the memory, the ids and the clock are as they
were, and nothing is announced (`RollService.OnlyDraws`). A roll that succeeds adds one entry, the
newest, under an id that was never given out before, and pushes out the oldest entry at most
(`RollService.Adds`). There is nothing in between, however far a roll gets.
-/

namespace DiceTable

namespace RollService

variable {σ α : Type} {supplies : Supplies σ} {service : RollService σ}

/-- All that a step has done is to draw from the source, and to log in the name of the service. -/
structure OnlyDraws (service : RollService σ) (step : ServiceStep σ α) : Prop where
  service : ∃ dice, step.service = { service with dice }
  sent : step.sent = []
  log : ∀ entry ∈ step.log, entry.channel = channel

/-- A record takes the next id, which was not given out before and is not held, and its canonical
text is remembered for its user as the newest entry, less one of the oldest at most. -/
structure Adds (supplies : Supplies σ) (service : RollService σ) (user : String)
    (origin : Option String) (record : RollRecord) (after : RollService σ) : Prop where
  id : record.id = supplies.rollId service.issued
  fresh : ∀ n < service.issued, supplies.rollId n ≠ record.id
  unheld : record.id ∉ service.memory.ids
  acting : record.user = user
  again : record.rerolledFrom = origin
  issued : after.issued = service.issued + 1
  entries : ∃ dropped, dropped.length ≤ 1 ∧
    dropped ++ after.memory.entries =
      service.memory.entries ++ [(record.id, ⟨record.result.canonical, user, service.time⟩)]

/-- A result that is tracked makes a record that is added. -/
theorem Sound.adds_track (sound : service.Sound supplies)
    (fresh : Function.Injective supplies.rollId) (dice : σ) (result : RollResult) (user : String)
    (origin : Option String) :
    service.Adds supplies user origin ⟨supplies.rollId service.issued, user, result, origin⟩
      (track supplies { service with dice } result user origin).service where
  id := rfl
  fresh n earlier same := by
    have := fresh same
    omega
  unheld := sound.next_not_mem fresh
  acting := rfl
  again := rfl
  issued := rfl
  entries := ⟨_, sound.tidy.length_dropped_le _ _,
    RollMemory.dropped_append_entries_of_not_mem (sound.next_not_mem fresh) _⟩

/-- An attempt fails and has only drawn, or it succeeds and adds its record. -/
theorem Sound.perform (sound : service.Sound supplies)
    (fresh : Function.Injective supplies.rollId) (expression : Json) (user : String)
    (origin : Option String) :
    let step := service.perform supplies expression user origin
    (∀ failure, step.outcome = .error failure → service.OnlyDraws step) ∧
      ∀ record, step.outcome = .ok record →
        service.Adds supplies user origin record step.service := by
  dsimp only
  rcases perform_cases supplies service expression user origin with
    ⟨failure, dice, _, outcome, same, silent, log⟩ | ⟨text, result, dice, _, _, same⟩
  · refine ⟨fun _ _ => ⟨⟨dice, same⟩, congrArg _ silent, log⟩, fun record answer => ?_⟩
    rw [outcome] at answer
    cases answer
  · refine ⟨fun failure failed => ?_, fun record answer => ?_⟩
    · rw [same] at failed
      cases failed
    · rw [same] at answer ⊢
      cases answer
      exact sound.adds_track fresh dice result user origin

/-- After any run, a roll or a reroll that fails, or that knows no roll, has only drawn from the
source; one that succeeds adds its record. -/
theorem roll_all_or_nothing (supplies : Supplies σ) (fresh : Function.Injective supplies.rollId)
    (settings : ServiceSettings) (dice : σ) (requests : List (Request σ)) :
    let service := (ofSettings settings dice).run supplies requests
    (∀ expression user,
      let step := service.roll supplies expression user
      (∀ failure, step.outcome = .error failure → service.OnlyDraws step) ∧
      ∀ record, step.outcome = .ok record →
        service.Adds supplies user none record step.service) ∧
    ∀ id user,
      let step := service.reroll supplies id user
      (∀ failure, step.outcome = .error failure → service.OnlyDraws step) ∧
      (step.outcome = .ok none → service.OnlyDraws step) ∧
      ∀ record, step.outcome = .ok (some record) →
        service.Adds supplies user (some id) record step.service := by
  intro service
  have sound : service.Sound supplies := (sound_ofSettings supplies settings dice).run requests
  constructor
  · intro expression user step
    obtain ⟨fails, succeeds⟩ := sound.perform fresh expression user none
    refine ⟨fun failure failed => ?_, succeeds⟩
    obtain ⟨unchanged, sent, log⟩ := fails failure failed
    exact ⟨unchanged, sent, List.forall_mem_cons.mpr ⟨rfl, log⟩⟩
  · intro id user step
    cases found : service.memory.get? id with
    | none =>
      have unknown : step = _ := reroll_of_get?_eq_none found supplies user
      have draws : service.OnlyDraws step := by
        rw [unknown]
        exact ⟨⟨service.dice, rfl⟩, rfl, List.forall_mem_singleton.mpr rfl⟩
      refine ⟨fun _ _ => draws, fun _ => draws, fun record answer => ?_⟩
      rw [unknown] at answer
      cases answer
    | some stored =>
      obtain ⟨fails, succeeds⟩ := sound.perform fresh (.str stored.expression) user (some id)
      obtain ⟨message, known⟩ := reroll_of_get?_eq_some found supplies user
      have same : step = _ := known
      rw [same]
      refine ⟨fun failure failed => ?_, fun missing => ?_, fun record answer => ?_⟩
      · obtain ⟨unchanged, sent, log⟩ := fails failure (Except.map_eq_error.mp failed)
        exact ⟨unchanged, sent, List.forall_mem_cons.mpr ⟨rfl, log⟩⟩
      · obtain ⟨_, _, impossible⟩ := Except.map_eq_ok.mp missing
        cases impossible
      · obtain ⟨_, answer, made⟩ := Except.map_eq_ok.mp answer
        cases made
        exact succeeds record answer

/-- A memory for one roll: a division by zero leaves it as it is, and a reroll pushes out the very
roll that is made again. -/
theorem roll_all_or_nothing_single :
    let supplies : Supplies (List Int) := .numbered listedSource
    let requests : List (Request (List Int)) := [.roll (.str "2 d6") "ann"]
    let service := (ofSettings { memoryLimit := 1 } [5, 4, 3, 2]).run supplies requests
    let failed := service.roll supplies (.str "d6/0") "cid"
    let again := service.reroll supplies "0" "bob"
    Function.Injective supplies.rollId ∧ service.memory.ids = ["0"] ∧
    (failed.outcome = .error (.dice (.divisionByZero "3 / 0")) ∧ failed.service.dice = [2] ∧
      service.OnlyDraws failed) ∧
    (∃ record, again.outcome = .ok (some record) ∧
      service.Adds supplies "bob" (some "0") record again.service) ∧
    again.service.memory.ids = ["1"] := by
  intro supplies requests service failed again
  have fresh : Function.Injective supplies.rollId := Supplies.numbered_injective _
  obtain ⟨roll, reroll⟩ :=
    roll_all_or_nothing supplies fresh { memoryLimit := 1 } [5, 4, 3, 2] requests
  have error : failed.outcome = .error (.dice (.divisionByZero "3 / 0")) := by
    decide +kernel
  have drawn : failed.service.dice = [2] := by
    decide +kernel
  have held : service.memory.ids = ["0"] := by
    decide +kernel
  have kept : again.service.memory.ids = ["1"] := by
    decide +kernel
  have answered : ∃ record, again.outcome = .ok (some record) := by
    have isRecord : again.outcome.map Option.isSome = .ok true := by
      decide +kernel
    obtain ⟨answer, outcome, isSome⟩ := Except.map_eq_ok.mp isRecord
    obtain ⟨record, rfl⟩ := Option.isSome_iff_exists.mp isSome
    exact ⟨record, outcome⟩
  obtain ⟨record, answer⟩ := answered
  exact ⟨fresh, held, ⟨error, drawn, (roll _ _).1 _ error⟩,
    ⟨record, answer, (reroll _ _).2.2 record answer⟩, kept⟩

end RollService

end DiceTable
