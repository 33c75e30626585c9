import DiceTable.Proofs.Service.Run
import Mathlib.Data.List.Induction

/-! # The records of a run

A request makes a record or makes none. One that makes none leaves the memory as it is or forgets an
id; one that makes a record has rolled a text to a result and tracked it under the next id
(`RollService.after_cases`). So the ids of the records are those that were given out, in their order
(`RollService.map_id_records`), and no others are held.
-/

namespace DiceTable

namespace RollService

variable {σ : Type} {supplies : Supplies σ} {service : RollService σ} {request : Request σ}

def record? (supplies : Supplies σ) (service : RollService σ) : Request σ → Option RollRecord
  | .roll expression user => (service.roll supplies expression user).outcome.toOption
  | .reroll id user => (service.reroll supplies id user).outcome.toOption.join
  | .forget _ => none
  | .surroundings .. => none

def records (supplies : Supplies σ) (service : RollService σ) :
    List (Request σ) → List RollRecord
  | [] => []
  | request :: requests =>
    (service.record? supplies request).toList ++
      records supplies (service.after supplies request) requests

/-- What is rolled for a request: an expression, for a user, and the roll that is made again. -/
def attempt? (service : RollService σ) : Request σ → Option (Json × String × Option String)
  | .roll expression user => some (expression, user, none)
  | .reroll id user =>
    (service.memory.get? id).map fun stored => (.str stored.expression, user, some id)
  | .forget _ => none
  | .surroundings .. => none

/-- A reroll of an id that is not held does nothing but log that. -/
theorem reroll_of_get?_eq_none {id : String} (unknown : service.memory.get? id = none)
    (supplies : Supplies σ) (user : String) :
    service.reroll supplies id user =
      { outcome := .ok none
        service
        log := [⟨.debug, channel, "[Dice] reroll of unknown roll " ++ id⟩] } := by
  unfold reroll
  rw [unknown]

/-- A reroll of an id that is held performs the expression that is remembered, and logs that
before. -/
theorem reroll_of_get?_eq_some {id : String} {stored : StoredRoll}
    (found : service.memory.get? id = some stored) (supplies : Supplies σ) (user : String) :
    let step := service.perform supplies (.str stored.expression) user (some id)
    ∃ message, service.reroll supplies id user =
      { outcome := step.outcome.map some
        service := step.service
        announcements := step.announcements
        log := ⟨.info, channel, message⟩ :: step.log } := by
  intro step
  unfold reroll
  rw [found]
  exact ⟨_, rfl⟩

/-- An attempt is performed, and its answer is the record. -/
theorem after_of_attempt?_eq_some (supplies : Supplies σ) {expression : Json} {user : String}
    {origin : Option String}
    (attempt : service.attempt? request = some (expression, user, origin)) :
    service.record? supplies request =
        (service.perform supplies expression user origin).outcome.toOption ∧
      service.after supplies request =
        (service.perform supplies expression user origin).service := by
  cases request with
  | roll expression user =>
    cases attempt
    exact ⟨rfl, rfl⟩
  | reroll id user =>
    obtain ⟨stored, found, same⟩ := Option.map_eq_some_iff.mp attempt
    cases same
    obtain ⟨_, reroll⟩ := reroll_of_get?_eq_some found supplies user
    simp only [record?, after, reroll, and_true]
    cases (service.perform supplies (.str stored.expression) user (some id)).outcome <;> rfl
  | forget id => cases attempt
  | surroundings dice clock network => cases attempt

/-- Without an attempt there is no record, and at most an id is forgotten. -/
theorem after_of_attempt?_eq_none (supplies : Supplies σ)
    (attempt : service.attempt? request = none) :
    service.record? supplies request = none ∧
      (service.after supplies request).issued = service.issued ∧
      ((service.after supplies request).memory = service.memory ∨
        ∃ id, (service.after supplies request).memory = service.memory.remove id) := by
  cases request with
  | roll expression user => cases attempt
  | reroll id user =>
    have unknown : service.memory.get? id = none := Option.map_eq_none_iff.mp attempt
    have reroll := reroll_of_get?_eq_none unknown supplies user
    refine ⟨?_, ?_, .inl ?_⟩
    · rw [record?, reroll]
      rfl
    · rw [after, reroll]
    · rw [after, reroll]
  | forget id => exact ⟨rfl, rfl, .inr ⟨id, rfl⟩⟩
  | surroundings dice clock network => exact ⟨rfl, rfl, .inl rfl⟩

/-- A request makes no record and stores nothing, or it has rolled a text to a result, which is
tracked. -/
theorem after_cases (supplies : Supplies σ) (service : RollService σ) (request : Request σ) :
    (service.record? supplies request = none ∧
      (service.after supplies request).issued = service.issued ∧
      ((service.after supplies request).memory = service.memory ∨
        ∃ id, (service.after supplies request).memory = service.memory.remove id)) ∨
    ∃ text user origin result dice,
      service.attempt? request = some (.str text, user, origin) ∧
      service.Rolls supplies text result dice ∧
      service.record? supplies request =
        some ⟨supplies.rollId service.issued, user, result, origin⟩ ∧
      service.after supplies request =
        (track supplies { service with dice } result user origin).service := by
  cases attempt : service.attempt? request with
  | none => exact .inl (after_of_attempt?_eq_none supplies attempt)
  | some rolled =>
    obtain ⟨expression, user, origin⟩ := rolled
    obtain ⟨made, after⟩ := after_of_attempt?_eq_some supplies attempt
    rw [made, after]
    rcases perform_cases supplies service expression user origin with
      ⟨failure, dice, _, outcome, same, _⟩ | ⟨text, result, dice, rfl, rolls, same⟩
    · rw [outcome, same]
      exact .inl ⟨rfl, rfl, .inl rfl⟩
    · rw [same]
      exact .inr ⟨text, user, origin, result, dice, rfl, rolls, rfl, rfl⟩

/-- A request that makes no record has at most drawn from the source, unless it forgets a roll or
is a change of what is around the service. -/
theorem after_of_record?_eq_none (made : service.record? supplies request = none) :
    (∃ id, request = .forget id) ∨
      (∃ dice clock network, request = .surroundings dice clock network) ∨
      ∃ dice, service.after supplies request = { service with dice } := by
  cases attempt : service.attempt? request with
  | none =>
    cases request with
    | roll expression user => cases attempt
    | reroll id user =>
      have unknown : service.memory.get? id = none := Option.map_eq_none_iff.mp attempt
      rw [after, reroll_of_get?_eq_none unknown]
      exact .inr (.inr ⟨service.dice, rfl⟩)
    | forget id => exact .inl ⟨id, rfl⟩
    | surroundings dice clock network => exact .inr (.inl ⟨dice, clock, network, rfl⟩)
  | some rolled =>
    obtain ⟨expression, user, origin⟩ := rolled
    obtain ⟨outcome, after⟩ := after_of_attempt?_eq_some supplies attempt
    rw [outcome] at made
    rcases perform_cases supplies service expression user origin with
      ⟨_, dice, _, _, same, _⟩ | ⟨_, result, dice, _, _, same⟩
    · rw [after, same]
      exact .inr (.inr ⟨dice, rfl⟩)
    · rw [same] at made
      cases made

theorem run_append (supplies : Supplies σ) (service : RollService σ) (requests : List (Request σ))
    (request : Request σ) :
    service.run supplies (requests ++ [request]) =
      (service.run supplies requests).after supplies request := by
  simp [run]

theorem records_append (supplies : Supplies σ) (service : RollService σ)
    (requests : List (Request σ)) (request : Request σ) :
    service.records supplies (requests ++ [request]) = service.records supplies requests ++
      ((service.run supplies requests).record? supplies request).toList := by
  induction requests generalizing service with
  | nil => simp [records, run]
  | cons first requests ih =>
    rw [List.cons_append, records, ih, records, List.append_assoc]
    rfl

/-- A record of a run was made by one of the requests, from the state that the others in front of it
had led to. -/
theorem mem_records_iff {requests : List (Request σ)} {record : RollRecord} :
    record ∈ service.records supplies requests ↔
      ∃ front request back, requests = front ++ request :: back ∧
        (service.run supplies front).record? supplies request = some record := by
  induction requests generalizing service with
  | nil => simp [records]
  | cons first requests ih =>
    rw [records, List.mem_append, Option.mem_toList, ih]
    constructor
    · rintro (here | ⟨front, request, back, rfl, later⟩)
      · exact ⟨[], first, requests, rfl, here⟩
      · exact ⟨first :: front, request, back, rfl, later⟩
    · rintro ⟨front, request, back, split, made⟩
      cases front with
      | nil =>
        cases split
        exact .inl made
      | cons _ front =>
        cases split
        exact .inr ⟨front, request, back, rfl, made⟩

/-- The ids of the records are the ids that were given out, in their order. -/
theorem map_id_records (supplies : Supplies σ) (settings : ServiceSettings) (dice : σ)
    (requests : List (Request σ)) :
    ((ofSettings settings dice).records supplies requests).map RollRecord.id =
      (List.range ((ofSettings settings dice).run supplies requests).issued).map
        supplies.rollId := by
  induction requests using List.reverseRecOn with
  | nil => rfl
  | append_singleton requests request ih =>
    rw [records_append, run_append, List.map_append, ih]
    rcases after_cases supplies ((ofSettings settings dice).run supplies requests) request with
      ⟨made, issued, _⟩ | ⟨_, _, _, _, _, _, _, made, after⟩
    · simp [made, issued]
    · rw [made, after, track_eq, List.range_succ, List.map_append]
      rfl

/-- What holds of a service after any run: its memory is tidy, and holds ids that were given
out. -/
structure Sound (supplies : Supplies σ) (service : RollService σ) : Prop where
  tidy : service.memory.Tidy
  given : ∀ id ∈ service.memory.ids, ∃ n < service.issued, supplies.rollId n = id

theorem sound_ofSettings (supplies : Supplies σ) (settings : ServiceSettings) (dice : σ) :
    (ofSettings settings dice).Sound supplies :=
  ⟨RollMemory.tidy_ofLimit _, nofun⟩

theorem Sound.after (sound : service.Sound supplies) (request : Request σ) :
    (service.after supplies request).Sound supplies := by
  rcases after_cases supplies service request with
    ⟨_, issued, same | ⟨id, same⟩⟩ | ⟨text, user, origin, result, dice, _, _, _, after⟩
  · exact ⟨same ▸ sound.tidy, by rw [same, issued]; exact sound.given⟩
  · refine ⟨same ▸ sound.tidy.remove id, ?_⟩
    rw [same, issued, RollMemory.ids_remove]
    exact fun other member => sound.given other (List.mem_filter.mp member).1
  · rw [after]
    refine ⟨sound.tidy.store _ _, ?_⟩
    intro id member
    obtain ⟨entry, inEntries, rfl⟩ := List.mem_map.mp member
    rcases RollMemory.mem_entries_store inEntries with rfl | before
    · exact ⟨service.issued, Nat.lt_succ_self _, rfl⟩
    · obtain ⟨n, earlier, same⟩ := sound.given entry.1 (List.mem_map_of_mem before)
      exact ⟨n, Nat.lt_succ_of_lt earlier, same⟩

theorem Sound.run (sound : service.Sound supplies) (requests : List (Request σ)) :
    (service.run supplies requests).Sound supplies := by
  induction requests using List.reverseRecOn with
  | nil => exact sound
  | append_singleton requests request ih =>
    rw [run_append]
    exact ih.after request

/-- Where no id is given out twice, the next one is not held. -/
theorem Sound.next_not_mem (sound : service.Sound supplies)
    (fresh : Function.Injective supplies.rollId) :
    supplies.rollId service.issued ∉ service.memory.ids := by
  intro held
  obtain ⟨n, earlier, same⟩ := sound.given _ held
  have := fresh same
  omega

end RollService

end DiceTable
