import DiceTable.Proofs.Except
import DiceTable.Proofs.Service.Delivery
import DiceTable.Proofs.Service.Records

/-! # Announced rolls

Each request announces the record that it makes, and nothing if it makes none
(`RollService.announced_cases`). The announcement finds the memory as it is when it is made, and the
roll is held by then, with the id and the text that are announced. So whoever hears of a roll can
make it again at once, and for as long as nothing else is stored and it is not forgotten
(`RollService.announcements`).
-/

namespace DiceTable

/-- What a step sends, and what it logs in the name of the notifier. -/
def ServiceStep.delivery {σ α : Type} (step : ServiceStep σ α) : Delivery where
  sent := step.sent
  log := step.log.filter fun entry => entry.channel = Notifier.channel

/-- What is announced is a record, and the memory at that moment holds its text under its id. -/
structure Announcement.Conveys {σ : Type} (announcement : Announcement) (supplies : Supplies σ)
    (record : RollRecord) : Prop where
  payload : announcement.payload = .ofRecord record supplies.now supplies.embedTime
  held : ∃ roll, announcement.memory.get? record.id = some roll ∧
    roll.expression = record.result.canonical

namespace RollService

variable {σ α : Type} {supplies : Supplies σ} {service : RollService σ} {request : Request σ}

def announced (supplies : Supplies σ) (service : RollService σ) :
    Request σ → List Announcement
  | .roll expression user => (service.roll supplies expression user).announcements
  | .reroll id user => (service.reroll supplies id user).announcements
  | .forget _ => []
  | .surroundings .. => []

/-- What is sent, and logged in the name of the notifier, at a request. -/
def delivery (supplies : Supplies σ) (service : RollService σ) : Request σ → Delivery
  | .roll expression user => (service.roll supplies expression user).delivery
  | .reroll id user => (service.reroll supplies id user).delivery
  | .forget _ => {}
  | .surroundings .. => {}

def allAnnounced (supplies : Supplies σ) (service : RollService σ) :
    List (Request σ) → List Announcement
  | [] => []
  | request :: requests =>
    service.announced supplies request ++
      allAnnounced supplies (service.after supplies request) requests

/-- What is sent and logged at requests, in their order, as far as there is anything. -/
def deliveries (supplies : Supplies σ) (service : RollService σ) :
    List (Request σ) → List Delivery
  | [] => []
  | request :: requests =>
    let here := service.delivery supplies request
    (if here = {} then [] else [here]) ++
      deliveries supplies (service.after supplies request) requests

/-- Entries of another part of the log are not the notifier's. -/
theorem filter_log_eq_nil {log : List LogEntry}
    (other : ∀ entry ∈ log, entry.channel ≠ Notifier.channel) :
    log.filter (fun entry => entry.channel = Notifier.channel) = [] :=
  List.filter_eq_nil_iff.mpr fun entry member => by simpa using other entry member

/-- All that is delivered of a tracked roll is its one announcement. -/
theorem delivery_track (supplies : Supplies σ) (service : RollService σ) (result : RollResult)
    (user : String) (origin : Option String) :
    (track supplies service result user origin).delivery =
      service.notifier.deliver service.network
        (.ofRecord ⟨supplies.rollId service.issued, user, result, origin⟩ supplies.now
          supplies.embedTime) := by
  have own : ∀ payload, (service.notifier.deliver service.network payload).log.filter
      (fun entry => entry.channel = Notifier.channel) =
        (service.notifier.deliver service.network payload).log := fun payload =>
    List.filter_eq_self.mpr fun entry member =>
      decide_eq_true (Notifier.log_deliver _ _ payload entry member)
  simp only [ServiceStep.delivery, ServiceStep.sent, track_eq, List.filter_append, own,
    filter_log_eq_nil fun _ => channel_of_mem_evictions, List.nil_append, List.flatMap_singleton]

/-- A request announces and delivers what its attempt does, if it attempts anything. -/
theorem announced_of_attempt? (supplies : Supplies σ) (service : RollService σ)
    (request : Request σ) :
    match service.attempt? request with
    | none =>
      service.announced supplies request = [] ∧ service.delivery supplies request = {}
    | some (expression, user, origin) =>
      let step := service.perform supplies expression user origin
      service.announced supplies request = step.announcements ∧
        service.delivery supplies request = step.delivery := by
  have ahead (level : LogLevel) (message : String) (log : List LogEntry) :
      ((⟨level, channel, message⟩ :: log).filter fun entry => entry.channel = Notifier.channel) =
        log.filter fun entry => entry.channel = Notifier.channel :=
    List.filter_cons_of_neg (by simp [channel_ne])
  cases request with
  | roll expression user =>
    refine ⟨rfl, ?_⟩
    simp only [delivery, ServiceStep.delivery, roll, logFirst, List.singleton_append, ahead]
    rfl
  | reroll id user =>
    cases found : service.memory.get? id with
    | none =>
      simp only [attempt?, found, Option.map_none, announced, delivery, ServiceStep.delivery,
        reroll_of_get?_eq_none found, ahead]
      exact ⟨trivial, rfl⟩
    | some stored =>
      obtain ⟨_, again⟩ := reroll_of_get?_eq_some found supplies user
      simp only [attempt?, found, Option.map_some, announced, delivery, ServiceStep.delivery, again,
        ahead]
      exact ⟨trivial, rfl⟩
  | forget id => exact ⟨rfl, rfl⟩
  | surroundings dice clock network => exact ⟨rfl, rfl⟩

/-- The announcement of a record by a service. -/
structure Announced (supplies : Supplies σ) (service : RollService σ) (record : RollRecord)
    (announcement : Announcement) : Prop extends announcement.Conveys supplies record where
  delivery : announcement.delivery = service.notifier.deliver service.network announcement.payload

/-- A request makes no record and announces nothing, or it makes one announcement, which is that of
the record that it makes. -/
theorem announced_cases (supplies : Supplies σ) (service : RollService σ) (request : Request σ) :
    (service.record? supplies request = none ∧ service.announced supplies request = [] ∧
      service.delivery supplies request = {}) ∨
    ∃ record announcement, service.record? supplies request = some record ∧
      service.announced supplies request = [announcement] ∧
      service.delivery supplies request = announcement.delivery ∧
      (service.after supplies request).memory = announcement.memory ∧
      service.Announced supplies record announcement := by
  have performed := announced_of_attempt? supplies service request
  cases attempt : service.attempt? request with
  | none =>
    rw [attempt] at performed
    exact .inl ⟨(after_of_attempt?_eq_none supplies attempt).1, performed⟩
  | some rolled =>
    obtain ⟨expression, user, origin⟩ := rolled
    rw [attempt] at performed
    obtain ⟨announced, delivered⟩ := performed
    obtain ⟨made, after⟩ := after_of_attempt?_eq_some supplies attempt
    rw [made, after, announced, delivered]
    rcases perform_cases supplies service expression user origin with
      ⟨failure, dice, _, outcome, _, silent, log⟩ | ⟨text, result, dice, _, _, same⟩
    · refine .inl ⟨by rw [outcome]; rfl, silent, ?_⟩
      have quiet := filter_log_eq_nil fun entry member =>
        (log entry member).trans_ne channel_ne
      simp only [ServiceStep.delivery, ServiceStep.sent, silent, quiet, List.flatMap_nil]
    · rw [same, delivery_track]
      exact .inr ⟨_, _, rfl, rfl, rfl, rfl,
        ⟨rfl, _, RollMemory.get?_store_self _ _ _, rfl⟩, rfl⟩

theorem notifier_after (supplies : Supplies σ) (service : RollService σ) (request : Request σ) :
    (service.after supplies request).notifier = service.notifier := by
  rcases after_cases supplies service request with
    ⟨made, _⟩ | ⟨_, _, _, _, _, _, _, _, same⟩
  · rcases after_of_record?_eq_none made with ⟨_, rfl⟩ | ⟨_, _, _, rfl⟩ | ⟨_, same⟩
    · rfl
    · rfl
    · rw [same]
  · rw [same]
    rfl

/-- A service keeps its notifier. -/
theorem notifier_run (supplies : Supplies σ) (service : RollService σ)
    (requests : List (Request σ)) :
    (service.run supplies requests).notifier = service.notifier := by
  induction requests generalizing service with
  | nil => rfl
  | cons request requests ih => exact (ih _).trans (notifier_after supplies service request)

/-- What is held stays so at a request that neither makes a record nor forgets it. -/
theorem get?_after_of_record?_eq_none {id : String}
    (made : service.record? supplies request = none) (kept : request ≠ .forget id) :
    (service.after supplies request).memory.get? id = service.memory.get? id := by
  rcases after_of_record?_eq_none made with ⟨other, rfl⟩ | ⟨_, _, _, rfl⟩ | ⟨_, same⟩
  · have different : id ≠ other := fun same => kept (by rw [same])
    rw [after, forget, RollMemory.get?_remove, if_neg different]
  · rfl
  · rw [same]

/-- What is held stays so until another record is made or it is forgotten. -/
theorem get?_run_of_records_eq_nil {id : String} {later : List (Request σ)}
    (quiet : service.records supplies later = []) (kept : .forget id ∉ later) :
    (service.run supplies later).memory.get? id = service.memory.get? id := by
  induction later generalizing service with
  | nil => rfl
  | cons request later ih =>
    obtain ⟨made, quiet⟩ := List.append_eq_nil_iff.mp quiet
    have none := Option.toList_eq_nil_iff.mp made
    have other : request ≠ .forget id := fun same => kept (same ▸ List.mem_cons_self)
    exact (ih quiet fun member => kept (List.mem_cons_of_mem _ member)).trans
      (get?_after_of_record?_eq_none none other)

/-- The announced id is held with the announced text, so rerolls by it find it. -/
structure Finds (service : RollService σ) (payload : Payload) : Prop where
  held : ∃ roll, service.memory.get? payload.rollId = some roll ∧
    roll.expression = payload.expression
  known : ∀ (supplies : Supplies σ) (user : String),
    (service.reroll supplies payload.rollId user).outcome ≠ .ok none

theorem finds_of_get? {payload : Payload} {roll : StoredRoll}
    (found : service.memory.get? payload.rollId = some roll)
    (same : roll.expression = payload.expression) : service.Finds payload := by
  refine ⟨⟨roll, found, same⟩, fun supplies user missing => ?_⟩
  obtain ⟨_, again⟩ := reroll_of_get?_eq_some found supplies user
  rw [again] at missing
  obtain ⟨_, _, impossible⟩ := Except.map_eq_ok.mp missing
  cases impossible

/-- A service with the memory that is there at an announcement finds what is announced. -/
theorem finds_of_conveys {announcement : Announcement} {record : RollRecord}
    (conveys : announcement.Conveys supplies record)
    (memory : service.memory = announcement.memory) : service.Finds announcement.payload := by
  obtain ⟨payload, roll, found, text⟩ := conveys
  rw [payload]
  exact finds_of_get? (memory ▸ found) text

theorem delivery_eq_nil_of_record?_eq_none (made : service.record? supplies request = none) :
    service.delivery supplies request = {} := by
  rcases announced_cases supplies service request with ⟨_, _, nothing⟩ | ⟨_, _, some, _⟩
  · exact nothing
  · rw [made] at some
    cases some

section Run

variable {url : String}

/-- The announcements of a run are those of its records, in their order, and they are all that is
delivered. -/
theorem forall₂_announces (supplies : Supplies σ) (enabled : url ≠ "")
    (built : service.notifier = Notifier.ofUrl url) (requests : List (Request σ)) :
    List.Forall₂
        (fun record announcement => announcement.Conveys supplies record ∧
          Notifier.Announces url announcement.payload announcement.delivery)
        (service.records supplies requests) (service.allAnnounced supplies requests) ∧
      (service.allAnnounced supplies requests).map (·.delivery) =
        service.deliveries supplies requests := by
  induction requests generalizing service with
  | nil => exact ⟨.nil, rfl⟩
  | cons request requests ih =>
    have later := ih ((notifier_after supplies service request).trans built)
    rcases announced_cases supplies service request with
      ⟨made, silent, nothing⟩ | ⟨record, announcement, made, announced, delivered, _, here⟩
    · simpa [records, allAnnounced, deliveries, made, silent, nothing] using later
    · have announces : Notifier.Announces url announcement.payload announcement.delivery := by
        rw [here.delivery, built]
        exact Notifier.announces_deliver enabled _ _
      simpa [records, allAnnounced, deliveries, made, announced, delivered, announces.noticed]
        using ⟨⟨⟨here.toConveys, announces⟩, later.1⟩, later.2⟩

/-- A service whose notifier is switched on announces each record that it makes, once and in the
order of the records, and nothing else. What is announced is the record's id and text, what it was
rolled again from, and its embed. When that is sent, the memory holds the text under the id, so that
a reroll finds it at that moment, and does so until another roll is stored or this one is
forgotten. -/
theorem announcements (supplies : Supplies σ) (service : RollService σ)
    (built : service.notifier = Notifier.ofUrl url) (enabled : url ≠ "")
    (requests : List (Request σ)) :
    List.Forall₂
      (fun record announcement => announcement.Conveys supplies record ∧
        Notifier.Announces url announcement.payload announcement.delivery)
      (service.records supplies requests) (service.allAnnounced supplies requests) ∧
    (service.allAnnounced supplies requests).map (·.delivery) =
      service.deliveries supplies requests ∧
    ∀ front request back, requests = front ++ request :: back →
      let before := service.run supplies front
      let after := before.after supplies request
      (before.record? supplies request = none →
        before.announced supplies request = [] ∧ before.delivery supplies request = {}) ∧
      ∀ record, before.record? supplies request = some record →
        ∃ payload memory delivery,
          before.announced supplies request = [⟨payload, memory, delivery⟩] ∧
          before.delivery supplies request = delivery ∧
          delivery = before.notifier.deliver before.network payload ∧
          Notifier.Announces url payload delivery ∧
          payload.rollId = record.id ∧ payload.expression = record.result.canonical ∧
          payload.rerolledFrom = record.rerolledFrom ∧
          payload.embed = Render.embed record.result record.user supplies.embedTime ∧
          (∃ roll, memory.get? payload.rollId = some roll ∧
            roll.expression = payload.expression) ∧
          (∀ atOnce : RollService σ, atOnce.memory = memory → atOnce.Finds payload) ∧
          after.Finds payload ∧
          ∀ later, after.records supplies later = [] → .forget payload.rollId ∉ later →
            (after.run supplies later).Finds payload := by
  obtain ⟨each, all⟩ := forall₂_announces supplies enabled built requests
  refine ⟨each, all, fun front request back _ => ?_⟩
  intro before after
  have same : before.notifier = Notifier.ofUrl url :=
    (notifier_run supplies service front).trans built
  rcases announced_cases supplies before request with
    ⟨made, silent, nothing⟩ | ⟨record, announcement, made, announced, delivered, memory, here⟩
  · refine ⟨fun _ => ⟨silent, nothing⟩, fun record some => ?_⟩
    rw [made] at some
    cases some
  · refine ⟨fun none => ?_, fun other some => ?_⟩
    · rw [made] at none
      cases none
    obtain rfl := Option.some.inj (made.symm.trans some)
    have announces : Notifier.Announces url announcement.payload announcement.delivery := by
      rw [here.delivery, same]
      exact Notifier.announces_deliver enabled _ _
    have finds : after.Finds announcement.payload := finds_of_conveys here.toConveys memory
    have atOnce (other : RollService σ) (same : other.memory = announcement.memory) :
        other.Finds announcement.payload := finds_of_conveys here.toConveys same
    obtain ⟨⟨payload, held⟩, delivery⟩ := here
    refine ⟨_, _, _, announced, delivered, delivery, announces, ?_⟩
    rw [payload] at finds atOnce ⊢
    refine ⟨rfl, rfl, rfl, rfl, held, atOnce, finds, fun later quiet kept => ?_⟩
    obtain ⟨roll, found, text⟩ := finds.held
    exact finds_of_get? ((get?_run_of_records_eq_nil quiet kept).trans found) text

/-- A memory for one roll and a network that refuses every connection: a roll that fails and one
that is unknown are not announced, and the reroll that pushes out the only roll is, when it is held
already. -/
theorem announcements_single :
    let supplies : Supplies (List Int) := .numbered listedSource
    let service := ofSettings { memoryLimit := 1, webhookUrl := "http://hook//" } [5, 4, 3, 2]
    let front : List (Request (List Int)) :=
      [.surroundings [5, 4, 3, 2, 1] [] { outage := some .connect }, .roll (.str "2 d6") "ann",
        .roll (.str "d6/0") "cid", .reroll "7" "cid"]
    let requests := front ++ [.reroll "0" "bob"]
    (service.records supplies requests).map RollRecord.id = ["0", "1"] ∧
    (service.allAnnounced supplies requests).map (·.memory.ids) = [["0"], ["1"]] ∧
    (service.deliveries supplies requests).map (·.sent.length) = [1, 1] ∧
    ∃ payload, payload.rollId = "1" ∧ payload.rerolledFrom = some "0" ∧
      ((service.run supplies front).delivery supplies (.reroll "0" "bob")).sent =
        [.post "http://hook" payload] ∧
      (service.run supplies requests).memory.ids = ["1"] ∧
      (service.run supplies requests).Finds payload := by
  intro supplies service front requests
  have ids : (service.records supplies requests).map RollRecord.id = ["0", "1"] := by
    decide +kernel
  have moments : (service.allAnnounced supplies requests).map (·.memory.ids) =
      [["0"], ["1"]] := by
    decide +kernel
  have once : (service.deliveries supplies requests).map (·.sent.length) = [1, 1] := by
    decide +kernel
  have kept : (service.run supplies requests).memory.ids = ["1"] := by
    decide +kernel
  have again : ((service.run supplies front).record? supplies (.reroll "0" "bob")).map
      (fun record => (record.id, record.rerolledFrom)) = some ("1", some "0") := by
    decide +kernel
  obtain ⟨record, made, same⟩ := Option.map_eq_some_iff.mp again
  obtain ⟨id, origin⟩ := Prod.mk.inj same
  obtain ⟨_, _, each⟩ :=
    announcements supplies service rfl (by decide : "http://hook//" ≠ "") requests
  obtain ⟨payload, _, _, _, delivered, _, announced, rollId, _, rerolledFrom, _, _, _, finds, _⟩ :=
    (each front (.reroll "0" "bob") [] rfl).2 record made
  refine ⟨ids, moments, once, payload, rollId.trans id, rerolledFrom.trans origin, ?_, kept, ?_⟩
  · rw [delivered]
    exact announced.posted ⟨"://hook//".toList, rfl⟩
  · rw [run_append]
    exact finds

end Run

end RollService

end DiceTable
