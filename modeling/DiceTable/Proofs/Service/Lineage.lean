import DiceTable.Proofs.Except
import DiceTable.Proofs.Service.Records
import DiceTable.Proofs.Service.Reroll
import Mathlib.Data.List.Nodup

/-! # Where records come from

Every entry of the memory goes back to a record with its id and its canonical text, and every reroll
to an earlier record with the id that it names (`RollService.Accounts`). A canonical text is rolled
to a result with the same canonical text and kind, so whoever goes back from a reroll to what it was
a reroll of comes through records of one canonical text and ends at a record that was rolled
(`RollService.Trail`).
-/

namespace DiceTable

/-- The same canonical text was rolled, to results of the same kind. -/
def RollRecord.SameRoll (record other : RollRecord) : Prop :=
  record.result.canonical = other.result.canonical ∧ record.result.kind = other.result.kind

theorem RollRecord.SameRoll.trans {first second third : RollRecord}
    (left : first.SameRoll second) (right : second.SameRoll third) : first.SameRoll third :=
  ⟨left.1.trans right.1, left.2.trans right.2⟩

namespace RollService

variable {σ : Type} {supplies : Supplies σ} {service : RollService σ} {records : List RollRecord}
  {request : Request σ}

/-- A result was rolled from its own canonical text, by a service with such limits. -/
def Reproducible (supplies : Supplies σ) (limits : Limit × Limit) (result : RollResult) : Prop :=
  ∃ (service : RollService σ) (dice : σ), service.limits = limits ∧
    service.Rolls supplies result.canonical result dice

/-- A canonical text is not empty, and has no blanks that could be dropped. -/
theorem Reproducible.canonical {limits : Limit × Limit} {result : RollResult}
    (reproducible : Reproducible supplies limits result) :
    result.canonical ≠ "" ∧ (∀ c ∈ result.canonical.toList, Text.isBlank c = false) ∧
      result.canonical = String.ofList (Text.compact result.canonical.toList) := by
  obtain ⟨service, dice, _, rolls⟩ := reproducible
  have run := congrArg Prod.fst rolls.evaluated
  have compact := Source.canonical_of_evaluate run
  have chars : result.canonical.toList = Text.compact result.canonical.toList := by
    conv_lhs => rw [compact, String.toList_ofList]
  refine ⟨fun empty => ?_, fun c member => ?_, compact⟩
  · refine Source.compact_ne_nil_of_evaluate run ?_
    rw [← chars, empty]
    rfl
  · rw [chars] at member
    exact Text.not_isBlank_of_mem_compact member

/-- A canonical text passes the check of its length where it was rolled. -/
theorem Reproducible.short {result : RollResult}
    (reproducible : Reproducible supplies service.limits result) :
    service.guardLength (.str result.canonical) = .ok () := by
  obtain ⟨before, dice, limits, rolls⟩ := reproducible
  exact (guardLength_congr limits _).symm.trans rolls.short

/-- The records account for all that is remembered and for all that was rolled again. -/
structure Accounts (supplies : Supplies σ) (service : RollService σ) (records : List RollRecord) :
    Prop where
  remembered : ∀ entry ∈ service.memory.entries, ∃ record ∈ records,
    record.id = entry.1 ∧ record.result.canonical = entry.2.expression
  reproducible : ∀ record ∈ records, Reproducible supplies service.limits record.result
  origins : ∀ (place : Nat) (record : RollRecord) (id : String), records[place]? = some record →
    record.rerolledFrom = some id → ∃ (earlier : Nat) (origin : RollRecord), earlier < place ∧
      records[earlier]? = some origin ∧ origin.id = id ∧ origin.SameRoll record

theorem accounts_ofSettings (supplies : Supplies σ) (settings : ServiceSettings) (dice : σ) :
    (ofSettings settings dice).Accounts supplies [] :=
  ⟨nofun, nofun, nofun⟩

/-- The text of a reroll is what is remembered under its id. -/
theorem exists_stored_of_attempt? {text user id : String}
    (attempt : service.attempt? request = some (.str text, user, some id)) :
    ∃ stored, (id, stored) ∈ service.memory.entries ∧ text = stored.expression := by
  cases request with
  | roll expression user => cases attempt
  | reroll id user =>
    obtain ⟨stored, found, same⟩ := Option.map_eq_some_iff.mp attempt
    cases same
    exact ⟨stored, RollMemory.mem_entries_of_get?_eq_some found, rfl⟩
  | forget id => cases attempt
  | surroundings dice clock network => cases attempt

/-- A reroll goes back to a record of the same canonical text and kind. -/
theorem Accounts.exists_origin (accounts : service.Accounts supplies records)
    {text user id : String} {result : RollResult} {dice : σ}
    (attempt : service.attempt? request = some (.str text, user, some id))
    (rolls : service.Rolls supplies text result dice) :
    ∃ origin ∈ records, origin.id = id ∧ origin.result.canonical = result.canonical ∧
      origin.result.kind = result.kind := by
  obtain ⟨stored, member, rfl⟩ := exists_stored_of_attempt? attempt
  obtain ⟨origin, inRecords, same, canonical⟩ := accounts.remembered _ member
  have reproducible := accounts.reproducible origin inRecords
  obtain ⟨_, _, compact⟩ := reproducible.canonical
  obtain ⟨before, _, _, rolled⟩ := reproducible
  -- A canonical text is its own canonical text, so the reroll has that of its origin.
  change origin.result.canonical = stored.expression at canonical
  rw [canonical] at rolled
  have run := congrArg Prod.fst rolls.evaluated
  refine ⟨origin, inRecords, same, ?_, ?_⟩
  · rw [Source.canonical_of_evaluate run, compact, canonical]
  · exact Source.kind_of_evaluate run (congrArg Prod.fst rolled.evaluated)

/-- With the record that a request makes, the records still account for everything. -/
theorem Accounts.after (accounts : service.Accounts supplies records) (request : Request σ) :
    (service.after supplies request).Accounts supplies
      (records ++ (service.record? supplies request).toList) := by
  have limits : (service.after supplies request).limits = service.limits := limits_after request
  rcases after_cases supplies service request with
    ⟨made, _, memory⟩ | ⟨text, user, origin, result, dice, attempt, rolls, made, after⟩
  · rw [made, Option.toList_none, List.append_nil]
    refine ⟨?_, limits ▸ accounts.reproducible, accounts.origins⟩
    rcases memory with same | ⟨id, same⟩
    · rw [same]
      exact accounts.remembered
    · rw [same]
      exact fun entry member => accounts.remembered entry (RollMemory.mem_entries_remove member)
  · rw [made, Option.toList_some]
    refine ⟨fun entry member => ?_, fun record member => ?_, fun place record id found again => ?_⟩
    · rw [after] at member
      rcases RollMemory.mem_entries_store member with rfl | before
      · exact ⟨_, List.mem_append_right _ (List.mem_singleton_self _), rfl, rfl⟩
      · obtain ⟨record, inRecords, same⟩ := accounts.remembered entry before
        exact ⟨record, List.mem_append_left _ inRecords, same⟩
    · rw [limits]
      rcases List.mem_append.mp member with before | new
      · exact accounts.reproducible record before
      · rw [List.mem_singleton.mp new]
        exact ⟨service, dice, rfl, rolls.canonical⟩
    · have within := (List.getElem?_eq_some_iff.mp found).1
      rw [List.length_append, List.length_singleton] at within
      rcases Nat.lt_succ_iff_lt_or_eq.mp within with before | rfl
      · rw [List.getElem?_append_left before] at found
        obtain ⟨earlier, origin, less, read, same⟩ := accounts.origins place record id found again
        refine ⟨earlier, origin, less, ?_, same⟩
        rw [List.getElem?_append_left (Nat.lt_trans less before), read]
      · rw [List.getElem?_concat_length] at found
        cases found
        cases (again : origin = some id)
        obtain ⟨origin, inRecords, same⟩ := accounts.exists_origin attempt rolls
        obtain ⟨earlier, read⟩ := List.mem_iff_getElem?.mp inRecords
        have less := (List.getElem?_eq_some_iff.mp read).1
        refine ⟨earlier, origin, less, ?_, same⟩
        rw [List.getElem?_append_left less, read]

/-- The records of a run account for all that is remembered after it. -/
theorem accounts_run (supplies : Supplies σ) (settings : ServiceSettings) (dice : σ)
    (requests : List (Request σ)) :
    ((ofSettings settings dice).run supplies requests).Accounts supplies
      ((ofSettings settings dice).records supplies requests) := by
  induction requests using List.reverseRecOn with
  | nil => exact accounts_ofSettings supplies settings dice
  | append_singleton requests request ih =>
    rw [run_append, records_append]
    exact ih.after request

section Trail

/-- Going back from a record that was rolled again to the record whose id it names, and so on, leads
to a record that was not rolled again. -/
inductive Trail (records : List RollRecord) : RollRecord → List RollRecord → Prop
  | rolled {record : RollRecord} (first : record.rerolledFrom = none) :
      Trail records record [record]
  | rerolled {record origin : RollRecord} {trail : List RollRecord}
      (again : record.rerolledFrom = some origin.id) (known : origin ∈ records)
      (back : Trail records origin trail) : Trail records record (record :: trail)

/-- From every record there is a trail, and all on the trail were rolled from one text. -/
theorem Accounts.exists_trail (accounts : service.Accounts supplies records) {record : RollRecord}
    (member : record ∈ records) :
    ∃ trail, Trail records record trail ∧ ∀ step ∈ trail, step.SameRoll record := by
  obtain ⟨place, found⟩ := List.mem_iff_getElem?.mp member
  -- By the place of the record: that of its origin is earlier.
  induction place using Nat.strongRecOn generalizing record with
  | ind place ih =>
    cases again : record.rerolledFrom with
    | none => exact ⟨[record], .rolled again, List.forall_mem_singleton.mpr ⟨rfl, rfl⟩⟩
    | some id =>
      obtain ⟨earlier, origin, less, read, rfl, same⟩ :=
        accounts.origins place record id found again
      have known : origin ∈ records := List.mem_of_getElem? read
      obtain ⟨trail, back, shared⟩ := ih earlier less known read
      refine ⟨record :: trail, .rerolled again known back, ?_⟩
      exact List.forall_mem_cons.mpr ⟨⟨rfl, rfl⟩, fun step inTrail =>
        (shared step inTrail).trans same⟩

/-- Where no two records have the same id, there is no other trail. -/
theorem Trail.unique (nodup : (records.map RollRecord.id).Nodup) {record : RollRecord}
    {trail other : List RollRecord} (first : Trail records record trail)
    (second : Trail records record other) : trail = other := by
  induction first generalizing other with
  | rolled first =>
    cases second with
    | rolled _ => rfl
    | rerolled again _ _ =>
      rw [first] at again
      cases again
  | rerolled again known _ ih =>
    cases second with
    | rolled first =>
      rw [first] at again
      cases again
    | rerolled once alsoKnown back =>
      rw [again] at once
      have same := List.inj_on_of_nodup_map nodup known alsoKnown (Option.some.inj once)
      subst same
      rw [ih back]

/-- A trail ends at a record that was not rolled again. -/
theorem Trail.getLast? {record : RollRecord} {trail : List RollRecord}
    (back : Trail records record trail) (member : record ∈ records) :
    ∃ last ∈ records, trail.getLast? = some last ∧ last.rerolledFrom = none := by
  induction back with
  | rolled first => exact ⟨_, member, rfl, first⟩
  | @rerolled record origin trail again known back ih =>
    obtain ⟨last, inRecords, ends, first⟩ := ih known
    refine ⟨last, inRecords, ?_, first⟩
    rw [List.getLast?_cons, ends]
    rfl

end Trail

/-- A record was made by one of the requests, which was a roll and not a reroll. -/
def Rolled (supplies : Supplies σ) (service : RollService σ) (requests : List (Request σ))
    (record : RollRecord) : Prop :=
  ∃ front expression user back, requests = front ++ .roll expression user :: back ∧
    ((service.run supplies front).roll supplies expression user).outcome = .ok record

/-- Rolls are what makes the records that were not rolled again. -/
theorem rolled_of_mem_records {requests : List (Request σ)} {record : RollRecord}
    (member : record ∈ service.records supplies requests) (first : record.rerolledFrom = none) :
    service.Rolled supplies requests record := by
  obtain ⟨front, request, back, split, made⟩ := mem_records_iff.mp member
  rcases after_cases supplies (service.run supplies front) request with
    ⟨nothing, _⟩ | ⟨text, user, origin, result, dice, attempt, _, answer, _⟩
  · rw [nothing] at made
    cases made
  · rw [answer] at made
    cases made
    cases (first : origin = none)
    cases request with
    | roll expression user =>
      exact ⟨front, expression, user, back, split, Except.toOption_eq_some.mp answer⟩
    | reroll id user =>
      obtain ⟨_, _, impossible⟩ := Option.map_eq_some_iff.mp attempt
      cases impossible
    | forget id => cases attempt
    | surroundings dice clock network => cases attempt

/-- After any run, all that is remembered is the canonical text of a record, which passes the check
of its length; a reroll has an earlier record of the same canonical text and kind under the id that
it names; and going back from any record ends, with nothing but such records on the way, at a record
that a roll has made. -/
theorem records_lineage (supplies : Supplies σ) (settings : ServiceSettings) (dice : σ)
    (requests : List (Request σ)) :
    let start := ofSettings settings dice
    let service := start.run supplies requests
    let records := start.records supplies requests
    (∀ entry ∈ service.memory.entries,
      (∃ record ∈ records,
        record.id = entry.1 ∧ record.result.canonical = entry.2.expression) ∧
      entry.2.expression ≠ "" ∧
      (∀ c ∈ entry.2.expression.toList, Text.isBlank c = false) ∧
      service.guardLength (.str entry.2.expression) = .ok () ∧
      ∀ bound : Int, settings.lengthLimit = bound → entry.2.expression.length ≤ bound) ∧
    (∀ (place : Nat) (record : RollRecord) (id : String), records[place]? = some record →
      record.rerolledFrom = some id → ∃ (earlier : Nat) (origin : RollRecord), earlier < place ∧
        records[earlier]? = some origin ∧ origin.id = id ∧ origin.SameRoll record) ∧
    ∀ record ∈ records, ∃ trail, Trail records record trail ∧
      (Function.Injective supplies.rollId →
        ∀ other, Trail records record other → other = trail) ∧
      (∀ step ∈ trail, step.SameRoll record) ∧
      ∃ last, trail.getLast? = some last ∧ start.Rolled supplies requests last := by
  intro start service records
  have accounts : service.Accounts supplies records :=
    accounts_run supplies settings dice requests
  refine ⟨fun entry member => ?_, accounts.origins, fun record member => ?_⟩
  · obtain ⟨record, inRecords, sameId, canonical⟩ := accounts.remembered entry member
    have reproducible := accounts.reproducible record inRecords
    have short := reproducible.short
    obtain ⟨nonempty, unspaced, _⟩ := reproducible.canonical
    rw [canonical] at short nonempty unspaced
    refine ⟨⟨record, inRecords, sameId, canonical⟩, nonempty, unspaced, short, ?_⟩
    intro bound limited
    have limits : service.lengthLimit = bound :=
      (congrArg Prod.snd (limits_run requests)).trans limited
    rw [guardLength, limits, Limit.guard_ofInt] at short
    by_contra exceeded
    rw [if_pos (Int.not_le.mp exceeded)] at short
    cases short
  · obtain ⟨trail, back, shared⟩ := accounts.exists_trail member
    obtain ⟨last, inRecords, ends, first⟩ := back.getLast? member
    refine ⟨trail, back, fun fresh other alsoBack => ?_, shared, last, ends,
      rolled_of_mem_records inRecords first⟩
    have ids := map_id_records supplies settings dice requests
    have nodup : (records.map RollRecord.id).Nodup := by
      rw [ids]
      exact List.nodup_range.map fresh
    exact alsoBack.unique nodup back

/-- A roll, a reroll of it and a reroll of that, after which the first is no longer remembered. -/
theorem records_lineage_twice :
    let supplies : Supplies (List Int) := .numbered listedSource
    let requests : List (Request (List Int)) :=
      [.roll (.str "2 d6") "ann", .reroll "0" "bob", .reroll "1" "cid"]
    let start := ofSettings { memoryLimit := 2, lengthLimit := 4 } [5, 4, 3, 2, 1, 1]
    let service := start.run supplies requests
    let records := start.records supplies requests
    service.memory.ids = ["1", "2"] ∧
    (∀ entry ∈ service.memory.entries, entry.2.expression ≠ "" ∧
      service.guardLength (.str entry.2.expression) = .ok ()) ∧
    ∃ record, records[2]? = some record ∧
      (∃ (earlier : Nat) (origin : RollRecord), earlier < 2 ∧ records[earlier]? = some origin ∧
        origin.id = "1" ∧ origin.SameRoll record) ∧
      ∃ trail, Trail records record trail ∧
        (∀ other, Trail records record other → other = trail) ∧
        ∃ last, trail.getLast? = some last ∧ start.Rolled supplies requests last := by
  intro supplies requests start service records
  obtain ⟨remembered, origins, trails⟩ :=
    records_lineage supplies { memoryLimit := 2, lengthLimit := 4 } [5, 4, 3, 2, 1, 1] requests
  have fresh : Function.Injective supplies.rollId := Supplies.numbered_injective _
  have held : service.memory.ids = ["1", "2"] := by
    decide +kernel
  have again : records[2]?.bind RollRecord.rerolledFrom = some "1" := by
    decide +kernel
  obtain ⟨record, found, origin⟩ := Option.bind_eq_some_iff.mp again
  obtain ⟨trail, back, unique, _, ends⟩ := trails record (List.mem_of_getElem? found)
  refine ⟨held, fun entry member => ?_, record, found, origins 2 record "1" found origin,
    trail, back, unique fresh, ends⟩
  obtain ⟨_, nonempty, _, short, _⟩ := remembered entry member
  exact ⟨nonempty, short⟩

end RollService

end DiceTable
