import DiceTable.Proofs.Http.Run

/-! # Where held rolls come from

Whatever an app has been asked for, each roll that it holds was made for one of the requests, and
holds the canonical text and the user of the record that was made then (`App.traced_run`). The roll
is marked if the name of that user holds halves of characters, and only then.
-/

namespace DiceTable.Http

variable {σ : Type}

/-- The clock shows times that can be written down. -/
def Event.Timely : Event σ → Prop
  | .received _ => True
  | .surroundings _ clock _ => ∀ moment ∈ clock, moment.iso?.isSome

namespace App

variable {supplies : Supplies σ} {start app : App σ} {events : List (Event σ)} {request : Request}

/-- What is held under an id was stored for a request of a run, which made a record for it. -/
structure Made (supplies : Supplies σ) (start : App σ) (events : List (Event σ)) (id : String)
    (stored : StoredRoll) (request : Request) (record : RollRecord) : Prop where
  happened : ∃ front back, events = front ++ .received request :: back ∧
    (start.run supplies front).makes? supplies request = some record
  id : record.id = id
  expression : stored.expression = record.result.canonical
  user : stored.user = record.user

theorem Made.later {id : String} {stored : StoredRoll} {record : RollRecord}
    (made : Made supplies start events id stored request record) (event : Event σ) :
    Made supplies start (events ++ [event]) id stored request record := by
  obtain ⟨⟨front, back, split, makes⟩, id, expression, user⟩ := made
  exact ⟨⟨front, back ++ [event], by rw [split]; simp, makes⟩, id, expression, user⟩

/-- What holds of an app after any run: the rolls it holds have been made for requests, at times
that can be written down, and those for users with halves of characters are marked. -/
structure Traced (supplies : Supplies σ) (start : App σ) (events : List (Event σ)) (app : App σ) :
    Prop where
  clock : ∀ moment ∈ app.service.clock, moment.iso?.isSome
  marked : ∀ id ∈ app.unshowable, ∃ n < app.service.issued, supplies.rollId n = id
  origin : ∀ entry ∈ app.service.memory.entries, entry.2.createdAt.iso?.isSome ∧
    ∃ request record, Made supplies start events entry.1 entry.2 request record ∧
      (entry.1 ∈ app.unshowable ↔ (namedUser supplies.bodyDepth request.body).hasHalves)

/-- Where no roll is made, nothing is held that was not held before. -/
theorem Traced.received_of_makes?_eq_none (traced : Traced supplies start events app)
    (made : app.makes? supplies request = none) :
    Traced supplies start (events ++ [.received request]) (app.handle supplies request).app := by
  have marks := handle_of_makes?_eq_none made
  have fewer : (app.handle supplies request).app.service.clock = app.service.clock ∧
      (app.handle supplies request).app.service.issued = app.service.issued ∧
      ∀ entry ∈ (app.handle supplies request).app.service.memory.entries,
        entry ∈ app.service.memory.entries := by
    rcases handle_cases supplies app request with
      ⟨_, ⟨id, _, same⟩ | ⟨dice, same⟩⟩ | ⟨_, _, _, makes, _⟩
    · rw [same]
      exact ⟨rfl, rfl, fun _ member => RollMemory.mem_entries_remove member⟩
    · rw [same]
      exact ⟨rfl, rfl, fun _ member => member⟩
    · rw [made] at makes
      cases makes
  obtain ⟨clock, issued, entries⟩ := fewer
  refine ⟨clock ▸ traced.clock, ?_, fun entry member => ?_⟩
  · rw [marks, issued]
    exact traced.marked
  · obtain ⟨timely, earlier, record, madeBy, marked⟩ := traced.origin entry (entries entry member)
    exact ⟨timely, earlier, record, madeBy.later _, by rw [marks]; exact marked⟩

/-- A roll that is made gets an id that was never marked before, and the other rolls keep theirs. -/
theorem Traced.received_of_makes? (traced : Traced supplies start events app)
    (sound : app.service.Sound supplies) (fresh : Function.Injective supplies.rollId)
    (reached : start.run supplies events = app) {record : RollRecord}
    (made : app.makes? supplies request = some record) :
    Traced supplies start (events ++ [.received request]) (app.handle supplies request).app := by
  have happened : (start.run supplies events).makes? supplies request = some record := by
    rw [reached]
    exact made
  obtain ⟨_, marks⟩ := handle_of_makes? made
  rcases handle_cases supplies app request with
    ⟨none, _⟩ | ⟨result, dice, origin, makes, service⟩
  · rw [made] at none
    cases none
  obtain rfl := Option.some.inj (made.symm.trans makes)
  have unmarked : supplies.rollId app.service.issued ∉ app.unshowable := by
    intro marked
    obtain ⟨n, earlier, same⟩ := traced.marked _ marked
    have := fresh same
    omega
  have timely : app.service.time.iso?.isSome := by
    unfold RollService.time
    cases shown : app.service.clock with
    | nil => rfl
    | cons moment rest => exact traced.clock moment (by rw [shown]; exact List.mem_cons_self)
  refine ⟨?_, ?_, fun entry member => ?_⟩
  · rw [service]
    exact fun moment member => traced.clock moment (List.mem_of_mem_tail member)
  · rw [marks, service]
    intro id member
    have known : id = supplies.rollId app.service.issued ∨ id ∈ app.unshowable := by
      split at member
      · exact List.mem_cons.mp member
      · exact .inr member
    rcases known with rfl | before
    · exact ⟨app.service.issued, Nat.lt_succ_self _, rfl⟩
    · obtain ⟨n, earlier, same⟩ := traced.marked id before
      exact ⟨n, Nat.lt_succ_of_lt earlier, same⟩
  · rw [service] at member
    rw [marks]
    rcases RollMemory.mem_entries_store member with rfl | before
    · refine ⟨timely, request, _, ⟨⟨events, [], rfl, happened⟩, rfl, rfl, rfl⟩, ?_⟩
      split
      · simp [*]
      · simp [*]
    · obtain ⟨timely, earlier, record, madeBy, marked⟩ := traced.origin entry before
      refine ⟨timely, earlier, record, madeBy.later _, ?_⟩
      have other : entry.1 ≠ supplies.rollId app.service.issued := fun same =>
        sound.next_not_mem fresh (same ▸ List.mem_map_of_mem before)
      rw [← marked]
      split
      · simp [other]
      · rfl

variable {config : Members} {dice : σ} {log : List LogEntry}

theorem sound_run (started : App.start config dice = .ok (start, log)) (supplies : Supplies σ)
    (events : List (Event σ)) : (start.run supplies events).service.Sound supplies := by
  obtain ⟨_, settings, _, _, _, rfl⟩ := start_eq_ok.mp started
  rw [service_run]
  exact (RollService.sound_ofSettings supplies settings dice).run _

/-- All rolls that an app holds after a run were made for its requests. -/
theorem traced_run (fresh : Function.Injective supplies.rollId)
    (started : App.start config dice = .ok (start, log))
    (timely : ∀ event ∈ events, event.Timely) :
    Traced supplies start events (start.run supplies events) := by
  induction events using List.reverseRecOn with
  | nil =>
    obtain ⟨_, settings, _, _, _, rfl⟩ := start_eq_ok.mp started
    exact ⟨nofun, nofun, nofun⟩
  | append_singleton events event ih =>
    obtain ⟨before, here⟩ := List.forall_mem_append.mp timely
    have traced := ih before
    rw [run_append]
    cases event with
    | received request =>
      cases made : (start.run supplies events).makes? supplies request with
      | none => exact traced.received_of_makes?_eq_none made
      | some record =>
        exact traced.received_of_makes? (sound_run started supplies events) fresh rfl made
    | surroundings dice clock network =>
      refine ⟨List.forall_mem_singleton.mp here, traced.marked, fun entry member => ?_⟩
      obtain ⟨timely, earlier, record, madeBy, marked⟩ := traced.origin entry member
      exact ⟨timely, earlier, record, madeBy.later _, marked⟩

end App

end DiceTable.Http
