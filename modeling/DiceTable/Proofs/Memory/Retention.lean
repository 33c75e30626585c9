import DiceTable.Proofs.Memory.Entries
import DiceTable.Proofs.Memory.History

/-! # What a memory retains

The entries of a memory are always the newer end of the ledger of its history
(`RollMemory.entries_suffix_ledger`). So a memory holds exactly what stands and has outlasted the
newer ids at every moment since it was stored (`RollMemory.mem_entries_run_iff`), whatever was
stored again, removed or dropped in between.
-/

namespace DiceTable

namespace RollMemory

open MemoryOperation

variable {memory : RollMemory} {history : List MemoryOperation}

/-- An operation on a memory: the answer and the memory after it. -/
def perform (memory : RollMemory) : MemoryOperation → MemoryAnswer × RollMemory
  | .store id roll => (.stored, memory.store id roll)
  | .get id => (.found (memory.get? id), memory)
  | .remove id => (.removed (memory.contains id), memory.remove id)

def run (memory : RollMemory) (history : List MemoryOperation) : RollMemory :=
  history.foldl (fun memory operation => (memory.perform operation).2) memory

theorem run_append (memory : RollMemory) (history : List MemoryOperation)
    (operation : MemoryOperation) :
    memory.run (history ++ [operation]) = ((memory.run history).perform operation).2 := by
  simp [run]

theorem capacity_run (memory : RollMemory) (history : List MemoryOperation) :
    (memory.run history).capacity = memory.capacity := by
  induction history using List.reverseRecOn with
  | nil => rfl
  | append_singleton history operation ih =>
    rw [run_append, ← ih]
    cases operation <;> rfl

theorem Tidy.perform (tidy : memory.Tidy) (operation : MemoryOperation) :
    (memory.perform operation).2.Tidy := by
  cases operation with
  | store id roll => exact tidy.store id roll
  | get id => exact tidy
  | remove id => exact tidy.remove id

theorem Tidy.run (tidy : memory.Tidy) (history : List MemoryOperation) :
    (memory.run history).Tidy := by
  induction history using List.reverseRecOn with
  | nil => exact tidy
  | append_singleton history operation ih =>
    rw [run_append]
    exact ih.perform operation

/-- Forgetting an id in the ledger is forgetting it among the entries. -/
theorem map_snd_filter (id : String) (lines : List (Nat × String × StoredRoll)) :
    (lines.filter fun line => line.2.1 ≠ id).map Prod.snd = without id (lines.map Prod.snd) := by
  rw [without, List.filter_map]
  rfl

theorem without_suffix {entries lines : List (String × StoredRoll)} (suffix : entries <:+ lines)
    (id : String) : without id entries <:+ without id lines :=
  suffix.filter _

/-- Before anything is dropped, the entries are the newer end of the ledger. -/
theorem stored_suffix_ledger (suffix : memory.entries <:+ (ledger history).map Prod.snd)
    (id : String) (roll : StoredRoll) :
    memory.stored id roll <:+ (ledger (history ++ [.store id roll])).map Prod.snd := by
  obtain ⟨front, same⟩ := without_suffix suffix id
  refine ⟨front, ?_⟩
  rw [ledger_append, enter, List.map_append, map_snd_filter, ← same, stored, List.append_assoc]
  rfl

/-- The entries of a memory are always the newer end of the ledger. -/
theorem entries_suffix_ledger (empty : memory.entries = []) (history : List MemoryOperation) :
    (memory.run history).entries <:+ (ledger history).map Prod.snd := by
  induction history using List.reverseRecOn with
  | nil =>
    rw [run, List.foldl_nil, empty]
    exact List.nil_suffix
  | append_singleton history operation ih =>
    rw [run_append]
    cases operation with
    | store id roll => exact (List.drop_suffix ..).trans (stored_suffix_ledger ih id roll)
    | get id =>
      rw [ledger_append]
      exact ih
    | remove id =>
      rw [ledger_append, enter, map_snd_filter]
      exact without_suffix ih id

/-- An entry that is not touched stays if it is among the newest that there is room for. -/
theorem mem_entries_perform_iff {id : String} {place : Nat} {roll : StoredRoll}
    {operation : MemoryOperation} (tidy : memory.Tidy)
    (suffix : memory.entries <:+ (ledger history).map Prod.snd)
    (stands : Stands history id place roll) (untouched : ¬ operation.Touches id) :
    (id, roll) ∈ (memory.perform operation).2.entries ↔
      (id, roll) ∈ memory.entries ∧
        (newer (history ++ [operation]) id place).ncard < memory.capacity := by
  have still : Stands (history ++ [operation]) id place roll :=
    stands_append_iff.mpr (.inr ⟨stands, untouched⟩)
  have room : memory.entries.length ≤ memory.capacity := tidy.bounded
  cases operation with
  | store other new =>
    have different : id ≠ other := fun same => untouched (touches_store_iff.mpr same.symm)
    have stored := stored_suffix_ledger suffix other new
    have kept : (memory.store other new).entries <:+
        (ledger (history ++ [.store other new])).map Prod.snd :=
      (List.drop_suffix ..).trans stored
    have length : (memory.store other new).entries.length =
        min memory.capacity (memory.stored other new).length := by
      simp only [store, List.length_drop]
      omega
    have before : (id, roll) ∈ memory.stored other new ↔ (id, roll) ∈ memory.entries := by
      simp [RollMemory.stored, without, different]
    change (id, roll) ∈ (memory.store other new).entries ↔ _
    -- Either way the newer ids are fewer than some entries: those kept, or those before the drop.
    rw [← before, still.mem_suffix_iff stored, still.mem_suffix_iff kept, length]
    omega
  | get other =>
    have same : ledger (history ++ [.get other]) = ledger history := ledger_append ..
    have position := still.mem_suffix_iff (same ▸ suffix)
    change (id, roll) ∈ memory.entries ↔ _
    constructor
    · intro member
      have := position.mp member
      exact ⟨member, by omega⟩
    · exact And.left
  | remove other =>
    have different : id ≠ other := fun same => untouched (touches_remove_iff.mpr same.symm)
    have kept : (memory.remove other).entries <:+
        (ledger (history ++ [.remove other])).map Prod.snd := by
      rw [ledger_append, enter, map_snd_filter]
      exact without_suffix suffix other
    have fewer : (memory.remove other).entries.length ≤ memory.entries.length :=
      List.length_filter_le ..
    have before : (id, roll) ∈ (memory.remove other).entries ↔ (id, roll) ∈ memory.entries := by
      simp [remove, without, different]
    have position := still.mem_suffix_iff kept
    change (id, roll) ∈ (memory.remove other).entries ↔ _
    constructor
    · intro member
      have := position.mp member
      exact ⟨before.mp member, by omega⟩
    · exact fun member => before.mpr member.1

/-- A store that stands is held exactly as long as it outlasts the newer ones. -/
theorem mem_entries_run_iff {id : String} {place : Nat} {roll : StoredRoll}
    (empty : memory.entries = []) (stands : Stands history id place roll) :
    (id, roll) ∈ (memory.run history).entries ↔
      Outlasts memory.capacity history id place := by
  have tidy := tidy_of_entries_eq_nil empty
  induction history using List.reverseRecOn with
  | nil => exact absurd stands.lt_length (Nat.not_lt_zero _)
  | append_singleton history operation ih =>
    rw [run_append]
    -- The last operation is the store itself, or it does not touch the id.
    rcases stands_append_iff.mp stands with ⟨rfl, rfl⟩ | ⟨stood, untouched⟩
    · refine iff_of_true ?_ (outlasts_last memory.capacity_pos)
      have new : (id, roll) ∈ (memory.run history).dropped id roll ++
          ((memory.run history).store id roll).entries := by
        rw [dropped_append_entries_store]
        exact List.mem_append_right _ (List.mem_singleton_self _)
      refine (List.mem_append.mp new).resolve_left fun gone => ?_
      refine not_mem_evicted (memory.run history) id roll ?_
      rw [← map_fst_dropped]
      exact List.mem_map_of_mem gone
    · have suffix := entries_suffix_ledger empty history
      rw [mem_entries_perform_iff (tidy.run history) suffix stood untouched, capacity_run,
        outlasts_append_iff stood.lt_length]
      exact and_congr_left' (ih stood)

/-- The ids that are held were stored in their order. -/
theorem pairwise_ids_run (empty : memory.entries = []) (history : List MemoryOperation) :
    (memory.run history).ids.Pairwise (StoredBefore history) := by
  have ordered : ((ledger history).map fun line => line.2.1).Pairwise (StoredBefore history) := by
    refine List.pairwise_map.mpr ((pairwise_ledger history).imp_of_mem ?_)
    intro older newer inLedger alsoInLedger before
    exact ⟨older.1, newer.1, older.2.2, newer.2.2, mem_ledger_iff.mp inLedger,
      mem_ledger_iff.mp alsoInLedger, before⟩
  have suffix := (entries_suffix_ledger empty history).map Prod.fst
  rw [List.map_map] at suffix
  exact ordered.sublist suffix.sublist

/-- What is found under an id is its last store, if this stands and outlasts the newer ones. -/
theorem get?_run_eq_some_iff (empty : memory.entries = []) {id : String} {roll : StoredRoll} :
    (memory.run history).get? id = some roll ↔
      ∃ place, Stands history id place roll ∧ Outlasts memory.capacity history id place := by
  have tidy := tidy_of_entries_eq_nil empty
  rw [(tidy.run history).get?_eq_some_iff]
  constructor
  · intro member
    obtain ⟨⟨place, entry⟩, inLedger, rfl⟩ :=
      List.mem_map.mp ((entries_suffix_ledger empty history).subset member)
    have stands := mem_ledger_iff.mp inLedger
    exact ⟨place, stands, (mem_entries_run_iff empty stands).mp member⟩
  · rintro ⟨place, stands, outlasts⟩
    exact (mem_entries_run_iff empty stands).mpr outlasts

/-- After any history, the ids that are held are distinct, no more than there is room for, and in
the order of their last stores; these are found under them; and an id is held exactly if its last
store stands and outlasts the newer ones. So storing drops one entry at most, never the new one,
and none where the id is held; looking up changes nothing; and removing takes out the id alone, and
says whether it was held. -/
theorem run_holds_outlasting (bound : Int) (history : List MemoryOperation) :
    let memory := (ofLimit bound).run history
    let capacity := max 1 bound.toNat
    (memory.ids.Nodup ∧ memory.ids.length ≤ capacity ∧
      memory.ids.Pairwise (StoredBefore history)) ∧
    (∀ id roll, memory.get? id = some roll ↔
      ∃ place, Stands history id place roll ∧ Outlasts capacity history id place) ∧
    (∀ id, id ∈ memory.ids ↔
      ∃ place roll, Stands history id place roll ∧ Outlasts capacity history id place) ∧
    (∀ id roll, ∃ dropped,
      dropped ++ (memory.perform (.store id roll)).2.entries =
        memory.entries.filter (fun entry => entry.1 ≠ id) ++ [(id, roll)] ∧
      dropped.map Prod.fst = memory.evicted id roll ∧
      dropped.length ≤ 1 ∧ id ∉ memory.evicted id roll ∧ (id ∈ memory.ids → dropped = [])) ∧
    (∀ id, memory.perform (.get id) = (.found (memory.get? id), memory)) ∧
    ∀ id, (memory.perform (.remove id)).1 = .removed (decide (id ∈ memory.ids)) ∧
      (memory.perform (.remove id)).2.entries =
        memory.entries.filter fun entry => entry.1 ≠ id := by
  intro memory capacity
  have empty : (ofLimit bound).entries = [] := rfl
  have tidy : memory.Tidy := (tidy_ofLimit bound).run history
  have room : memory.capacity = capacity := capacity_run ..
  have found {id : String} {roll : StoredRoll} : memory.get? id = some roll ↔
      ∃ place, Stands history id place roll ∧ Outlasts capacity history id place :=
    get?_run_eq_some_iff empty
  have bounded : memory.ids.length ≤ capacity := by
    rw [ids, List.length_map, ← room]
    exact tidy.bounded
  refine ⟨⟨tidy.nodup, bounded, pairwise_ids_run empty history⟩, fun _ _ => found, ?_, ?_,
    fun _ => rfl, ?_⟩
  · intro id
    rw [← contains_iff_mem_ids, contains, Option.isSome_iff_exists]
    constructor
    · rintro ⟨roll, held⟩
      obtain ⟨place, stands⟩ := found.mp held
      exact ⟨place, roll, stands⟩
    · rintro ⟨place, roll, stands⟩
      exact ⟨roll, found.mpr ⟨place, stands⟩⟩
  · intro id roll
    exact ⟨memory.dropped id roll, dropped_append_entries_store .., map_fst_dropped ..,
      tidy.length_dropped_le id roll, not_mem_evicted memory id roll,
      fun held => tidy.dropped_of_mem_ids held roll⟩
  · intro id
    refine ⟨?_, rfl⟩
    simp only [perform, ← contains_iff_mem_ids, Bool.decide_eq_true]

/-- An id that is stored again is newer than one that was stored in between. -/
example (first second third fourth : StoredRoll) :
    ((ofLimit 2).run [.store "a" first, .store "b" second, .store "a" third,
      .store "c" fourth]).entries = [("a", third), ("c", fourth)] := by
  cbv

end RollMemory

end DiceTable
