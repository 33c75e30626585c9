import DiceTable.Memory
import Mathlib.Data.List.Nodup

/-! # The entries of a memory

No id is held twice, and there are never more entries than there is room for (`RollMemory.Tidy`).
In such a memory an entry is what is found under its id, and storing drops one entry at most: the
oldest, and only where a new id comes into a full memory.
-/

namespace DiceTable.RollMemory

variable {memory : RollMemory} {id : String} {roll : StoredRoll}

/-- The ids are different from each other, and no more than there is room for. -/
structure Tidy (memory : RollMemory) : Prop where
  nodup : memory.ids.Nodup
  bounded : memory.size ≤ memory.capacity

theorem tidy_of_entries_eq_nil (empty : memory.entries = []) : memory.Tidy where
  nodup := by simp [ids, empty]
  bounded := by simp [size, empty]

theorem tidy_ofLimit (limit : Limit) : (ofLimit limit).Tidy :=
  tidy_of_entries_eq_nil rfl

/-- The entries that are dropped when a roll is stored. -/
def dropped (memory : RollMemory) (id : String) (roll : StoredRoll) :
    List (String × StoredRoll) :=
  (memory.stored id roll).take ((memory.stored id roll).length - memory.capacity)

theorem map_fst_dropped (memory : RollMemory) (id : String) (roll : StoredRoll) :
    (memory.dropped id roll).map Prod.fst = memory.evicted id roll := rfl

/-- Nothing is lost between the entries that are dropped and those that are kept. -/
theorem dropped_append_entries_store (memory : RollMemory) (id : String) (roll : StoredRoll) :
    memory.dropped id roll ++ (memory.store id roll).entries =
      memory.entries.filter (fun entry => entry.1 ≠ id) ++ [(id, roll)] :=
  List.take_append_drop ..

theorem map_fst_without (id : String) (entries : List (String × StoredRoll)) :
    (without id entries).map Prod.fst = (entries.map Prod.fst).filter (· ≠ id) := by
  simp [without, List.filter_map, Function.comp_def]

theorem not_mem_map_fst_without (id : String) (entries : List (String × StoredRoll)) :
    id ∉ (without id entries).map Prod.fst := by
  rw [map_fst_without]
  intro member
  simpa using (List.mem_filter.mp member).2

theorem nodup_without {entries : List (String × StoredRoll)} (nodup : (entries.map Prod.fst).Nodup)
    (id : String) : ((without id entries).map Prod.fst).Nodup := by
  rw [map_fst_without]
  exact nodup.filter _

theorem Tidy.nodup_stored (tidy : memory.Tidy) (id : String) (roll : StoredRoll) :
    ((memory.stored id roll).map Prod.fst).Nodup := by
  rw [stored, List.map_append]
  refine List.nodup_append.mpr ⟨nodup_without tidy.nodup id, List.nodup_singleton id, ?_⟩
  rintro other held _ new rfl
  rw [List.mem_singleton.mp new] at held
  exact not_mem_map_fst_without _ _ held

theorem Tidy.store (tidy : memory.Tidy) (id : String) (roll : StoredRoll) :
    (memory.store id roll).Tidy where
  nodup := (tidy.nodup_stored id roll).sublist ((List.drop_sublist ..).map Prod.fst)
  bounded := size_store_le memory id roll

theorem Tidy.remove (tidy : memory.Tidy) (id : String) : (memory.remove id).Tidy where
  nodup := nodup_without tidy.nodup id
  bounded := Nat.le_trans (List.length_filter_le ..) tidy.bounded

theorem mem_entries_of_get?_eq_some (found : memory.get? id = some roll) :
    (id, roll) ∈ memory.entries := by
  obtain ⟨front, back, entries, _⟩ := List.lookup_eq_some_iff.mp found
  simp [entries]

theorem exists_mem_of_contains (held : memory.contains id) :
    ∃ roll, memory.get? id = some roll ∧ (id, roll) ∈ memory.entries := by
  obtain ⟨roll, found⟩ := Option.isSome_iff_exists.mp held
  exact ⟨roll, found, mem_entries_of_get?_eq_some found⟩

/-- What is held after a roll was stored is that roll, or was held before. -/
theorem mem_entries_store {entry : String × StoredRoll}
    (member : entry ∈ (memory.store id roll).entries) :
    entry = (id, roll) ∨ entry ∈ memory.entries := by
  have stored : entry ∈ memory.stored id roll := List.mem_of_mem_drop member
  rcases List.mem_append.mp stored with kept | new
  · exact .inr (List.mem_filter.mp kept).1
  · exact .inl (List.mem_singleton.mp new)

theorem mem_entries_remove {entry : String × StoredRoll}
    (member : entry ∈ (memory.remove id).entries) : entry ∈ memory.entries :=
  (List.mem_filter.mp member).1

/-- What is found under an id is the entry with this id. -/
theorem Tidy.get?_eq_some_iff (tidy : memory.Tidy) :
    memory.get? id = some roll ↔ (id, roll) ∈ memory.entries := by
  refine ⟨mem_entries_of_get?_eq_some, fun member => ?_⟩
  obtain ⟨front, back, entries⟩ := List.append_of_mem member
  refine List.lookup_eq_some_iff.mpr ⟨front, back, entries, ?_⟩
  intro other inFront
  have nodup := tidy.nodup
  rw [ids, entries, List.map_append] at nodup
  have different := (List.nodup_append.mp nodup).2.2 other.1 (List.mem_map_of_mem inFront) id
    List.mem_cons_self
  simpa using different.symm

theorem contains_iff_mem_ids : memory.contains id ↔ id ∈ memory.ids := by
  unfold contains get? ids
  induction memory.entries with
  | nil => simp
  | cons entry rest ih =>
    obtain ⟨key, roll⟩ := entry
    rw [List.map_cons, List.mem_cons, ← ih, List.lookup_cons]
    by_cases same : id = key
    · simp [same]
    · simp [same, beq_eq_false_iff_ne.mpr same]

theorem length_stored (memory : RollMemory) (id : String) (roll : StoredRoll) :
    (memory.stored id roll).length = (without id memory.entries).length + 1 := by
  simp [stored]

theorem length_dropped (memory : RollMemory) (id : String) (roll : StoredRoll) :
    (memory.dropped id roll).length = (memory.stored id roll).length - memory.capacity := by
  rw [dropped, List.length_take]
  omega

theorem Tidy.length_dropped_le (tidy : memory.Tidy) (id : String) (roll : StoredRoll) :
    (memory.dropped id roll).length ≤ 1 := by
  have bounded : memory.entries.length ≤ memory.capacity := tidy.bounded
  have kept : (without id memory.entries).length ≤ memory.entries.length :=
    List.length_filter_le ..
  rw [length_dropped, length_stored]
  omega

/-- Storing under an id that is held drops nothing. -/
theorem Tidy.dropped_of_mem_ids (tidy : memory.Tidy) (held : id ∈ memory.ids) (roll : StoredRoll) :
    memory.dropped id roll = [] := by
  have bounded : memory.entries.length ≤ memory.capacity := tidy.bounded
  obtain ⟨entry, member, same⟩ := List.mem_map.mp held
  have fewer : (without id memory.entries).length < memory.entries.length :=
    List.length_filter_lt_length_iff_exists.mpr ⟨entry, member, by simp [same]⟩
  rw [← List.length_eq_zero_iff, length_dropped, length_stored]
  omega

/-- What is not held cannot be forgotten. -/
theorem remove_of_not_contains (unheld : memory.contains id = false) :
    memory.remove id = memory := by
  have others : without id memory.entries = memory.entries := by
    refine List.filter_eq_self.mpr fun entry member => ?_
    have different : entry.1 ≠ id := fun same => by
      have held := contains_iff_mem_ids.mpr (same ▸ List.mem_map_of_mem (f := Prod.fst) member)
      rw [unheld] at held
      cases held
    simpa using different
  rw [remove, others]

/-- What has just been stored is not dropped. -/
theorem not_mem_evicted (memory : RollMemory) (id : String) (roll : StoredRoll) :
    id ∉ memory.evicted id roll := by
  have room := memory.capacity_pos
  have split : memory.dropped id roll <+: without id memory.entries := by
    refine List.prefix_of_prefix_length_le (List.take_prefix ..) (List.prefix_append ..) ?_
    rw [length_dropped, length_stored]
    omega
  intro member
  rw [← map_fst_dropped] at member
  exact not_mem_map_fst_without id memory.entries ((split.map Prod.fst).subset member)

/-- What has just been stored is found. -/
theorem get?_store_self (memory : RollMemory) (id : String) (roll : StoredRoll) :
    (memory.store id roll).get? id = some roll := by
  have room := memory.capacity_pos
  have overflow : (memory.stored id roll).length - memory.capacity ≤
      (without id memory.entries).length := by
    rw [length_stored]
    omega
  have split : (memory.store id roll).entries =
      (without id memory.entries).drop ((memory.stored id roll).length - memory.capacity) ++
        [(id, roll)] := List.drop_append_of_le_length overflow
  refine List.lookup_eq_some_iff.mpr ⟨_, [], split, fun entry member => ?_⟩
  have kept := List.mem_map_of_mem (f := Prod.fst) (List.mem_of_mem_drop member)
  exact bne_iff_ne.mpr fun same =>
    not_mem_map_fst_without id memory.entries (same ▸ kept)

/-- A new id makes the newest entry and leaves the others as they are, but for those dropped. -/
theorem dropped_append_entries_of_not_mem (unheld : id ∉ memory.ids) (roll : StoredRoll) :
    memory.dropped id roll ++ (memory.store id roll).entries = memory.entries ++ [(id, roll)] := by
  rw [dropped_append_entries_store]
  congr 1
  refine List.filter_eq_self.mpr fun entry member => ?_
  have different : entry.1 ≠ id := fun same => unheld (same ▸ List.mem_map_of_mem member)
  simpa using different

end DiceTable.RollMemory
