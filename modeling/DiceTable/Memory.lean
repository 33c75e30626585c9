import DiceTable.Limit
import DiceTable.Moment

/-! # Roll memory

The memory keeps, for each roll that was shown, the expression behind it, so that the roll can be
made again. It holds a limited number of entries, the oldest first; storing under an id that is
held makes that entry the newest, and what is over the limit is dropped at the old end.
-/

namespace DiceTable

structure StoredRoll where
  expression : String
  user : String
  createdAt : Moment
  deriving DecidableEq, Repr

/-- The remembered rolls by id, the oldest first. -/
structure RollMemory where
  capacity : Nat
  capacity_pos : 0 < capacity := by omega
  entries : List (String × StoredRoll) := []
  deriving Repr

namespace RollMemory

/-- An empty memory for as many entries as a limit allows, and for one in any case. -/
def ofLimit (limit : Limit) : RollMemory where
  capacity := max 1 (limit.whole?.getD 0).toNat

def ids (memory : RollMemory) : List String :=
  memory.entries.map Prod.fst

def size (memory : RollMemory) : Nat :=
  memory.entries.length

def get? (memory : RollMemory) (id : String) : Option StoredRoll :=
  memory.entries.lookup id

def without (id : String) (entries : List (String × StoredRoll)) :
    List (String × StoredRoll) :=
  entries.filter fun entry => entry.1 ≠ id

/-- The entries after a roll has been stored and before any is dropped. -/
def stored (memory : RollMemory) (id : String) (roll : StoredRoll) :
    List (String × StoredRoll) :=
  without id memory.entries ++ [(id, roll)]

/-- The ids that storing a roll drops. -/
def evicted (memory : RollMemory) (id : String) (roll : StoredRoll) : List String :=
  let entries := memory.stored id roll
  (entries.take (entries.length - memory.capacity)).map Prod.fst

/-- Remembers a roll under an id, as the newest. -/
def store (memory : RollMemory) (id : String) (roll : StoredRoll) : RollMemory :=
  let entries := memory.stored id roll
  { memory with entries := entries.drop (entries.length - memory.capacity) }

def remove (memory : RollMemory) (id : String) : RollMemory :=
  { memory with entries := without id memory.entries }

def contains (memory : RollMemory) (id : String) : Bool :=
  (memory.get? id).isSome

theorem without_cons (id : String) (entry : String × StoredRoll)
    (entries : List (String × StoredRoll)) :
    without id (entry :: entries) =
      if entry.1 = id then without id entries else entry :: without id entries := by
  by_cases held : entry.1 = id <;> simp [without, held]

theorem lookup_without (id other : String) (entries : List (String × StoredRoll)) :
    (without id entries).lookup other = if other = id then none else entries.lookup other := by
  induction entries with
  | nil => simp [without]
  | cons entry rest ih =>
    obtain ⟨key, roll⟩ := entry
    rw [without_cons]
    by_cases held : key = id
    · subst held
      rw [if_pos rfl, ih]
      by_cases same : other = key
      · simp [same]
      · simp [same, List.lookup_cons, beq_eq_false_iff_ne.mpr]
    · rw [if_neg held]
      by_cases first : other = key
      · subst first
        simp [held]
      · simp [List.lookup_cons, beq_eq_false_iff_ne.mpr first, ih]

theorem ids_remove (memory : RollMemory) (id : String) :
    (memory.remove id).ids = memory.ids.filter (· ≠ id) := by
  simp [ids, remove, without, List.filter_map, Function.comp_def]

theorem get?_remove (memory : RollMemory) (id other : String) :
    (memory.remove id).get? other = if other = id then none else memory.get? other :=
  lookup_without id other memory.entries

theorem size_store_le (memory : RollMemory) (id : String) (roll : StoredRoll) :
    (memory.store id roll).size ≤ memory.capacity := by
  simp only [size, store, List.length_drop]
  omega

end RollMemory

end DiceTable
