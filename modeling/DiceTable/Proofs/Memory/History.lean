import DiceTable.Memory
import Mathlib.Data.Set.Card

/-! # Histories of operations on a memory

The last store of an id stands until the id is removed, and it outlasts the newer ids as long as
there were never as many of them as a memory has room for. Both are said of the history alone, with
no memory in sight.

The ledger of a history lists all stores that stand, in their order. It is what a memory without a
limit would hold; how many ids are newer than one of them is how many lines of the ledger follow
(`MemoryOperation.ncard_newer`).
-/

namespace DiceTable

inductive MemoryOperation where
  | store (id : String) (roll : StoredRoll)
  | get (id : String)
  | remove (id : String)
  deriving DecidableEq, Repr

inductive MemoryAnswer where
  | stored
  | found (roll : Option StoredRoll)
  | removed (held : Bool)
  deriving DecidableEq, Repr

namespace MemoryOperation

variable {history : List MemoryOperation} {operation : MemoryOperation} {id : String}
  {place : Nat} {roll : StoredRoll}

/-- The last store of an id is at a place of the history, and the id has not been removed since. -/
structure Stands (history : List MemoryOperation) (id : String) (place : Nat) (roll : StoredRoll) :
    Prop where
  stored : history[place]? = some (.store id roll)
  last : ∀ later other, place < later → history[later]? ≠ some (.store id other)
  kept : ∀ later, place < later → history[later]? ≠ some (.remove id)

/-- The other ids whose last store is behind a place and stands. -/
def newer (history : List MemoryOperation) (id : String) (place : Nat) : Set String :=
  {other | other ≠ id ∧ ∃ later roll, place < later ∧ Stands history other later roll}

/-- At every moment since the store at a place, there were fewer newer ids than there is room
for. -/
def Outlasts (capacity : Nat) (history : List MemoryOperation) (id : String) (place : Nat) : Prop :=
  ∀ moment, place < moment → moment ≤ history.length →
    (newer (history.take moment) id place).ncard < capacity

/-- The last store of one id stands in front of that of another. -/
def StoredBefore (history : List MemoryOperation) (older newer : String) : Prop :=
  ∃ place later roll other, Stands history older place roll ∧ Stands history newer later other ∧
    place < later

def Touches (operation : MemoryOperation) (id : String) : Prop :=
  (∃ roll, operation = .store id roll) ∨ operation = .remove id

theorem touches_store_iff {other : String} : (store other roll).Touches id ↔ other = id := by
  constructor
  · rintro (⟨_, ⟨⟩⟩ | ⟨⟨⟩⟩)
    rfl
  · rintro rfl
    exact .inl ⟨roll, rfl⟩

theorem not_touches_get {other : String} : ¬ (get other).Touches id := by
  rintro (⟨_, ⟨⟩⟩ | ⟨⟨⟩⟩)

theorem touches_remove_iff {other : String} : (remove other).Touches id ↔ other = id := by
  constructor
  · rintro (⟨_, ⟨⟩⟩ | ⟨⟨⟩⟩)
    rfl
  · rintro rfl
    exact .inr rfl

theorem Stands.lt_length (stands : Stands history id place roll) : place < history.length :=
  (List.getElem?_eq_some_iff.mp stands.stored).1

theorem Stands.unique {other : Nat} {otherRoll : StoredRoll}
    (stands : Stands history id place roll) (again : Stands history id other otherRoll) :
    place = other ∧ roll = otherRoll := by
  have same : place = other := by
    rcases Nat.lt_trichotomy place other with before | same | behind
    · exact (stands.last other otherRoll before again.stored).elim
    · exact same
    · exact (again.last place roll behind stands.stored).elim
  subst same
  have stored := stands.stored.symm.trans again.stored
  cases stored
  exact ⟨rfl, rfl⟩

/-- After one more operation, what stands has just been stored, or stood before and is not
touched. -/
theorem stands_append_iff :
    Stands (history ++ [operation]) id place roll ↔
      (place = history.length ∧ operation = .store id roll) ∨
        Stands history id place roll ∧ ¬ operation.Touches id := by
  constructor
  · intro stands
    have bound : place < history.length + 1 := by simpa using stands.lt_length
    rcases Nat.lt_succ_iff_lt_or_eq.mp bound with before | rfl
    · have read {later : Nat} (inside : later < history.length) :
          (history ++ [operation])[later]? = history[later]? := List.getElem?_append_left inside
      refine .inr ⟨⟨?_, ?_, ?_⟩, ?_⟩
      · rw [← read before]
        exact stands.stored
      · intro later other behind stored
        have inside := (List.getElem?_eq_some_iff.mp stored).1
        exact stands.last later other behind ((read inside).trans stored)
      · intro later behind removed
        have inside := (List.getElem?_eq_some_iff.mp removed).1
        exact stands.kept later behind ((read inside).trans removed)
      · rintro (⟨other, rfl⟩ | rfl)
        · exact stands.last _ other before List.getElem?_concat_length
        · exact stands.kept _ before List.getElem?_concat_length
    · have stored := stands.stored
      rw [List.getElem?_concat_length] at stored
      exact .inl ⟨rfl, Option.some.inj stored⟩
  · have beyond {later : Nat} (behind : history.length < later) :
        (history ++ [operation])[later]? = none := by
      rw [List.getElem?_eq_none_iff, List.length_append, List.length_singleton]
      omega
    rintro (⟨rfl, rfl⟩ | ⟨stands, untouched⟩)
    · refine ⟨List.getElem?_concat_length, ?_, ?_⟩
      · intro later other behind stored
        rw [beyond behind] at stored
        cases stored
      · intro later behind removed
        rw [beyond behind] at removed
        cases removed
    · have last {later : Nat} {found : MemoryOperation}
          (read : (history ++ [operation])[later]? = some found) :
          history[later]? = some found ∨ operation = found := by
        rcases Nat.lt_trichotomy later history.length with inside | rfl | behind
        · rw [List.getElem?_append_left inside] at read
          exact .inl read
        · rw [List.getElem?_concat_length] at read
          exact .inr (Option.some.inj read)
        · rw [beyond behind] at read
          cases read
      refine ⟨?_, ?_, ?_⟩
      · rw [List.getElem?_append_left stands.lt_length]
        exact stands.stored
      · intro later other behind read
        rcases last read with stored | same
        · exact stands.last later other behind stored
        · exact untouched (.inl ⟨other, same⟩)
      · intro later behind read
        rcases last read with removed | same
        · exact stands.kept later behind removed
        · exact untouched (.inr same)

/-- What has just been stored outlasts the newer ones, of which there are none. -/
theorem outlasts_last {capacity : Nat} (room : 0 < capacity) :
    Outlasts capacity (history ++ [operation]) id history.length := by
  intro moment behind within
  have none : newer ((history ++ [operation]).take moment) id history.length = ∅ := by
    refine Set.eq_empty_of_forall_notMem fun other member => ?_
    obtain ⟨_, later, roll, behind, stands⟩ := member
    have bound := stands.lt_length
    simp only [List.length_take, List.length_append, List.length_singleton] at bound
    omega
  rw [none, Set.ncard_empty]
  exact room

/-- Outlasting the newer ids takes one more moment with every operation. -/
theorem outlasts_append_iff {capacity : Nat} (before : place < history.length) :
    Outlasts capacity (history ++ [operation]) id place ↔
      Outlasts capacity history id place ∧
        (newer (history ++ [operation]) id place).ncard < capacity := by
  have now : (history ++ [operation]).take (history.length + 1) = history ++ [operation] :=
    List.take_of_length_le (by simp)
  constructor
  · intro outlasts
    constructor
    · intro moment behind within
      have earlier := outlasts moment behind (by simp; omega)
      rwa [List.take_append_of_le_length within] at earlier
    · have last := outlasts (history.length + 1) (by omega) (by simp)
      rwa [now] at last
  · rintro ⟨outlasts, last⟩ moment behind within
    rw [List.length_append, List.length_singleton] at within
    rcases Nat.le_succ_iff.mp within with earlier | rfl
    · rw [List.take_append_of_le_length earlier]
      exact outlasts moment behind earlier
    · rwa [now]

section Ledger

/-- The ledger after an operation at a place. -/
def enter (ledger : List (Nat × String × StoredRoll)) :
    MemoryOperation × Nat → List (Nat × String × StoredRoll)
  | (.store id roll, place) => ledger.filter (fun line => line.2.1 ≠ id) ++ [(place, id, roll)]
  | (.get _, _) => ledger
  | (.remove id, _) => ledger.filter fun line => line.2.1 ≠ id

/-- The stores of a history that stand, with their places, in their order. -/
def ledger (history : List MemoryOperation) : List (Nat × String × StoredRoll) :=
  history.zipIdx.foldl enter []

theorem ledger_append (history : List MemoryOperation) (operation : MemoryOperation) :
    ledger (history ++ [operation]) = enter (ledger history) (operation, history.length) := by
  simp [ledger, List.zipIdx_append]

theorem mem_ledger_iff {line : Nat × String × StoredRoll} :
    line ∈ ledger history ↔ Stands history line.2.1 line.1 line.2.2 := by
  obtain ⟨place, id, roll⟩ := line
  induction history using List.reverseRecOn with
  | nil => exact ⟨nofun, fun stands => absurd stands.lt_length (Nat.not_lt_zero _)⟩
  | append_singleton history operation ih =>
    rw [ledger_append, stands_append_iff, ← ih]
    cases operation with
    | store other new =>
      simp only [enter, List.mem_append, List.mem_filter, List.mem_singleton, touches_store_iff,
        Prod.mk.injEq, store.injEq, decide_eq_true_eq]
      rw [or_comm, eq_comm (a := other), eq_comm (a := roll)]
    | get other => simp only [enter, not_touches_get, reduceCtorEq, and_false, false_or,
        not_false_eq_true, and_true]
    | remove other =>
      simp only [enter, List.mem_filter, touches_remove_iff, reduceCtorEq, and_false, false_or,
        decide_eq_true_eq]
      rw [eq_comm (a := other)]

/-- The stores of the ledger are in the order of their places. -/
theorem pairwise_ledger (history : List MemoryOperation) :
    (ledger history).Pairwise fun older newer => older.1 < newer.1 := by
  induction history using List.reverseRecOn with
  | nil => exact .nil
  | append_singleton history operation ih =>
    rw [ledger_append]
    cases operation with
    | store id roll =>
      refine List.pairwise_append.mpr ⟨ih.filter _, List.pairwise_singleton .., ?_⟩
      intro line inLedger new last
      rw [List.mem_singleton.mp last]
      exact (mem_ledger_iff.mp (List.mem_filter.mp inLedger).1).lt_length
    | get id => exact ih
    | remove id => exact ih.filter _

theorem nodup_map_ledger (history : List MemoryOperation) :
    ((ledger history).map fun line => line.2.1).Nodup := by
  refine List.pairwise_map.mpr ((pairwise_ledger history).imp_of_mem ?_)
  intro older newer inLedger alsoInLedger before same
  have stands := mem_ledger_iff.mp inLedger
  rw [same] at stands
  have again := (stands.unique (mem_ledger_iff.mp alsoInLedger)).1
  omega

/-- The newer ids are those behind an id in the ledger. -/
theorem newer_of_ledger_eq {front back : List (Nat × String × StoredRoll)}
    (split : ledger history = front ++ (place, id, roll) :: back) :
    newer history id place = {other | other ∈ back.map fun line => line.2.1} := by
  have ordered := pairwise_ledger history
  rw [split] at ordered
  obtain ⟨_, behind, across⟩ := List.pairwise_append.mp ordered
  ext other
  constructor
  · rintro ⟨_, later, new, after, stands⟩
    have member : (later, other, new) ∈ ledger history := mem_ledger_iff.mpr stands
    rw [split] at member
    rcases List.mem_append.mp member with inFront | inRest
    · have := across _ inFront (place, id, roll) List.mem_cons_self
      omega
    · rcases List.mem_cons.mp inRest with same | inBack
      · cases same
        omega
      · exact List.mem_map.mpr ⟨_, inBack, rfl⟩
  · intro member
    obtain ⟨⟨later, _, new⟩, inBack, rfl⟩ := List.mem_map.mp member
    have after : place < later := (List.pairwise_cons.mp behind).1 _ inBack
    have stands {line : Nat × String × StoredRoll} (inRest : line ∈ (place, id, roll) :: back) :
        Stands history line.2.1 line.1 line.2.2 := by
      refine mem_ledger_iff.mp ?_
      rw [split]
      exact List.mem_append_right _ inRest
    have here := stands List.mem_cons_self
    have there := stands (List.mem_cons_of_mem _ inBack)
    refine ⟨?_, later, new, after, there⟩
    rintro rfl
    have := (here.unique there).1
    omega

theorem ncard_newer {front back : List (Nat × String × StoredRoll)}
    (split : ledger history = front ++ (place, id, roll) :: back) :
    (newer history id place).ncard = back.length := by
  have nodup := nodup_map_ledger history
  rw [split, List.map_append, List.map_cons] at nodup
  have distinct := (List.nodup_cons.mp (List.nodup_append.mp nodup).2.1).2
  have finite : newer history id place = ↑(back.map fun line => line.2.1).toFinset := by
    rw [newer_of_ledger_eq split, List.coe_toFinset]
  rw [finite, Set.ncard_coe_finset, List.toFinset_card_of_nodup distinct, List.length_map]

/-- What stands is in the newer end of the ledger if this is longer than what is newer. -/
theorem Stands.mem_suffix_iff {entries : List (String × StoredRoll)}
    (stands : Stands history id place roll) (suffix : entries <:+ (ledger history).map Prod.snd) :
    (id, roll) ∈ entries ↔ (newer history id place).ncard < entries.length := by
  obtain ⟨front, back, split⟩ := List.append_of_mem (mem_ledger_iff.mpr stands :
    (place, id, roll) ∈ ledger history)
  have nodup := nodup_map_ledger history
  rw [split, List.map_append, List.map_cons] at nodup
  rw [split, List.map_append, List.map_cons] at suffix
  rw [ncard_newer split]
  constructor
  · intro member
    by_contra short
    have inBack : entries <:+ back.map Prod.snd :=
      List.suffix_of_suffix_length_le suffix
        ((List.suffix_cons _ _).trans (List.suffix_append _ _))
        (by rw [List.length_map]; omega)
    obtain ⟨line, behind, same⟩ := List.mem_map.mp (inBack.subset member)
    refine (List.nodup_cons.mp (List.nodup_append.mp nodup).2.1).1 (List.mem_map.mpr ?_)
    exact ⟨line, behind, congrArg Prod.fst same⟩
  · intro long
    have within : (id, roll) :: back.map Prod.snd <:+ entries :=
      List.suffix_of_suffix_length_le (List.suffix_append _ _) suffix
        (by rw [List.length_cons, List.length_map]; omega)
    exact within.subset List.mem_cons_self

end Ledger

end MemoryOperation

end DiceTable
