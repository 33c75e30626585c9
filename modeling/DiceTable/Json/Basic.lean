import DiceTable.Decimal.Binary64
import DiceTable.Decimal.Digits
import DiceTable.Text.CodePoint

/-! # JSON values

Objects keep their members in order. Integers are exact; every other number is a binary number.
The texts of a value are strings unless another type of texts is named.
-/

namespace DiceTable

/-- A JSON value with texts of the type `τ`. -/
inductive Json (τ : Type := String) where
  | null
  | bool (value : Bool)
  | int (value : Int)
  | float (value : Decimal.Binary64)
  | str (text : τ)
  | arr (items : List (Json τ))
  | obj (members : List (τ × Json τ))
  deriving Inhabited, Repr

abbrev Members (τ : Type := String) := List (τ × Json τ)

namespace Members

variable {τ : Type} [DecidableEq τ]

/-- The value of the first member with the given key. -/
def get? (members : Members τ) (key : τ) : Option (Json τ) :=
  List.lookup key members

/-- Gives a key a value: in its place if the key is there, at the end otherwise. -/
def put (key : τ) (value : Json τ) : Members τ → Members τ
  | [] => [(key, value)]
  | (k, old) :: rest => if k = key then (k, value) :: rest else (k, old) :: put key value rest

/-- Members in the order their keys first come in, each with the value that comes last. -/
def ofList (pairs : List (τ × Json τ)) : Members τ :=
  pairs.foldl (fun members pair => put pair.1 pair.2 members) []

theorem get?_put (members : Members τ) (key other : τ) (value : Json τ) :
    (put key value members).get? other =
      if other = key then some value else members.get? other := by
  induction members with
  | nil =>
    by_cases same : other = key <;>
      simp [put, get?, List.lookup_cons, same, beq_eq_false_iff_ne.mpr]
  | cons pair rest ih =>
    obtain ⟨k, old⟩ := pair
    simp only [get?, put] at ih ⊢
    by_cases here : k = key
    · subst here
      by_cases same : other = k <;> simp [List.lookup_cons, same, beq_eq_false_iff_ne.mpr]
    · by_cases first : other = k
      · subst first
        simp [here]
      · simp [here, List.lookup_cons, beq_eq_false_iff_ne.mpr first, ih]

theorem get?_cons (key other : τ) (value : Json τ) (rest : Members τ) :
    get? ((key, value) :: rest) other = if other = key then some value else rest.get? other := by
  by_cases same : other = key <;> simp [get?, List.lookup_cons, same, beq_eq_false_iff_ne.mpr]

section Keys

variable {members : Members τ} {key : τ} {value : Json τ}

theorem mem_of_get?_eq_some (found : members.get? key = some value) : (key, value) ∈ members := by
  obtain ⟨front, back, rfl, _⟩ := List.lookup_eq_some_iff.mp found
  simp

/-- Where no key comes twice, every member is found under its key. -/
theorem get?_of_mem (distinct : (members.map Prod.fst).Nodup) (member : (key, value) ∈ members) :
    members.get? key = some value := by
  induction members with
  | nil => cases member
  | cons first rest ih =>
    obtain ⟨k, old⟩ := first
    obtain ⟨apart, others⟩ := List.nodup_cons.mp distinct
    rw [get?_cons]
    rcases List.mem_cons.mp member with same | later
    · cases same
      rw [if_pos rfl]
    · rw [if_neg, ih others later]
      rintro rfl
      exact apart (List.mem_map.mpr ⟨_, later, rfl⟩)

theorem get?_of_not_mem (fresh : key ∉ members.map Prod.fst) : members.get? key = none := by
  cases found : members.get? key with
  | none => rfl
  | some value => exact absurd (List.mem_map_of_mem (mem_of_get?_eq_some found)) fresh

/-- A value that is there already is put in without a change. -/
theorem put_of_get?_eq_some (found : members.get? key = some value) :
    put key value members = members := by
  induction members with
  | nil => cases found
  | cons member rest ih =>
    obtain ⟨k, old⟩ := member
    rw [get?_cons] at found
    split at found
    · rename_i same
      cases found
      rw [put, if_pos same.symm]
    · rename_i other
      rw [put, if_neg (Ne.symm other), ih found]

theorem put_of_not_mem (fresh : key ∉ members.map Prod.fst) :
    put key value members = members ++ [(key, value)] := by
  induction members with
  | nil => rfl
  | cons member rest ih =>
    obtain ⟨here, later⟩ := not_or.mp (mt List.mem_cons.mpr fresh)
    rw [put, if_neg (Ne.symm here), ih later, List.cons_append]

end Keys

end Members

namespace Json

variable {τ : Type}

/-- The value of a member, where the value is an object that has it. -/
def get? [DecidableEq τ] (key : τ) : Json τ → Option (Json τ)
  | .obj members => Members.get? members key
  | _ => none

/-- The word for the type of a value, as error messages use it. -/
def typeName : Json τ → String
  | .null => "NoneType"
  | .bool _ => "bool"
  | .int _ => "int"
  | .float _ => "float"
  | .str _ => "str"
  | .arr _ => "list"
  | .obj _ => "dict"

/-- Null, false, zero, and whatever is empty. -/
def isVoid [Spelled τ] : Json τ → Bool
  | .null => true
  | .bool value => !value
  | .int value => value == 0
  | .float value => value.isZero
  | .str text => (Spelled.points text).isEmpty
  | .arr items => items.isEmpty
  | .obj members => members.isEmpty

mutual

/-- Whether all numbers within a value can be written: they are finite, and the integers have no
more digits than are written. -/
def isWritable : Json τ → Bool
  | .int value => Decimal.isShort Decimal.digitLimit value
  | .float value => value.isFinite
  | .arr items => itemsWritable items
  | .obj members => membersWritable members
  | _ => true
termination_by structural value => value

/-- Whether all numbers within the items of a list can be written. -/
def itemsWritable : List (Json τ) → Bool
  | [] => true
  | item :: rest => isWritable item && itemsWritable rest
termination_by structural items => items

/-- Whether all numbers within the values of a mapping can be written. -/
def membersWritable : List (τ × Json τ) → Bool
  | [] => true
  | (_, value) :: rest => isWritable value && membersWritable rest
termination_by structural members => members

end

end Json

end DiceTable
