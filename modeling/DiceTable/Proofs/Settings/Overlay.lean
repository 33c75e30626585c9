import DiceTable.Settings.Merge

/-! # Mappings laid over one another

What one mapping laid over another one holds is said by paths of keys. At a path that leads to a
value of the overriding mapping there is this value, merged with the one below where both are
mappings; at a path that misses a key of it there is what is below; and behind a value that is no
mapping there is nothing (`merge_paths`). A mapping that is laid over twice is there after the first
time.
-/

namespace DiceTable

namespace Json

/-- The value at a path of keys, each of which is looked up in a mapping. -/
def at? (value : Json) : List String → Option Json
  | [] => some value
  | key :: path => (value.get? key).bind (at? · path)

/-- A path leads through mappings to a key that is missing. -/
def Lacks (value : Json) (path : List String) : Prop :=
  ∃ front key back members, path = front ++ key :: back ∧
    value.at? front = some (.obj members) ∧ Members.get? members key = none

/-- A path leads to a value that is no mapping, and goes on behind it. -/
def Blocks (value : Json) (path : List String) : Prop :=
  ∃ front back found, path = front ++ back ∧ back ≠ [] ∧
    value.at? front = some found ∧ ∀ members, found ≠ .obj members

/-- In no mapping within a mapping does a key come twice. -/
inductive KeysDistinct : Json → Prop
  | leaf {value : Json} (noMapping : ∀ members, value ≠ .obj members) : KeysDistinct value
  | obj {members : Members} (distinct : (members.map Prod.fst).Nodup)
      (each : ∀ member ∈ members, KeysDistinct member.2) : KeysDistinct (.obj members)

variable {value found : Json} {members : Members} {key : String} {front back path : List String}

theorem at?_append (value : Json) (front back : List String) :
    value.at? (front ++ back) = (value.at? front).bind (at? · back) := by
  induction front generalizing value with
  | nil => rfl
  | cons key front ih =>
    rw [List.cons_append, at?, at?]
    cases value.get? key with
    | none => rfl
    | some inner => exact ih inner

/-- Only a mapping holds anything. -/
theorem get?_of_noMapping (noMapping : ∀ members, value ≠ .obj members) (key : String) :
    value.get? key = none := by
  cases value with
  | obj members => exact absurd rfl (noMapping members)
  | _ => rfl

theorem at?_of_noMapping (noMapping : ∀ members, value ≠ .obj members) (nonempty : path ≠ []) :
    value.at? path = none := by
  obtain ⟨key, rest, rfl⟩ := List.exists_cons_of_ne_nil nonempty
  rw [at?, get?_of_noMapping noMapping]
  rfl

/-- A path leads to a value, lacks a key, or is blocked. -/
theorem at?_cases (value : Json) (path : List String) :
    (∃ found, value.at? path = some found) ∨ value.Lacks path ∨ value.Blocks path := by
  induction path generalizing value with
  | nil => exact .inl ⟨value, rfl⟩
  | cons key path ih =>
    by_cases mapping : ∃ members, value = .obj members
    · obtain ⟨members, rfl⟩ := mapping
      cases inner : Members.get? members key with
      | none => exact .inr (.inl ⟨[], key, path, members, rfl, rfl, inner⟩)
      | some next =>
        have step (rest : List String) : (Json.obj members).at? (key :: rest) = next.at? rest := by
          rw [at?, Json.get?, inner]
          rfl
        rcases ih next with ⟨found, there⟩ | ⟨front, last, back, others, rfl, there, missing⟩ |
          ⟨front, back, found, rfl, nonempty, there, noMapping⟩
        · exact .inl ⟨found, (step path).trans there⟩
        · exact .inr (.inl ⟨key :: front, last, back, others, rfl, (step front).trans there,
            missing⟩)
        · exact .inr (.inr ⟨key :: front, back, found, rfl, nonempty, (step front).trans there,
            noMapping⟩)
    · have noMapping := not_exists.mp mapping
      exact .inr (.inr ⟨[], key :: path, value, rfl, List.cons_ne_nil _ _, rfl, noMapping⟩)

theorem KeysDistinct.keys (distinct : (Json.obj members).KeysDistinct) :
    (members.map Prod.fst).Nodup := by
  cases distinct with
  | leaf noMapping => exact absurd rfl (noMapping members)
  | obj distinct _ => exact distinct

/-- Keys are distinct within every value of a mapping. -/
theorem KeysDistinct.of_get? (distinct : value.KeysDistinct) (inner : value.get? key = some found) :
    found.KeysDistinct := by
  cases distinct with
  | leaf noMapping =>
    rw [get?_of_noMapping noMapping] at inner
    cases inner
  | obj _ each => exact each _ (Members.mem_of_get?_eq_some inner)

theorem KeysDistinct.of_at? (distinct : value.KeysDistinct) (there : value.at? path = some found) :
    found.KeysDistinct := by
  induction path generalizing value with
  | nil =>
    cases there
    exact distinct
  | cons key path ih =>
    obtain ⟨inner, step, there⟩ := Option.bind_eq_some_iff.mp there
    exact ih (distinct.of_get? step) there

end Json

namespace Settings

open Json

variable {below : Option Json} {value found : Json} {base override members : Members}
  {key : String} {path : List String}

theorem overrideValue_of_noMapping (noMapping : ∀ members, value ≠ .obj members)
    (below : Option Json) : overrideValue below value = value := by
  cases value with
  | obj members => exact absurd rfl (noMapping members)
  | _ => rfl

/-- What is no mapping does not shine through. -/
theorem overrideValue_of_noMapping_below (noMapping : ∀ members, below ≠ some (.obj members))
    (value : Json) : overrideValue below value = value := by
  cases value with
  | obj members =>
    unfold overrideValue
    split
    · exact absurd rfl (noMapping _)
    · rfl
  | _ => rfl

theorem overrideValue_none (value : Json) : overrideValue none value = value :=
  overrideValue_of_noMapping_below (fun _ same => by cases same) value

/-- Under each key there is what the overriding mapping has there, laid over what is below. -/
theorem get?_merge (distinct : (override.map Prod.fst).Nodup) (base : Members) (key : String) :
    (merge base override).get? key =
      (override.get? key).elim (base.get? key) fun value =>
        some (overrideValue (base.get? key) value) := by
  induction override generalizing base with
  | nil => rfl
  | cons member rest ih =>
    obtain ⟨first, value⟩ := member
    obtain ⟨apart, others⟩ := List.nodup_cons.mp distinct
    rw [merge, ih others, Members.get?_put, Members.get?_cons]
    by_cases same : key = first
    · rw [same, if_pos rfl, if_pos rfl, Members.get?_of_not_mem apart]
      rfl
    · rw [if_neg same, if_neg same]

/-- At a path to a value of what lies above, it is laid over what is below at this path. -/
theorem at?_overrideValue (distinct : value.KeysDistinct) (below : Option Json)
    (there : value.at? path = some found) :
    (overrideValue below value).at? path =
      some (overrideValue (below.bind (at? · path)) found) := by
  induction path generalizing value below with
  | nil =>
    cases there
    rw [at?]
    cases below <;> rfl
  | cons key path ih =>
    obtain ⟨inner, step, later⟩ := Option.bind_eq_some_iff.mp there
    by_cases mapping : ∃ base, below = some (.obj base)
    · obtain ⟨base, rfl⟩ := mapping
      cases value with
      | obj members =>
        have within : (merge base members).get? key =
            some (overrideValue (Members.get? base key) inner) := by
          rw [get?_merge distinct.keys, show Members.get? members key = some inner from step]
          rfl
        rw [overrideValue, at?, Json.get?, within]
        exact ih (distinct.of_get? step) (Members.get? base key) later
      | _ => cases step
    · have noMapping := not_exists.mp mapping
      have nothing : below.bind (at? · (key :: path)) = none := by
        cases below with
        | none => rfl
        | some under =>
          refine at?_of_noMapping (fun members same => ?_) (List.cons_ne_nil key path)
          exact noMapping members (congrArg some same)
      rw [overrideValue_of_noMapping_below noMapping, nothing, there, overrideValue_none]

/-- Where the overriding mapping lacks a key, there is what is below. -/
theorem at?_merge_of_lacks (distinct : (Json.obj override).KeysDistinct)
    (lacks : (Json.obj override).Lacks path) :
    (Json.obj (merge base override)).at? path = (Json.obj base).at? path := by
  obtain ⟨front, key, back, members, rfl, there, missing⟩ := lacks
  have laid := at?_overrideValue distinct (some (.obj base)) there
  have inner := distinct.of_at? there
  rw [overrideValue] at laid
  rw [at?_append, laid, at?_append, Option.bind_some]
  change _ = (Option.bind (some (Json.obj base)) (at? · front)).bind _
  generalize (some (Json.obj base)).bind (at? · front) = under
  by_cases mapping : ∃ lower, under = some (.obj lower)
  · obtain ⟨lower, rfl⟩ := mapping
    rw [overrideValue, Option.bind_some, at?, at?, Json.get?, get?_merge inner.keys, missing]
    rfl
  · have noMapping := not_exists.mp mapping
    rw [overrideValue_of_noMapping_below noMapping, at?, Json.get?, missing]
    cases under with
    | none => rfl
    | some under =>
      refine (at?_of_noMapping (fun members same => ?_) (List.cons_ne_nil key back)).symm
      exact noMapping members (congrArg some same)

/-- Behind a value that is no mapping there is nothing. -/
theorem at?_merge_of_blocks (distinct : (Json.obj override).KeysDistinct)
    (blocks : (Json.obj override).Blocks path) :
    (Json.obj (merge base override)).at? path = none := by
  obtain ⟨front, back, found, rfl, nonempty, there, noMapping⟩ := blocks
  have laid := at?_overrideValue distinct (some (.obj base)) there
  rw [overrideValue, overrideValue_of_noMapping noMapping] at laid
  rw [at?_append, laid]
  exact at?_of_noMapping noMapping nonempty

/-- Members that are there already are laid over without a change. -/
theorem merge_of_forall_get? (settled : ∀ member ∈ override, ∃ value,
      base.get? member.1 = some value ∧ overrideValue (some value) member.2 = value) :
    merge base override = base := by
  induction override with
  | nil => rfl
  | cons member rest ih =>
    obtain ⟨⟨value, there, stays⟩, later⟩ := List.forall_mem_cons.mp settled
    rw [merge, there, stays, Members.put_of_get?_eq_some there, ih later]

theorem merge_self_of_forall (distinct : (members.map Prod.fst).Nodup)
    (each : ∀ member ∈ members, overrideValue (some member.2) member.2 = member.2) :
    merge members members = members :=
  merge_of_forall_get? fun member inside =>
    ⟨member.2, Members.get?_of_mem distinct inside, each member inside⟩

theorem overrideValue_self (distinct : value.KeysDistinct) :
    overrideValue (some value) value = value := by
  induction distinct with
  | leaf noMapping => exact overrideValue_of_noMapping noMapping _
  | obj distinct _ each => rw [overrideValue, merge_self_of_forall distinct each]

/-- A mapping laid over itself is itself. -/
theorem merge_self (distinct : (Json.obj members).KeysDistinct) : merge members members = members :=
  Json.obj.inj (overrideValue_self distinct)

theorem overrideValue_overrideValue (distinct : value.KeysDistinct) (below : Option Json) :
    overrideValue (some (overrideValue below value)) value = overrideValue below value := by
  induction distinct generalizing below with
  | leaf noMapping =>
    rw [overrideValue_of_noMapping noMapping, overrideValue_of_noMapping noMapping]
  | @obj members distinct each ih =>
    by_cases mapping : ∃ base, below = some (.obj base)
    · obtain ⟨base, rfl⟩ := mapping
      rw [overrideValue, overrideValue, merge_of_forall_get?]
      intro member inside
      refine ⟨overrideValue (Members.get? base member.1) member.2, ?_, ih member inside _⟩
      rw [get?_merge distinct, Members.get?_of_mem distinct inside]
      rfl
    · rw [overrideValue_of_noMapping_below (not_exists.mp mapping)]
      exact overrideValue_self (.obj distinct each)

/-- What was laid over once is there. -/
theorem merge_merge (distinct : (Json.obj override).KeysDistinct) (base : Members) :
    merge (merge base override) override = merge base override :=
  Json.obj.inj (overrideValue_overrideValue distinct (some (.obj base)))

/-- Members are added one after the other to a mapping that has none of their keys. -/
theorem merge_of_disjoint (distinct : ((base ++ members).map Prod.fst).Nodup) :
    merge base members = base ++ members := by
  induction members generalizing base with
  | nil => rw [merge, List.append_nil]
  | cons member rest ih =>
    obtain ⟨key, value⟩ := member
    have split : base ++ (key, value) :: rest = base ++ [(key, value)] ++ rest := by simp
    have fresh : key ∉ base.map Prod.fst := by
      intro inside
      rw [List.map_append, List.nodup_append] at distinct
      exact distinct.2.2 key inside key List.mem_cons_self rfl
    rw [split] at distinct ⊢
    rw [merge, Members.get?_of_not_mem fresh, overrideValue_none, Members.put_of_not_mem fresh,
      ih distinct]

/-- A mapping with another one laid over it, path by path: where the other one has a value, there is
this value, or the mapping that both make where both have one; where it lacks a key, there is what
is below; behind a value of it that is no mapping, there is nothing; and there is no further case.
Laying the same mapping over once more changes nothing, nor does laying a mapping over itself, an
empty one over it, or it over an empty one. -/
theorem merge_paths (distinctBase : (Json.obj base).KeysDistinct)
    (distinct : (Json.obj override).KeysDistinct) :
    let lower := Json.obj base
    let upper := Json.obj override
    let merged := Json.obj (merge base override)
    (∀ path,
      (∀ found, upper.at? path = some found →
        (∀ under above, lower.at? path = some (.obj under) → found = .obj above →
          merged.at? path = some (.obj (merge under above))) ∧
        ((∀ under, lower.at? path ≠ some (.obj under)) ∨ (∀ above, found ≠ .obj above) →
          merged.at? path = some found)) ∧
      (upper.Lacks path → merged.at? path = lower.at? path) ∧
      (upper.Blocks path → merged.at? path = none) ∧
      ((∃ found, upper.at? path = some found) ∨ upper.Lacks path ∨ upper.Blocks path)) ∧
    merge (merge base override) override = merge base override ∧
    merge base base = base ∧ merge base [] = base ∧ merge [] base = base := by
  intro lower upper merged
  refine ⟨fun path => ⟨fun found there => ?_, at?_merge_of_lacks distinct,
    at?_merge_of_blocks distinct, at?_cases upper path⟩, merge_merge distinct base,
    merge_self distinctBase, rfl, merge_of_disjoint distinctBase.keys⟩
  have laid : merged.at? path = some (overrideValue (lower.at? path) found) :=
    at?_overrideValue distinct (some lower) there
  constructor
  · rintro under members below rfl
    rw [laid, below, overrideValue]
  · rintro (noMapping | noMapping)
    · rw [laid, overrideValue_of_noMapping_below noMapping]
    · rw [laid, overrideValue_of_noMapping noMapping]

/-- A mapping takes the place of a number, null that of a text, and what is not mentioned stays. -/
theorem merge_paths_replaced :
    let base : Members :=
      [("log", .obj [("level", .str "INFO"), ("file", .str "")]), ("port", .int 8040)]
    let override : Members := [("log", .obj [("level", .null)]), ("port", .obj [("low", .int 1)])]
    let merged := Json.obj (merge base override)
    (Json.obj base).KeysDistinct ∧ (Json.obj override).KeysDistinct ∧
      merged.at? ["log", "level"] = some .null ∧ merged.at? ["log", "file"] = some (.str "") ∧
      merged.at? ["port"] = some (.obj [("low", .int 1)]) ∧
      merged.at? ["log", "level", "low"] = none ∧
      merge (merge base override) override = merge base override := by
  intro base override merged
  have leaf {value : Json} (noMapping : ∀ members, value ≠ .obj members) : value.KeysDistinct :=
    .leaf noMapping
  have distinctBase : (Json.obj base).KeysDistinct := by
    refine .obj (by decide) (List.forall_mem_cons.mpr ⟨.obj (by decide) ?_, ?_⟩)
    · simp [leaf]
    · simp [leaf]
  have distinct : (Json.obj override).KeysDistinct := by
    refine .obj (by decide) (List.forall_mem_cons.mpr ⟨.obj (by decide) ?_, ?_⟩)
    · simp [leaf]
    · refine List.forall_mem_singleton.mpr (.obj (by decide) ?_)
      simp [leaf]
  obtain ⟨paths, again, _⟩ := merge_paths distinctBase distinct
  refine ⟨distinctBase, distinct, ?_, ?_, ?_, ?_, again⟩
  · exact ((paths ["log", "level"]).1 .null rfl).2 (.inr nofun)
  · exact (paths ["log", "file"]).2.1 ⟨["log"], "file", [], _, rfl, rfl, rfl⟩
  · exact ((paths ["port"]).1 _ rfl).2 (.inl (by rintro under ⟨⟩))
  · exact (paths ["log", "level", "low"]).2.2.1
      ⟨["log", "level"], ["low"], .null, rfl, List.cons_ne_nil _ _, rfl, nofun⟩

end Settings

end DiceTable
