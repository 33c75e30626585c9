import DiceTable.Proofs.Except
import DiceTable.Proofs.Settings.Overlay
import DiceTable.Proofs.Settings.Placeholders
import DiceTable.Proofs.Settings.Snapshot
import DiceTable.Settings.Section

/-! # Defaults that fill in

Where a file says nothing of a section, or nothing of a key in it, the configuration has the default
one there. A section that is left empty is no absent section, though: its null takes the place of
the default section as any other value does (`Fits.section_of_null`). So a configuration that was
loaded has every default section with every default key but for the sections that were left empty,
and a service can be built of it unless one of its three sections is among these or a value that the
file gives is of no use (`Loader.loadPath_fills`).
-/

namespace DiceTable.Settings

open Json

/-- What a file gives at a path of keys. -/
def given (file : Option Json) (path : List String) : Option Json :=
  file.bind (·.at? path)

/-- A file is missing, or void, or a mapping in which each of the default sections is absent, left
empty, or a mapping. -/
inductive Fits : Option Json → Prop
  | missing : Fits none
  | void {content : Json} (void : content.isVoid = true) : Fits (some content)
  | mapping {members : Members} (distinct : (Json.obj members).KeysDistinct)
    (sections : ∀ key ∈ defaults.map Prod.fst, ∀ content, members.get? key = some content →
      content = .null ∨ ∃ inner, content = .obj inner) :
    Fits (some (.obj members))

/-- A configuration has a section with all the keys of the default one: each has the value that the
file gives it, resolved, or else the default value. -/
def Filled (environment : Environment) (file : Option Json) (config : Members) (key : String)
    (default : Members) : Prop :=
  ∃ members : Members, config.get? key = some (.obj members) ∧
    ∀ name value, (name, value) ∈ default →
      members.get? name = some (((given file [key, name]).map (resolve environment)).getD value)

/-- A configuration has each default section filled in, except that null stands where the file
leaves one empty. -/
def FilledUnlessEmpty (environment : Environment) (file : Option Json) (config : Members) : Prop :=
  ∀ key default, (key, .obj default) ∈ defaults →
    (given file [key] ≠ some .null → Filled environment file config key default) ∧
      (given file [key] = some .null → config.get? key = some .null)

def ConfigError.IsAbsence : ConfigError → Prop
  | .notMapping _ | .noSection _ | .noKeys _ | .missing _ => True
  | _ => False

def serviceSections : List String := ["dice", "memory", "notifier"]

/-- The sections and keys whose values can keep a service from being built. -/
def serviceKeys : List (String × String) :=
  [("memory", "max_entries"), ("notifier", "webhook_url")]

variable {environment : Environment} {file : Option Json} {members config default : Members}
  {key name : String} {value : Json} {error : ConfigError}

theorem get?_resolveMembers (environment : Environment) (members : Members) (key : String) :
    Members.get? (resolveMembers environment members) key =
      (members.get? key).map (resolve environment) := by
  induction members with
  | nil => rfl
  | cons member rest ih =>
    obtain ⟨first, value⟩ := member
    rw [resolveMembers, Members.get?_cons, Members.get?_cons, ih]
    split <;> rfl

theorem nodup_resolveMembers (distinct : (members.map Prod.fst).Nodup)
    (environment : Environment) : ((resolveMembers environment members).map Prod.fst).Nodup := by
  rwa [resolveMembers_eq_map, List.map_map]

/-! ## The default configuration -/

theorem nodup_defaults : (defaults.map Prod.fst).Nodup := by
  decide

theorem dice_mem_defaults :
    ("dice", .obj [("max_expression_length", .int 200), ("max_dice", .int 1000)]) ∈ defaults :=
  .tail _ (.head _)

theorem memory_mem_defaults : ("memory", .obj [("max_entries", .int 1000)]) ∈ defaults :=
  .tail _ (.tail _ (.head _))

theorem notifier_mem_defaults : ("notifier", .obj [("webhook_url", .str "")]) ∈ defaults :=
  .tail _ (.tail _ (.tail _ (.head _)))

/-- In a default section no key comes twice, and no value is a mapping. -/
theorem flat_of_mem_defaults (member : (key, .obj default) ∈ defaults) :
    (default.map Prod.fst).Nodup ∧
      ∀ name value, (name, value) ∈ default → ∀ members, value ≠ .obj members := by
  simp only [defaults, List.mem_cons, List.not_mem_nil, or_false, Prod.mk.injEq, Json.obj.injEq]
    at member
  rcases member with ⟨rfl, rfl⟩ | ⟨rfl, rfl⟩ | ⟨rfl, rfl⟩ | ⟨rfl, rfl⟩ | ⟨rfl, rfl⟩ <;>
    refine ⟨by decide, fun name value member members same => ?_⟩ <;>
    subst same <;>
    simp at member

/-- A default section below a section of a file: what the file gives there, or else the default. -/
theorem get?_merge_default (distinct : (members.map Prod.fst).Nodup)
    (flat : ∀ name value, (name, value) ∈ default → ∀ inner, value ≠ .obj inner)
    (keys : (default.map Prod.fst).Nodup) (member : (name, value) ∈ default) :
    (merge default (resolveMembers environment members)).get? name =
      some (((members.get? name).map (resolve environment)).getD value) := by
  have below := Members.get?_of_mem keys member
  rw [get?_merge (nodup_resolveMembers distinct environment), get?_resolveMembers, below]
  cases members.get? name with
  | none => rfl
  | some found =>
    refine congrArg some (overrideValue_of_noMapping_below (fun inner same => ?_) _)
    exact flat name value member inner (Option.some.inj same)

/-! ## The configuration of a file -/

/-- A file that fits holds members in which each default section is absent, null or a mapping. -/
theorem Fits.exists_members (fits : Fits file) (environment : Environment) :
    ∃ members : Members, (Json.obj members).KeysDistinct ∧
      Holds environment file (resolveMembers environment members) ∧
      (∀ first rest, given file (first :: rest) = (Json.obj members).at? (first :: rest)) ∧
      ∀ key ∈ defaults.map Prod.fst, ∀ content, members.get? key = some content →
        content = .null ∨ ∃ inner, content = .obj inner := by
  have none : (Json.obj []).KeysDistinct := .obj .nil nofun
  cases fits with
  | missing => exact ⟨[], none, .missing, fun _ _ => rfl, nofun⟩
  | @void content void =>
    refine ⟨[], none, .void void, fun first rest => ?_, nofun⟩
    by_cases mapping : ∃ members, content = .obj members
    · obtain ⟨members, rfl⟩ := mapping
      rw [List.isEmpty_iff.mp void]
      rfl
    · exact at?_of_noMapping (not_exists.mp mapping) (List.cons_ne_nil first rest)
  | mapping distinct sections =>
    exact ⟨_, distinct, .mapping _, fun _ _ => rfl, sections⟩

/-- Where there is no section that is left empty, the default one is filled in. -/
theorem filled_merge (distinct : (Json.obj members).KeysDistinct)
    (member : (key, .obj default) ∈ defaults)
    (gives : ∀ first rest, given file (first :: rest) = (Json.obj members).at? (first :: rest))
    (mapping : members.get? key = none ∨ ∃ inner, members.get? key = some (.obj inner)) :
    Filled environment file (merge defaults (resolveMembers environment members)) key default := by
  obtain ⟨keys, flat⟩ := flat_of_mem_defaults member
  have below := Members.get?_of_mem nodup_defaults member
  have there := get?_merge (nodup_resolveMembers distinct.keys environment) defaults key
  rw [get?_resolveMembers environment members, below] at there
  rcases mapping with absent | ⟨inner, found⟩
  · rw [absent] at there
    refine ⟨default, there, fun name value inside => ?_⟩
    rw [gives, at?, Json.get?, absent]
    exact Members.get?_of_mem keys inside
  · rw [found] at there
    refine ⟨_, there, fun name value inside => ?_⟩
    have nothingTwice := (distinct.of_get? found).keys
    rw [get?_merge_default nothingTwice flat keys inside, gives, at?, Json.get?, found,
      Option.bind_some, at?, Json.get?]
    cases Members.get? inner name <;> rfl

theorem get?_merge_of_null (distinct : (Json.obj members).KeysDistinct)
    (null : members.get? key = some .null) :
    (merge defaults (resolveMembers environment members)).get? key = some .null := by
  rw [get?_merge (nodup_resolveMembers distinct.keys environment), get?_resolveMembers, null]
  rfl

/-- A file that fits makes a configuration. -/
theorem Fits.exists_config (fits : Fits file) (environment : Environment) :
    ∃ config, ofFile environment file = .ok config ∧
      FilledUnlessEmpty environment file config := by
  obtain ⟨members, distinct, holds, gives, sections⟩ := fits.exists_members environment
  refine ⟨_, ofFile_of_holds holds, fun key default member => ?_⟩
  have same : given file [key] = members.get? key := by
    rw [gives, at?, Json.get?]
    cases Members.get? members key <;> rfl
  rw [same]
  refine ⟨fun notNull => ?_, get?_merge_of_null distinct⟩
  refine filled_merge distinct member gives ?_
  cases found : members.get? key with
  | none => exact .inl rfl
  | some content =>
    rcases sections key (List.mem_map_of_mem member) content found with rfl | ⟨inner, rfl⟩
    · exact absurd found notNull
    · exact .inr ⟨inner, rfl⟩

/-! ## The service of a configuration -/

theorem not_isAbsence_of_limitFromOne {limit : Limit} (failed : limitFromOne limit = .error error) :
    ¬ error.IsAbsence := by
  unfold limitFromOne at failed
  split at failed
  · cases failed
    exact id
  · cases failed

theorem not_isAbsence_of_optionalUrl (failed : optionalUrl members name = .error error) :
    ¬ error.IsAbsence := by
  unfold optionalUrl at failed
  split at failed
  · cases failed
  · cases failed
  · split at failed
    · cases failed
    · cases failed
      exact id

theorem optionalSection_of_null (null : config.get? key = some .null) :
    optionalSection config key = .error (.noSection "NoneType") := by
  rw [optionalSection, null]
  rfl

namespace FilledUnlessEmpty

theorem optionalSection_of_empty (filled : FilledUnlessEmpty environment file config)
    (member : (key, .obj default) ∈ defaults) (empty : given file [key] = some .null) :
    optionalSection config key = .error (.noSection "NoneType") :=
  optionalSection_of_null ((filled key default member).2 empty)

/-- A default section that cannot be looked into was left empty. -/
theorem empty_of_optionalSection (filled : FilledUnlessEmpty environment file config)
    (member : (key, .obj default) ∈ defaults) (failed : optionalSection config key = .error error) :
    given file [key] = some .null ∧ error = .noSection "NoneType" := by
  by_cases empty : given file [key] = some .null
  · rw [filled.optionalSection_of_empty member empty] at failed
    cases failed
    exact ⟨empty, rfl⟩
  · obtain ⟨members, mapping, _⟩ := (filled key default member).1 empty
    rw [optionalSection, mapping] at failed
    cases failed

/-- In a default section there is the default value of a key of which the file says nothing. -/
theorem get?_of_silent (filled : FilledUnlessEmpty environment file config)
    (member : (key, .obj default) ∈ defaults) (inside : (name, value) ∈ default)
    (read : optionalSection config key = .ok members) (silent : given file [key, name] = none) :
    members.get? name = some value := by
  by_cases empty : given file [key] = some .null
  · rw [filled.optionalSection_of_empty member empty] at read
    cases read
  · obtain ⟨found, mapping, values⟩ := (filled key default member).1 empty
    rw [optionalSection, mapping] at read
    cases read
    rw [values name value inside, silent]
    rfl

/-- No service comes of a configuration one of whose sections was left empty. -/
theorem ofConfig_ne_ok (filled : FilledUnlessEmpty environment file config)
    (inside : key ∈ serviceSections) (empty : given file [key] = some .null)
    (settings : ServiceSettings) : ServiceSettings.ofConfig config ≠ .ok settings := by
  intro built
  unfold ServiceSettings.ofConfig at built
  obtain ⟨dice, diceRead, built⟩ := Except.bind_eq_ok.mp built
  obtain ⟨memory, memoryRead, built⟩ := Except.bind_eq_ok.mp built
  obtain ⟨_, _, built⟩ := Except.bind_eq_ok.mp built
  obtain ⟨notifier, notifierRead, _⟩ := Except.bind_eq_ok.mp built
  simp only [serviceSections, List.mem_cons, List.not_mem_nil, or_false] at inside
  rcases inside with rfl | rfl | rfl
  · cases diceRead.symm.trans (filled.optionalSection_of_empty dice_mem_defaults empty)
  · cases memoryRead.symm.trans (filled.optionalSection_of_empty memory_mem_defaults empty)
  · cases notifierRead.symm.trans (filled.optionalSection_of_empty notifier_mem_defaults empty)

/-- A service is kept from being built by a section that was left empty, or by a value that the
file gives. -/
theorem ofConfig_error (filled : FilledUnlessEmpty environment file config)
    (failed : ServiceSettings.ofConfig config = .error error) :
    (∃ key ∈ serviceSections, given file [key] = some .null ∧
        error = .noSection "NoneType") ∨
      ¬ error.IsAbsence ∧ ∃ key ∈ serviceKeys, given file [key.1, key.2] ≠ none := by
  have emptied {key : String} {default : Members} (inside : key ∈ serviceSections)
      (member : (key, .obj default) ∈ defaults)
      (unread : optionalSection config key = .error error) :
      ∃ key ∈ serviceSections, given file [key] = some .null ∧ error = .noSection "NoneType" :=
    ⟨key, inside, filled.empty_of_optionalSection member unread⟩
  unfold ServiceSettings.ofConfig at failed
  rcases Except.bind_eq_error.mp failed with unread | ⟨dice, diceRead, failed⟩
  · exact .inl (emptied (.head _) dice_mem_defaults unread)
  rcases Except.bind_eq_error.mp failed with unread | ⟨memory, memoryRead, failed⟩
  · exact .inl (emptied (.tail _ (.head _)) memory_mem_defaults unread)
  rcases Except.bind_eq_error.mp failed with refused | ⟨_, _, failed⟩
  · refine .inr ⟨not_isAbsence_of_limitFromOne refused, ("memory", "max_entries"), .head _, ?_⟩
    intro silent
    have settled := filled.get?_of_silent memory_mem_defaults (.head _) memoryRead silent
    rw [limitOr, settled] at refused
    cases refused
  rcases Except.bind_eq_error.mp failed with unread | ⟨notifier, notifierRead, failed⟩
  · exact .inl (emptied (.tail _ (.tail _ (.head _))) notifier_mem_defaults unread)
  rcases Except.bind_eq_error.mp failed with refused | ⟨_, _, built⟩
  · refine .inr ⟨not_isAbsence_of_optionalUrl refused, ("notifier", "webhook_url"),
      .tail _ (.head _), ?_⟩
    intro silent
    have settled := filled.get?_of_silent notifier_mem_defaults (.head _) notifierRead silent
    rw [optionalUrl, settled] at refused
    cases refused
  · cases built

end FilledUnlessEmpty

/-- A section that is left empty is no absent one: its null takes the place of the default section,
and no service is built of the configuration then. -/
theorem Loader.loadPath_null_section :
    let loader : Loader := { file := some (.obj [("dice", .null)]) }
    let config := Members.put "dice" .null defaults
    Fits loader.file ∧ loader.loadPath = (.ok config, { loader with kept := some config }) ∧
      config.get? "dice" = some .null ∧
      ServiceSettings.ofConfig config = .error (.noSection "NoneType") := by
  refine ⟨.mapping (.obj (by decide) ?_) ?_, rfl, rfl, rfl⟩
  · rintro member (_ | ⟨_, ⟨⟩⟩)
    exact .leaf nofun
  · intro key _ content found
    obtain ⟨_, rfl⟩ := Prod.mk.inj (List.mem_singleton.mp (Members.mem_of_get?_eq_some found))
    exact .inl rfl

/-- Of a file that is missing or void, or a mapping whose default sections are absent, empty or
mappings, a configuration is loaded. Each default section in it is a mapping with all of its default
keys, which have the values that the file gives or else the default ones; except that a section
that is left empty is null. So a service is built of the configuration, unless one of its sections
was left empty, in which case it never is, or a value that the file gives for it is of no use. -/
theorem Loader.loadPath_fills {loader : Loader} (fits : Fits loader.file) :
    ∃ config, loader.loadPath = (.ok config, { loader with kept := some config }) ∧
      (loader.kept = none → loader.load = loader.loadPath ∧ loader.get = loader.loadPath) ∧
      (∀ key default, (key, .obj default) ∈ defaults →
        (given loader.file [key] ≠ some .null →
          Filled loader.environment loader.file config key default) ∧
        (given loader.file [key] = some .null → config.get? key = some .null)) ∧
      (∀ error, ServiceSettings.ofConfig config = .error error →
        (∃ key ∈ serviceSections, given loader.file [key] = some .null ∧
          error = .noSection "NoneType") ∨
        ¬ error.IsAbsence ∧ ∃ key ∈ serviceKeys, given loader.file [key.1, key.2] ≠ none) ∧
      ∀ key ∈ serviceSections, given loader.file [key] = some .null →
        ∀ settings, ServiceSettings.ofConfig config ≠ .ok settings := by
  obtain ⟨config, made, filled⟩ := fits.exists_config loader.environment
  refine ⟨config, ?_, fun empty => ?_, filled, fun _ failed => filled.ofConfig_error failed,
    fun _ inside empty => filled.ofConfig_ne_ok inside empty⟩
  · rw [loadPath, read, made]
  · have loads : loader.load = loader.loadPath := by
      rw [load, empty]
      rfl
    refine ⟨loads, ?_⟩
    rw [get, empty]
    exact loads

/-- One key of a section is given, another section is an empty mapping, and a third one is left
empty. -/
theorem Loader.loadPath_fills_partly :
    let file : Json :=
      .obj [("dice", .obj [("max_dice", .int 5)]), ("memory", .obj []), ("logging", .null)]
    let loader : Loader := { file := some file }
    Fits loader.file ∧ ∃ config,
      loader.loadPath = (.ok config, { loader with kept := some config }) ∧
      (∃ dice : Members, config.get? "dice" = some (.obj dice) ∧
        dice.get? "max_dice" = some (.int 5) ∧
        dice.get? "max_expression_length" = some (.int 200)) ∧
      (∃ memory : Members, config.get? "memory" = some (.obj memory) ∧
        memory.get? "max_entries" = some (.int 1000)) ∧
      config.get? "logging" = some .null ∧
      ∀ error, ServiceSettings.ofConfig config = .error error → ¬ error.IsAbsence := by
  intro file loader
  have fits : Fits loader.file := by
    refine .mapping (.obj (by decide) ?_) ?_
    · simp only [List.forall_mem_cons]
      refine ⟨.obj (by decide) ?_, .obj .nil nofun, .leaf nofun, nofun⟩
      exact List.forall_mem_singleton.mpr (.leaf nofun)
    · intro key _ content found
      have member := Members.mem_of_get?_eq_some found
      simp only [List.mem_cons, List.not_mem_nil, or_false, Prod.mk.injEq] at member
      rcases member with ⟨_, rfl⟩ | ⟨_, rfl⟩ | ⟨_, rfl⟩
      · exact .inr ⟨_, rfl⟩
      · exact .inr ⟨_, rfl⟩
      · exact .inl rfl
  obtain ⟨config, loads, _, sections, fails, _⟩ := Loader.loadPath_fills fits
  obtain ⟨dice, diceThere, diceValues⟩ := (sections _ _ dice_mem_defaults).1 nofun
  obtain ⟨memory, memoryThere, memoryValues⟩ := (sections _ _ memory_mem_defaults).1 nofun
  refine ⟨fits, config, loads, ⟨dice, diceThere, ?_, ?_⟩, ⟨memory, memoryThere, ?_⟩, ?_, ?_⟩
  · exact diceValues _ _ (.tail _ (.head _))
  · exact diceValues _ _ (.head _)
  · exact memoryValues _ _ (.head _)
  · exact (sections "logging" _ (.tail _ (.tail _ (.tail _ (.tail _ (.head _)))))).2 rfl
  · intro error failed
    rcases fails error failed with ⟨key, inside, empty, _⟩ | ⟨present, _⟩
    · simp only [serviceSections, List.mem_cons, List.not_mem_nil, or_false] at inside
      rcases inside with rfl | rfl | rfl <;> cases empty
    · exact present

end DiceTable.Settings
