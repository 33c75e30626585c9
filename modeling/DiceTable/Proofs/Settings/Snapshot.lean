import DiceTable.Settings.Config
import Mathlib.Data.List.Induction

/-! # The configuration that is kept

A file holds members to lay over the default configuration, or it holds a value that no
configuration can be made of (`holds_or_noMapping`). Whatever happens to the file, the environment
and the loader, what is kept is the default configuration with the members that were held when they
were last taken, if nothing was reset since (`Loader.kept_run_eq_some_iff`). What is held in the
meantime is of no matter.
-/

namespace DiceTable.Settings

variable {environment : Environment} {file : Option Json} {members config : Members}
  {content : Json}

/-- A file holds members to lay over the default configuration, with the placeholders of their
values replaced. There are none where the file is missing or void. -/
inductive Holds (environment : Environment) : Option Json → Members → Prop
  | missing : Holds environment none []
  | void {content : Json} (void : content.isVoid = true) : Holds environment (some content) []
  | mapping (members : Members) :
    Holds environment (some (.obj members)) (resolveMembers environment members)

structure NoMapping (content : Json) : Prop where
  not_void : content.isVoid = false
  not_obj : ∀ members, content ≠ .obj members

theorem typeName_resolve (environment : Environment) (content : Json) :
    (resolve environment content).typeName = content.typeName := by
  cases content <;> rfl

theorem ofFile_of_holds (holds : Holds environment file members) :
    ofFile environment file = .ok (merge defaults members) := by
  cases holds with
  | missing => rfl
  | void void => simp only [ofFile, void, if_true, merge]
  | mapping members =>
    cases members with
    | nil => rfl
    | cons member rest => rfl

theorem ofFile_of_noMapping (noMapping : NoMapping content) :
    ofFile environment (some content) = .error (.notMapping content.typeName) := by
  rw [ofFile, noMapping.not_void, ← typeName_resolve environment content]
  cases content with
  | obj members => exact absurd rfl (noMapping.not_obj members)
  | _ => rfl

/-- A file holds members, or no configuration can be made of it. -/
theorem holds_or_noMapping (environment : Environment) (file : Option Json) :
    (∃ members, Holds environment file members) ∨
      ∃ content, file = some content ∧ NoMapping content := by
  cases file with
  | none => exact .inl ⟨[], .missing⟩
  | some content =>
    cases isVoid : content.isVoid with
    | true => exact .inl ⟨[], .void isVoid⟩
    | false =>
      by_cases mapping : ∃ members, content = .obj members
      · obtain ⟨members, rfl⟩ := mapping
        exact .inl ⟨_, .mapping members⟩
      · exact .inr ⟨content, rfl, isVoid, not_exists.mp mapping⟩

/-- What is done to a loader, to its file or to the environment. -/
inductive Action where
  /-- The file is written, and what it holds is read as a value from then on. -/
  | write (content : Json)
  | delete
  | setEnvironment (environment : Environment)
  | load
  | get
  | loadPath
  /-- The configuration of another path is loaded, where there is such a file or none. -/
  | loadFrom (file : Option Json)
  | reset

/-- An action leaves alone what is kept: it neither loads from a path nor resets. -/
def Action.Spares : Action → Prop
  | .loadPath | .loadFrom _ | .reset => False
  | _ => True

namespace Loader

variable {loader start : Loader} {action : Action} {actions : List Action} {place : Nat}

/-- Does something: what is answered, if this is a load, and the loader after it. -/
def perform (loader : Loader) : Action → Option (Except ConfigError Members) × Loader
  | .write content => (none, { loader with file := some content })
  | .delete => (none, { loader with file := none })
  | .setEnvironment environment => (none, { loader with environment })
  | .load => loader.load.map some id
  | .get => loader.get.map some id
  | .loadPath => loader.loadPath.map some id
  | .loadFrom file => (loader.read file).map some id
  | .reset => (none, loader.reset)

def run (loader : Loader) (actions : List Action) : Loader :=
  actions.foldl (fun loader action => (loader.perform action).2) loader

/-- Writing or deleting the file is an action. -/
example (written : Option Json) :
    loader.setFile written =
      (loader.perform (written.elim .delete fun value => .write (fileValue value))).2 := by
  cases written <;> rfl

/-- Giving a variable a value is an action. -/
example (name value : String) :
    loader.setVariable name value =
      (loader.perform (.setEnvironment ((name, value) :: loader.environment))).2 :=
  rfl

theorem run_append (loader : Loader) (actions : List Action) (action : Action) :
    loader.run (actions ++ [action]) = ((loader.run actions).perform action).2 := by
  simp [run]

/-- An action reads a file: it loads from a path, or it asks for a configuration while none is
kept. -/
inductive Reads (loader : Loader) : Action → Option Json → Prop
  | load (empty : loader.kept = none) : Reads loader .load loader.file
  | get (empty : loader.kept = none) : Reads loader .get loader.file
  | loadPath : Reads loader .loadPath loader.file
  | loadFrom (file : Option Json) : Reads loader (.loadFrom file) file

/-- An action takes the members that a file holds. -/
def Takes (loader : Loader) (action : Action) (members : Members) : Prop :=
  ∃ file, loader.Reads action file ∧ Holds loader.environment file members

/-- Members were taken at a place of a run, and since then none were taken anew nor anything
reset. -/
structure Snapshot (start : Loader) (actions : List Action) (place : Nat) (members : Members) :
    Prop where
  taken : ∃ action, actions[place]? = some action ∧
    (start.run (actions.take place)).Takes action members
  last : ∀ later action, place < later → actions[later]? = some action →
    action ≠ .reset ∧ ∀ newer, ¬ (start.run (actions.take later)).Takes action newer

theorem read_of_holds (holds : Holds loader.environment file members) :
    loader.read file = (.ok (merge defaults members),
      { loader with kept := some (merge defaults members) }) := by
  rw [read, ofFile_of_holds holds]

theorem read_of_noMapping (noMapping : NoMapping content) :
    loader.read (some content) = (.error (.notMapping content.typeName), loader) := by
  rw [read, ofFile_of_noMapping noMapping]

theorem Reads.perform (reads : loader.Reads action file) :
    loader.perform action = (loader.read file).map some id := by
  cases reads with
  | load empty => simp only [Loader.perform, Loader.load, empty]
  | get empty => simp only [Loader.perform, Loader.get, Loader.load, empty]
  | loadPath => rfl
  | loadFrom => rfl

theorem Takes.perform (takes : loader.Takes action members) :
    loader.perform action = (some (.ok (merge defaults members)),
      { loader with kept := some (merge defaults members) }) := by
  obtain ⟨file, reads, holds⟩ := takes
  rw [reads.perform, read_of_holds holds]
  rfl

theorem perform_of_noMapping (reads : loader.Reads action (some content))
    (noMapping : NoMapping content) :
    loader.perform action = (some (.error (.notMapping content.typeName)), loader) := by
  rw [reads.perform, read_of_noMapping noMapping]
  rfl

theorem perform_of_kept (kept : loader.kept = some config)
    (asks : action = .load ∨ action = .get) :
    loader.perform action = (some (.ok config), loader) := by
  rcases asks with rfl | rfl
  · simp only [perform, load, kept]
    rfl
  · simp only [perform, get, kept]
    rfl

/-- An action reads a file, answers with what is kept, or is no load at all. -/
theorem reads_or_answers (loader : Loader) (action : Action) :
    (∃ file, loader.Reads action file) ∨
      (∃ config, loader.kept = some config ∧ (action = .load ∨ action = .get)) ∨
      (loader.perform action).1 = none ∧
        (action ≠ .reset → (loader.perform action).2.kept = loader.kept) := by
  cases action with
  | write | delete | setEnvironment => exact .inr (.inr ⟨rfl, fun _ => rfl⟩)
  | reset => exact .inr (.inr ⟨rfl, fun notReset => absurd rfl notReset⟩)
  | loadPath => exact .inl ⟨_, .loadPath⟩
  | loadFrom file => exact .inl ⟨_, .loadFrom file⟩
  | load =>
    cases kept : loader.kept with
    | none => exact .inl ⟨_, .load kept⟩
    | some config => exact .inr (.inl ⟨config, rfl, .inl rfl⟩)
  | get =>
    cases kept : loader.kept with
    | none => exact .inl ⟨_, .get kept⟩
    | some config => exact .inr (.inl ⟨config, rfl, .inr rfl⟩)

/-- What is kept stays unless members are taken or it is reset. -/
theorem kept_perform (notReset : action ≠ .reset)
    (notTaken : ∀ members, ¬ loader.Takes action members) :
    (loader.perform action).2.kept = loader.kept := by
  rcases loader.reads_or_answers action with ⟨file, reads⟩ | ⟨config, kept, asks⟩ | ⟨_, stays⟩
  · rcases holds_or_noMapping loader.environment file with ⟨members, holds⟩ | ⟨content, rfl, no⟩
    · exact absurd ⟨file, reads, holds⟩ (notTaken members)
    · rw [perform_of_noMapping reads no]
  · rw [perform_of_kept kept asks]
  · exact stays notReset

/-- A load fails exactly where it reads a value that no configuration can be made of, and then the
loader stays as it was. -/
theorem perform_eq_error_iff {error : ConfigError} {after : Loader} :
    loader.perform action = (some (.error error), after) ↔
      after = loader ∧ ∃ content, loader.Reads action (some content) ∧ NoMapping content ∧
        error = .notMapping content.typeName := by
  constructor
  · intro failed
    rcases loader.reads_or_answers action with ⟨file, reads⟩ | ⟨config, kept, asks⟩ | ⟨silent, _⟩
    · rcases holds_or_noMapping loader.environment file with ⟨members, holds⟩ | ⟨content, rfl, no⟩
      · have takes : loader.Takes action members := ⟨file, reads, holds⟩
        rw [takes.perform] at failed
        cases failed
      · rw [perform_of_noMapping reads no] at failed
        cases failed
        exact ⟨rfl, content, reads, no, rfl⟩
    · rw [perform_of_kept kept asks] at failed
      cases failed
    · rw [failed] at silent
      cases silent
  · rintro ⟨rfl, content, reads, no, rfl⟩
    exact perform_of_noMapping reads no

/-- What is kept after an action was taken by it, or was kept before and stays. -/
theorem kept_perform_eq_some_iff :
    (loader.perform action).2.kept = some config ↔
      (∃ members, loader.Takes action members ∧ config = merge defaults members) ∨
        loader.kept = some config ∧ action ≠ .reset ∧ ∀ newer, ¬ loader.Takes action newer := by
  constructor
  · intro kept
    by_cases taken : ∃ members, loader.Takes action members
    · obtain ⟨members, takes⟩ := taken
      rw [takes.perform] at kept
      cases kept
      exact .inl ⟨members, takes, rfl⟩
    · have notTaken := not_exists.mp taken
      have notReset : action ≠ .reset := by
        rintro rfl
        cases kept
      rw [kept_perform notReset notTaken] at kept
      exact .inr ⟨kept, notReset, notTaken⟩
  · rintro (⟨members, takes, rfl⟩ | ⟨kept, notReset, notTaken⟩)
    · rw [takes.perform]
    · rw [kept_perform notReset notTaken, kept]

theorem Snapshot.lt_length (snapshot : Snapshot start actions place members) :
    place < actions.length := by
  obtain ⟨action, placed, _⟩ := snapshot.taken
  exact (List.getElem?_eq_some_iff.mp placed).1

/-- After one more action, the snapshot has just been taken, or it was there before and stays. -/
theorem snapshot_append_iff :
    Snapshot start (actions ++ [action]) place members ↔
      place = actions.length ∧ (start.run actions).Takes action members ∨
        Snapshot start actions place members ∧
          action ≠ .reset ∧ ∀ newer, ¬ (start.run actions).Takes action newer := by
  have read {later : Nat} (inside : later < actions.length) :
      (actions ++ [action])[later]? = actions[later]? := List.getElem?_append_left inside
  have before {later : Nat} (inside : later < actions.length) :
      (actions ++ [action]).take later = actions.take later :=
    List.take_append_of_le_length (Nat.le_of_lt inside)
  have whole : (actions ++ [action]).take actions.length = actions := List.take_left
  constructor
  · intro snapshot
    have bound : place < actions.length + 1 := by simpa using snapshot.lt_length
    obtain ⟨taker, placed, takes⟩ := snapshot.taken
    rcases Nat.lt_succ_iff_lt_or_eq.mp bound with inside | rfl
    · have still := snapshot.last actions.length action inside List.getElem?_concat_length
      rw [whole] at still
      rw [read inside] at placed
      rw [before inside] at takes
      refine .inr ⟨⟨⟨taker, placed, takes⟩, ?_⟩, still⟩
      intro later other behind placed
      have inside := (List.getElem?_eq_some_iff.mp placed).1
      rw [← before inside]
      exact snapshot.last later other behind ((read inside).trans placed)
    · rw [List.getElem?_concat_length] at placed
      cases placed
      rw [whole] at takes
      exact .inl ⟨rfl, takes⟩
  · rintro (⟨rfl, takes⟩ | ⟨snapshot, still⟩)
    · refine ⟨⟨action, List.getElem?_concat_length, whole.symm ▸ takes⟩, ?_⟩
      intro later other behind placed
      have bound := (List.getElem?_eq_some_iff.mp placed).1
      rw [List.length_append, List.length_singleton] at bound
      omega
    · have inside := snapshot.lt_length
      obtain ⟨taker, placed, takes⟩ := snapshot.taken
      refine ⟨⟨taker, (read inside).trans placed, (before inside).symm ▸ takes⟩, ?_⟩
      intro later other behind placed
      have bound := (List.getElem?_eq_some_iff.mp placed).1
      rw [List.length_append, List.length_singleton] at bound
      rcases Nat.lt_succ_iff_lt_or_eq.mp bound with inside | rfl
      · rw [read inside] at placed
        rw [before inside]
        exact snapshot.last later other behind placed
      · rw [List.getElem?_concat_length] at placed
        cases placed
        rw [whole]
        exact still

/-- What is kept after a run is the default configuration with the last snapshot laid over it. -/
theorem kept_run_eq_some_iff (empty : start.kept = none) :
    (start.run actions).kept = some config ↔
      ∃ place members, Snapshot start actions place members ∧ config = merge defaults members := by
  induction actions using List.reverseRecOn with
  | nil =>
    refine iff_of_false ?_ ?_
    · rw [run, List.foldl_nil, empty]
      nofun
    · rintro ⟨place, members, snapshot, _⟩
      exact absurd snapshot.lt_length (Nat.not_lt_zero place)
  | append_singleton actions action ih =>
    rw [run_append, kept_perform_eq_some_iff, ih]
    constructor
    · rintro (⟨members, takes, rfl⟩ | ⟨⟨place, members, snapshot, rfl⟩, still⟩)
      · exact ⟨actions.length, members, snapshot_append_iff.mpr (.inl ⟨rfl, takes⟩), rfl⟩
      · exact ⟨place, members, snapshot_append_iff.mpr (.inr ⟨snapshot, still⟩), rfl⟩
    · rintro ⟨place, members, snapshot, rfl⟩
      rcases snapshot_append_iff.mp snapshot with ⟨_, takes⟩ | ⟨snapshot, still⟩
      · exact .inl ⟨members, takes, rfl⟩
      · exact .inr ⟨⟨place, members, snapshot, rfl⟩, still⟩

/-- What is kept is not touched by actions that spare it. -/
theorem kept_run_of_spares (kept : loader.kept = some config)
    (spare : ∀ action ∈ actions, action.Spares) : (loader.run actions).kept = some config := by
  induction actions using List.reverseRecOn with
  | nil => exact kept
  | append_singleton actions action ih =>
    have before := ih fun action member => spare action (List.mem_append_left _ member)
    have spares := spare action (List.mem_append_right _ (List.mem_singleton_self action))
    rw [run_append, kept_perform_eq_some_iff]
    refine .inr ⟨before, ?_, ?_⟩
    · rintro rfl
      exact spares
    · rintro newer ⟨file, reads, _⟩
      cases reads with
      | load empty | get empty =>
        rw [before] at empty
        cases empty
      | loadPath | loadFrom => exact spares

/-- After any actions, what is kept is the default configuration with the members laid over it that
the file held when they were last taken, if nothing was reset since. As long as something is kept,
it is what loading and getting answer, whatever becomes of the file and the environment, and they
change nothing. Loading from a path always reads the file; a load that reads members keeps what it
makes of them, and one that reads a value of no use fails and changes nothing. -/
theorem run_keeps_snapshot (empty : start.kept = none) (actions : List Action) :
    let loader := start.run actions
    (∀ config, loader.kept = some config ↔
      ∃ place members, Snapshot start actions place members ∧ config = merge defaults members) ∧
    (∀ config later action, loader.kept = some config → (∀ spared ∈ later, spared.Spares) →
      action = .load ∨ action = .get →
      (loader.run later).perform action = (some (.ok config), loader.run later)) ∧
    (loader.Reads .loadPath loader.file ∧ ∀ file, loader.Reads (.loadFrom file) file) ∧
    (∀ action file members, loader.Reads action file → Holds loader.environment file members →
      loader.perform action = (some (.ok (merge defaults members)),
        { loader with kept := some (merge defaults members) })) ∧
    ∀ action error after, loader.perform action = (some (.error error), after) ↔
      after = loader ∧ ∃ content, loader.Reads action (some content) ∧ NoMapping content ∧
        error = .notMapping content.typeName := by
  intro loader
  refine ⟨fun config => kept_run_eq_some_iff empty, ?_, ⟨.loadPath, .loadFrom⟩, ?_,
    fun action error after => perform_eq_error_iff⟩
  · intro config later action kept spare asks
    exact perform_of_kept (kept_run_of_spares kept spare) asks
  · intro action file members reads holds
    have takes : loader.Takes action members := ⟨file, reads, holds⟩
    exact takes.perform

/-- What was put in for a placeholder stays when the variable is gone and the file is of no use. -/
theorem run_keeps_snapshot_refused :
    let start : Loader := {}
    let hook : Json := .obj [("notifier", .obj [("webhook_url", .str "$\x7bHOOK\x7d")])]
    let config := merge defaults [("notifier", .obj [("webhook_url", .str "http://hook")])]
    let loader := start.run [.setEnvironment [("HOOK", "http://hook")], .write hook, .load,
      .setEnvironment [], .write (.arr [.null]), .loadPath]
    start.kept = none ∧ loader.kept = some config ∧
      loader.perform .loadPath = (some (.error (.notMapping "list")), loader) ∧
      loader.perform .get = (some (.ok config), loader) := by
  intro start hook config loader
  have empty : start.kept = none := rfl
  obtain ⟨kept_iff, answers, _, _, fails⟩ := run_keeps_snapshot empty
    [.setEnvironment [("HOOK", "http://hook")], .write hook, .load, .setEnvironment [],
      .write (.arr [.null]), .loadPath]
  have noMapping : NoMapping (.arr [.null]) := by
    refine ⟨rfl, ?_⟩
    rintro members ⟨⟩
  have kept : loader.kept = some config := by
    refine (kept_iff config).mpr ⟨2, _, ⟨⟨.load, rfl, _, .load rfl, .mapping _⟩, ?_⟩, ?_⟩
    · intro later action behind placed
      have bound : later < 6 := (List.getElem?_eq_some_iff.mp placed).1
      obtain rfl | rfl | rfl : later = 3 ∨ later = 4 ∨ later = 5 := by omega
      all_goals
        cases placed
        refine ⟨Action.noConfusion, ?_⟩
        rintro newer ⟨file, reads, holds⟩
        cases reads
      -- Only the last action reads a file, and the list in it is not void.
      cases holds with
      | void void => cases void
    · have found : placeholder? "$\x7bHOOK\x7d".toList = some ("HOOK".toList, []) := by
        decide +kernel
      have expanded : expand [("HOOK", "http://hook")] "$\x7bHOOK\x7d".toList =
          "http://hook".toList := by
        rw [expand_of_placeholder found, expand_nil]
        rfl
      change config = merge defaults (resolveMembers [("HOOK", "http://hook")] _)
      simp only [resolveMembers, resolve, expanded, String.ofList_toList, config]
  refine ⟨empty, kept, ?_, ?_⟩
  · exact (fails _ _ _).mpr ⟨rfl, _, .loadPath, noMapping, rfl⟩
  · exact answers config [] .get kept (List.forall_mem_nil _) (.inr rfl)

end Loader

end DiceTable.Settings
