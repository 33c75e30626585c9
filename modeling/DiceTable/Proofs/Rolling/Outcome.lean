import DiceTable.Dice.Source

/-! # What a computation over dice comes to

`Rolling.Yields` says of a computation, for every state of its source, how it can answer and how it
can fail. Composed computations yield what their parts do (`Yields.bind`).
-/

namespace DiceTable.Rolling

variable {σ α β : Type}

/-- In every state, the computation gives a good answer or fails in an allowed way. -/
def Yields (x : Rolling σ α) (good : α → Prop) (allowed : Failure → Prop) : Prop :=
  ∀ state, match (x state).1 with
    | .ok a => good a
    | .error failure => allowed failure

theorem ofExcept_ok (a : α) : (ofExcept (.ok a) : Rolling σ α) = pure a := rfl

theorem ofExcept_bind (x : Except Failure α) (next : α → Except Failure β) :
    (ofExcept (x >>= next) : Rolling σ β) = ofExcept x >>= fun a => ofExcept (next a) := by
  cases x <;> rfl

/-- A composed computation answers if its first part does and then the second one does. -/
theorem bind_eq_ok {x : Rolling σ α} {next : α → Rolling σ β} {state : σ} {b : β} :
    ((x >>= next) state).1 = .ok b ↔
      ∃ a after, x state = (.ok a, after) ∧ (next a after).1 = .ok b := by
  rw [bind_apply]
  rcases run : x state with ⟨outcome, after⟩
  cases outcome with
  | ok a =>
    constructor
    · exact fun answer => ⟨a, after, rfl, answer⟩
    · rintro ⟨_, _, ⟨⟩, answer⟩
      exact answer
  | error failure => exact ⟨nofun, by rintro ⟨_, _, ⟨⟩, _⟩⟩

theorem bind_eq_error {x : Rolling σ α} {next : α → Rolling σ β} {state : σ} {failure : Failure} :
    ((x >>= next) state).1 = .error failure ↔
      (x state).1 = .error failure ∨
        ∃ a after, x state = (.ok a, after) ∧ (next a after).1 = .error failure := by
  rw [bind_apply]
  rcases run : x state with ⟨outcome, after⟩
  cases outcome with
  | ok a =>
    constructor
    · exact fun failed => .inr ⟨a, after, rfl, failed⟩
    · rintro (⟨⟨⟩⟩ | ⟨_, _, ⟨⟩, failed⟩)
      exact failed
  | error other =>
    constructor
    · rintro ⟨⟩
      exact .inl rfl
    · rintro (⟨⟨⟩⟩ | ⟨_, _, ⟨⟩, _⟩)
      rfl

/-- What needs no source answers or fails first, and leaves the state as it was. -/
theorem ofExcept_bind_eq_ok {x : Except Failure α} {next : α → Rolling σ β} {state : σ} {b : β} :
    ((ofExcept x >>= next) state).1 = .ok b ↔ ∃ a, x = .ok a ∧ (next a state).1 = .ok b := by
  cases x with
  | ok a =>
    constructor
    · exact fun answer => ⟨a, rfl, answer⟩
    · rintro ⟨_, ⟨⟩, answer⟩
      exact answer
  | error failure => exact ⟨nofun, by rintro ⟨_, ⟨⟩, _⟩⟩

theorem ofExcept_bind_eq_error {x : Except Failure α} {next : α → Rolling σ β} {state : σ}
    {failure : Failure} :
    ((ofExcept x >>= next) state).1 = .error failure ↔
      x = .error failure ∨ ∃ a, x = .ok a ∧ (next a state).1 = .error failure := by
  cases x with
  | ok a =>
    constructor
    · exact fun failed => .inr ⟨a, rfl, failed⟩
    · rintro (⟨⟨⟩⟩ | ⟨_, ⟨⟩, failed⟩)
      exact failed
  | error other =>
    constructor
    · rintro ⟨⟩
      exact .inl rfl
    · rintro (⟨⟨⟩⟩ | ⟨_, ⟨⟩, _⟩)
      rfl

section Yields

variable {x : Rolling σ α} {good : α → Prop} {allowed : Failure → Prop}

theorem Yields.good_of_ok (yields : x.Yields good allowed) {state : σ} {a : α}
    (answer : (x state).1 = .ok a) : good a := by
  have outcome := yields state
  rw [answer] at outcome
  exact outcome

theorem Yields.allowed_of_error (yields : x.Yields good allowed) {state : σ} {failure : Failure}
    (failed : (x state).1 = .error failure) : allowed failure := by
  have outcome := yields state
  rw [failed] at outcome
  exact outcome

theorem Yields.answer_or_failure (yields : x.Yields good allowed) (state : σ) :
    (∃ a, (x state).1 = .ok a ∧ good a) ∨ ∃ failure, (x state).1 = .error failure ∧
      allowed failure := by
  cases outcome : (x state).1 with
  | ok a => exact .inl ⟨a, rfl, yields.good_of_ok outcome⟩
  | error failure => exact .inr ⟨failure, rfl, yields.allowed_of_error outcome⟩

theorem yields_trivial (x : Rolling σ α) : x.Yields (fun _ => True) (fun _ => True) := by
  intro state
  split <;> trivial

theorem yields_pure {a : α} (here : good a) : (pure a : Rolling σ α).Yields good allowed :=
  fun _ => here

theorem yields_fail {failure : Failure} (here : allowed failure) :
    (fail failure : Rolling σ α).Yields good allowed :=
  fun _ => here

theorem Yields.bind {next : α → Rolling σ β} {better : β → Prop} (first : x.Yields good allowed)
    (second : ∀ a, good a → (next a).Yields better allowed) :
    (x >>= next).Yields better allowed := by
  intro state
  have outcome := first state
  rw [bind_apply]
  rcases run : x state with ⟨result, after⟩
  rw [run] at outcome
  cases result with
  | ok a => exact second a outcome after
  | error failure => exact outcome

theorem Yields.mono (yields : x.Yields good allowed) {weaker : α → Prop} {wider : Failure → Prop}
    (weaken : ∀ a, good a → weaker a) (widen : ∀ failure, allowed failure → wider failure) :
    x.Yields weaker wider := by
  intro state
  have outcome := yields state
  split <;> rename_i result <;> rw [result] at outcome
  · exact weaken _ outcome
  · exact widen _ outcome

end Yields

end DiceTable.Rolling
