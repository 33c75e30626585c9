import DiceTable.Proofs.Breakdown.NormalForm
import DiceTable.Proofs.Rolling.Faces
import DiceTable.Proofs.Rolling.Requests
import DiceTable.Proofs.Totals.Operands

/-! # Tokens and draws

The faces in the tokens of an evaluation are what was drawn for it, in the same order
(`Source.AnswersInRange.draws_eq`). What is known of each single draw is known of all
faces (`Source.rollItems_faces`).
-/

namespace DiceTable

namespace Token

/-- All faces behind a token, die by die. -/
def faces : Token → List Int
  | .operand item => item.chains.flatten
  | .operator _ => []

/-- All faces behind a token are of a kind that depends on the sides of their die. -/
def FacesAre (kind : Int → Int → Prop) : Token → Prop
  | .operand (.rolled group chains) => ∀ chain ∈ chains, ∀ face ∈ chain, kind group.sides face
  | _ => True

end Token

/-- What is drawn for an evaluation from a state on, in order. -/
def Source.draws {σ : Type} (source : Source σ) (limit : Limit) (text : String) (state : σ) :
    List Int :=
  drawnFaces (source.observed.evaluate limit text (state, [])).2.2

namespace Source

variable {σ : Type} {source : Source σ} {limit : Limit}

section Observed

/-- The faces of a token are drawn when its plan is carried out. -/
theorem AnswersInRange.observes_carryOut (answers : source.AnswersInRange) {plan : Plan}
    (rollable : ∀ group, plan = .roll group → group.Rollable) :
    (source.observed.carryOut plan).Observes (source.carryOut plan) fun outcome requests =>
      ∀ token, outcome = .ok token → drawnFaces requests = token.faces := by
  cases plan with
  | roll group =>
    refine (answers.observes_chains (rollable group rfl).sides).bind (fun chains => show
      Rolling.Observes _ _ (fun outcome more => outcome = .ok (.operand (.rolled group chains)) ∧
        more = []) from Rolling.observes_pure ⟨rfl, rfl⟩) (fun _ _ _ => nofun) ?_
    rintro chains requests outcome more rolls ⟨rfl, rfl⟩ token ⟨⟩
    obtain ⟨_, _, _, drawn⟩ := rolls chains rfl
    rw [List.append_nil, drawn]
    rfl
  | literal value =>
    refine Rolling.observes_pure ?_
    rintro token ⟨⟩
    rfl
  | operator op =>
    refine Rolling.observes_pure ?_
    rintro token ⟨⟩
    rfl

/-- The faces of tokens are drawn token by token. -/
theorem AnswersInRange.observes_rollItems (answers : source.AnswersInRange) (limit : Limit)
    {items : List Lexeme} (known : ∀ item ∈ items, item.IsOperand ∨ item.IsOperator)
    (started : Int) :
    (source.observed.rollItems limit started items).Observes
      (source.rollItems limit started items) fun outcome requests =>
        ∀ tokens, outcome = .ok tokens → drawnFaces requests = tokens.flatMap Token.faces := by
  induction items generalizing started with
  | nil =>
    refine Rolling.observes_pure ?_
    rintro tokens ⟨⟩
    rfl
  | cons item items ih =>
    obtain ⟨here, later⟩ := List.forall_mem_cons.mp known
    cases planned : item.plan limit started with
    | error failure =>
      rw [rollItems_of_refused planned, rollItems_of_refused planned]
      exact Rolling.observes_fail nofun
    | ok pair =>
      obtain ⟨plan, next⟩ := pair
      have rollable (group : DiceGroup) (rolls : plan = .roll group) : group.Rollable :=
        Lexeme.rollable_of_plan here (rolls ▸ planned)
      rw [rollItems_cons planned, rollItems_cons planned]
      refine (answers.observes_carryOut rollable).bind (fun token => show Rolling.Observes _ _
        (fun outcome more => ∀ tokens, outcome = .ok tokens → ∃ others, tokens = token :: others ∧
          drawnFaces more = others.flatMap Token.faces) from ?_) (fun _ _ _ => nofun) ?_
      · refine (ih later next).bind (fun others => show Rolling.Observes _ _
          (fun outcome more => outcome = .ok (token :: others) ∧ more = []) from
            Rolling.observes_pure ⟨rfl, rfl⟩) (fun _ _ _ => nofun) ?_
        rintro others requests outcome more drawn ⟨rfl, rfl⟩ tokens ⟨⟩
        rw [List.append_nil]
        exact ⟨others, rfl, drawn others rfl⟩
      · rintro token requests outcome more drawn drawnLater tokens answer
        obtain ⟨others, rfl, rest⟩ := drawnLater tokens answer
        rw [drawnFaces_append, drawn token rfl, rest, List.flatMap_cons]

/-- What was drawn for arithmetic are the faces of its tokens. -/
theorem AnswersInRange.draws_eq (answers : source.AnswersInRange) {text : String} {state : σ}
    {result : ArithmeticResult}
    (answer : (source.evaluate limit text state).1 = .ok (.arithmetic result)) :
    source.draws limit text state = result.tokens.flatMap Token.faces := by
  obtain ⟨expression, classified, _⟩ := evaluate_eq_ok.mp answer
  obtain ⟨_, observed, _⟩ := source.observes_evaluate limit classified state []
  have answerObserved :
      (source.observed.evaluate limit text (state, [])).1 = .ok (.arithmetic result) := by
    rw [observed, answer]
  have run := rollItems_of_evaluate answerObserved
  obtain ⟨requests, same, drawn⟩ :=
    answers.observes_rollItems limit (Lexeme.forall_mem_scan _) 0 state []
  rw [run] at same
  rw [draws, congrArg (fun pair => pair.2.2) same]
  exact drawn _ (congrArg Prod.fst (rollItems_of_evaluate answer))

end Observed

section Kinds

variable {kind : Int → Int → Prop} {group : DiceGroup}

theorem rollDie_faces (sided : 1 ≤ group.sides)
    (draw : ∀ sides, 1 ≤ sides → (source.draw 1 sides).Yields (kind sides) fun _ => True) :
    (source.rollDie group.sides group.exploding).Yields
      (fun chain => ∀ face ∈ chain, kind group.sides face) fun _ => True := by
  cases group.exploding with
  | true =>
    intro state
    exact (explode_yields (draw _ sided) (fun _ => trivial) (source.patience state + 1)).mono
      (fun _ faces => faces.2) (fun _ _ => trivial) state
  | false =>
    change (do let face ← source.draw 1 group.sides; pure [face] : Rolling σ Chain).Yields _ _
    exact (draw _ sided).bind fun face here =>
      Rolling.yields_pure (List.forall_mem_singleton.mpr here)

/-- Where all draws are of a kind, all faces are. -/
theorem rollItems_faces {items : List Lexeme}
    (draw : ∀ sides, 1 ≤ sides → (source.draw 1 sides).Yields (kind sides) fun _ => True)
    (known : ∀ item ∈ items, item.IsOperand ∨ item.IsOperator) (started : Int) :
    (source.rollItems limit started items).Yields
      (List.Forall₂ (fun _ token => token.FacesAre kind) items) fun _ => True := by
  refine rollItems_yields (fun item member started plan next planned => ?_) started
  cases plan with
  | roll group =>
    have rollable := Lexeme.rollable_of_plan (known item member) planned
    refine ((rollEvery_yields rollable (rollDie_faces rollable.sides draw)
      fun _ _ _ _ _ => trivial).mono (fun _ rolled => rolled.2.1) fun _ _ => trivial).bind
        fun chains faces => ?_
    exact Rolling.yields_pure faces
  | literal value => exact Rolling.yields_pure trivial
  | operator op => exact Rolling.yields_pure trivial

end Kinds

end Source

end DiceTable
