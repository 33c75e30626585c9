import DiceTable.Dice.Expression
import DiceTable.Proofs.Rolling.Refusal

/-! # Which groups can be thrown

Which groups of a text can be thrown is settled before any die is: those in front of the first item
that does not pass its checks (`Lexeme.schedule`). They are the first groups of the text, they can
be rolled, and together they are within the limit of dice. A group that takes the dice over the
limit is not among them, nor is any group after it (`Lexeme.schedule_append_of_refused`).
-/

namespace DiceTable

def DiceGroup.total (groups : List DiceGroup) : Int :=
  (groups.map DiceGroup.count).sum

theorem DiceGroup.total_nil : total [] = 0 := rfl

theorem DiceGroup.total_append (groups others : List DiceGroup) :
    total (groups ++ others) = total groups + total others := by
  rw [total, total, total, List.map_append, List.sum_append]

/-- The dice of a group, each of which stands for its group. -/
def DiceGroup.dice (group : DiceGroup) : List DiceGroup :=
  List.replicate group.count.toNat group

/-- There are as many dice as the groups have together. -/
theorem DiceGroup.length_flatMap_dice {groups : List DiceGroup}
    (counted : ∀ group ∈ groups, 0 ≤ group.count) :
    ((groups.flatMap dice).length : Int) = total groups := by
  induction groups with
  | nil => rfl
  | cons group groups ih =>
    obtain ⟨here, later⟩ := List.forall_mem_cons.mp counted
    rw [List.flatMap_cons, List.length_append, dice, List.length_replicate, Int.natCast_add,
      Int.toNat_of_nonneg here, ih later, total, total, List.map_cons, List.sum_cons]

def Plan.group? : Plan → Option DiceGroup
  | .roll group => some group
  | .literal _ => none
  | .operator _ => none

namespace Lexeme

variable {limit : Limit} {started : Int} {item : Lexeme} {items front : List Lexeme}

/-- The group that an item spells, if its numbers can be read. -/
def group? : Lexeme → Option DiceGroup
  | .dice spelling => (spelling.group (String.ofList spelling.chars)).toOption
  | .number _ => none
  | .operator _ => none

def groups (items : List Lexeme) : List DiceGroup :=
  items.flatMap fun item => item.group?.toList

/-- The groups that can be thrown, where `started` dice have been thrown before. -/
def schedule (limit : Limit) : (started : Int) → List Lexeme → List DiceGroup
  | _, [] => []
  | started, item :: items =>
    match item.plan limit started with
    | .error _ => []
    | .ok (plan, next) => plan.group?.toList ++ schedule limit next items

theorem groups_cons (item : Lexeme) (items : List Lexeme) :
    groups (item :: items) = item.group?.toList ++ groups items :=
  List.flatMap_cons

/-- A plan rolls the group that is spelled, whose dice are then started, within the limit. -/
theorem group?_of_plan {plan : Plan} {next : Int}
    (planned : item.plan limit started = .ok (plan, next)) :
    plan.group? = item.group? ∧ next = started + DiceGroup.total item.group?.toList ∧
      (item.group?.isSome → limit.exceededBy? next = some false) := by
  cases item with
  | dice spelling =>
    obtain ⟨group, read, within, _, rfl, rfl⟩ := plan_dice_eq_ok.mp planned
    have spelled : (dice spelling).group? = some group := Except.toOption_eq_some.mpr read
    rw [spelled]
    refine ⟨rfl, ?_, fun _ => within⟩
    simp [DiceGroup.total]
  | number run =>
    obtain ⟨value, _, rfl, rfl⟩ := plan_number_eq_ok.mp planned
    exact ⟨rfl, (Int.add_zero next).symm, nofun⟩
  | operator op =>
    cases planned
    exact ⟨rfl, (Int.add_zero started).symm, nofun⟩

theorem schedule_cons {plan : Plan} {next : Int}
    (planned : item.plan limit started = .ok (plan, next)) :
    schedule limit started (item :: items) =
      item.group?.toList ++ schedule limit next items := by
  rw [schedule, planned, ← (group?_of_plan planned).1]

theorem schedule_of_refused {failure : Failure}
    (refused : item.plan limit started = .error failure) (items : List Lexeme) :
    schedule limit started (item :: items) = [] := by
  rw [schedule, refused]

/-- The groups that can be thrown are the first ones that are spelled. -/
theorem schedule_prefix_groups (limit : Limit) (started : Int) (items : List Lexeme) :
    schedule limit started items <+: groups items := by
  induction items generalizing started with
  | nil => exact List.prefix_rfl
  | cons item items ih =>
    cases planned : item.plan limit started with
    | error failure =>
      rw [schedule_of_refused planned]
      exact List.nil_prefix
    | ok pair =>
      obtain ⟨plan, next⟩ := pair
      rw [schedule_cons planned, groups_cons]
      exact (List.prefix_append_right_inj _).mpr (ih next)

/-- Together with those that were thrown before, the dice are within the limit. -/
theorem schedule_within (limit : Limit) (started : Int) (items : List Lexeme) :
    schedule limit started items = [] ∨
      limit.exceededBy? (started + DiceGroup.total (schedule limit started items)) =
        some false := by
  induction items generalizing started with
  | nil => exact .inl rfl
  | cons item items ih =>
    cases planned : item.plan limit started with
    | error failure => exact .inl (schedule_of_refused planned items)
    | ok pair =>
      obtain ⟨plan, next⟩ := pair
      obtain ⟨_, counted, within⟩ := group?_of_plan planned
      rw [schedule_cons planned, DiceGroup.total_append, ← Int.add_assoc, ← counted]
      -- The last group in the schedule was held against the limit with all dice up to its own.
      rcases ih next with empty | later
      · rw [empty, List.append_nil]
        cases spelled : item.group? with
        | none => exact .inl rfl
        | some group =>
          refine .inr ?_
          rw [DiceGroup.total_nil, Int.add_zero]
          exact within (by rw [spelled]; rfl)
      · exact .inr later

theorem rollable_of_mem_schedule (known : ∀ item ∈ items, item.IsOperand ∨ item.IsOperator)
    {group : DiceGroup} (member : group ∈ schedule limit started items) : group.Rollable := by
  induction items generalizing started with
  | nil => cases member
  | cons item items ih =>
    obtain ⟨here, later⟩ := List.forall_mem_cons.mp known
    cases planned : item.plan limit started with
    | error failure =>
      rw [schedule_of_refused planned] at member
      cases member
    | ok pair =>
      obtain ⟨plan, next⟩ := pair
      rw [schedule, planned] at member
      rcases List.mem_append.mp member with first | rest
      · cases plan with
        | roll other =>
          cases List.mem_singleton.mp first
          exact rollable_of_plan here planned
        | literal value => cases first
        | operator op => cases first
      · exact ih later rest

/-- Behind an item that is refused, nothing is thrown. -/
theorem schedule_append_of_refused {failure : Failure}
    (refused : item.plan limit (started + DiceGroup.total (groups front)) = .error failure)
    (back : List Lexeme) :
    schedule limit started (front ++ item :: back) = schedule limit started front := by
  induction front generalizing started with
  | nil =>
    have first : item.plan limit started = .error failure := by
      rwa [groups, List.flatMap_nil, DiceGroup.total_nil, Int.add_zero] at refused
    exact schedule_of_refused first back
  | cons first front ih =>
    rw [List.cons_append]
    cases planned : first.plan limit started with
    | error failure => rw [schedule_of_refused planned, schedule_of_refused planned]
    | ok pair =>
      obtain ⟨plan, next⟩ := pair
      rw [groups_cons, DiceGroup.total_append, ← Int.add_assoc, ← (group?_of_plan planned).2.1]
        at refused
      rw [schedule_cons planned, schedule_cons planned, ih refused]

end Lexeme

/-- What a test throws; the dice of a test do not explode. -/
def SkillTest.group (test : SkillTest) : DiceGroup :=
  ⟨test.count, test.sides, false⟩

theorem SkillTest.not_exploding_group (test : SkillTest) : ¬test.group.exploding :=
  Bool.false_ne_true

/-- A test that is read has dice that can be rolled. -/
theorem TestSpelling.rollable_of_test {spelling : TestSpelling} (wellFormed : spelling.WellFormed)
    {canonical : String} {test : SkillTest} (read : spelling.test canonical = .ok test) :
    test.group.Rollable := by
  obtain ⟨group, readGroup, read⟩ := Except.bind_eq_ok.mp read
  have bounds : group.count ≤ Decimal.maxInt ∧ group.sides ≤ Decimal.maxInt := by
    unfold TestSpelling.group at readGroup
    split at readGroup
    · cases readGroup
      decide
    · rename_i dice written
      obtain ⟨count, sides⟩ := DiceSpelling.bounds_of_group (wellFormed.dice dice written) readGroup
      exact ⟨count.2, sides.2⟩
  split at read
  · cases read
  · rename_i sized
    obtain ⟨target, _, read⟩ := Except.bind_eq_ok.mp read
    obtain ⟨modifier, _, read⟩ := Except.bind_eq_ok.mp read
    cases read
    have counted : 1 ≤ group.count := by omega
    have sided : 1 ≤ group.sides := by omega
    exact ⟨counted, bounds.1, sided, bounds.2, nofun⟩

namespace Expression

def groups : Expression → List DiceGroup
  | .test skillTest => [skillTest.group]
  | .arithmetic canonical => Lexeme.groups (Lexeme.scan canonical.toList).1

/-- The groups of an expression that can be thrown. -/
def schedule (limit : Limit) : Expression → List DiceGroup
  | .test skillTest =>
    if limit.exceededBy? skillTest.count = some false then [skillTest.group] else []
  | .arithmetic canonical => Lexeme.schedule limit 0 (Lexeme.scan canonical.toList).1

theorem schedule_prefix_groups (limit : Limit) (expression : Expression) :
    expression.schedule limit <+: expression.groups := by
  cases expression with
  | test skillTest =>
    simp only [schedule, groups]
    split
    · exact List.prefix_rfl
    · exact List.nil_prefix
  | arithmetic canonical => exact Lexeme.schedule_prefix_groups limit 0 _

/-- The groups that can be thrown are within the limit, unless there are none. -/
theorem schedule_within (limit : Limit) (expression : Expression) :
    expression.schedule limit = [] ∨
      limit.exceededBy? (DiceGroup.total (expression.schedule limit)) = some false := by
  cases expression with
  | test skillTest =>
    simp only [schedule]
    split
    · rename_i within
      refine .inr ?_
      rw [DiceGroup.total, List.map_singleton, List.sum_singleton]
      exact within
    · exact .inl rfl
  | arithmetic canonical =>
    have within := Lexeme.schedule_within limit 0 (Lexeme.scan canonical.toList).1
    rwa [Int.zero_add] at within

end Expression

end DiceTable
