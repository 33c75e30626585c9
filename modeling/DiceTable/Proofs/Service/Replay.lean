import DiceTable.Proofs.Command.Words
import DiceTable.Proofs.Rolling.Observation
import DiceTable.Proofs.Service.Lineage

/-! # Replaying rolls

The blanks of a text make no difference to its evaluation, whatever comes of it. So the canonical
text of a result, which is all that is remembered of a roll, stands for the text that was rolled:
with the source put back to where it was, a reroll repeats the roll (`RollService.reroll_again`).
-/

namespace DiceTable

/-- An evaluation depends on nothing but the characters that are not blank. -/
theorem Source.evaluate_congr {σ : Type} (source : Source σ) (limit : Limit) {text other : String}
    (same : Text.compact text.toList = Text.compact other.toList) :
    source.evaluate limit text = source.evaluate limit other := by
  rw [← evaluate_compact, same, evaluate_compact]

/-- The canonical text of a result is evaluated like the text that was rolled. -/
theorem Source.evaluate_canonical {σ τ : Type} {source : Source σ} {limit : Limit} {text : String}
    {state : σ} {result : RollResult} (run : (source.evaluate limit text state).1 = .ok result)
    (other : Source τ) (otherLimit : Limit) :
    other.evaluate otherLimit result.canonical = other.evaluate otherLimit text := by
  rw [canonical_of_evaluate run, evaluate_compact]

namespace RollService

variable {σ : Type} {supplies : Supplies σ} {service : RollService σ}

/-- What is rolled to a result is tracked. -/
theorem Rolls.perform_eq {text : String} {result : RollResult} {dice : σ}
    (rolls : service.Rolls supplies text result dice) (user : String)
    (rerolledFrom : Option String) :
    service.perform supplies (.str text) user rerolledFrom =
      track supplies { service with dice } result user rerolledFrom := by
  have evaluated : supplies.source.evaluateJson service.diceLimit (.str text) service.dice =
      (.ok result, dice) := rolls.evaluated
  rw [perform, rolls.short]
  simp only [evaluated]

/-- The limits and the state of the source are all that a roll depends on. -/
theorem Rolls.congr {other : RollService σ} {text : String} {result : RollResult} {dice : σ}
    (rolls : service.Rolls supplies text result dice) (limits : other.limits = service.limits)
    (same : other.dice = service.dice) : other.Rolls supplies text result dice where
  short := (guardLength_congr limits _).trans rolls.short
  evaluated := by
    rw [show other.diceLimit = service.diceLimit from congrArg Prod.fst limits, same]
    exact rolls.evaluated

/-- With the source put back, a reroll of a held roll comes to the result that the roll came to. -/
theorem Rolls.reroll_eq {text : String} {result : RollResult} {dice : σ}
    (rolls : service.Rolls supplies text result dice) {id : String} {stored : StoredRoll}
    (found : service.memory.get? id = some stored)
    (canonical : stored.expression = result.canonical) (user : String) :
    let step := service.reroll supplies id user
    step.outcome = .ok (some ⟨supplies.rollId service.issued, user, result, some id⟩) ∧
      step.service.dice = dice := by
  obtain ⟨_, reroll⟩ := reroll_of_get?_eq_some found supplies user
  rw [reroll, canonical, rolls.canonical.perform_eq]
  exact ⟨rfl, rfl⟩

/-- Where no id is given out twice, an entry that is held after a run holds the canonical text of
the one record with its id. -/
theorem expression_of_mem_records {settings : ServiceSettings} {dice : σ}
    {requests : List (Request σ)} (fresh : Function.Injective supplies.rollId) {record : RollRecord}
    (member : record ∈ (ofSettings settings dice).records supplies requests) {stored : StoredRoll}
    (held : (record.id, stored) ∈
      ((ofSettings settings dice).run supplies requests).memory.entries) :
    stored.expression = record.result.canonical := by
  have nodup :
      (((ofSettings settings dice).records supplies requests).map RollRecord.id).Nodup := by
    rw [map_id_records]
    exact List.nodup_range.map fresh
  obtain ⟨origin, inRecords, sameId, canonical⟩ :=
    (accounts_run supplies settings dice requests).remembered _ held
  rw [← List.inj_on_of_nodup_map nodup inRecords member sameId]
  exact canonical.symm

/-- Whenever in a run a record was made, and however the run went on: as long as its id is held, a
reroll repeats the roll from where the source was before it. -/
theorem reroll_again (fresh : Function.Injective supplies.rollId) (settings : ServiceSettings)
    (dice : σ) (front back : List (Request σ)) (request : Request σ) {record : RollRecord} :
    let before := (ofSettings settings dice).run supplies front
    let after := before.after supplies request
    let later := after.run supplies back
    before.record? supplies request = some record → later.memory.contains record.id →
    ∀ user, let step := { later with dice := before.dice }.reroll supplies record.id user
      step.outcome =
          .ok (some ⟨supplies.rollId later.issued, user, record.result, some record.id⟩) ∧
        step.service.dice = after.dice := by
  intro before after later made held user
  have whole : (ofSettings settings dice).run supplies (front ++ request :: back) = later := by
    simp [before, after, later, run]
  have member : record ∈ (ofSettings settings dice).records supplies (front ++ request :: back) :=
    mem_records_iff.mpr ⟨front, request, back, rfl, made⟩
  obtain ⟨stored, found, inEntries⟩ := RollMemory.exists_mem_of_contains held
  rw [← whole] at inEntries
  have canonical := expression_of_mem_records fresh member inEntries
  have limits : later.limits = before.limits := (limits_run back).trans (limits_after request)
  rcases after_cases supplies before request with
    ⟨none, _⟩ | ⟨text, owner, origin, result, last, _, rolls, same, tracked⟩
  · rw [none] at made
    cases made
  · rw [same] at made
    cases made
    have again : { later with dice := before.dice }.Rolls supplies text result last :=
      rolls.congr limits rfl
    obtain ⟨outcome, left⟩ := again.reroll_eq found canonical user
    exact ⟨outcome, left.trans (congrArg RollService.dice tracked).symm⟩

end RollService

/-- Two texts with the same characters that are not blank come to the same result or the same
failure, with the same requests to the source. So does the canonical text of a result; hence a
reroll of a roll that is held repeats it, from where the source was before it. On the command line
an expression may be split into words in any way. -/
theorem evaluate_replay {σ : Type} :
    (∀ (source : Source σ) (limit : Limit) (text other : String) (state : σ),
        Text.compact text.toList = Text.compact other.toList →
      source.evaluate limit text state = source.evaluate limit other state ∧
        source.observed.evaluate limit text (state, []) =
          source.observed.evaluate limit other (state, [])) ∧
    (∀ (source : Source σ) (limit : Limit) (text : String) (state : σ) (result : RollResult),
        (source.evaluate limit text state).1 = .ok result →
      source.evaluate limit result.canonical state = source.evaluate limit text state ∧
        source.observed.evaluate limit result.canonical (state, []) =
          source.observed.evaluate limit text (state, [])) ∧
    (∀ (supplies : Supplies σ) (settings : ServiceSettings) (dice : σ)
        (front back : List (Request σ)) (request : Request σ) (record : RollRecord),
        Function.Injective supplies.rollId →
      let before := (RollService.ofSettings settings dice).run supplies front
      let after := before.after supplies request
      let later := after.run supplies back
      before.record? supplies request = some record → later.memory.contains record.id →
      ∀ user, let step := { later with dice := before.dice }.reroll supplies record.id user
        step.outcome =
            .ok (some ⟨supplies.rollId later.issued, user, record.result, some record.id⟩) ∧
          step.service.dice = after.dice) ∧
    (∀ (config : Members) (dice : σ) (source : Source σ) (network : Network) (help user : String)
        (asJson : Bool) (words others arguments otherArguments : List String),
      Command.Invocation.ofArguments arguments = .ok (.roll words user asJson) →
      Command.Invocation.ofArguments otherArguments = .ok (.roll others user asJson) →
      Command.charsOf words = Command.charsOf others →
      Command.run config dice source network help arguments =
        Command.run config dice source network help otherArguments) ∧
    ∀ (name : String) (front back : List String),
      Command.Verb.ofName? name = some .roll → front ++ back ≠ [] →
      (∀ word ∈ front, Command.IsPlainWord word) →
      Command.Invocation.ofArguments (name :: (front ++ "--" :: back)) =
          .ok (.roll (front ++ back) "" false) ∧
        (back = [] → Command.Invocation.ofArguments (name :: front) =
          .ok (.roll front "" false)) := by
  refine ⟨fun source limit text other state same => ?_,
    fun source limit text state result run => ?_,
    fun supplies settings dice front back request record fresh => ?_,
    fun config dice source network help user asJson words others arguments otherArguments read
      readOther same => ?_,
    fun name front back named nonempty plain => ⟨?_, ?_⟩⟩
  · rw [source.evaluate_congr limit same, source.observed.evaluate_congr limit same]
    exact ⟨rfl, rfl⟩
  · rw [Source.evaluate_canonical run source, Source.evaluate_canonical run source.observed]
    exact ⟨rfl, rfl⟩
  · exact RollService.reroll_again fresh settings dice front back request
  · rw [Command.run, read, Command.run, readOther]
    exact Command.rollRun_congr same config dice source user asJson
  · exact Command.Invocation.ofArguments_roll_dashed named nonempty plain
  · rintro rfl
    rw [List.append_nil] at nonempty
    exact Command.Invocation.ofArguments_roll named nonempty plain

/-- A text with blanks in its numbers that fails once a die is rolled, a roll that is rolled again
after another one, and an expression that is split in front of a sign. -/
theorem evaluate_replay_split :
    let supplies : Supplies (List Int) := .numbered listedSource
    let start := RollService.ofSettings {} [5, 4, 3]
    let rolled : Request (List Int) := .roll (.str "d 6 + d6") "ann"
    let before := start.run supplies [.roll (.str "d6") "bob"]
    let later := (before.after supplies rolled).run supplies [.forget "0"]
    (listedSource.evaluate (3 : Int) "1 d\t6 + 1 0 x" [4] =
        listedSource.evaluate (3 : Int) "1d6+10x" [4] ∧
      (listedSource.evaluate (3 : Int) "1d6+10x" [4]).2 = []) ∧
    (∃ result, (listedSource.evaluate (3 : Int) " 1 d 2 0 !!" [20, 7]).1 = .ok result ∧
      result.canonical = "1d20!!" ∧
      listedSource.observed.evaluate (3 : Int) result.canonical ([20, 7], []) =
        listedSource.observed.evaluate (3 : Int) " 1 d 2 0 !!" ([20, 7], [])) ∧
    (∃ record, before.record? supplies rolled = some record ∧
      ({ later with dice := before.dice }.reroll supplies "1" "cid").outcome =
        .ok (some ⟨"2", "cid", record.result, some "1"⟩)) ∧
    Command.run [("dice", .obj [])] [5, 3] listedSource {} "" ["r", "2d6", "--", "-", "-1"] =
      Command.run [("dice", .obj [])] [5, 3] listedSource {} "" ["roll", "2", "d6--1"] := by
  intro supplies start rolled before later
  obtain ⟨spaced, canonical, reroll, lines, words⟩ := @evaluate_replay (List Int)
  have fresh : Function.Injective supplies.rollId := Supplies.numbered_injective _
  refine ⟨⟨?_, by decide +kernel⟩, ?_, ?_, ?_⟩
  · exact (spaced listedSource (3 : Int) "1 d\t6 + 1 0 x" "1d6+10x" [4] (by decide)).1
  · have rolledTo : (listedSource.evaluate (3 : Int) " 1 d 2 0 !!" [20, 7]).1.map
        RollResult.canonical = .ok "1d20!!" := by
      decide +kernel
    obtain ⟨result, run, same⟩ := Except.map_eq_ok.mp rolledTo
    exact ⟨result, run, same, (canonical listedSource (3 : Int) _ _ result run).2⟩
  · have made : (before.record? supplies rolled).map RollRecord.id = some "1" := by
      decide +kernel
    obtain ⟨record, made, sameId⟩ := Option.map_eq_some_iff.mp made
    have held : later.memory.contains record.id := by
      rw [sameId]
      decide +kernel
    have issued : supplies.rollId later.issued = "2" := by
      decide +kernel
    have again := (reroll supplies {} [5, 4, 3] _ _ rolled record fresh made held "cid").1
    rw [issued, sameId] at again
    exact ⟨record, made, again⟩
  · refine lines _ _ _ _ _ "" false ["2d6", "-", "-1"] ["2", "d6--1"] _ _ ?_ ?_ (by decide)
    · exact (words "r" ["2d6"] ["-", "-1"] rfl (by decide) (by decide)).1
    · exact (words "roll" ["2", "d6--1"] [] rfl (by decide) (by decide)).2 rfl

end DiceTable
