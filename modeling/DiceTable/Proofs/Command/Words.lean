import DiceTable.Command.Run
import DiceTable.Proofs.Rolling.Evaluation
import DiceTable.Proofs.Text.Separation

/-! # The words of a command line

The words behind the command to roll are joined by spaces, which are blank, so that it does not
matter how an expression is split into words (`Command.rollRun_congr`). Words come through the
reading of the command line as they are if they do not begin with a dash, and in any case behind two
dashes (`Command.Invocation.ofArguments_roll`).
-/

namespace DiceTable

/-- Between texts, what is blank is dropped with the blanks of the texts. -/
theorem Text.compact_intercalate {separator : List Char} (blank : Text.compact separator = [])
    (pieces : List (List Char)) :
    Text.compact (separator.intercalate pieces) = pieces.flatMap Text.compact := by
  cases pieces with
  | nil => rfl
  | cons piece pieces =>
    have later : Text.compact (pieces.flatMap (separator ++ ·)) = pieces.flatMap Text.compact := by
      induction pieces with
      | nil => rfl
      | cons next rest ih =>
        rw [List.flatMap_cons, Text.compact_append, Text.compact_append, blank, ih]
        rfl
    rw [Text.intercalate_cons, Text.compact_append, later, List.flatMap_cons]

namespace Command

/-- The characters of an expression, however it is split into words. -/
def charsOf (words : List String) : List Char :=
  words.flatMap fun word => Text.compact word.toList

theorem compact_joined (words : List String) :
    Text.compact (" ".intercalate words).toList = charsOf words := by
  rw [String.toList_intercalate, Text.compact_intercalate (by decide), charsOf, List.flatMap_map]

/-- Rolling words leads to the same run as rolling other words with the same characters. -/
theorem rollRun_congr {words others : List String} (same : charsOf words = charsOf others)
    {σ : Type} (config : Members) (dice : σ) (source : Source σ) (user : String) (asJson : Bool) :
    rollRun config dice source words user asJson =
      rollRun config dice source others user asJson := by
  have joined (limit : Limit) : source.evaluate limit (" ".intercalate words) =
      source.evaluate limit (" ".intercalate others) := by
    rw [← Source.evaluate_compact, compact_joined, same, ← compact_joined, Source.evaluate_compact]
  simp only [rollRun, joined]

section Reading

variable {options : List OptionSpec} {front back : List String}

/-- A word that does not begin like an option. -/
def IsPlainWord (word : String) : Prop :=
  word.toList.head? ≠ some '-'

instance (word : String) : Decidable (IsPlainWord word) :=
  inferInstanceAs (Decidable (_ ≠ _))

theorem IsPlainWord.ne_dashes {word : String} (plain : IsPlainWord word) : word ≠ "--" := by
  rintro rfl
  exact plain (by decide)

theorem IsPlainWord.shapeOf_eq {word : String} (plain : IsPlainWord word) :
    shapeOf options word.toList = .ok .word :=
  if_pos plain

def asWords (words : List String) : List Shaped :=
  words.map fun word => (word, .word)

@[simp] theorem map_fst_asWords (words : List String) : (asWords words).map Prod.fst = words := by
  simp [asWords, Function.comp_def]

/-- Plain words are words in front of whatever there is. -/
theorem shapes_append (plain : ∀ word ∈ front, IsPlainWord word) {rest : List String}
    {shaped : List Shaped} (later : shapes options rest = .ok shaped) :
    shapes options (front ++ rest) = .ok (asWords front ++ shaped) := by
  induction front with
  | nil => exact later
  | cons word front ih =>
    obtain ⟨here, others⟩ := List.forall_mem_cons.mp plain
    rw [List.cons_append, shapes, if_neg here.ne_dashes, here.shapeOf_eq, ih others]
    rfl

theorem shapes_of_plain (plain : ∀ word ∈ front, IsPlainWord word) :
    shapes options front = .ok (asWords front) := by
  simpa using shapes_append plain (rfl : shapes options [] = .ok [])

/-- Behind two dashes everything is a word. -/
theorem shapes_dashed (plain : ∀ word ∈ front, IsPlainWord word) (back : List String) :
    shapes options (front ++ "--" :: back) =
      .ok (asWords front ++ ("--", .dashes) :: asWords back) :=
  shapes_append plain (if_pos rfl)

/-- Arguments of which none is an option, and some are words. -/
structure AllPlain (shaped : List Shaped) : Prop where
  plain : ∀ argument ∈ shaped, isPlain argument
  word : ∃ argument ∈ shaped, argument.2 = .word

theorem allPlain_asWords (nonempty : front ≠ []) : AllPlain (asWords front) := by
  obtain ⟨word, rest, rfl⟩ := List.exists_cons_of_ne_nil nonempty
  refine ⟨fun argument member => ?_, (word, .word), List.mem_cons_self, rfl⟩
  obtain ⟨_, _, rfl⟩ := List.mem_map.mp member
  rfl

theorem allPlain_dashed (nonempty : front ++ back ≠ []) :
    AllPlain (asWords front ++ ("--", .dashes) :: asWords back) := by
  obtain ⟨plain, word, member, isWord⟩ := allPlain_asWords nonempty
  rw [asWords, List.map_append] at plain member
  refine ⟨fun argument inBoth => ?_, word, ?_, isWord⟩
  · rcases List.mem_append.mp inBoth with inFront | inBack
    · exact plain argument (List.mem_append_left _ inFront)
    · rcases List.mem_cons.mp inBack with rfl | inBack
      · rfl
      · exact plain argument (List.mem_append_right _ inBack)
  · rcases List.mem_append.mp member with inFront | inBack
    · exact List.mem_append_left _ inFront
    · exact List.mem_append_right _ (List.mem_cons_of_mem _ inBack)

/-- Where there are no options, all arguments are taken at once. -/
theorem readArguments_of_allPlain {arguments : List String} {shaped : List Shaped}
    (read : shapes options arguments = .ok shaped) (all : AllPlain shaped) :
    readArguments options .run arguments =
        .ok { words := some ((shaped.map Prod.fst).erase "--") } ∧
      readArguments options .command arguments = .ok { words := some (shaped.map Prod.fst) } := by
  have lead : shaped.takeWhile isPlain = shaped := List.takeWhile_eq_self_iff.mpr all.plain
  have rest : shaped.dropWhile isPlain = [] := List.dropWhile_eq_nil_iff.mpr all.plain
  obtain ⟨word, member, isWord⟩ := all.word
  have someWord : shaped.any (fun argument => argument.2 == .word) :=
    List.any_eq_true.mpr ⟨word, member, by simp [isWord]⟩
  have finish (use : WordUse) (words : List String) (fuel : Nat) :
      readShaped options use fuel { words := some words } [] = .ok { words := some words } := by
    cases fuel <;> rfl
  have takeRun : takeWords .run {} shaped =
      some ({ words := some ((shaped.map Prod.fst).erase "--") }, []) := by
    simp [takeWords, lead, rest, someWord]
  have takeCommand : takeWords .command {} shaped =
      some ({ words := some (shaped.map Prod.fst) }, []) := by
    simp [takeWords, lead, someWord]
  constructor
  · rw [readArguments, read]
    simp only [bind, Except.bind, readShaped, takeRun, finish]
  · rw [readArguments, read]
    simp only [bind, Except.bind, readShaped, takeCommand, finish]

end Reading

namespace Invocation

variable {name : String} {front back : List String}

/-- No name of a command begins with a dash. -/
theorem isPlainWord_of_ofName? {verb : Verb} (named : Verb.ofName? name = some verb) :
    IsPlainWord name := by
  unfold Verb.ofName? at named
  split at named <;> cases named <;> decide

/-- A command line without options in front of or behind the command. -/
theorem ofArguments_of_allPlain (named : Verb.ofName? name = some .roll) {arguments : List String}
    {shaped : List Shaped} (all : AllPlain shaped)
    (read : ∀ options, shapes options arguments = .ok shaped)
    (same : shaped.map Prod.fst = arguments) :
    ofArguments (name :: arguments) = .ok (.roll (arguments.erase "--") "" false) := by
  have plain : ∀ word ∈ [name], IsPlainWord word :=
    List.forall_mem_singleton.mpr (isPlainWord_of_ofName? named)
  have outer := shapes_append plain (read programOptions)
  have outerAll : AllPlain (asWords [name] ++ shaped) := by
    refine ⟨List.forall_mem_cons.mpr ⟨rfl, all.plain⟩, _, List.mem_cons_self, rfl⟩
  have command := (readArguments_of_allPlain outer outerAll).2
  have words := (readArguments_of_allPlain (read Verb.roll.options) all).1
  rw [List.map_append, map_fst_asWords, same, List.singleton_append] at command
  rw [same] at words
  simp only [ofArguments, command, bind, Except.bind, ofCommand, named, Verb.wordUse, words]
  rfl

/-- Words that do not begin with a dash are read as they are. -/
theorem ofArguments_roll (named : Verb.ofName? name = some .roll) (nonempty : front ≠ [])
    (plain : ∀ word ∈ front, IsPlainWord word) :
    ofArguments (name :: front) = .ok (.roll front "" false) := by
  have read := ofArguments_of_allPlain named (allPlain_asWords nonempty)
    (fun _ => shapes_of_plain plain) (map_fst_asWords front)
  rwa [List.erase_of_not_mem fun member => (plain _ member).ne_dashes rfl] at read

/-- Behind two dashes all words are read as they are. -/
theorem ofArguments_roll_dashed (named : Verb.ofName? name = some .roll)
    (nonempty : front ++ back ≠ []) (plain : ∀ word ∈ front, IsPlainWord word) :
    ofArguments (name :: (front ++ "--" :: back)) = .ok (.roll (front ++ back) "" false) := by
  have read := ofArguments_of_allPlain named (allPlain_dashed nonempty)
    (fun _ => shapes_dashed plain back) (by simp)
  rwa [List.erase_append_right _ fun member => (plain _ member).ne_dashes rfl,
    List.erase_cons_head] at read

end Invocation

end Command

end DiceTable
