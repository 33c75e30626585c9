import DiceTable.Json.Basic
import DiceTable.Text.WordChar

/-! # Placeholders

A placeholder is a dollar sign and a name of word characters in braces. Every placeholder in a text
is replaced by the variable of that name, or by nothing; what is put in is not looked at again.
`resolve` does so in all texts of a value and leaves keys and everything else alone.
-/

namespace DiceTable.Settings

abbrev Environment := List (String × String)

/-- The value of a variable, or the empty text. -/
def Environment.valueOf (environment : Environment) (name : String) : String :=
  (environment.lookup name).getD ""

/-- The name of the placeholder at the front of a text, and what follows the placeholder. -/
def placeholder? : List Char → Option (List Char × List Char)
  | '$' :: '\x7b' :: rest =>
    match rest.dropWhile Text.isWordChar with
    | '\x7d' :: after =>
      if rest.takeWhile Text.isWordChar = [] then none
      else some (rest.takeWhile Text.isWordChar, after)
    | _ => none
  | _ => none

/-- A placeholder is spelled out by its name. -/
theorem placeholder?_spelling {cs name after : List Char}
    (found : placeholder? cs = some (name, after)) :
    cs = '$' :: '\x7b' :: name ++ '\x7d' :: after ∧ name ≠ [] := by
  unfold placeholder? at found
  split at found
  · rename_i rest
    split at found
    · rename_i tail ends
      split at found
      · simp at found
      · rename_i nonempty
        cases found
        refine ⟨?_, nonempty⟩
        rw [List.cons_append, List.cons_append, ← ends, List.takeWhile_append_dropWhile]
    · simp at found
  · simp at found

/-- A text with its placeholders replaced. -/
def expand (environment : Environment) (cs : List Char) : List Char :=
  match _found : placeholder? cs with
  | some (name, after) =>
    (environment.valueOf (String.ofList name)).toList ++ expand environment after
  | none =>
    match cs with
    | [] => []
    | c :: rest => c :: expand environment rest
termination_by cs.length
decreasing_by
  · rw [(placeholder?_spelling _found).1]
    simp only [List.length_append, List.length_cons]
    omega
  · simp

theorem expand_of_placeholder {environment : Environment} {cs name after : List Char}
    (found : placeholder? cs = some (name, after)) :
    expand environment cs =
      (environment.valueOf (String.ofList name)).toList ++ expand environment after := by
  rw [expand]
  split
  · rename_i found'
    rw [found] at found'
    cases found'
    rfl
  · simp_all

/-- Where no placeholder starts, a character stands for itself. -/
theorem expand_cons {environment : Environment} {c : Char} {rest : List Char}
    (found : placeholder? (c :: rest) = none) :
    expand environment (c :: rest) = c :: expand environment rest := by
  rw [expand]
  split
  · simp_all
  · rfl

@[simp] theorem expand_nil (environment : Environment) : expand environment [] = [] := by
  rw [expand]
  rfl

mutual

def resolve (environment : Environment) : Json → Json
  | .str text => .str (String.ofList (expand environment text.toList))
  | .arr items => .arr (resolveItems environment items)
  | .obj members => .obj (resolveMembers environment members)
  | value => value
termination_by structural value => value

def resolveItems (environment : Environment) : List Json → List Json
  | [] => []
  | item :: rest => resolve environment item :: resolveItems environment rest
termination_by structural items => items

def resolveMembers (environment : Environment) : List (String × Json) → List (String × Json)
  | [] => []
  | (key, value) :: rest => (key, resolve environment value) :: resolveMembers environment rest
termination_by structural members => members

end

end DiceTable.Settings
