/-
# Lib.Vocabulary — enumerations and their texts

A `Vocabulary` is an enumeration whose values have different texts. `readOne` reads a
JSON value as one of the allowed values: it succeeds exactly on their texts
(`readOne_eq_some`).
-/
import Aegis.Lib.Json

namespace Aegis.Lib

set_option autoImplicit false

class Vocabulary (α : Type) where
  text : α → String
  text_injective : Function.Injective text

export Vocabulary (text_injective)

variable {α : Type} [Vocabulary α] {F : Type}

/-- The JSON value of a word. -/
def Json.word (value : α) : Json F := .str (Vocabulary.text value)

/-- The allowed value that a JSON value names. -/
def readOne (allowed : List α) : Json F → Option α
  | .str text => allowed.find? fun value => Vocabulary.text value = text
  | _ => none

theorem readOne_eq_some {allowed : List α} {document : Json F} {value : α} :
    readOne allowed document = some value ↔ value ∈ allowed ∧ document = .word value := by
  constructor
  · intro read
    unfold readOne at read
    split at read
    · rename_i text
      have same : Vocabulary.text value = text := by simpa using List.find?_some read
      exact ⟨List.mem_of_find?_eq_some read, by rw [Json.word, same]⟩
    · cases read
  · rintro ⟨member, rfl⟩
    show allowed.find? (fun other => Vocabulary.text other = Vocabulary.text value) = some value
    cases found : allowed.find? fun other => Vocabulary.text other = Vocabulary.text value with
    | none =>
        have := List.find?_eq_none.mp found value member
        simp at this
    | some other =>
        have same : Vocabulary.text other = Vocabulary.text value := by
          simpa using List.find?_some found
        rw [text_injective same]

@[simp] theorem readOne_word {allowed : List α} {value : α} (member : value ∈ allowed) :
    readOne allowed (.word value : Json F) = some value :=
  readOne_eq_some.mpr ⟨member, rfl⟩

end Aegis.Lib
