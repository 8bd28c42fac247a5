/-
# Lib.JsonLength — the length and the bytes of a written value

The text of an object is as long as its fields are together (`length_write_object`), an assignment adds
at most the field it sets (`Dict.sum_assign_le`), and a written value is ASCII text (`ascii_write`).
-/
import Aegis.Lib.JsonSize
import Aegis.Lib.PythonJson

namespace Aegis.Lib

set_option autoImplicit false

namespace Dict

universe u

variable {α : Type u}

/-- An assignment adds at most the weight of its field. -/
theorem sum_assign_le (weight : String × α → Nat) (fields : List (String × α)) (key : String)
    (value : α) : ((assign fields key value).map weight).sum ≤
      (fields.map weight).sum + weight (key, value) := by
  induction fields with
  | nil => simp [assign]
  | cons first rest ih =>
      obtain ⟨name, old⟩ := first
      unfold assign
      split
      · rw [List.map_cons, List.map_cons, List.sum_cons, List.sum_cons]
        omega
      · split <;>
          · simp only [List.map_cons, List.sum_cons]
            omega

/-- A dictionary weighs no more than the fields it was made of. -/
theorem sum_ofFields_le (weight : String × α → Nat) (fields : List (String × α)) :
    ((ofFields fields).map weight).sum ≤ (fields.map weight).sum := by
  induction fields using List.reverseRecOn with
  | nil => exact Nat.le_refl _
  | append_singleton fields field ih =>
      have made : ofFields (fields ++ [field]) = assign (ofFields fields) field.1 field.2 := by
        simp [ofFields, List.foldl_append]
      have added := sum_assign_le weight (ofFields fields) field.1 field.2
      rw [made, List.map_append, List.sum_append, List.map_singleton, List.sum_singleton]
      exact Nat.le_trans added (Nat.add_le_add_right ih _)

end Dict

namespace Json

variable {F : Type}

theorem convertibleFields_iff (fields : List (String × Json F)) :
    convertibleFields fields = true ↔ ∀ field ∈ fields, field.2.convertible = true := by
  induction fields with
  | nil => simp [convertibleFields]
  | cons field fields ih => simp [convertibleFields, ih]

theorem convertibleItems_iff (items : List (Json F)) :
    convertibleItems items = true ↔ ∀ item ∈ items, item.convertible = true := by
  induction items with
  | nil => simp [convertibleItems]
  | cons item items ih => simp [convertibleItems, ih]

variable [JsonFloat F]

theorem isCanonical_object {fields : List (String × Json F)} :
    IsCanonical (.object fields) ↔
      Dict.Ordered fields ∧ ∀ field ∈ fields, IsCanonical field.2 := by
  constructor
  · intro canonical
    obtain ⟨ordered, each⟩ := fields_of_ordered canonical.inOrder
    have finite := (finiteFields_iff fields).mp canonical.finite
    exact ⟨ordered, fun field member => ⟨finite field member, each field member⟩⟩
  · rintro ⟨ordered, each⟩
    have kept := IsCanonical.dict each
    rwa [dict, Dict.ofFields_of_ordered ordered] at kept

/-! ## The length of a text -/

section Length

variable (layout : Layout)

/-- What a field adds to the text of its object, with the comma or the brace in front of it. -/
def fieldLength (level : Nat) (field : String × Json F) : Nat :=
  1 + (layout.line (level + 1)).length + (stringText field.1).length + 1 +
    layout.behindColon.length + (write layout field.2 (level + 1)).length

theorem length_writeFields (fields : List (String × Json F)) (level : Nat) :
    (writeFields layout fields level).length =
      (fields.map (fieldLength layout level)).sum + (layout.line level).length + 1 := by
  induction fields with
  | nil => simp [writeFields]
  | cons field fields ih =>
      obtain ⟨key, value⟩ := field
      simp only [writeFields, List.length_cons, List.length_append, ih, List.map_cons, List.sum_cons,
        fieldLength]
      omega

theorem length_write_object {fields : List (String × Json F)} (nonempty : fields ≠ []) (level : Nat) :
    (write layout (.object fields) level).length =
      (fields.map (fieldLength layout level)).sum + (layout.line level).length + 1 := by
  obtain ⟨⟨key, value⟩, rest, rfl⟩ := List.exists_cons_of_ne_nil nonempty
  simp only [write, List.length_cons, List.length_append, length_writeFields, List.map_cons,
    List.sum_cons, fieldLength]
  omega

end Length

/-! ## The bytes of a text -/

section Bytes

variable {layout : Layout}

/-- A character below the delete character. -/
def Ascii (text : List Char) : Prop := ∀ c ∈ text, c.toNat ≤ 126

theorem Ascii.append {left right : List Char} (first : Ascii left) (second : Ascii right) :
    Ascii (left ++ right) := fun c member =>
  (List.mem_append.mp member).elim (first c) (second c)

theorem Ascii.cons {c : Char} {rest : List Char} (first : c.toNat ≤ 126) (second : Ascii rest) :
    Ascii (c :: rest) := List.forall_mem_cons.mpr ⟨first, second⟩

theorem ascii_nil : Ascii [] := fun _ member => absurd member List.not_mem_nil

theorem Printable.ascii {text : List Char} (printable : Printable text) : Ascii text :=
  fun c member => (printable c member).2

theorem ascii_blank {blank : List Char} (blanks : ∀ c ∈ blank, isSpace c = true) : Ascii blank := by
  intro c member
  have space := blanks c member
  simp only [isSpace, Bool.or_eq_true, decide_eq_true_eq] at space
  rcases space with ((rfl | rfl) | rfl) | rfl <;> decide

mutual

theorem ascii_write : ∀ (value : Json F) (level : Nat), value.finite = true →
    Ascii (write layout value level)
  | .null, _, finite => (printable_render .null finite).ascii
  | .bool value, _, finite => (printable_render (.bool value) finite).ascii
  | .int value, _, finite => (printable_render (.int value) finite).ascii
  | .float value, level, finite => by
      rw [write_scalar rfl finite]
      exact (printable_render _ finite).ascii
  | .str value, _, finite => (printable_render (.str value) finite).ascii
  | .array [], _, _ => by unfold Ascii write; decide
  | .array (item :: items), level, finite => by
      simp only [Json.finite, finiteItems, Bool.and_eq_true] at finite
      exact .cons (by decide) ((ascii_blank (layout.line_space _)).append
        ((ascii_write item _ finite.1).append (ascii_writeItems items level finite.2)))
  | .object [], _, _ => by unfold Ascii write; decide
  | .object ((key, value) :: fields), level, finite => by
      simp only [Json.finite, finiteFields, Bool.and_eq_true] at finite
      exact .cons (by decide) ((ascii_blank (layout.line_space _)).append
        ((printable_string key).ascii.append (.cons (by decide)
          ((ascii_blank layout.behindColon_space).append
            ((ascii_write value _ finite.1).append (ascii_writeFields fields level finite.2))))))

theorem ascii_writeItems : ∀ (items : List (Json F)) (level : Nat), finiteItems items = true →
    Ascii (writeItems layout items level)
  | [], level, _ => (ascii_blank (layout.line_space level)).append (.cons (by decide) ascii_nil)
  | item :: items, level, finite => by
      simp only [finiteItems, Bool.and_eq_true] at finite
      exact .cons (by decide) ((ascii_blank (layout.line_space _)).append
        ((ascii_write item _ finite.1).append (ascii_writeItems items level finite.2)))

theorem ascii_writeFields : ∀ (fields : List (String × Json F)) (level : Nat),
    finiteFields fields = true → Ascii (writeFields layout fields level)
  | [], level, _ => (ascii_blank (layout.line_space level)).append (.cons (by decide) ascii_nil)
  | (key, value) :: fields, level, finite => by
      simp only [finiteFields, Bool.and_eq_true] at finite
      exact .cons (by decide) ((ascii_blank (layout.line_space _)).append
        ((printable_string key).ascii.append (.cons (by decide)
          ((ascii_blank layout.behindColon_space).append
            ((ascii_write value _ finite.1).append (ascii_writeFields fields level finite.2))))))

end

end Bytes

end Json

end Aegis.Lib
