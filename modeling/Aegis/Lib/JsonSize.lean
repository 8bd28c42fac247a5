/-
# Lib.JsonSize — bounds on the length of canonical texts

`Json.bulk` bounds the length of a value's text without regard to the order of its fields,
so it also bounds the canonical text (`canonical_length_le`). A text of ASCII characters has
as many bytes as characters (`size_toUTF8_of_ascii`).
-/
import Aegis.Lib.JsonParse
import Mathlib.Data.List.Basic

namespace Aegis.Lib

set_option autoImplicit false

/-- A text of ASCII characters has one byte a character. -/
theorem size_toUTF8_of_ascii {text : List Char} (ascii : ∀ c ∈ text, c.toNat ≤ 126) :
    (String.ofList text).toUTF8.size = text.length := by
  show (String.ofList text).toByteArray.size = text.length
  rw [String.size_toByteArray]
  induction text using List.reverseRecOn with
  | nil => rfl
  | append_singleton text c ih =>
      have before := ih fun other member => ascii other (List.mem_append_left _ member)
      have small : c.toNat ≤ 126 := ascii c (List.mem_append_right _ (List.mem_singleton_self c))
      have one : c.utf8Size = 1 := by
        rw [Char.utf8Size, if_pos]
        exact UInt32.le_iff_toNat_le.mpr (Nat.le_trans small (by decide))
      have pushed : String.ofList (text ++ [c]) = (String.ofList text).push c := by
        apply String.toList_inj.mp
        simp
      rw [pushed, String.utf8ByteSize_push, before, one, List.length_append]
      rfl

namespace Json

variable {F : Type} [JsonFloat F]

mutual

/-- A bound on the length of the text of a value, in any order of its fields. -/
def bulk : Json F → Nat
  | .null => 4
  | .bool _ => 5
  | .int value => (NumberText.ofInt value).chars.length
  | .float value => (JsonFloat.text value).chars.length
  | .str value => (stringText value).length
  | .array items => 2 + bulkItems items
  | .object fields => 2 + bulkFields fields

def bulkItems : List (Json F) → Nat
  | [] => 0
  | item :: items => item.bulk + 1 + bulkItems items

def bulkFields : List (String × Json F) → Nat
  | [] => 0
  | (key, value) :: fields => ((stringText key).length + value.bulk + 2) + bulkFields fields

end

/-- What one field adds. -/
def bulkField (field : String × Json F) : Nat := (stringText field.1).length + field.2.bulk + 2

theorem bulkFields_cons (field : String × Json F) (fields : List (String × Json F)) :
    bulkFields (field :: fields) = bulkField field + bulkFields fields := rfl

mutual

theorem render_length_le : ∀ value : Json F, value.render.length ≤ value.bulk
  | .null => Nat.le_refl _
  | .bool true => by simp [render, bulk]
  | .bool false => by simp [render, bulk]
  | .int _ => Nat.le_refl _
  | .float _ => Nat.le_refl _
  | .str _ => Nat.le_refl _
  | .array [] => Nat.le_refl _
  | .array (item :: items) => by
      have first := render_length_le item
      have later := renderItems_length_le items
      simp only [render, bulk, bulkItems, List.length_cons, List.length_append]
      omega
  | .object [] => Nat.le_refl _
  | .object ((key, value) :: fields) => by
      have first := render_length_le value
      have later := renderFields_length_le fields
      simp only [render, bulk, bulkFields, List.length_cons, List.length_append]
      omega

theorem renderItems_length_le : ∀ items : List (Json F),
    (renderItems items).length ≤ 1 + bulkItems items
  | [] => Nat.le_refl _
  | item :: items => by
      have first := render_length_le item
      have later := renderItems_length_le items
      simp only [renderItems, bulkItems, List.length_cons, List.length_append]
      omega

theorem renderFields_length_le : ∀ fields : List (String × Json F),
    (renderFields fields).length ≤ 1 + bulkFields fields
  | [] => Nat.le_refl _
  | (key, value) :: fields => by
      have first := render_length_le value
      have later := renderFields_length_le fields
      simp only [renderFields, bulkFields, List.length_cons, List.length_append]
      omega

end

/-- An assignment adds at most its own field. -/
theorem bulkFields_assign_le (fields : List (String × Json F)) (key : String) (value : Json F) :
    bulkFields (Dict.assign fields key value) ≤ bulkFields fields + bulkField (key, value) := by
  induction fields with
  | nil => simp [Dict.assign, bulkFields, bulkField]
  | cons first rest ih =>
      obtain ⟨held, old⟩ := first
      unfold Dict.assign
      split
      · rw [bulkFields_cons, bulkFields_cons]
        omega
      · split
        · rw [bulkFields_cons, bulkFields_cons]
          omega
        · rw [bulkFields_cons, bulkFields_cons]
          omega

/-- A dictionary is no bulkier than its fields. -/
theorem bulkFields_ofFields_le (fields : List (String × Json F)) :
    bulkFields (Dict.ofFields fields) ≤ bulkFields fields := by
  have general : ∀ held : List (String × Json F),
      bulkFields (fields.foldl (fun held field => Dict.assign held field.1 field.2) held) ≤
        bulkFields held + bulkFields fields := by
    induction fields with
    | nil => exact fun _ => Nat.le_refl _
    | cons first rest ih =>
        intro held
        obtain ⟨key, value⟩ := first
        have added := bulkFields_assign_le held key value
        have later := ih (Dict.assign held key value)
        rw [bulkFields_cons]
        show bulkFields (rest.foldl _ (Dict.assign held key value)) ≤ _
        omega
  have all := general []
  simpa [Dict.ofFields, bulkFields] using all

theorem bulk_dict_le (fields : List (String × Json F)) :
    (dict fields).bulk ≤ 2 + bulkFields fields := by
  have le := bulkFields_ofFields_le fields
  simp only [dict, bulk]
  omega

mutual

theorem bulk_ordered_le : ∀ value : Json F, value.ordered.bulk ≤ value.bulk
  | .null => Nat.le_refl _
  | .bool _ => Nat.le_refl _
  | .int _ => Nat.le_refl _
  | .float _ => Nat.le_refl _
  | .str _ => Nat.le_refl _
  | .array items => by
      have each := bulkItems_ordered_le items
      simp only [ordered, bulk]
      omega
  | .object fields => by
      have each := bulkFields_ordered_le fields
      have le := bulkFields_ofFields_le (orderedFields fields)
      simp only [ordered, bulk]
      omega

theorem bulkItems_ordered_le : ∀ items : List (Json F),
    bulkItems (orderedItems items) ≤ bulkItems items
  | [] => Nat.le_refl _
  | item :: items => by
      have first := bulk_ordered_le item
      have later := bulkItems_ordered_le items
      simp only [orderedItems, bulkItems]
      omega

theorem bulkFields_ordered_le : ∀ fields : List (String × Json F),
    bulkFields (orderedFields fields) ≤ bulkFields fields
  | [] => Nat.le_refl _
  | (key, value) :: fields => by
      have first := bulk_ordered_le value
      have later := bulkFields_ordered_le fields
      simp only [orderedFields, bulkFields]
      omega

end

/-- The canonical text is no longer than the bulk. -/
theorem canonical_length_le (value : Json F) : value.canonical.length ≤ value.bulk :=
  Nat.le_trans (render_length_le value.ordered) (bulk_ordered_le value)

/-- The text of a string of plain characters. -/
theorem stringText_length {text : String} (plain : ∀ c ∈ text.toList, escapeChar c = [c]) :
    (stringText text).length = text.toList.length + 2 := by
  have same : text.toList.flatMap escapeChar = text.toList := by
    rw [List.flatMap_congr plain]
    exact List.flatMap_singleton' _
  rw [stringText, same]
  simp

theorem bulkItems_le {items : List (Json F)} {bound : Nat}
    (each : ∀ item ∈ items, item.bulk ≤ bound) : bulkItems items ≤ items.length * (bound + 1) := by
  induction items with
  | nil => simp [bulkItems]
  | cons item items ih =>
      have first := each item (List.mem_cons_self ..)
      have later := ih fun other member => each other (List.mem_cons_of_mem _ member)
      simp only [bulkItems, List.length_cons]
      rw [Nat.succ_mul]
      omega

/-- A dictionary whose keys and values are bounded. -/
theorem bulk_dict_of_bounds {fields : List (String × Json F)} (keyBound : Nat) (bounds : List Nat)
    (keys : ∀ field ∈ fields, (stringText field.1).length ≤ keyBound)
    (values : List.Forall₂ (fun field bound => field.2.bulk ≤ bound) fields bounds) :
    (dict fields).bulk ≤ 2 + bounds.length * (keyBound + 2) + bounds.sum := by
  have each : bulkFields fields ≤ bounds.length * (keyBound + 2) + bounds.sum := by
    induction values with
    | nil => simp [bulkFields]
    | @cons field bound fields bounds first _ ih =>
        have key := keys field (List.mem_cons_self ..)
        have later := ih fun other member => keys other (List.mem_cons_of_mem _ member)
        rw [bulkFields_cons, bulkField, List.length_cons, List.sum_cons, Nat.succ_mul]
        omega
  have whole := bulk_dict_le fields
  omega

end Json

end Aegis.Lib
