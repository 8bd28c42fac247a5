/-
# Lib.Joined — fields joined with a separator

`joined sep fields` is the text `sep.join(fields)`. Cutting it at every separator gives the
`pieces` of the fields, so two lists of fields have one joined text exactly when they have the
same pieces (`joined_eq_iff`); fields without a separator are their own pieces.
-/
import Mathlib.Data.List.Basic
import Mathlib.Tactic.Common

namespace Aegis.Lib

set_option autoImplicit false

/-- `separator.join(fields)`. -/
def joined (separator : Char) (fields : List String) : String :=
  String.ofList ([separator].intercalate (fields.map String.toList))

/-- What the separators inside the fields cut them into. -/
def pieces (separator : Char) (fields : List String) : List (List Char) :=
  fields.flatMap fun field => field.toList.splitOn separator

theorem splitOn_joined (separator : Char) {texts : List (List Char)} (nonempty : texts ≠ []) :
    ([separator].intercalate texts).splitOn separator =
      texts.flatMap fun text => text.splitOn separator := by
  induction texts with
  | nil => exact absurd rfl nonempty
  | cons first rest ih =>
      cases rest with
      | nil => simp [List.intercalate]
      | cons second rest =>
          have step : [separator].intercalate (first :: second :: rest) =
              first ++ separator :: [separator].intercalate (second :: rest) := by
            simp [List.intercalate]
          rw [step, List.splitOn_append_cons_self, ih (List.cons_ne_nil _ _)]
          simp only [List.flatMap_cons]

/-- Lists of fields have one joined text exactly when they have the same pieces. -/
theorem joined_eq_iff {separator : Char} {left right : List String} (isLeft : left ≠ [])
    (isRight : right ≠ []) :
    joined separator left = joined separator right ↔
      pieces separator left = pieces separator right := by
  have cut : ∀ {fields : List String}, fields ≠ [] →
      (joined separator fields).toList.splitOn separator = pieces separator fields := by
    intro fields nonempty
    have texts : fields.map String.toList ≠ [] := fun none => nonempty (List.map_eq_nil_iff.mp none)
    rw [joined, String.toList_ofList, splitOn_joined separator texts, List.flatMap_map, pieces]
  constructor
  · intro same
    rw [← cut isLeft, ← cut isRight, same]
  · intro same
    have back : ∀ text : List Char, [separator].intercalate (text.splitOn separator) = text :=
      fun _ => List.intercalate_splitOn separator
    apply String.toList_inj.mp
    rw [← back (joined separator left).toList, ← back (joined separator right).toList, cut isLeft,
      cut isRight, same]

/-- Fields without a separator are their own pieces. -/
theorem pieces_of_free {separator : Char} {fields : List String}
    (free : ∀ field ∈ fields, separator ∉ field.toList) :
    pieces separator fields = fields.map String.toList := by
  induction fields with
  | nil => rfl
  | cons first rest ih =>
      have here := List.splitOn_eq_singleton (free first (List.mem_cons_self ..))
      have later := ih fun field member => free field (List.mem_cons_of_mem _ member)
      rw [pieces, List.flatMap_cons, here, List.map_cons]
      exact congrArg _ later

/-- A separator in a text cuts it at least once. -/
theorem two_le_length_splitOn {separator : Char} {text : List Char} (member : separator ∈ text) :
    2 ≤ (text.splitOn separator).length := by
  obtain ⟨before, later, rfl⟩ := List.append_of_mem member
  rw [List.splitOn_append_cons_self, List.length_append]
  have left := List.length_pos_of_ne_nil (List.splitOn_ne_nil separator before)
  have right := List.length_pos_of_ne_nil (List.splitOn_ne_nil separator later)
  omega

/-- There are as many pieces as fields exactly when no field has a separator. -/
theorem length_pieces_eq_iff {separator : Char} {fields : List String} :
    fields.length ≤ (pieces separator fields).length ∧
      ((pieces separator fields).length = fields.length ↔
        ∀ field ∈ fields, separator ∉ field.toList) := by
  induction fields with
  | nil => exact ⟨Nat.le_refl _, by simp [pieces]⟩
  | cons first rest ih =>
      have split : (pieces separator (first :: rest)).length =
          (first.toList.splitOn separator).length + (pieces separator rest).length := by
        rw [pieces, List.flatMap_cons, List.length_append]
        rfl
      have one := List.length_pos_of_ne_nil (List.splitOn_ne_nil separator first.toList)
      rw [split, List.length_cons, List.forall_mem_cons, ← ih.2]
      refine ⟨by omega, fun same => ⟨?_, by omega⟩, ?_⟩
      · intro member
        have two := two_le_length_splitOn member
        omega
      · rintro ⟨free, same⟩
        rw [List.splitOn_eq_singleton free, same, List.length_singleton]
        omega

/-- What a text is cut into holds no separator. -/
theorem free_of_mem_splitOn {separator : Char} {text part : List Char}
    (member : part ∈ text.splitOn separator) : separator ∉ part := by
  have whole : pieces separator ((text.splitOn separator).map String.ofList) =
      text.splitOn separator := by
    have cut := splitOn_joined separator (List.splitOn_ne_nil separator text)
    have back : [separator].intercalate (text.splitOn separator) = text :=
      List.intercalate_splitOn separator
    rw [back] at cut
    rw [pieces, List.flatMap_map]
    simp only [String.toList_ofList]
    exact cut.symm
  have same : (pieces separator ((text.splitOn separator).map String.ofList)).length =
      ((text.splitOn separator).map String.ofList).length := by
    rw [whole, List.length_map]
  have free := length_pieces_eq_iff.2.mp same _ (List.mem_map.mpr ⟨part, member, rfl⟩)
  rwa [String.toList_ofList] at free

end Aegis.Lib
