/-
# Lib.SortBy — stable sorting by a key

`sortBy key` sorts a list by the keys of its elements and leaves elements of one key
in their order. Lists with the same elements, no two of one key, are sorted to one
list (`sortBy_congr`).
-/
import Mathlib.Data.List.Sort

namespace Aegis.Lib

set_option autoImplicit false

universe u v

variable {α : Type u} {κ : Type v} [LinearOrder κ] {key : α → κ}

def sortBy (key : α → κ) (elements : List α) : List α :=
  elements.insertionSort fun left right => key left ≤ key right

theorem perm_sortBy (elements : List α) : (sortBy key elements).Perm elements :=
  List.perm_insertionSort _ _

@[simp] theorem mem_sortBy {element : α} {elements : List α} :
    element ∈ sortBy key elements ↔ element ∈ elements :=
  (perm_sortBy elements).mem_iff

instance instTotalKey : Std.Total fun left right : α => key left ≤ key right :=
  ⟨fun _ _ => le_total _ _⟩

instance instTransKey : IsTrans α fun left right : α => key left ≤ key right :=
  ⟨fun _ _ _ => le_trans⟩

/-- Sorting the images by a key is sorting by the key of the image. -/
theorem sortBy_map {β : Type u} (f : β → α) (elements : List β) :
    sortBy key (elements.map f) = (sortBy (fun element => key (f element)) elements).map f :=
  (List.map_insertionSort _ _ f elements fun _ _ _ _ => Iff.rfl).symm

/-- The order in which the elements came does not matter when the keys are distinct. -/
theorem sortBy_congr {left right : List α} (same : left.Perm right)
    (distinct : (left.map key).Nodup) : sortBy key left = sortBy key right := by
  have both : (sortBy key left).Perm (sortBy key right) :=
    (perm_sortBy left).trans (same.trans (perm_sortBy right).symm)
  refine both.eq_of_pairwise ?_ (List.pairwise_insertionSort _ left)
    (List.pairwise_insertionSort _ right)
  intro a b inLeft inRight below above
  have keys : key a = key b := le_antisymm below above
  exact List.inj_on_of_nodup_map distinct (mem_sortBy.mp inLeft)
    (same.mem_iff.mpr (mem_sortBy.mp inRight)) keys

end Aegis.Lib
