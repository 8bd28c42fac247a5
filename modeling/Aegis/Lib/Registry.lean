/-
# Lib.Registry — dictionaries in insertion order

A `Registry` is a dictionary: its rows stand in the order in which their keys were
first set, and no key stands twice. `set` overwrites the value of a held key in its
place and appends a new key; `filter` deletes rows. A row stands in a registry exactly
when its key is looked up to its value (`mem_rows_iff`).
-/
import Mathlib.Algebra.GroupWithZero.Nat
import Mathlib.Data.List.Nodup

namespace Aegis.Lib

set_option autoImplicit false

universe u v

structure Registry (κ : Type u) (α : Type v) where
  rows : List (κ × α)
  distinct : (rows.map Prod.fst).Nodup

namespace Registry

variable {κ : Type u} {α : Type v}

def empty : Registry κ α := ⟨[], List.nodup_nil⟩

instance : Inhabited (Registry κ α) := ⟨empty⟩

/-- The rows that meet a condition. -/
def filter (registry : Registry κ α) (keep : κ → α → Bool) : Registry κ α :=
  ⟨registry.rows.filter fun row => keep row.1 row.2,
    registry.distinct.sublist (List.filter_sublist.map _)⟩

def values (registry : Registry κ α) : List α := registry.rows.map Prod.snd

variable [DecidableEq κ]

def get? (registry : Registry κ α) (key : κ) : Option α :=
  (registry.rows.find? fun row => row.1 = key).map Prod.snd

theorem mem_rows_iff {registry : Registry κ α} {key : κ} {value : α} :
    (key, value) ∈ registry.rows ↔ registry.get? key = some value := by
  unfold get?
  rw [Option.map_eq_some_iff]
  constructor
  · intro member
    cases found : registry.rows.find? fun row => row.1 = key with
    | none =>
        have := List.find?_eq_none.mp found _ member
        simp at this
    | some row =>
        have same : row.1 = key := by simpa using List.find?_some found
        have one : row = (key, value) :=
          List.inj_on_of_nodup_map registry.distinct (List.mem_of_find?_eq_some found) member same
        exact ⟨row, rfl, by rw [one]⟩
  · rintro ⟨row, found, rfl⟩
    obtain rfl : row.1 = key := by simpa using List.find?_some found
    exact List.mem_of_find?_eq_some found

theorem mem_values {registry : Registry κ α} {value : α} :
    value ∈ registry.values ↔ ∃ key, registry.get? key = some value := by
  unfold values
  rw [List.mem_map]
  constructor
  · rintro ⟨row, member, rfl⟩
    exact ⟨row.1, mem_rows_iff.mp member⟩
  · rintro ⟨key, found⟩
    exact ⟨(key, value), mem_rows_iff.mpr found, rfl⟩

theorem get?_eq_none {registry : Registry κ α} {key : κ} :
    registry.get? key = none ↔ key ∉ registry.rows.map Prod.fst := by
  rw [get?, Option.map_eq_none_iff, List.find?_eq_none, List.mem_map]
  simp only [decide_eq_true_eq, not_exists, not_and]

@[simp] theorem get?_empty (key : κ) : (empty : Registry κ α).get? key = none := rfl

/-- `registry[key] = value`. -/
def set (registry : Registry κ α) (key : κ) (value : α) : Registry κ α :=
  if held : key ∈ registry.rows.map Prod.fst then
    ⟨registry.rows.map fun row => if row.1 = key then (key, value) else row, by
      have keys : (registry.rows.map fun row => if row.1 = key then (key, value) else row).map
          Prod.fst = registry.rows.map Prod.fst := by
        rw [List.map_map]
        apply List.map_congr_left
        intro row _
        by_cases same : row.1 = key <;> simp [same]
      rw [keys]
      exact registry.distinct⟩
  else
    ⟨registry.rows ++ [(key, value)], by
      rw [List.map_append, List.map_singleton, List.nodup_append]
      refine ⟨registry.distinct, List.nodup_singleton _, ?_⟩
      intro other member last isLast
      rw [List.mem_singleton] at isLast
      rintro rfl
      rw [isLast] at member
      exact held member⟩

@[simp] theorem get?_set (registry : Registry κ α) (key : κ) (value : α) (asked : κ) :
    (registry.set key value).get? asked = if asked = key then some value else registry.get? asked := by
  apply Option.ext
  intro found
  rw [← mem_rows_iff]
  unfold set
  split
  · rename_i held
    simp only [List.mem_map]
    constructor
    · rintro ⟨row, member, same⟩
      split at same
      · obtain ⟨rfl, rfl⟩ := Prod.mk.inj same
        rw [if_pos rfl]
      · rename_i other
        rw [same] at member other
        rw [if_neg other]
        exact mem_rows_iff.mp member
    · intro looked
      split at looked
      · rename_i same
        obtain ⟨row, member, rfl⟩ := List.mem_map.mp held
        exact ⟨row, member, by rw [if_pos rfl, same, Option.some.inj looked]⟩
      · rename_i other
        exact ⟨(asked, found), mem_rows_iff.mpr looked, if_neg other⟩
  · rename_i new
    rw [List.mem_append, List.mem_singleton, mem_rows_iff]
    split
    · rename_i same
      have nothing : registry.get? asked = none := get?_eq_none.mpr (same ▸ new)
      rw [nothing, same]
      simp [eq_comm]
    · rename_i other
      simp [other]

@[simp] theorem get?_filter (registry : Registry κ α) (keep : κ → α → Bool) (asked : κ) :
    (registry.filter keep).get? asked = (registry.get? asked).filter (keep asked) := by
  apply Option.ext
  intro found
  rw [← mem_rows_iff, Option.mem_def.symm, Option.mem_filter_iff]
  show (asked, found) ∈ registry.rows.filter _ ↔ _
  rw [List.mem_filter, mem_rows_iff]
  rfl

/-- `del registry[key]`. -/
def erase (registry : Registry κ α) (key : κ) : Registry κ α :=
  registry.filter fun held _ => held ≠ key

@[simp] theorem get?_erase (registry : Registry κ α) (key asked : κ) :
    (registry.erase key).get? asked = if asked = key then none else registry.get? asked := by
  rw [erase, get?_filter]
  by_cases same : asked = key <;> cases registry.get? asked <;> simp [same, Option.filter]

/-! ## Totals -/

/-- The weights of all values together. -/
def total (weight : α → Nat) (registry : Registry κ α) : Nat :=
  (registry.rows.map fun row => weight row.2).sum

/-- Overwriting the value of a held key, in the rows. -/
theorem sum_overwrite (weight : α → Nat) (key : κ) (value : α) {rows : List (κ × α)}
    (distinct : (rows.map Prod.fst).Nodup) {old : α} (held : (key, old) ∈ rows) :
    ((rows.map fun row => if row.1 = key then (key, value) else row).map fun row =>
        weight row.2).sum + weight old =
      (rows.map fun row => weight row.2).sum + weight value := by
  induction rows with
  | nil => cases held
  | cons row rest ih =>
      obtain ⟨fresh, distinct⟩ := List.nodup_cons.mp distinct
      simp only [List.map_cons, List.sum_cons]
      rcases List.mem_cons.mp held with rfl | later
      · -- the other rows have other keys
        have others : (rest.map fun row => if row.1 = key then (key, value) else row) = rest := by
          refine (List.map_congr_left fun row member => ?_).trans (List.map_id rest)
          have other : row.1 ≠ key := fun same => fresh (List.mem_map.mpr ⟨row, member, same⟩)
          rw [if_neg other]
          rfl
        rw [if_pos rfl, others]
        show weight value + _ + weight old = weight old + _ + weight value
        omega
      · have other : row.1 ≠ key := fun same =>
          fresh (List.mem_map.mpr ⟨(key, old), later, same.symm⟩)
        have rest := ih distinct later
        rw [if_neg other]
        omega

/-- Setting a key exchanges the weight of its value. -/
theorem total_set (weight : α → Nat) (registry : Registry κ α) (key : κ) (value : α) :
    (registry.set key value).total weight + ((registry.get? key).map weight).getD 0 =
      registry.total weight + weight value := by
  unfold total set
  split
  · rename_i held
    obtain ⟨row, member, rfl⟩ := List.mem_map.mp held
    have found : registry.get? row.1 = some row.2 := mem_rows_iff.mp member
    rw [found]
    exact sum_overwrite weight row.1 value registry.distinct member
  · rename_i new
    rw [get?_eq_none.mpr new, List.map_append, List.sum_append]
    rfl

end Registry

end Aegis.Lib
