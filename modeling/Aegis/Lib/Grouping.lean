/-
# Lib.Grouping — items grouped by a key

`groupBy` collects the values of the items of one key, each value once, in the order in which the
keys come. A key has several values exactly when two items of that key differ in their value
(`exists_crowded_iff`).
-/
import Mathlib.Data.List.Nodup

namespace Aegis.Lib

set_option autoImplicit false

universe u v w

section Grouping

variable {κ : Type u} {ν : Type v} {α : Type w} [DecidableEq κ] [DecidableEq ν]

/-- `groups.setdefault(key, set()).add(value)`. -/
def addTo : List (κ × List ν) → κ → ν → List (κ × List ν)
  | [], key, value => [(key, [value])]
  | (held, values) :: later, key, value =>
      if held = key then (held, if value ∈ values then values else values ++ [value]) :: later
      else (held, values) :: addTo later key value

/-- The values of the items, by their keys. -/
def groupBy (key : α → κ) (value : α → ν) (items : List α) : List (κ × List ν) :=
  items.foldl (fun groups item => addTo groups (key item) (value item)) []

/-- A value that is in the group of a key. -/
def InGroup (groups : List (κ × List ν)) (key : κ) (value : ν) : Prop :=
  ∃ values, (key, values) ∈ groups ∧ value ∈ values

/-- One group for each key, and each value once. -/
structure Grouped (groups : List (κ × List ν)) : Prop where
  keys : (groups.map Prod.fst).Nodup
  values : ∀ group ∈ groups, group.2.Nodup

omit [DecidableEq κ] [DecidableEq ν] in
theorem inGroup_cons {group : κ × List ν} {later : List (κ × List ν)} {key : κ} {value : ν} :
    InGroup (group :: later) key value ↔ (key = group.1 ∧ value ∈ group.2) ∨ InGroup later key value := by
  constructor
  · rintro ⟨values, member, among⟩
    obtain rfl | member := List.mem_cons.mp member
    · exact .inl ⟨rfl, among⟩
    · exact .inr ⟨values, member, among⟩
  · rintro (⟨rfl, among⟩ | ⟨values, member, among⟩)
    · exact ⟨group.2, List.mem_cons_self, among⟩
    · exact ⟨values, List.mem_cons_of_mem _ member, among⟩

theorem inGroup_addTo {groups : List (κ × List ν)} {key asked : κ} {value other : ν} :
    InGroup (addTo groups key value) asked other ↔
      InGroup groups asked other ∨ (asked = key ∧ other = value) := by
  induction groups with
  | nil =>
      rw [addTo, inGroup_cons, List.mem_singleton]
      exact or_comm
  | cons group later ih =>
      obtain ⟨held, values⟩ := group
      rw [addTo]
      by_cases same : held = key
      · subst same
        rw [if_pos rfl, inGroup_cons, inGroup_cons]
        by_cases present : value ∈ values
        · rw [if_pos present]
          refine ⟨.inl, ?_⟩
          rintro (held | ⟨rfl, rfl⟩)
          · exact held
          · exact .inl ⟨rfl, present⟩
        · rw [if_neg present, List.mem_append, List.mem_singleton]
          tauto
      · rw [if_neg same, inGroup_cons, inGroup_cons, ih, or_assoc]

theorem keys_addTo (groups : List (κ × List ν)) (key : κ) (value : ν) :
    (addTo groups key value).map Prod.fst =
      if key ∈ groups.map Prod.fst then groups.map Prod.fst else groups.map Prod.fst ++ [key] := by
  induction groups with
  | nil => rfl
  | cons group later ih =>
      obtain ⟨held, values⟩ := group
      rw [addTo]
      by_cases same : held = key
      · subst same
        rw [if_pos rfl]
        exact (if_pos List.mem_cons_self).symm
      · rw [if_neg same, List.map_cons, ih, List.map_cons]
        have skip : key ∈ held :: later.map Prod.fst ↔ key ∈ later.map Prod.fst := by
          rw [List.mem_cons]
          exact or_iff_right (Ne.symm same)
        by_cases member : key ∈ later.map Prod.fst
        · rw [if_pos member, if_pos (skip.mpr member)]
        · rw [if_neg member, if_neg (mt skip.mp member), List.cons_append]

theorem Grouped.addTo {groups : List (κ × List ν)} (grouped : Grouped groups) (key : κ) (value : ν) :
    Grouped (addTo groups key value) := by
  refine ⟨?_, ?_⟩
  · rw [keys_addTo]
    by_cases member : key ∈ groups.map Prod.fst
    · rw [if_pos member]
      exact grouped.keys
    · rw [if_neg member]
      exact List.nodup_append.mpr ⟨grouped.keys, List.nodup_singleton _, fun held among _ new =>
        fun same => member (List.mem_singleton.mp new ▸ same ▸ among)⟩
  · obtain ⟨-, distinct⟩ := grouped
    induction groups with
    | nil =>
        intro group member
        obtain rfl := List.mem_singleton.mp member
        exact List.nodup_singleton _
    | cons group later ih =>
        obtain ⟨held, values⟩ := group
        obtain ⟨here, rest⟩ := List.forall_mem_cons.mp distinct
        rw [Aegis.Lib.addTo]
        by_cases same : held = key
        · rw [if_pos same]
          refine List.forall_mem_cons.mpr ⟨?_, rest⟩
          by_cases present : value ∈ values
          · rw [if_pos present]
            exact here
          · rw [if_neg present]
            exact List.nodup_append.mpr ⟨here, List.nodup_singleton _, fun held among _ new =>
              fun same => present (List.mem_singleton.mp new ▸ same ▸ among)⟩
        · rw [if_neg same]
          exact List.forall_mem_cons.mpr ⟨here, ih rest⟩

/-- What a fold over the items adds to groups that are there. -/
theorem foldl_addTo (key : α → κ) (value : α → ν) (items : List α) {groups : List (κ × List ν)}
    (grouped : Grouped groups) :
    Grouped (items.foldl (fun groups item => addTo groups (key item) (value item)) groups) ∧
      ∀ asked other,
        InGroup (items.foldl (fun groups item => addTo groups (key item) (value item)) groups)
          asked other ↔
        InGroup groups asked other ∨ ∃ item ∈ items, key item = asked ∧ value item = other := by
  induction items generalizing groups with
  | nil => exact ⟨grouped, fun _ _ => (or_iff_left (by simp)).symm⟩
  | cons item later ih =>
      obtain ⟨made, holds⟩ := ih (grouped.addTo (key item) (value item))
      refine ⟨made, fun asked other => ?_⟩
      rw [List.foldl_cons, holds, inGroup_addTo, List.exists_mem_cons_iff, or_assoc]
      exact or_congr_right (or_congr_left ⟨fun ⟨k, v⟩ => ⟨k.symm, v.symm⟩, fun ⟨k, v⟩ => ⟨k.symm, v.symm⟩⟩)

omit [DecidableEq κ] [DecidableEq ν] in
theorem grouped_nil : Grouped ([] : List (κ × List ν)) :=
  ⟨List.nodup_nil, fun _ none => absurd none List.not_mem_nil⟩

theorem grouped_groupBy (key : α → κ) (value : α → ν) (items : List α) :
    Grouped (groupBy key value items) :=
  (foldl_addTo key value items grouped_nil).1

/-- A value is in the group of a key when an item of that key has it. -/
theorem inGroup_groupBy {key : α → κ} {value : α → ν} {items : List α} {asked : κ} {other : ν} :
    InGroup (groupBy key value items) asked other ↔
      ∃ item ∈ items, key item = asked ∧ value item = other := by
  refine ((foldl_addTo key value items grouped_nil).2 asked other).trans
    (or_iff_right ?_)
  rintro ⟨_, member, -⟩
  exact List.not_mem_nil member

/-- **A group has several values when two items of its key differ.** -/
theorem exists_crowded_iff {key : α → κ} {value : α → ν} {items : List α} :
    (∃ group ∈ groupBy key value items, 1 < group.2.length) ↔
      ∃ left ∈ items, ∃ right ∈ items, key left = key right ∧ value left ≠ value right := by
  have grouped := grouped_groupBy key value items
  constructor
  · rintro ⟨⟨held, values⟩, member, crowded⟩
    obtain ⟨first, second, later, rfl⟩ : ∃ first second later, values = first :: second :: later := by
      match values, crowded with
      | first :: second :: later, _ => exact ⟨first, second, later, rfl⟩
    have apart : first ≠ second := by
      have distinct := grouped.values _ member
      rintro rfl
      exact (List.nodup_cons.mp distinct).1 List.mem_cons_self
    obtain ⟨left, isLeft, leftKey, rfl⟩ := inGroup_groupBy.mp ⟨_, member, List.mem_cons_self⟩
    obtain ⟨right, isRight, rightKey, rfl⟩ := inGroup_groupBy.mp
      ⟨_, member, List.mem_cons_of_mem _ List.mem_cons_self⟩
    exact ⟨left, isLeft, right, isRight, leftKey.trans rightKey.symm, apart⟩
  · rintro ⟨left, isLeft, right, isRight, same, apart⟩
    have held : ∀ item ∈ items, InGroup (groupBy key value items) (key item) (value item) :=
      fun item member => inGroup_groupBy.mpr ⟨item, member, rfl, rfl⟩
    obtain ⟨values, member, hasLeft⟩ := held left isLeft
    obtain ⟨others, among, hasRight⟩ := same ▸ held right isRight
    -- one group for each key
    have one : (key left, values) = (key left, others) :=
      List.inj_on_of_nodup_map grouped.keys member among rfl
    obtain rfl := (Prod.mk.inj one).2
    refine ⟨_, member, ?_⟩
    by_contra short
    match values, short with
    | [], _ => exact List.not_mem_nil hasLeft
    | [only], _ =>
        rw [List.mem_singleton] at hasLeft hasRight
        exact apart (hasLeft.trans hasRight.symm)
    | _ :: _ :: _, short => exact short (by simp)

end Grouping

end Aegis.Lib
