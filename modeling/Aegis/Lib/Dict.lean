/-
# Lib.Dict — dictionaries with text keys, kept in key order

A dictionary is the list of its fields in strictly increasing key order
(`Ordered`), so two dictionaries with the same fields are equal whatever order
they were filled in. `assign` sets one key, `ofFields` fills a dictionary from a
list of fields in which a later field replaces an earlier one.
-/
import Mathlib.Tactic.Common
import Mathlib.Data.List.Induction

namespace Aegis.Lib.Dict

set_option autoImplicit false

universe u v

variable {α : Type u} {β : Type v}

/-- `fields[key] = value`. -/
def assign : List (String × α) → String → α → List (String × α)
  | [], key, value => [(key, value)]
  | (held, old) :: rest, key, value =>
      if held < key then (held, old) :: assign rest key value
      else if held = key then (key, value) :: rest
      else (key, value) :: (held, old) :: rest

/-- The dictionary of a list of fields; the last field of a key counts. -/
def ofFields (fields : List (String × α)) : List (String × α) :=
  fields.foldl (fun held field => assign held field.1 field.2) []

/-- `fields.get(key)`. -/
def get? (fields : List (String × α)) (key : String) : Option α := fields.lookup key

/-- The keys increase strictly. -/
def Ordered (fields : List (String × α)) : Prop := fields.Pairwise fun left right => left.1 < right.1

instance (fields : List (String × α)) : Decidable (Ordered fields) :=
  inferInstanceAs (Decidable (List.Pairwise _ _))

@[simp] theorem get?_nil (key : String) : get? ([] : List (String × α)) key = none := rfl

theorem get?_cons (held : String) (value : α) (rest : List (String × α)) (key : String) :
    get? ((held, value) :: rest) key = if key = held then some value else get? rest key := by
  by_cases same : key = held
  · simp [get?, same]
  · have other : (key == held) = false := by simpa using same
    simp [get?, List.lookup_cons, same, other]

@[simp] theorem ordered_nil : Ordered ([] : List (String × α)) := List.Pairwise.nil

theorem ordered_cons {field : String × α} {rest : List (String × α)} :
    Ordered (field :: rest) ↔ (∀ other ∈ rest, field.1 < other.1) ∧ Ordered rest :=
  List.pairwise_cons

/-- The keys of an assignment are the held ones and the new one. -/
theorem mem_assign {fields : List (String × α)} {key : String} {value : α} {field : String × α}
    (member : field ∈ assign fields key value) : field ∈ fields ∨ field = (key, value) := by
  induction fields with
  | nil => exact .inr (List.mem_singleton.mp member)
  | cons first rest ih =>
      obtain ⟨held, old⟩ := first
      unfold assign at member
      split at member
      · rcases List.mem_cons.mp member with rfl | later
        · exact .inl (List.mem_cons_self ..)
        · exact (ih later).imp_left (List.mem_cons_of_mem _)
      · split at member
        · rcases List.mem_cons.mp member with rfl | later
          · exact .inr rfl
          · exact .inl (List.mem_cons_of_mem _ later)
        · rcases List.mem_cons.mp member with rfl | later
          · exact .inr rfl
          · exact .inl later

theorem ordered_assign {fields : List (String × α)} (ordered : Ordered fields) (key : String)
    (value : α) : Ordered (assign fields key value) := by
  induction fields with
  | nil => exact List.pairwise_singleton _ _
  | cons first rest ih =>
      obtain ⟨held, old⟩ := first
      obtain ⟨below, later⟩ := ordered_cons.mp ordered
      unfold assign
      split
      · rename_i before
        rw [ordered_cons]
        refine ⟨fun other member => ?_, ih later⟩
        rcases mem_assign member with known | rfl
        · exact below other known
        · exact before
      · rename_i notBefore
        split
        · rename_i same
          rw [ordered_cons, ← same]
          exact ⟨below, later⟩
        · rename_i other
          have after : key < held := by
            have le := String.not_lt.mp notBefore
            by_contra notAfter
            exact other (String.le_antisymm (String.not_lt.mp notAfter) le)
          rw [ordered_cons]
          refine ⟨fun field member => ?_, ordered⟩
          rcases List.mem_cons.mp member with rfl | deep
          · exact after
          · exact String.lt_trans after (below field deep)

/-- An assignment with a key above all held ones comes last. -/
theorem assign_above {fields : List (String × α)} {key : String} (value : α)
    (above : ∀ field ∈ fields, field.1 < key) : assign fields key value = fields ++ [(key, value)] := by
  induction fields with
  | nil => rfl
  | cons first rest ih =>
      have before : first.1 < key := above first (List.mem_cons_self ..)
      have later := ih fun field member => above field (List.mem_cons_of_mem _ member)
      rw [assign, if_pos before, later, List.cons_append]

theorem get?_assign (fields : List (String × α)) (key : String) (value : α) (asked : String) :
    get? (assign fields key value) asked = if asked = key then some value else get? fields asked := by
  induction fields with
  | nil => simp [assign, get?_cons]
  | cons first rest ih =>
      obtain ⟨held, old⟩ := first
      unfold assign
      split
      · rename_i before
        have different : held ≠ key := String.ne_of_lt before
        rw [get?_cons, get?_cons, ih]
        by_cases asks : asked = held
        · subst asks
          simp [different]
        · simp [asks]
      · split
        · rename_i same
          subst same
          rw [get?_cons, get?_cons]
          by_cases asks : asked = held <;> simp [asks]
        · rw [get?_cons]

/-- The last field of a key counts. -/
theorem get?_ofFields (fields : List (String × α)) (key : String) :
    get? (ofFields fields) key = get? fields.reverse key := by
  unfold ofFields
  induction fields using List.reverseRecOn with
  | nil => rfl
  | append_singleton fields field ih =>
      rw [List.foldl_append, List.reverse_append, List.reverse_singleton, List.singleton_append,
        get?_cons, ← ih]
      exact get?_assign _ _ _ _

theorem get?_of_mem {fields : List (String × α)} (ordered : Ordered fields) {field : String × α}
    (member : field ∈ fields) : get? fields field.1 = some field.2 := by
  induction fields with
  | nil => cases member
  | cons first rest ih =>
      obtain ⟨below, later⟩ := ordered_cons.mp ordered
      obtain ⟨held, value⟩ := first
      rw [get?_cons]
      rcases List.mem_cons.mp member with rfl | deep
      · rw [if_pos rfl]
      · rw [if_neg (Ne.symm (String.ne_of_lt (below field deep)))]
        exact ih later deep

theorem get?_eq_none {fields : List (String × α)} {key : String} :
    get? fields key = none ↔ key ∉ fields.map Prod.fst := by
  induction fields with
  | nil => simp
  | cons first rest ih =>
      obtain ⟨held, value⟩ := first
      rw [get?_cons, List.map_cons, List.mem_cons, not_or]
      by_cases same : key = held
      · simp [same]
      · simp [same, ih]

/-- In fields of distinct keys each field is looked up. -/
theorem get?_of_distinct {fields : List (String × α)} (distinct : (fields.map Prod.fst).Nodup)
    {field : String × α} (member : field ∈ fields) : get? fields field.1 = some field.2 := by
  induction fields with
  | nil => cases member
  | cons first rest ih =>
      obtain ⟨held, value⟩ := first
      rw [List.map_cons, List.nodup_cons] at distinct
      rw [get?_cons]
      rcases List.mem_cons.mp member with rfl | deep
      · rw [if_pos rfl]
      · have apart : field.1 ≠ held := by
          rintro rfl
          exact distinct.1 (List.mem_map.mpr ⟨field, deep, rfl⟩)
        rw [if_neg apart]
        exact ih distinct.2 deep

/-- A dictionary has the keys of its fields. -/
theorem mem_keys_ofFields {fields : List (String × α)} {key : String} :
    key ∈ (ofFields fields).map Prod.fst ↔ key ∈ fields.map Prod.fst := by
  have same := get?_ofFields fields key
  have reversed : key ∈ fields.reverse.map Prod.fst ↔ key ∈ fields.map Prod.fst := by
    rw [List.map_reverse, List.mem_reverse]
  rw [← reversed]
  refine not_iff_not.mp ?_
  rw [← get?_eq_none, ← get?_eq_none, same]

theorem ordered_ofFields (fields : List (String × α)) : Ordered (ofFields fields) := by
  have general : ∀ held : List (String × α), Ordered held →
      Ordered (fields.foldl (fun held field => assign held field.1 field.2) held) := by
    induction fields with
    | nil => exact fun _ ordered => ordered
    | cons first rest ih => exact fun held ordered => ih _ (ordered_assign ordered _ _)
  exact general [] ordered_nil

/-- Fields in key order are their own dictionary. -/
theorem ofFields_of_ordered {fields : List (String × α)} (ordered : Ordered fields) :
    ofFields fields = fields := by
  unfold ofFields
  induction fields using List.reverseRecOn with
  | nil => rfl
  | append_singleton fields field ih =>
      have parts := List.pairwise_append.mp ordered
      have above : ∀ other ∈ fields, other.1 < field.1 :=
        fun other member => parts.2.2 other member field (List.mem_singleton_self _)
      rw [List.foldl_append, ih parts.1]
      exact assign_above field.2 above

@[simp] theorem ofFields_ofFields (fields : List (String × α)) :
    ofFields (ofFields fields) = ofFields fields :=
  ofFields_of_ordered (ordered_ofFields fields)

theorem mem_ofFields {fields : List (String × α)} {field : String × α}
    (member : field ∈ ofFields fields) : field ∈ fields := by
  unfold ofFields at member
  induction fields using List.reverseRecOn with
  | nil => exact member
  | append_singleton fields last ih =>
      rw [List.foldl_append] at member
      rcases mem_assign member with before | rfl
      · exact List.mem_append_left _ (ih before)
      · exact List.mem_append_right _ (List.mem_singleton_self _)

theorem mem_of_get? {fields : List (String × α)} {key : String} {value : α}
    (found : get? fields key = some value) : (key, value) ∈ fields := by
  induction fields with
  | nil => cases found
  | cons first rest ih =>
      obtain ⟨held, kept⟩ := first
      rw [get?_cons] at found
      split at found
      · rename_i same
        obtain rfl := Option.some.inj found
        rw [same]
        exact List.mem_cons_self ..
      · exact List.mem_cons_of_mem _ (ih found)

/-- In fields of distinct keys each one counts. -/
theorem get?_ofFields_iff {fields : List (String × α)} (distinct : (fields.map Prod.fst).Nodup)
    {key : String} {value : α} : get? (ofFields fields) key = some value ↔ (key, value) ∈ fields := by
  have reversed : (fields.reverse.map Prod.fst).Nodup := by
    rw [List.map_reverse]
    exact (List.reverse_perm _).nodup_iff.mpr distinct
  rw [get?_ofFields]
  constructor
  · exact fun found => List.mem_reverse.mp (mem_of_get? found)
  · exact fun member => get?_of_distinct reversed (List.mem_reverse.mpr member)

/-- Dictionaries with the same fields are equal. -/
theorem ext_of_ordered {left right : List (String × α)} (isLeft : Ordered left)
    (isRight : Ordered right) (same : ∀ key, get? left key = get? right key) : left = right := by
  have distinct : ∀ {fields : List (String × α)}, Ordered fields → fields.Nodup := by
    intro fields ordered
    refine ordered.imp ?_
    rintro first _ below rfl
    exact String.lt_irrefl _ below
  have included : ∀ {first second : List (String × α)}, Ordered first →
      (∀ key, get? first key = get? second key) → ∀ field ∈ first, field ∈ second := by
    intro first second ordered agree field member
    have found := get?_of_mem ordered member
    rw [agree] at found
    exact mem_of_get? found
  have permuted : left.Perm right := (List.perm_ext_iff_of_nodup (distinct isLeft)
    (distinct isRight)).mpr fun field =>
      ⟨included isLeft same field, included isRight (fun key => (same key).symm) field⟩
  refine permuted.eq_of_pairwise ?_ isLeft isRight
  intro first second _ _ below above
  exact absurd (String.lt_trans below above) (String.lt_irrefl _)

end Aegis.Lib.Dict
