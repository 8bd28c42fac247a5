/-
# Lib.Guarded — computations that check before they act

A transaction of a store is a sequence of checks followed by writes, and any
check may raise. `require` and `refuse` are the two spellings of a check,
`fetch` is a lookup that must succeed. A failed check is an `Except.error`, so a
transaction that raised has no result state at all.

The lemmas turn `computation = .ok result` into the conjunction of everything
that was checked on the way: `bind_eq_ok` peels one statement, the others read
one check back.
-/
import Mathlib.Data.List.Forall2
import Mathlib.Logic.Basic
import Mathlib.Tactic.Common

namespace Aegis.Lib.Guarded

set_option autoImplicit false

universe u v

variable {ε : Type u} {α β : Type v}

/-- Continue when `condition` holds, raise `error` otherwise. -/
def require (condition : Prop) [Decidable condition] (error : ε) : Except ε PUnit.{v + 1} :=
  if condition then .ok ⟨⟩ else .error error

/-- Raise `error` when `condition` holds, continue otherwise. -/
def refuse (condition : Prop) [Decidable condition] (error : ε) : Except ε PUnit.{v + 1} :=
  if condition then .error error else .ok ⟨⟩

/-- The looked-up row, or `error` when there is none. -/
def fetch (row : Option α) (error : ε) : Except ε α :=
  match row with
  | some found => .ok found
  | none => .error error

variable {condition : Prop} {error : ε}

@[simp] theorem require_eq_ok [Decidable condition] {done : PUnit.{v + 1}} :
    require condition error = .ok done ↔ condition := by
  unfold require
  split <;> simp_all

@[simp] theorem refuse_eq_ok [Decidable condition] {done : PUnit.{v + 1}} :
    refuse condition error = .ok done ↔ ¬ condition := by
  unfold refuse
  split <;> simp_all

@[simp] theorem fetch_eq_ok {row : Option α} {found : α} :
    fetch row error = .ok found ↔ row = some found := by
  cases row <;> simp [fetch]

/-- A sequence of two computations succeeds exactly when both do. -/
@[simp] theorem bind_eq_ok {first : Except ε α} {next : α → Except ε β} {result : β} :
    (first >>= next) = .ok result ↔ ∃ value, first = .ok value ∧ next value = .ok result := by
  cases first <;> simp [bind, Except.bind]

@[simp] theorem map_eq_ok {first : Except ε α} {f : α → β} {result : β} :
    (f <$> first) = .ok result ↔ ∃ value, first = .ok value ∧ f value = result := by
  cases first <;> simp [Functor.map, Except.map]

@[simp] theorem pure_eq_ok {value result : α} :
    (pure value : Except ε α) = .ok result ↔ value = result := by
  simp [pure, Except.pure]

theorem mapError_eq_ok {δ : Type u} {f : ε → δ} {computation : Except ε α} {value : α} :
    computation.mapError f = .ok value ↔ computation = .ok value := by
  cases computation <;> simp [Except.mapError]

/-- A check of every element succeeds exactly when each one does. -/
@[simp] theorem forM_eq_ok {check : α → Except ε PUnit.{v + 1}} {done : PUnit.{v + 1}} :
    ∀ {elements : List α},
      forM elements check = .ok done ↔ ∀ element ∈ elements, check element = .ok done
  | [] => by simp
  | first :: rest => by
      rw [List.forM_cons, bind_eq_ok, List.forall_mem_cons]
      exact ⟨fun ⟨_, here, later⟩ => ⟨here, forM_eq_ok.mp later⟩,
        fun ⟨here, later⟩ => ⟨done, here, forM_eq_ok.mpr later⟩⟩

/-- Computations made for every element succeed together exactly with the results of each. -/
theorem mapM_eq_ok_iff {ι : Type u} {compute : ι → Except ε α} :
    ∀ {elements : List ι} {results : List α}, elements.mapM compute = .ok results ↔
      List.Forall₂ (fun element result => compute element = .ok result) elements results
  | [], results => by
      rw [List.mapM_nil, pure_eq_ok, List.forall₂_nil_left_iff]
      exact eq_comm
  | first :: rest, results => by
      simp only [List.mapM_cons, bind_eq_ok, pure_eq_ok, mapM_eq_ok_iff]
      constructor
      · rintro ⟨result, here, later, each, rfl⟩
        exact .cons here each
      · rintro (_ | ⟨here, each⟩)
        exact ⟨_, here, _, each, rfl⟩

/-! ## Which errors are raised -/

/-- Every error of the computation is an allowed one. -/
def Raises (allowed : ε → Prop) (computation : Except ε α) : Prop :=
  ∀ error, computation = .error error → allowed error

variable {allowed : ε → Prop}

theorem Raises.bind {first : Except ε α} {next : α → Except ε β} (here : Raises allowed first)
    (later : ∀ value, Raises allowed (next value)) : Raises allowed (first >>= next) := by
  intro error raised
  cases done : first with
  | error found =>
      rw [done] at raised
      obtain rfl := Except.error.inj raised
      exact here _ done
  | ok value =>
      rw [done] at raised
      exact later value error raised

/-- A first computation that succeeds leaves the errors of the second one. -/
theorem raises_of_ok {first : Except ε α} {next : α → Except ε β} {value : α}
    (done : first = .ok value) (later : Raises allowed (next value)) :
    Raises allowed (first >>= next) := by
  rw [done]
  exact later

/-- A sequence of two computations fails where one of them does. -/
theorem bind_eq_error {first : Except ε α} {next : α → Except ε β} :
    (first >>= next) = .error error ↔
      first = .error error ∨ ∃ value, first = .ok value ∧ next value = .error error := by
  cases first <;> simp [bind, Except.bind]

/-- An error that the first computation does not raise comes from the second one. -/
theorem bind_eq_error_later {first : Except ε α} {next : α → Except ε β}
    (here : Raises allowed first) (other : ¬ allowed error) :
    (first >>= next) = .error error ↔ ∃ value, first = .ok value ∧ next value = .error error := by
  rw [bind_eq_error]
  exact or_iff_right fun raised => other (here _ raised)

/-- An error that the second computation does not raise comes from the first one. -/
theorem bind_eq_error_first {first : Except ε α} {next : α → Except ε β}
    (later : ∀ value, Raises allowed (next value)) (other : ¬ allowed error) :
    (first >>= next) = .error error ↔ first = .error error := by
  rw [bind_eq_error]
  exact or_iff_left fun ⟨value, _, raised⟩ => other (later value _ raised)

theorem raises_pure (value : α) : Raises allowed (pure value : Except ε α) := by
  intro error raised
  cases raised

theorem raises_require (condition : Prop) [Decidable condition] (may : allowed error) :
    Raises allowed (require condition error) := by
  intro found raised
  unfold require at raised
  split at raised
  · cases raised
  · exact Except.error.inj raised ▸ may

theorem raises_refuse (condition : Prop) [Decidable condition] (may : allowed error) :
    Raises allowed (refuse condition error) := by
  intro found raised
  unfold refuse at raised
  split at raised
  · exact Except.error.inj raised ▸ may
  · cases raised

/-- A check that holds raises nothing. -/
theorem raises_require_of [Decidable condition] (holds : condition) (error : ε) :
    Raises allowed (require condition error) := by
  intro found raised
  unfold require at raised
  rw [if_pos holds] at raised
  cases raised

theorem raises_refuse_of [Decidable condition] (fails : ¬ condition) (error : ε) :
    Raises allowed (refuse condition error) := by
  intro found raised
  unfold refuse at raised
  rw [if_neg fails] at raised
  cases raised

theorem raises_fetch (row : Option α) (may : allowed error) :
    Raises allowed (fetch row error) := by
  intro found raised
  unfold fetch at raised
  split at raised
  · cases raised
  · exact Except.error.inj raised ▸ may

end Aegis.Lib.Guarded
