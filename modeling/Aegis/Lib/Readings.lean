/-
# Lib.Readings — elements of which some give a value

`readAll read elements` reads every element; one that gives nothing is skipped. A loop that reads an
element and adds its value is a loop over the values that were read (`foldlM_found_eq_ok`), so what
it does in another order is a matter of the values alone (`readAll_perm`, `readAll_first`).
-/
import Mathlib.Data.List.Perm.Basic
import Mathlib.Data.List.ReduceOption
import Aegis.Lib.Guarded

namespace Aegis.Lib.Readings

open Guarded

set_option autoImplicit false

variable {ε ι α β : Type} {read : ι → Except ε (Option β)}

/-- The values that the elements give. -/
def readAll (read : ι → Except ε (Option β)) (elements : List ι) : Except ε (List β) := do
  let found ← elements.mapM read
  pure found.reduceOption

theorem readAll_eq_ok {elements : List ι} {values : List β} :
    readAll read elements = .ok values ↔ ∃ found,
      List.Forall₂ (fun element value => read element = .ok value) elements found ∧
        found.reduceOption = values := by
  simp only [readAll, bind_eq_ok, pure_eq_ok, mapM_eq_ok_iff]

@[simp] theorem readAll_nil : readAll read [] = .ok [] := rfl

theorem readAll_cons_eq_ok {first : ι} {rest : List ι} {values : List β} :
    readAll read (first :: rest) = .ok values ↔ ∃ found later, read first = .ok found ∧
      readAll read rest = .ok later ∧ values = found.toList ++ later := by
  simp only [readAll_eq_ok]
  constructor
  · rintro ⟨_, _ | ⟨here, each⟩, rfl⟩
    rename_i found others
    refine ⟨found, others.reduceOption, here, ⟨others, each, rfl⟩, ?_⟩
    cases found <;> rfl
  · rintro ⟨found, later, here, ⟨others, each, rfl⟩, rfl⟩
    refine ⟨found :: others, .cons here each, ?_⟩
    cases found <;> rfl

/-- A loop that adds what it reads is a loop over the values. -/
theorem foldlM_found_eq_ok {add : α → β → Except ε α} {turn : α → ι → Except ε α}
    (turns : ∀ state element,
      turn state element = read element >>= fun found => found.elim (pure state) (add state)) :
    ∀ {elements : List ι} {start result : α}, elements.foldlM turn start = .ok result ↔
      ∃ values, readAll read elements = .ok values ∧ values.foldlM add start = .ok result
  | [], start, result => by simp
  | first :: rest, start, result => by
      rw [List.foldlM_cons, bind_eq_ok]
      simp only [foldlM_found_eq_ok turns, readAll_cons_eq_ok, turns]
      constructor
      · rintro ⟨middle, here, later, rest, added⟩
        obtain ⟨found, isRead, next⟩ := bind_eq_ok.mp here
        cases found with
        | none =>
            obtain rfl := Except.ok.inj next
            exact ⟨later, ⟨none, later, isRead, rest, rfl⟩, added⟩
        | some value =>
            refine ⟨value :: later, ⟨some value, later, isRead, rest, rfl⟩, ?_⟩
            rw [List.foldlM_cons, bind_eq_ok]
            exact ⟨middle, next, added⟩
      · rintro ⟨_, ⟨found, later, isRead, rest, rfl⟩, added⟩
        cases found with
        | none => exact ⟨start, bind_eq_ok.mpr ⟨none, isRead, rfl⟩, later, rest, added⟩
        | some value =>
            rw [Option.toList_some, List.singleton_append, List.foldlM_cons, bind_eq_ok] at added
            obtain ⟨middle, next, added⟩ := added
            exact ⟨middle, bind_eq_ok.mpr ⟨some value, isRead, next⟩, later, rest, added⟩

/-- Elements in another order give the values in another order. -/
theorem readAll_perm {elements others : List ι} {values : List β} (same : others.Perm elements)
    (done : readAll read elements = .ok values) :
    ∃ again, readAll read others = .ok again ∧ again.Perm values := by
  obtain ⟨found, each, rfl⟩ := readAll_eq_ok.mp done
  obtain ⟨also, each, perm⟩ := List.perm_comp_forall₂ same each
  exact ⟨also.reduceOption, readAll_eq_ok.mpr ⟨also, each, rfl⟩, perm.filterMap id⟩

theorem mem_readAll {value : β} : ∀ {elements : List ι} {values : List β},
    readAll read elements = .ok values →
      (value ∈ values ↔ ∃ element ∈ elements, read element = .ok (some value))
  | [], values, done => by
      obtain rfl := Except.ok.inj done
      simp
  | first :: rest, values, done => by
      obtain ⟨found, later, here, readLater, rfl⟩ := readAll_cons_eq_ok.mp done
      rw [List.mem_append, Option.mem_toList, mem_readAll readLater,
        List.exists_mem_cons_iff, here, Except.ok.injEq]

/-- Each value is the first one in some order of the elements. -/
theorem readAll_first {elements : List ι} {values : List β} {value : β}
    (done : readAll read elements = .ok values) (member : value ∈ values) :
    ∃ others, others.Perm elements ∧ ∃ rest, readAll read others = .ok (value :: rest) := by
  obtain ⟨element, listed, isRead⟩ := (mem_readAll done).mp member
  obtain ⟨before, after, rfl⟩ := List.append_of_mem listed
  have same : (element :: (before ++ after)).Perm (before ++ element :: after) :=
    List.perm_middle.symm
  obtain ⟨again, readAgain, -⟩ := readAll_perm same done
  obtain ⟨found, later, here, -, rfl⟩ := readAll_cons_eq_ok.mp readAgain
  obtain rfl : some value = found := Except.ok.inj (isRead.symm.trans here)
  exact ⟨_, same, later, readAgain⟩

end Aegis.Lib.Readings
