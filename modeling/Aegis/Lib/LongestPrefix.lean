/-
# Lib.LongestPrefix — the longest prefix that is admitted in turn

Entries are taken one after another from a queue; whether the next one is admitted depends on those
taken before it. `LongestPrefix admits entries taken` says that the taken entries were admitted in
turn and that every prefix that is admitted in turn is a prefix of them. A walk that stops at the
first refusal takes it (`nil`, `stop`, `cons`).
-/
import Mathlib.Data.List.Infix
import Mathlib.Tactic.Common

namespace Aegis.Lib

set_option autoImplicit false

universe u

variable {α : Type u} {admits : List α → α → Prop}

/-- Every entry was admitted behind the ones before it. -/
def AdmittedInTurn (admits : List α → α → Prop) (taken : List α) : Prop :=
  ∀ earlier next later, taken = earlier ++ next :: later → admits earlier next

structure LongestPrefix (admits : List α → α → Prop) (entries taken : List α) : Prop where
  isPrefix : taken <+: entries
  inTurn : AdmittedInTurn admits taken
  longest : ∀ other, other <+: entries → AdmittedInTurn admits other → other <+: taken

theorem admittedInTurn_nil : AdmittedInTurn admits [] := by
  intro earlier next later split
  simp at split

theorem admittedInTurn_cons {first : α} {taken : List α} :
    AdmittedInTurn admits (first :: taken) ↔
      admits [] first ∧ AdmittedInTurn (fun earlier => admits (first :: earlier)) taken := by
  constructor
  · intro inTurn
    refine ⟨inTurn [] first taken rfl, ?_⟩
    rintro earlier next later rfl
    exact inTurn (first :: earlier) next later rfl
  · rintro ⟨here, inTurn⟩ earlier next later split
    cases earlier with
    | nil =>
        obtain ⟨rfl, -⟩ := List.cons.inj split
        exact here
    | cons other earlier =>
        obtain ⟨rfl, rest⟩ := List.cons.inj split
        exact inTurn earlier next later rest

namespace LongestPrefix

theorem nil : LongestPrefix admits [] [] where
  isPrefix := List.prefix_rfl
  inTurn := admittedInTurn_nil
  longest _ isPrefix _ := isPrefix

/-- The first entry is refused. -/
theorem stop {first : α} (refused : ¬ admits [] first) (rest : List α) :
    LongestPrefix admits (first :: rest) [] where
  isPrefix := List.nil_prefix
  inTurn := admittedInTurn_nil
  longest other isPrefix inTurn := by
    cases other with
    | nil => exact List.prefix_rfl
    | cons head other =>
        obtain ⟨rfl, -⟩ := List.cons_prefix_cons.mp isPrefix
        exact absurd (admittedInTurn_cons.mp inTurn).1 refused

/-- The first entry is admitted. -/
theorem cons {first : α} {rest taken : List α} (admitted : admits [] first)
    (later : LongestPrefix (fun earlier => admits (first :: earlier)) rest taken) :
    LongestPrefix admits (first :: rest) (first :: taken) where
  isPrefix := List.cons_prefix_cons.mpr ⟨rfl, later.isPrefix⟩
  inTurn := admittedInTurn_cons.mpr ⟨admitted, later.inTurn⟩
  longest other isPrefix inTurn := by
    cases other with
    | nil => exact List.nil_prefix
    | cons head other =>
        obtain ⟨rfl, inside⟩ := List.cons_prefix_cons.mp isPrefix
        exact List.cons_prefix_cons.mpr
          ⟨rfl, later.longest other inside (admittedInTurn_cons.mp inTurn).2⟩

theorem congr {other : List α → α → Prop} {entries taken : List α}
    (same : ∀ earlier next, admits earlier next ↔ other earlier next)
    (longest : LongestPrefix admits entries taken) : LongestPrefix other entries taken := by
  have equal : admits = other := funext fun earlier => funext fun next => propext (same earlier next)
  exact equal ▸ longest

end LongestPrefix

end Aegis.Lib
