/-
# Lib.Table — relations with uniqueness constraints

A database table keeps its rows in insertion order and refuses a row that
repeats a primary key or a unique column. `Constrained` names the conflicts of a
row type; a `Table` carries the proof that no two of its rows conflict, so a
table that breaks its own schema cannot be built.

* `Table.insert_eq_ok`: an insert succeeds exactly without a conflict;
* `Table.eq_of_conflict`: two rows of a table that conflict are one row;
* `Table.delete`, `Table.update`: the writes that keep every constraint.
-/
import Mathlib.Data.List.Pairwise
import Aegis.Lib.Guarded

namespace Aegis.Lib

open Aegis.Lib.Guarded

set_option autoImplicit false

universe u v

/-- The uniqueness constraints of a row type: which rows cannot stand together. -/
class Constrained (ρ : Type u) where
  Conflict : ρ → ρ → Prop
  decidable : ∀ a b, Decidable (Conflict a b)
  symm : ∀ a b, Conflict a b → Conflict b a

export Constrained (Conflict)

instance {ρ : Type u} [Constrained ρ] (a b : ρ) : Decidable (Conflict a b) :=
  Constrained.decidable a b

/-- The rows of a table in insertion order, no two of them in conflict. -/
structure Table (ρ : Type u) [Constrained ρ] where
  rows : List ρ
  unique : rows.Pairwise (fun a b => ¬ Conflict a b)

namespace Table

variable {ρ : Type u} [Constrained ρ]

instance [DecidableEq ρ] : DecidableEq (Table ρ) := fun a b =>
  decidable_of_iff (a.rows = b.rows) (by cases a; cases b; simp)

instance : Membership ρ (Table ρ) := ⟨fun table row => row ∈ table.rows⟩

variable {table : Table ρ} {row : ρ}

@[simp] theorem mem_rows : row ∈ table.rows ↔ row ∈ table := Iff.rfl

@[ext] theorem ext {a b : Table ρ} (same : a.rows = b.rows) : a = b := by
  cases a
  cases b
  simp_all

def empty : Table ρ := ⟨[], .nil⟩

@[simp] theorem not_mem_empty : ¬ row ∈ (empty : Table ρ) := by
  simp [← mem_rows, empty]

/-- The first row that meets a condition, as `fetchone` returns it. -/
def find? (table : Table ρ) (condition : ρ → Bool) : Option ρ :=
  table.rows.find? condition

/-- Whether some row meets a condition. -/
def any (table : Table ρ) (condition : ρ → Bool) : Bool :=
  table.rows.any condition

variable {condition : ρ → Bool}

@[simp] theorem any_eq_true :
    table.any condition = true ↔ ∃ row ∈ table, condition row = true := by
  simp [any]

@[simp] theorem any_eq_false :
    table.any condition = false ↔ ∀ row ∈ table, condition row = false := by
  simp [any]

theorem mem_of_find? (found : table.find? condition = some row) :
    row ∈ table ∧ condition row = true :=
  ⟨List.mem_of_find?_eq_some found, List.find?_some found⟩

theorem find?_eq_none :
    table.find? condition = none ↔ ∀ row ∈ table, condition row = false := by
  simp [find?]

theorem isSome_find? :
    (table.find? condition).isSome = true ↔ ∃ row ∈ table, condition row = true := by
  simp [find?, List.find?_isSome]

/-- Two rows of a table that conflict are the same row. -/
theorem eq_of_conflict {a b : ρ} (left : a ∈ table) (right : b ∈ table) (conflict : Conflict a b) :
    a = b := by
  by_contra different
  have : Std.Symm (fun x y : ρ => ¬ Conflict x y) :=
    ⟨fun _ _ apart both => apart (Constrained.symm _ _ both)⟩
  exact table.unique.forall left right different conflict

/-- A condition that only one conflict class can meet finds its one row. -/
theorem find?_eq_some (member : row ∈ table) (meets : condition row = true)
    (only : ∀ other ∈ table, condition other = true → Conflict other row) :
    table.find? condition = some row := by
  cases found : table.find? condition with
  | none =>
      have := find?_eq_none.mp found row member
      simp [meets] at this
  | some other =>
      obtain ⟨otherMember, otherMeets⟩ := mem_of_find? found
      rw [eq_of_conflict otherMember member (only other otherMember otherMeets)]

/-- Insert a row; the constraints refuse it when it conflicts with a stored one. -/
def insert {ε : Type v} (table : Table ρ) (row : ρ) (error : ε) : Except ε (Table ρ) :=
  if fresh : ∀ stored ∈ table.rows, ¬ Conflict stored row then
    .ok ⟨table.rows ++ [row], by
      rw [List.pairwise_append]
      exact ⟨table.unique, List.pairwise_singleton _ _, by simpa using fresh⟩⟩
  else .error error

variable {ε : Type v}

@[simp] theorem insert_eq_ok {next : Table ρ} {error : ε} :
    table.insert row error = .ok next ↔
      (∀ stored ∈ table, ¬ Conflict stored row) ∧ next.rows = table.rows ++ [row] := by
  unfold insert
  split
  · rename_i fresh
    simp only [Except.ok.injEq]
    refine ⟨fun eq => ⟨fresh, by rw [← eq]⟩, fun eq => ext eq.2.symm⟩
  · rename_i stale
    simp only [reduceCtorEq, false_iff, not_and]
    intro fresh
    exact absurd fresh stale

/-- A row without a conflict is inserted. -/
theorem exists_insert (error : ε) (fresh : ∀ stored ∈ table, ¬ Conflict stored row) :
    ∃ next, table.insert row error = .ok next ∧ next.rows = table.rows ++ [row] := by
  unfold insert
  rw [dif_pos (show ∀ stored ∈ table.rows, ¬ Conflict stored row from fresh)]
  exact ⟨_, rfl, rfl⟩

theorem mem_of_insert {next : Table ρ} {error : ε} (inserted : table.insert row error = .ok next)
    (other : ρ) :
    other ∈ next ↔ other ∈ table ∨ other = row := by
  rw [insert_eq_ok] at inserted
  simp [← mem_rows, inserted.2]

/-- An insert keeps the rows of the table. -/
theorem mem_of_mem_insert {next : Table ρ} {other : ρ} {error : ε}
    (inserted : table.insert row error = .ok next) (member : other ∈ table) : other ∈ next :=
  (mem_of_insert inserted other).mpr (.inl member)

/-- Delete the rows that meet a condition. -/
def delete (table : Table ρ) (condition : ρ → Bool) : Table ρ :=
  ⟨table.rows.filter (fun row => !condition row), table.unique.filter _⟩

@[simp] theorem mem_delete :
    row ∈ table.delete condition ↔ row ∈ table ∧ condition row = false := by
  simp [← mem_rows, delete]

/-- Rewrite columns of the rows that meet a condition; a rewrite that leaves the
constrained columns alone keeps every constraint. -/
def update (table : Table ρ) (condition : ρ → Bool) (rewrite : ρ → ρ)
    (keeps : ∀ a b, Conflict (rewrite a) b ↔ Conflict a b) : Table ρ :=
  ⟨table.rows.map (fun row => if condition row then rewrite row else row), by
    rw [List.pairwise_map]
    refine table.unique.imp ?_
    intro a b apart
    have both : ∀ x y, Conflict x (rewrite y) ↔ Conflict x y := fun x y =>
      ⟨fun h => Constrained.symm _ _ ((keeps y x).mp (Constrained.symm _ _ h)),
        fun h => Constrained.symm _ _ ((keeps y x).mpr (Constrained.symm _ _ h))⟩
    split <;> split <;> simp_all⟩

@[simp] theorem mem_update {rewrite : ρ → ρ} {keeps : ∀ a b, Conflict (rewrite a) b ↔ Conflict a b} :
    row ∈ table.update condition rewrite keeps ↔
      ∃ old ∈ table, (if condition old then rewrite old else old) = row := by
  simp [← mem_rows, update]

end Table

end Aegis.Lib
