/-
# Lib.Successors — following a partial function

`revisits next` walks from a node to its successor and on, and stops where there is none or where a
node was seen before. A function that is defined on finitely many nodes is acyclic exactly when no
walk from one of them meets a node again (`acyclic_iff`).
-/
import Mathlib.Data.List.Basic
import Mathlib.Data.List.Perm.Subperm
import Mathlib.Logic.Relation

namespace Aegis.Lib

set_option autoImplicit false

universe u

variable {α : Type u} {next : α → Option α}

/-- One step of a walk. -/
def Follows (next : α → Option α) (node later : α) : Prop := next node = some later

/-- No walk comes back to where it started. -/
def Acyclic (next : α → Option α) : Prop := ∀ node, ¬ Relation.TransGen (Follows next) node node

/-- A walk of at most `fuel` steps meets one of the seen nodes or one of its own again. -/
def revisits [DecidableEq α] (next : α → Option α) : Nat → List α → α → Bool
  | 0, _, _ => false
  | fuel + 1, seen, node =>
      match next node with
      | none => false
      | some later => if node ∈ seen then true else revisits next fuel (node :: seen) later

/-- The successor of a node on a cycle is on a cycle. -/
theorem cycle_of_follows {node later : α} (cycle : Relation.TransGen (Follows next) node node)
    (step : Follows next node later) : Relation.TransGen (Follows next) later later := by
  obtain ⟨other, first, back⟩ := Relation.TransGen.head'_iff.mp cycle
  obtain rfl : later = other := Option.some.inj (step.symm.trans first)
  exact Relation.TransGen.tail' back step

/-- A walk that starts on a cycle never ends. -/
theorem next_ne_none_of_cycle {node other : α} (cycle : Relation.TransGen (Follows next) node node)
    (reached : Relation.ReflTransGen (Follows next) node other) : next other ≠ none := by
  have onCycle : Relation.TransGen (Follows next) other other := by
    induction reached with
    | refl => exact cycle
    | tail _ step ih => exact cycle_of_follows ih step
  obtain ⟨later, first, -⟩ := Relation.TransGen.head'_iff.mp onCycle
  have held : next other = some later := first
  rw [held]
  exact Option.some_ne_none later

section Walk

variable [DecidableEq α]

/-- A walk that never ends meets a node again before it has seen every node. -/
theorem revisits_of_endless {nodes : List α} (within : ∀ node, next node ≠ none → node ∈ nodes)
    {fuel : Nat} {seen : List α} {node : α} (distinct : seen.Nodup) (known : seen ⊆ nodes)
    (enough : nodes.length < seen.length + fuel)
    (endless : ∀ other, Relation.ReflTransGen (Follows next) node other → next other ≠ none) :
    revisits next fuel seen node = true := by
  induction fuel generalizing seen node with
  | zero =>
      have few := (List.subperm_of_subset distinct known).length_le
      omega
  | succ fuel ih =>
      have defined := endless node .refl
      obtain ⟨later, held⟩ := Option.ne_none_iff_exists'.mp defined
      simp only [revisits, held]
      by_cases again : node ∈ seen
      · rw [if_pos again]
      · rw [if_neg again]
        apply ih
        · exact List.nodup_cons.mpr ⟨again, distinct⟩
        · exact List.cons_subset.mpr ⟨within node defined, known⟩
        · simp only [List.length_cons]
          omega
        · intro other reached
          exact endless other (.head held reached)

/-- A walk meets a node again only on a cycle. -/
theorem cycle_of_revisits {fuel : Nat} {seen : List α} {node : α}
    (passed : ∀ other ∈ seen, Relation.TransGen (Follows next) other node)
    (again : revisits next fuel seen node = true) :
    ∃ other, Relation.TransGen (Follows next) other other := by
  induction fuel generalizing seen node with
  | zero => cases again
  | succ fuel ih =>
      cases held : next node with
      | none => simp [revisits, held] at again
      | some later =>
          simp only [revisits, held] at again
          by_cases met : node ∈ seen
          · exact ⟨node, passed node met⟩
          · rw [if_neg met] at again
            refine ih ?_ again
            intro other member
            rcases List.mem_cons.mp member with rfl | earlier
            · exact .single held
            · exact (passed other earlier).tail held

/-- **The walks from its nodes decide whether a function is acyclic.** -/
theorem acyclic_iff {nodes : List α} (within : ∀ node, next node ≠ none → node ∈ nodes) :
    Acyclic next ↔ ∀ node ∈ nodes, revisits next (nodes.length + 1) [] node = false := by
  constructor
  · intro acyclic node _
    apply Bool.eq_false_iff.mpr
    intro again
    obtain ⟨other, cycle⟩ := cycle_of_revisits nofun again
    exact acyclic other cycle
  · intro never node cycle
    have defined := next_ne_none_of_cycle cycle .refl
    have again := revisits_of_endless within List.nodup_nil (by simp)
      (by simp : nodes.length < ([] : List α).length + (nodes.length + 1))
      (fun other => next_ne_none_of_cycle cycle)
    rw [never node (within node defined)] at again
    cases again

end Walk

end Aegis.Lib
