/-
# Lib.Forest — labelled trees, and their labels in preorder

A forest is a list of trees. What a traversal collects of it does not depend on how the forest hangs
together: permuting siblings and moving a subtree elsewhere permute the labels, and a graft adds the
labels of what it grafts (`labelsOf_perm_of_permuted`, `Moved.perm`, `Grafted.perm`).
-/
import Mathlib.Data.List.Perm.Basic

namespace Aegis.Lib

set_option autoImplicit false

universe u

/-- A rose tree. -/
inductive Tree (α : Type u) where
  | node (label : α) (children : List (Tree α))

namespace Tree

variable {α : Type u}

mutual

/-- The labels of a tree, each node before its children. -/
def labels : Tree α → List α
  | .node label children => label :: labelsOf children

/-- The labels of a forest. -/
def labelsOf : List (Tree α) → List α
  | [] => []
  | tree :: later => tree.labels ++ labelsOf later

end

@[simp] theorem labelsOf_append (left right : List (Tree α)) :
    labelsOf (left ++ right) = labelsOf left ++ labelsOf right := by
  induction left with
  | nil => rfl
  | cons tree later ih => rw [List.cons_append, labelsOf, labelsOf, ih, List.append_assoc]

@[simp] theorem labelsOf_cons (tree : Tree α) (later : List (Tree α)) :
    labelsOf (tree :: later) = tree.labels ++ labelsOf later := by
  rw [labelsOf]

@[simp] theorem labels_node (label : α) (children : List (Tree α)) :
    (Tree.node label children).labels = label :: labelsOf children := by
  rw [labels]

theorem labels_leaf (label : α) : (Tree.node label []).labels = [label] := by
  rw [labels_node, labelsOf]

/-- A forest with one more subtree somewhere in it. -/
inductive Grafted (tree : Tree α) : List (Tree α) → List (Tree α) → Prop
  | here (left right : List (Tree α)) : Grafted tree (left ++ right) (left ++ tree :: right)
  | within {children children' : List (Tree α)} (label : α) (left right : List (Tree α))
      (inner : Grafted tree children children') :
      Grafted tree (left ++ .node label children :: right) (left ++ .node label children' :: right)

/-- A forest with the siblings at one place permuted. -/
inductive Permuted : List (Tree α) → List (Tree α) → Prop
  | here {before after : List (Tree α)} (perm : before.Perm after) : Permuted before after
  | within {children children' : List (Tree α)} (label : α) (left right : List (Tree α))
      (inner : Permuted children children') :
      Permuted (left ++ .node label children :: right) (left ++ .node label children' :: right)

/-- A forest with one subtree taken out and put in elsewhere. -/
def Moved (before after : List (Tree α)) : Prop :=
  ∃ tree rest, Grafted tree rest before ∧ Grafted tree rest after

/-- What happens to the children of one node happens to the labels of the forest. -/
theorem labelsOf_perm_below {children children' : List (Tree α)} {extra : List α} (label : α)
    (left right : List (Tree α)) (perm : (labelsOf children').Perm (extra ++ labelsOf children)) :
    (labelsOf (left ++ .node label children' :: right)).Perm
      (extra ++ labelsOf (left ++ .node label children :: right)) := by
  simp only [labelsOf_append, labelsOf_cons, labels_node]
  have inner : (label :: labelsOf children' ++ labelsOf right).Perm
      (extra ++ (label :: labelsOf children ++ labelsOf right)) := by
    refine ((perm.cons label).append_right _).trans ?_
    rw [← List.append_assoc]
    exact List.perm_middle.symm.append_right _
  refine (inner.append_left _).trans ?_
  rw [← List.append_assoc, ← List.append_assoc extra]
  exact List.perm_append_comm.append_right _

/-- **A graft adds the labels of what it grafts.** -/
theorem Grafted.perm {tree : Tree α} {before after : List (Tree α)}
    (grafted : Grafted tree before after) : (labelsOf after).Perm (tree.labels ++ labelsOf before) := by
  induction grafted with
  | here left right =>
      simp only [labelsOf_append, labelsOf_cons, ← List.append_assoc]
      exact List.perm_append_comm.append_right _
  | within label left right _ ih => exact labelsOf_perm_below label left right ih

theorem labelsOf_perm {before after : List (Tree α)} (perm : before.Perm after) :
    (labelsOf before).Perm (labelsOf after) := by
  induction perm with
  | nil => exact .refl _
  | cons tree _ ih =>
      rw [labelsOf_cons, labelsOf_cons]
      exact ih.append_left _
  | swap first second later =>
      simp only [labelsOf_cons, ← List.append_assoc]
      exact List.perm_append_comm.append_right _
  | trans _ _ first second => exact first.trans second

/-- **Permuting siblings permutes the labels.** -/
theorem labelsOf_perm_of_permuted {before after : List (Tree α)} (permuted : Permuted before after) :
    (labelsOf before).Perm (labelsOf after) := by
  induction permuted with
  | here perm => exact labelsOf_perm perm
  | within label left right _ ih =>
      have inner : (labelsOf _).Perm ([] ++ labelsOf _) := ih.symm
      exact (labelsOf_perm_below label left right inner).symm

/-- **Moving a subtree permutes the labels.** -/
theorem Moved.perm {before after : List (Tree α)} (moved : Moved before after) :
    (labelsOf before).Perm (labelsOf after) := by
  obtain ⟨tree, rest, out, back⟩ := moved
  exact out.perm.trans back.perm.symm

end Tree

end Aegis.Lib
