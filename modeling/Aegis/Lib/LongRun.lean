/-
# Lib.LongRun — a counter that finds long constant runs

`longRun` walks a list and counts how often in a row an element repeated the one before it; the
counter starts again at one wherever it did not. It reaches the threshold exactly when the list has
a window of that many equal elements (`longRun_iff`), where only elements of one kind count as
repeated.
-/
import Mathlib.Data.List.Infix
import Mathlib.Tactic.Common

namespace Aegis.Lib

set_option autoImplicit false

universe u

variable {α : Type u} [DecidableEq α]

/-- The counter reaches the threshold: with the element before and how often it stood in a row. -/
def longRun (counts : α → Bool) (threshold : Nat) : α → Nat → List α → Bool
  | _, _, [] => false
  | previous, consecutive, current :: rest =>
      let consecutive := if current = previous ∧ counts current = true then consecutive + 1 else 1
      if threshold ≤ consecutive then true else longRun counts threshold current consecutive rest

variable {counts : α → Bool} {threshold : Nat}

/-- Some window of the list is constant. -/
def HasWindow (counts : α → Bool) (threshold : Nat) (elements : List α) : Prop :=
  ∃ repeated, counts repeated = true ∧ List.replicate threshold repeated <:+: elements

omit [DecidableEq α] in
theorem HasWindow.suffix {elements later : List α} (suffix : later <:+ elements)
    (window : HasWindow counts threshold later) : HasWindow counts threshold elements := by
  obtain ⟨repeated, counted, infix_⟩ := window
  exact ⟨repeated, counted, infix_.trans suffix.isInfix⟩

omit [DecidableEq α] in
/-- No window reaches over a place where the run was broken. -/
theorem HasWindow.after_break {previous current : α} {consecutive : Nat} {rest : List α}
    (short : consecutive < threshold) (broken : ¬ (current = previous ∧ counts current = true))
    (window : HasWindow counts threshold (List.replicate consecutive previous ++ current :: rest)) :
    HasWindow counts threshold (current :: rest) := by
  obtain ⟨repeated, counted, before, after, split⟩ := window
  rw [List.append_assoc] at split
  by_cases starts : consecutive ≤ before.length
  · -- the window starts behind the break
    refine ⟨repeated, counted, before.drop consecutive, after, ?_⟩
    have dropped := congrArg (List.drop consecutive) split
    rw [List.drop_append_of_le_length starts, List.drop_left' (List.length_replicate)] at dropped
    rw [List.append_assoc]
    exact dropped
  · -- the window holds the two elements beside the break
    have at_ : ∀ i, before.length ≤ i → i < before.length + threshold →
        (List.replicate consecutive previous ++ current :: rest)[i]? = some repeated := by
      intro i least most
      rw [← split, List.getElem?_append_right least, List.getElem?_append_left (by simp; omega),
        List.getElem?_replicate, if_pos (by omega)]
    have left := at_ (consecutive - 1) (by omega) (by omega)
    have right := at_ consecutive (by omega) (by omega)
    rw [List.getElem?_append_left (by simp; omega), List.getElem?_replicate,
      if_pos (by omega)] at left
    rw [List.getElem?_append_right (by simp), List.length_replicate, Nat.sub_self,
      List.getElem?_cons_zero] at right
    obtain rfl := Option.some.inj left
    obtain rfl := Option.some.inj right
    exact absurd ⟨rfl, counted⟩ broken

/-- With a run of `consecutive` elements behind it, the walk finds a window of them and the rest. -/
theorem longRun_iff_hasWindow {previous : α} {consecutive : Nat} {rest : List α}
    (least : 1 ≤ consecutive) (short : consecutive < threshold) :
    longRun counts threshold previous consecutive rest = true ↔
      HasWindow counts threshold (List.replicate consecutive previous ++ rest) := by
  induction rest generalizing previous consecutive with
  | nil =>
      constructor
      · intro found
        cases found
      · rintro ⟨repeated, -, infix_⟩
        have longer := infix_.length_le
        simp only [List.append_nil, List.length_replicate] at longer
        omega
  | cons current rest ih =>
      unfold longRun
      by_cases stalled : current = previous ∧ counts current = true
      · simp only [if_pos stalled]
        obtain ⟨rfl, counted⟩ := stalled
        have grown : List.replicate consecutive current ++ current :: rest =
            List.replicate (consecutive + 1) current ++ rest := by
          rw [List.replicate_succ', List.append_assoc, List.singleton_append]
        rw [grown]
        by_cases reached : threshold ≤ consecutive + 1
        · rw [if_pos reached]
          have same : threshold = consecutive + 1 := by omega
          exact ⟨fun _ => ⟨current, counted, same ▸ (List.prefix_append _ _).isInfix⟩, fun _ => rfl⟩
        · rw [if_neg reached]
          exact ih (by omega) (by omega)
      · simp only [if_neg stalled]
        rw [if_neg (by omega), ih (Nat.le_refl 1) (by omega)]
        constructor
        · exact fun window => window.suffix (List.suffix_append _ _)
        · exact fun window => window.after_break short stalled

/-- **The counter finds exactly the constant windows** of at least two elements. -/
theorem longRun_iff {first : α} {rest : List α} (two : 2 ≤ threshold) :
    longRun counts threshold first 1 rest = true ↔ HasWindow counts threshold (first :: rest) :=
  longRun_iff_hasWindow (Nat.le_refl 1) two

end Aegis.Lib
