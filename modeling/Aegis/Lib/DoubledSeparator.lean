/-
# Lib.DoubledSeparator — texts cut at a doubled separator

`splitDoubled mark text` is `text.split(separator)` for the separator that is one character
written twice: it cuts at the leftmost occurrence and goes on behind it.

A field without the separator can still end in the mark. Then the leftmost occurrence starts
inside the field, and the field loses its last character (`splitDoubled_cons_mark`). A field that
does not end in the mark is returned whole (`splitDoubled_append`).
-/
import Mathlib.Data.List.Basic
import Mathlib.Data.List.Infix
import Mathlib.Tactic.Common

namespace Aegis.Lib

set_option autoImplicit false

variable {α : Type} [DecidableEq α]

/-- `text.split(separator)` for the separator `mark mark`. -/
def splitDoubled (mark : α) : List α → List (List α)
  | [] => [[]]
  | [c] => [[c]]
  | c :: d :: rest =>
      if c = mark ∧ d = mark then [] :: splitDoubled mark rest
      else (splitDoubled mark (d :: rest)).modifyHead (c :: ·)

/-- The separator occurs in the text. -/
def Doubled (mark : α) (text : List α) : Prop := [mark, mark] <:+: text

instance (mark : α) (text : List α) : Decidable (Doubled mark text) :=
  inferInstanceAs (Decidable ([mark, mark] <:+: text))

variable {mark : α}

omit [DecidableEq α] in
theorem not_doubled_tail {c : α} {text : List α} (free : ¬ Doubled mark (c :: text)) :
    ¬ Doubled mark text :=
  fun found => free (List.IsInfix.trans found (List.suffix_cons c text).isInfix)

omit [DecidableEq α] in
theorem not_doubled_head {c d : α} {text : List α} (free : ¬ Doubled mark (c :: d :: text)) :
    ¬ (c = mark ∧ d = mark) := by
  rintro ⟨rfl, rfl⟩
  exact free ⟨[], text, rfl⟩

/-- A text without the separator is one piece. -/
theorem splitDoubled_of_free :
    ∀ {text : List α}, ¬ Doubled mark text → splitDoubled mark text = [text]
  | [], _ => rfl
  | [_], _ => rfl
  | c :: d :: rest, free => by
      rw [splitDoubled, if_neg (not_doubled_head free),
        splitDoubled_of_free (not_doubled_tail free)]
      rfl

/-- A field without the separator that does not end in the mark is cut off whole. -/
theorem splitDoubled_append (rest : List α) :
    ∀ {field : List α}, ¬ Doubled mark field → field.getLast? ≠ some mark →
      splitDoubled mark (field ++ mark :: mark :: rest) = field :: splitDoubled mark rest
  | [], _, _ => by
      show splitDoubled mark (mark :: mark :: rest) = _
      rw [splitDoubled, if_pos ⟨rfl, rfl⟩]
  | [c], _, open_ => by
      have other : c ≠ mark := fun same => open_ (by rw [same]; rfl)
      show splitDoubled mark (c :: mark :: mark :: rest) = _
      rw [splitDoubled, if_neg fun both => other both.1, splitDoubled, if_pos ⟨rfl, rfl⟩]
      rfl
  | c :: d :: field, free, open_ => by
      have here : splitDoubled mark (d :: field ++ mark :: mark :: rest) =
          (d :: field) :: splitDoubled mark rest := by
        apply splitDoubled_append rest (not_doubled_tail free)
        rwa [List.getLast?_cons_cons] at open_
      show splitDoubled mark (c :: d :: (field ++ mark :: mark :: rest)) = _
      rw [splitDoubled, if_neg (not_doubled_head free)]
      rw [List.cons_append] at here
      rw [here]
      rfl

omit [DecidableEq α] in
/-- A field without the separator that ends in the mark does so once. -/
theorem exists_of_getLast?_mark {field : List α} (free : ¬ Doubled mark field)
    (ends : field.getLast? = some mark) :
    ∃ start, field = start ++ [mark] ∧ ¬ Doubled mark start ∧ start.getLast? ≠ some mark := by
  obtain ⟨start, rfl⟩ := List.getLast?_eq_some_iff.mp ends
  refine ⟨start, rfl, fun found => free (found.trans (List.prefix_append _ _).isInfix), ?_⟩
  intro again
  obtain ⟨before, rfl⟩ := List.getLast?_eq_some_iff.mp again
  exact free ⟨before, [], by simp⟩

/-- A field that ends in the mark is cut before its last character. -/
theorem splitDoubled_cons_mark {start : List α} (rest : List α) (free : ¬ Doubled mark start)
    (open_ : start.getLast? ≠ some mark) :
    splitDoubled mark (start ++ [mark] ++ mark :: mark :: rest) =
      start :: splitDoubled mark (mark :: rest) := by
  rw [List.append_assoc]
  exact splitDoubled_append (mark :: rest) free open_

omit [DecidableEq α] in
/-- Two equal texts have the same first field, unless one field ends in the mark where what follows
the other's separator starts with it. -/
theorem field_of_append_eq {left right leftRest rightRest : List α}
    (isLeft : ¬ Doubled mark left) (isRight : ¬ Doubled mark right)
    (leftNext : leftRest.head? = some mark → right.getLast? ≠ some mark)
    (rightNext : rightRest.head? = some mark → left.getLast? ≠ some mark)
    (same : left ++ mark :: mark :: leftRest = right ++ mark :: mark :: rightRest) :
    left = right ∧ leftRest = rightRest := by
  -- the longer field would reach into the other's separator
  have longer : ∀ {short long after later : List α}, ¬ Doubled mark long →
      (after.head? = some mark → long.getLast? ≠ some mark) → short.length < long.length →
      short ++ mark :: mark :: after = long ++ mark :: mark :: later → False := by
    intro short long after later free next less equal
    obtain ⟨extra, rfl⟩ : short <+: long :=
      List.prefix_of_prefix_length_le (List.prefix_append short (mark :: mark :: after))
        (equal.symm ▸ List.prefix_append long (mark :: mark :: later)) (Nat.le_of_lt less)
    rw [List.append_assoc] at equal
    have shorter := List.append_cancel_left equal
    match extra with
    | [] => simp at less
    | [c] =>
        obtain ⟨rfl, rfl⟩ : mark = c ∧ after = mark :: later := by simpa using shorter
        exact next rfl List.getLast?_concat
    | c :: d :: extra =>
        obtain ⟨rfl, rfl, -⟩ : mark = c ∧ mark = d ∧ _ := by simpa using shorter
        exact free ⟨short, extra, by simp⟩
  have level : left.length = right.length := by
    by_contra uneven
    rcases Nat.lt_or_gt_of_ne uneven with less | less
    · exact longer isRight leftNext less same
    · exact longer isLeft rightNext less same.symm
  obtain ⟨fields, rests⟩ := List.append_inj same level
  exact ⟨fields, by simpa using rests⟩

end Aegis.Lib
