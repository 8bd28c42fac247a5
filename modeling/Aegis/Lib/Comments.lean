/-
# Lib.Comments — a text without its comments

A comment runs from an opening mark to the first closing mark behind it. `Marks.strip` leaves the
comments of a text out; the text may start inside of one. Where no mark holds the line separator, the
comments are left out line by line (`splitOn_strip`), and two scans that agree on every line, but for
whole lines that are read outside of comments, agree on what they leave (`Alike.scanLines`).
-/
import Mathlib.Data.List.Forall2
import Mathlib.Tactic.Common

namespace Aegis.Lib

set_option autoImplicit false

variable {α : Type} [DecidableEq α]

/-! ## The first occurrence -/

/-- What stands before the first `mark` of a text and what stands behind it. -/
def cutAt (mark : List α) : List α → Option (List α × List α)
  | [] => none
  | c :: rest =>
      match mark.isPrefixOf? (c :: rest) with
      | some after => some ([], after)
      | none => (cutAt mark rest).map fun cut => (c :: cut.1, cut.2)

theorem cutAt_eq_some {mark text before after : List α}
    (cut : cutAt mark text = some (before, after)) : text = before ++ mark ++ after := by
  induction text generalizing before with
  | nil => cases cut
  | cons c rest ih =>
      unfold cutAt at cut
      split at cut
      · rename_i found
        cases cut
        exact (List.isPrefixOf?_eq_some_iff_append_eq.mp found).symm
      · obtain ⟨⟨front, back⟩, later, same⟩ := Option.map_eq_some_iff.mp cut
        cases same
        rw [ih later]
        simp

/-- A mark does not start at a character that it does not start with. -/
theorem cutAt_free {c : α} {front : List α} (free : c ∉ front) (mark text : List α) :
    cutAt (c :: mark) (front ++ text) =
      (cutAt (c :: mark) text).map fun cut => (front ++ cut.1, cut.2) := by
  induction front with
  | nil => simp
  | cons d front ih =>
      obtain ⟨other, free⟩ := not_or.mp (List.mem_cons.not.mp free)
      have apart : (c :: mark).isPrefixOf? (d :: (front ++ text)) = none := by
        simp [List.isPrefixOf?, other]
      rw [List.cons_append, cutAt, apart]
      simp only [ih free, Option.map_map]
      rfl

theorem cutAt_mark {c : α} {mark : List α} (after : List α) :
    cutAt (c :: mark) (c :: mark ++ after) = some ([], after) := by
  have found : (c :: mark).isPrefixOf? (c :: (mark ++ after)) = some after :=
    List.isPrefixOf?_eq_some_iff_append_eq.mpr rfl
  rw [List.cons_append, cutAt, found]

theorem isPrefixOf?_append {mark text more : List α} (within : mark <+: text ++ more → mark <+: text) :
    mark.isPrefixOf? (text ++ more) = (mark.isPrefixOf? text).map (· ++ more) := by
  cases found : mark.isPrefixOf? text with
  | some after =>
      rw [List.isPrefixOf?_eq_some_iff_append_eq] at found
      rw [Option.map_some, List.isPrefixOf?_eq_some_iff_append_eq, ← List.append_assoc, found]
  | none =>
      rw [Option.map_none, Option.eq_none_iff_forall_ne_some]
      intro after longer
      obtain ⟨rest, fits⟩ := within ⟨after, List.isPrefixOf?_eq_some_iff_append_eq.mp longer⟩
      rw [List.isPrefixOf?_eq_some_iff_append_eq.mpr fits] at found
      cases found

/-- A mark is found where it was, whatever follows. -/
theorem cutAt_append {mark text before after : List α} (cut : cutAt mark text = some (before, after))
    (more : List α) : cutAt mark (text ++ more) = some (before, after ++ more) := by
  induction text generalizing before with
  | nil => cases cut
  | cons c rest ih =>
      have room : mark.length ≤ (c :: rest).length := by
        rw [cutAt_eq_some cut]
        simp only [List.length_append]
        omega
      have within : mark <+: c :: rest ++ more → mark <+: c :: rest := fun longer =>
        List.prefix_of_prefix_length_le longer (List.prefix_append _ _) room
      unfold cutAt at cut
      rw [List.cons_append, cutAt, ← List.cons_append, isPrefixOf?_append within]
      split at cut
      · rename_i found
        cases cut
        rw [found, Option.map_some]
      · rename_i missing
        obtain ⟨⟨front, back⟩, later, pair⟩ := Option.map_eq_some_iff.mp cut
        cases pair
        rw [missing, Option.map_none, ih later, Option.map_some]

/-- A mark without the separator lies in one line. -/
theorem cutAt_line {sep : α} {mark : List α} (free : sep ∉ mark) (nonempty : mark ≠ [])
    (line rest : List α) :
    cutAt mark (line ++ sep :: rest) = match cutAt mark line with
      | some cut => some (cut.1, cut.2 ++ sep :: rest)
      | none => (cutAt mark rest).map fun cut => (line ++ sep :: cut.1, cut.2) := by
  induction line with
  | nil =>
      obtain ⟨first, others, rfl⟩ := List.exists_cons_of_ne_nil nonempty
      have other : first ≠ sep := fun same => free (same ▸ List.mem_cons_self ..)
      simp [cutAt, List.isPrefixOf?, other]
  | cons c line ih =>
      have within : mark <+: c :: line ++ sep :: rest → mark <+: c :: line := by
        intro longer
        by_cases short : mark.length ≤ (c :: line).length
        · exact List.prefix_of_prefix_length_le longer (List.prefix_append _ _) short
        · have whole : c :: line ++ [sep] <+: mark :=
            List.prefix_of_prefix_length_le (by simp) longer (by simp at short ⊢; omega)
          exact absurd (whole.subset (by simp)) free
      rw [List.cons_append, cutAt, ← List.cons_append, isPrefixOf?_append within, cutAt]
      cases mark.isPrefixOf? (c :: line) with
      | some after => rfl
      | none =>
          simp only [Option.map_none, ih]
          cases cutAt mark line
          · simp [Function.comp_def]
          · simp

/-! ## Without comments -/

/-- The marks that open and close a comment. -/
structure Marks (α : Type) where
  opener : List α
  closer : List α
  opens : opener ≠ []
  closes : closer ≠ []

namespace Marks

variable (marks : Marks α)

omit [DecidableEq α] in
theorem length_after {text before mark after : List α} (nonempty : mark ≠ [])
    (cut : text = before ++ mark ++ after) : after.length < text.length := by
  have positive := List.length_pos_of_ne_nil nonempty
  rw [cut]
  simp only [List.length_append]
  omega

/-- What a text shows, and whether a comment is open behind it; the text may start inside of one. -/
def strip : Bool → List α → List α × Bool
  | false, text =>
      match _found : cutAt marks.opener text with
      | none => (text, false)
      | some (before, after) => (before ++ (strip true after).1, (strip true after).2)
  | true, text =>
      match _found : cutAt marks.closer text with
      | none => ([], true)
      | some (_, after) => strip false after
termination_by _ text => text.length
decreasing_by
  all_goals first
    | exact length_after marks.opens (cutAt_eq_some ‹_›)
    | exact length_after marks.closes (cutAt_eq_some ‹_›)

theorem strip_visible (text : List α) : marks.strip false text =
    match cutAt marks.opener text with
    | none => (text, false)
    | some (before, after) => (before ++ (marks.strip true after).1, (marks.strip true after).2) := by
  rw [strip]
  split <;> rename_i found <;> rw [found]

theorem strip_inside (text : List α) : marks.strip true text =
    match cutAt marks.closer text with
    | none => ([], true)
    | some (_, after) => marks.strip false after := by
  rw [strip]
  split <;> rename_i found <;> rw [found]

/-- What is shown stood in the text. -/
theorem strip_subset {inside : Bool} {text : List α} : (marks.strip inside text).1 ⊆ text := by
  fun_induction marks.strip inside text with
  | case1 text none => exact List.Subset.refl _
  | case2 text before after found ih =>
      rw [cutAt_eq_some found]
      intro c member
      rcases List.mem_append.mp member with front | back
      · simp [front]
      · simp [ih back]
  | case3 text none => exact List.nil_subset _
  | case4 text before after found ih =>
      rw [cutAt_eq_some found]
      intro c member
      simp [ih member]

end Marks

/-! ## Line by line -/

/-- The lines that a scan leaves: a line that ends inside of a comment goes on with the next one. -/
def scanLines {β : Type} (read : Bool → β → List α × Bool) : Bool → List β → List (List α)
  | _, [] => [[]]
  | inside, [line] => [(read inside line).1]
  | inside, line :: next :: rest =>
      if (read inside line).2 = true then
        (scanLines read true (next :: rest)).modifyHead ((read inside line).1 ++ ·)
      else (read inside line).1 :: scanLines read false (next :: rest)

omit [DecidableEq α] in
theorem scanLines_cons {β : Type} (read : Bool → β → List α × Bool) (inside : Bool) (line : β)
    {rest : List β} (more : rest ≠ []) :
    scanLines read inside (line :: rest) =
      if (read inside line).2 = true then
        (scanLines read true rest).modifyHead ((read inside line).1 ++ ·)
      else (read inside line).1 :: scanLines read false rest := by
  obtain ⟨next, rest, rfl⟩ := List.exists_cons_of_ne_nil more
  rw [scanLines]

theorem splitOn_append {sep : α} {front : List α} (free : sep ∉ front) (text : List α) :
    (front ++ text).splitOn sep = (text.splitOn sep).modifyHead (front ++ ·) := by
  induction front with
  | nil =>
      rw [List.nil_append]
      cases text.splitOn sep <;> rfl
  | cons c front ih =>
      obtain ⟨other, free⟩ := not_or.mp (List.mem_cons.not.mp free)
      rw [List.cons_append, List.splitOn_cons_eq_if_modifyHead, if_neg (by simpa using Ne.symm other),
        ih free, List.modifyHead_modifyHead]
      rfl

namespace Marks

variable (marks : Marks α) {sep : α}

/-- The comments of a text are left out line by line. -/
theorem strip_line (opener : sep ∉ marks.opener) (closer : sep ∉ marks.closer) (inside : Bool)
    (line rest : List α) :
    (marks.strip inside (line ++ sep :: rest)).1 = (marks.strip inside line).1 ++
      if (marks.strip inside line).2 = true then (marks.strip true rest).1
      else sep :: (marks.strip false rest).1 := by
  fun_induction marks.strip inside line with
  | case1 line none =>
      rw [strip_visible, cutAt_line opener marks.opens, none]
      rw [marks.strip_visible rest]
      cases cutAt marks.opener rest <;> simp
  | case2 line before after found ih =>
      rw [strip_visible, cutAt_line opener marks.opens, found]
      simp only [ih, List.append_assoc]
  | case3 line none =>
      rw [strip_inside, cutAt_line closer marks.closes, none]
      rw [marks.strip_inside rest]
      cases cutAt marks.closer rest <;> simp
  | case4 line before after found ih =>
      rw [strip_inside, cutAt_line closer marks.closes, found]
      exact ih

theorem splitOn_strip (opener : sep ∉ marks.opener) (closer : sep ∉ marks.closer)
    {lines : List (List α)} (plain : ∀ line ∈ lines, sep ∉ line) (inside : Bool) :
    (marks.strip inside ([sep].intercalate lines)).1.splitOn sep =
      scanLines marks.strip inside lines := by
  induction lines generalizing inside with
  | nil =>
      have none : (marks.strip inside []).1 = [] :=
        List.subset_nil.mp marks.strip_subset
      simp [List.intercalate, none, scanLines]
  | cons line rest ih =>
      obtain ⟨first, others⟩ := List.forall_mem_cons.mp plain
      have shown : sep ∉ (marks.strip inside line).1 := fun member => first (marks.strip_subset member)
      rcases rest with _ | ⟨next, rest⟩
      · rw [List.intercalate_singleton, List.splitOn_eq_singleton shown, scanLines]
      · rw [List.intercalate_cons_cons, List.append_assoc, List.singleton_append,
          marks.strip_line opener closer, splitOn_append shown, scanLines]
        cases (marks.strip inside line).2 with
        | true => simp only [if_pos, ih others]
        | false =>
            have apart := List.splitOn_append_cons_self (a := sep) []
              (marks.strip false ([sep].intercalate (next :: rest))).1
            simp_all

end Marks

/-! ## Two scans -/

/-- Two scans that are in one state behind every line, and read it alike or, where both are outside of
comments, as related whole lines. -/
inductive Alike {β γ : Type} (left : Bool → β → List α × Bool) (right : Bool → γ → List α × Bool)
    (Related : List α → List α → Prop) : Bool → List β → List γ → Prop where
  | nil (inside : Bool) : Alike left right Related inside [] []
  | same {inside : Bool} {line : β} {other : γ} {rest : List β} {others : List γ}
      (equal : left inside line = right inside other)
      (later : Alike left right Related (left inside line).2 rest others) :
      Alike left right Related inside (line :: rest) (other :: others)
  | whole {line : β} {other : γ} {rest : List β} {others : List γ}
      (isLeft : (left false line).2 = false) (isRight : (right false other).2 = false)
      (related : Related (left false line).1 (right false other).1)
      (later : Alike left right Related false rest others) :
      Alike left right Related false (line :: rest) (other :: others)

namespace Alike

variable {β γ : Type} {left : Bool → β → List α × Bool} {right : Bool → γ → List α × Bool}
  {Related : List α → List α → Prop}

omit [DecidableEq α] in
theorem nil_iff {inside : Bool} {lines : List β} {others : List γ}
    (alike : Alike left right Related inside lines others) : lines = [] ↔ others = [] := by
  cases alike <;> simp

omit [DecidableEq α] in
/-- They leave the same lines, but for related ones. -/
theorem scanLines {inside : Bool} {lines : List β} {others : List γ}
    (alike : Alike left right Related inside lines others) :
    List.Forall₂ (fun one other => one = other ∨ Related one other)
        (Lib.scanLines left inside lines) (Lib.scanLines right inside others) ∧
      (inside = true →
        (Lib.scanLines left inside lines).head? = (Lib.scanLines right inside others).head?) := by
  induction alike with
  | nil inside => simp [Lib.scanLines]
  | @same inside line other rest others equal later ih =>
      by_cases last : rest = []
      · obtain rfl := last
        obtain rfl := later.nil_iff.mp rfl
        simp [Lib.scanLines, equal]
      · rw [scanLines_cons _ _ _ last, scanLines_cons _ _ _ (later.nil_iff.not.mp last), ← equal]
        cases open' : (left inside line).2 with
        | false =>
            rw [open'] at ih
            simp [ih.1]
        | true =>
            rw [open'] at ih
            obtain ⟨each, heads⟩ := ih
            have heads := heads rfl
            generalize Lib.scanLines left true rest = lefts at each heads
            generalize Lib.scanLines right true others = rights at each heads
            cases each with
            | nil => simp
            | cons first each =>
                obtain rfl := Option.some.inj heads
                simp [each]
  | @whole line other rest others isLeft isRight related later ih =>
      by_cases last : rest = []
      · obtain rfl := last
        obtain rfl := later.nil_iff.mp rfl
        simp [Lib.scanLines, related]
      · rw [scanLines_cons _ _ _ last, scanLines_cons _ _ _ (later.nil_iff.not.mp last), isLeft,
          isRight]
        simp [related, ih.1]

end Alike

end Aegis.Lib
