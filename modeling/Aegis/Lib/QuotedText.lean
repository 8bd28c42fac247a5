/-
# Lib.QuotedText — texts with quoted segments

A quoted segment starts at a quote and ends at the next quote of the same kind that is not doubled.
A text is a layout: stretches without quotes, with quoted segments between them.

Writing every stretch in a form of its own and every segment as it stands loses nothing but the form
of the stretches (`written_eq_iff`), provided the segments are closed and no segment touches the next
one of the same kind (`Separated`).
-/
import Mathlib.Tactic.Common
import Mathlib.Data.List.Basic

namespace Aegis.Lib.QuotedText

set_option autoImplicit false

def isQuote (c : Char) : Bool := c = '\'' || c = '"'

/-- The rest of a segment behind its opening quote, and what follows the segment. A segment that is
not closed goes to the end of the text. -/
def scanQuoted (quote : Char) : List Char → List Char × List Char
  | [] => ([], [])
  | [c] => ([c], [])
  | c :: d :: rest =>
      if c = quote then
        if d = quote then
          let scanned := scanQuoted quote rest
          (c :: d :: scanned.1, scanned.2)
        else ([c], d :: rest)
      else
        let scanned := scanQuoted quote (d :: rest)
        (c :: scanned.1, scanned.2)

/-- The text is the rest of one closed segment. -/
def closes (quote : Char) : List Char → Bool
  | [] => false
  | [c] => c = quote
  | c :: d :: rest =>
      if c = quote then d = quote && closes quote rest else closes quote (d :: rest)

/-- A closed segment. -/
def IsSegment (segment : List Char) : Prop :=
  ∃ quote body, segment = quote :: body ∧ isQuote quote = true ∧ closes quote body = true

instance (segment : List Char) : Decidable (IsSegment segment) :=
  match segment with
  | [] => .isFalse (by rintro ⟨_, _, none, -⟩; cases none)
  | quote :: body =>
      decidable_of_iff (isQuote quote = true ∧ closes quote body = true) (by
        constructor
        · rintro ⟨isQuoted, closed⟩
          exact ⟨quote, body, rfl, isQuoted, closed⟩
        · rintro ⟨_, _, same, isQuoted, closed⟩
          cases same
          exact ⟨isQuoted, closed⟩)

def Unquoted (text : List Char) : Prop := ∀ c ∈ text, isQuote c = false

/-- A closed segment is read up to its end. -/
theorem scanQuoted_append {quote : Char} {body rest : List Char} (closed : closes quote body = true)
    (next : rest.head? ≠ some quote) : scanQuoted quote (body ++ rest) = (body, rest) := by
  induction body using closes.induct quote with
  | case1 => cases closed
  | case2 c =>
      have isEnd : c = quote := of_decide_eq_true closed
      cases rest with
      | nil => rfl
      | cons d rest =>
          have other : d ≠ quote := fun same => next (congrArg some same)
          show scanQuoted quote (c :: d :: rest) = _
          rw [scanQuoted, if_pos isEnd, if_neg other]
  | case3 d body ih =>
      rw [closes, if_pos rfl, Bool.and_eq_true, decide_eq_true_eq] at closed
      obtain ⟨rfl, later⟩ := closed
      show scanQuoted d (d :: d :: (body ++ rest)) = _
      rw [scanQuoted, if_pos rfl, if_pos rfl, ih later]
  | case4 c d body other ih =>
      rw [closes, if_neg other] at closed
      have scanned : scanQuoted quote (d :: (body ++ rest)) = (d :: body, rest) := ih closed
      show scanQuoted quote (c :: d :: (body ++ rest)) = _
      rw [scanQuoted, if_neg other, scanned]

theorem IsSegment.ne_nil {segment : List Char} (isSegment : IsSegment segment) : segment ≠ [] := by
  obtain ⟨quote, body, rfl, -⟩ := isSegment
  exact List.cons_ne_nil _ _

/-- Two texts that start with closed segments have the same segment. -/
theorem segment_unique {left right leftRest rightRest : List Char} (leftSegment : IsSegment left)
    (rightSegment : IsSegment right) (leftNext : leftRest.head? ≠ left.head?)
    (rightNext : rightRest.head? ≠ right.head?)
    (same : left ++ leftRest = right ++ rightRest) : left = right ∧ leftRest = rightRest := by
  obtain ⟨quote, body, rfl, -, closed⟩ := leftSegment
  obtain ⟨other, otherBody, rfl, -, otherClosed⟩ := rightSegment
  obtain ⟨rfl, tails⟩ := List.cons.inj same
  have bodies : body ++ leftRest = otherBody ++ rightRest := tails
  have scanned := scanQuoted_append closed leftNext
  have scannedOther := scanQuoted_append otherClosed rightNext
  rw [bodies, scannedOther] at scanned
  obtain ⟨rfl, rfl⟩ := Prod.mk.inj scanned
  exact ⟨rfl, rfl⟩

/-- The text is empty or starts with a quote. -/
def StartsQuoted (text : List Char) : Prop := ∀ c ∈ text.head?, isQuote c = true

theorem startsQuoted_append {segment : List Char} (isSegment : IsSegment segment)
    (rest : List Char) : StartsQuoted (segment ++ rest) := by
  obtain ⟨quote, body, rfl, isQuoted, -⟩ := isSegment
  intro c head
  cases head
  exact isQuoted

/-- The stretch in front of the first quote is determined. -/
theorem stretch_unique {left right leftRest rightRest : List Char} (leftPlain : Unquoted left)
    (rightPlain : Unquoted right) (leftStarts : StartsQuoted leftRest)
    (rightStarts : StartsQuoted rightRest) (same : left ++ leftRest = right ++ rightRest) :
    left = right ∧ leftRest = rightRest := by
  induction left generalizing right with
  | nil =>
      cases right with
      | nil => exact ⟨rfl, same⟩
      | cons c right =>
          rw [List.nil_append] at same
          have quoted := leftStarts c (by rw [same]; rfl)
          rw [rightPlain c List.mem_cons_self] at quoted
          cases quoted
  | cons c left ih =>
      cases right with
      | nil =>
          rw [List.nil_append] at same
          have quoted := rightStarts c (by rw [← same]; rfl)
          rw [leftPlain c List.mem_cons_self] at quoted
          cases quoted
      | cons d right =>
          obtain ⟨rfl, tails⟩ := List.cons.inj same
          obtain ⟨rfl, rests⟩ := ih (fun e member => leftPlain e (List.mem_cons_of_mem _ member))
            (fun e member => rightPlain e (List.mem_cons_of_mem _ member)) tails
          exact ⟨rfl, rests⟩

/-! ## Layouts -/

section Written

variable (plain last : List Char → List Char)

/-- A stretch and the segments behind it, each with the stretch that follows it. The last stretch
has a form of its own. -/
def written (first : List Char) : List (List Char × List Char) → List Char
  | [] => last first
  | (segment, stretch) :: rest => plain first ++ (segment ++ written stretch rest)

/-- The same segments, and stretches of the same form. -/
def Agree (left right : List Char) :
    List (List Char × List Char) → List (List Char × List Char) → Prop
  | [], [] => last left = last right
  | (leftSegment, leftStretch) :: leftRest, (rightSegment, rightStretch) :: rightRest =>
      plain left = plain right ∧ leftSegment = rightSegment ∧
        Agree leftStretch rightStretch leftRest rightRest
  | _, _ => False

/-- Segments of one kind have more than an empty stretch between them. -/
def Separated : List (List Char × List Char) → Prop
  | [] => True
  | [_] => True
  | (segment, stretch) :: (next, nextStretch) :: rest =>
      (plain stretch = [] → segment.head? ≠ next.head?) ∧ Separated ((next, nextStretch) :: rest)

instance separatedDecidable :
    ∀ rest : List (List Char × List Char), Decidable (Separated plain rest)
  | [] => .isTrue trivial
  | [_] => .isTrue trivial
  | (segment, stretch) :: (next, nextStretch) :: rest =>
      have := separatedDecidable ((next, nextStretch) :: rest)
      inferInstanceAs (Decidable ((plain stretch = [] → segment.head? ≠ next.head?) ∧ _))

/-- The stretches are unquoted, and the segments closed and separated. -/
structure WellFormed (first : List Char) (rest : List (List Char × List Char)) : Prop where
  first : Unquoted first
  unquoted : ∀ entry ∈ rest, Unquoted entry.2
  closed : ∀ entry ∈ rest, IsSegment entry.1
  separated : Separated plain rest

variable {plain last}

theorem WellFormed.tail {first segment stretch : List Char} {rest : List (List Char × List Char)}
    (wellFormed : WellFormed plain first ((segment, stretch) :: rest)) :
    WellFormed plain stretch rest := by
  refine ⟨wellFormed.unquoted _ List.mem_cons_self,
    fun other member => wellFormed.unquoted other (List.mem_cons_of_mem _ member),
    fun other member => wellFormed.closed other (List.mem_cons_of_mem _ member), ?_⟩
  cases rest with
  | nil => trivial
  | cons next rest => exact wellFormed.separated.2

/-- Layouts that agree have the same segments. -/
theorem Agree.segments {left right : List Char} {leftRest rightRest : List (List Char × List Char)}
    (agree : Agree plain last left right leftRest rightRest) :
    leftRest.map Prod.fst = rightRest.map Prod.fst := by
  induction leftRest generalizing left right rightRest with
  | nil =>
      cases rightRest with
      | nil => rfl
      | cons entry rest => exact agree.elim
  | cons entry leftRest ih =>
      cases rightRest with
      | nil => exact agree.elim
      | cons other rightRest =>
          obtain ⟨-, same, later⟩ := agree
          rw [List.map_cons, List.map_cons, ih later]
          exact congrArg (· :: _) same

variable (plain_unquoted : ∀ stretch, Unquoted stretch → Unquoted (plain stretch))
  (last_unquoted : ∀ stretch, Unquoted stretch → Unquoted (last stretch))

include plain_unquoted last_unquoted

/-- What follows a segment does not start with its quote. -/
theorem WellFormed.next {first segment stretch : List Char} {rest : List (List Char × List Char)}
    (wellFormed : WellFormed plain first ((segment, stretch) :: rest)) :
    (written plain last stretch rest).head? ≠ segment.head? := by
  have isSegment : IsSegment segment := wellFormed.closed _ List.mem_cons_self
  have unquoted : Unquoted stretch := wellFormed.unquoted _ List.mem_cons_self
  obtain ⟨quote, body, rfl, isQuoted, -⟩ := isSegment
  rw [List.head?_cons]
  cases rest with
  | nil =>
      intro same
      have plainQuote := last_unquoted _ unquoted quote (List.mem_of_mem_head? same)
      rw [isQuoted] at plainQuote
      cases plainQuote
  | cons next rest =>
      obtain ⟨nextSegment, nextStretch⟩ := next
      have nextIsSegment : IsSegment nextSegment :=
        wellFormed.closed (nextSegment, nextStretch) (by simp)
      show (plain stretch ++ (nextSegment ++ _)).head? ≠ _
      cases form : plain stretch with
      | nil =>
          have other := wellFormed.separated.1 form
          obtain ⟨nextQuote, nextBody, rfl, -⟩ := nextIsSegment
          intro same
          exact other same.symm
      | cons c form' =>
          intro same
          have head : c = quote := Option.some.inj same
          have member : quote ∈ plain stretch := by
            rw [form, head]
            exact List.mem_cons_self
          have plainQuote := plain_unquoted _ unquoted quote member
          rw [isQuoted] at plainQuote
          cases plainQuote

/-- **Two written texts are equal exactly when their layouts agree.** -/
theorem written_eq_iff {left right : List Char} {leftRest rightRest : List (List Char × List Char)}
    (leftFormed : WellFormed plain left leftRest) (rightFormed : WellFormed plain right rightRest) :
    written plain last left leftRest = written plain last right rightRest ↔
      Agree plain last left right leftRest rightRest := by
  induction leftRest generalizing left right rightRest with
  | nil =>
      cases rightRest with
      | nil => exact Iff.rfl
      | cons entry rightRest =>
          obtain ⟨segment, stretch⟩ := entry
          have isSegment : IsSegment segment :=
            rightFormed.closed (segment, stretch) List.mem_cons_self
          refine iff_of_false ?_ id
          intro same
          have whole : last left ++ [] =
              plain right ++ (segment ++ written plain last stretch rightRest) := by
            rw [List.append_nil]
            exact same
          have rests := (stretch_unique (last_unquoted _ leftFormed.first)
            (plain_unquoted _ rightFormed.first) (fun _ head => by cases head)
            (startsQuoted_append isSegment _) whole).2
          exact isSegment.ne_nil (List.append_eq_nil_iff.mp rests.symm).1
  | cons entry leftRest ih =>
      obtain ⟨segment, stretch⟩ := entry
      have isSegment : IsSegment segment :=
        leftFormed.closed (segment, stretch) List.mem_cons_self
      cases rightRest with
      | nil =>
          refine iff_of_false ?_ id
          intro same
          have whole : plain left ++ (segment ++ written plain last stretch leftRest) =
              last right ++ [] := by
            rw [List.append_nil]
            exact same
          have rests := (stretch_unique (plain_unquoted _ leftFormed.first)
            (last_unquoted _ rightFormed.first) (startsQuoted_append isSegment _)
            (fun _ head => by cases head) whole).2
          exact isSegment.ne_nil (List.append_eq_nil_iff.mp rests).1
      | cons other rightRest =>
          obtain ⟨otherSegment, otherStretch⟩ := other
          have otherIsSegment : IsSegment otherSegment :=
            rightFormed.closed (otherSegment, otherStretch) List.mem_cons_self
          constructor
          · intro same
            obtain ⟨firsts, tails⟩ := stretch_unique (plain_unquoted _ leftFormed.first)
              (plain_unquoted _ rightFormed.first) (startsQuoted_append isSegment _)
              (startsQuoted_append otherIsSegment _) same
            obtain ⟨segments, rests⟩ := segment_unique isSegment otherIsSegment
              (leftFormed.next plain_unquoted last_unquoted)
              (rightFormed.next plain_unquoted last_unquoted) tails
            exact ⟨firsts, segments, (ih leftFormed.tail rightFormed.tail).mp rests⟩
          · rintro ⟨firsts, rfl, rests⟩
            have tails := (ih leftFormed.tail rightFormed.tail).mpr rests
            rw [written, written, firsts, tails]

end Written

end Aegis.Lib.QuotedText
