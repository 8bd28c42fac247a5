/-
# RecordVerifier.Locate — the verifier that a readability record embeds

`record_verifier/run.py`: a record embeds the source of its verifier between a start and an end marker
line, fenced by a `~~~python` line and a `~~~` line. `locate_verifier` recognises these lines by
their stripped text. `locate_eq_ok` says what it accepts. One end of a fence is asked for but not
counted: a second `~~~` line after the first goes unnoticed, and the source is cut there
(`locate_whole_iff`).
-/
import Aegis.Lib.Guarded
import Aegis.Lib.Joined
import Aegis.Lib.PythonText
import Mathlib.Data.List.Basic

namespace Aegis.RecordVerifier

open Aegis.Lib
open Aegis.Lib.Guarded

set_option autoImplicit false

abbrev Line := List Char

def markerStart : String := "<!-- verifier:start -->"

def markerEnd : String := "<!-- verifier:end -->"

def pythonFence : String := "~~~python"

def fenceClose : String := "~~~"

def expectedPrefix : String := "**Expected output line:**"

def genericError : String := "no exact-line verifier block found"

/-- `line.strip() == mark`. -/
def marks (mark : String) (line : Line) : Bool := stripChars line = mark.toList

/-- `bool(line.strip())`. -/
def isVisible (line : Line) : Bool := !(stripChars line).isEmpty

structure ExtractionError where
  message : String
  deriving DecidableEq, Repr

/-- The `facts` of an extraction. -/
structure VerifierFacts where
  startLine : Nat
  endLine : Nat
  lines : Nat
  lf : Nat
  sha256 : String
  deriving DecidableEq, Repr

structure Located where
  code : List Char
  expectedLine : Option (List Char)
  facts : VerifierFacts
  deriving DecidableEq, Repr

/-- `_strip_backticks`. -/
def stripBackticks (value : List Char) : List Char :=
  let text := stripChars value
  if 2 ≤ text.length ∧ text.head? = some '\x60' ∧ text.getLast? = some '\x60' then
    stripChars text.tail.dropLast
  else text

/-- `_expected_line`, of the lines after the block. -/
def expectedLine : List Line → Option (List Char)
  | [] => none
  | line :: later =>
      let stripped := stripChars line
      if expectedPrefix.toList.isPrefixOf stripped then
        some (stripBackticks (stripped.drop expectedPrefix.length))
      else expectedLine later

/-- `"\n".join(lines) + "\n"`. -/
def sourceText (codeLines : List Line) : List Char := ['\n'].intercalate codeLines ++ ['\n']

/-- The lines of the source in the lines between the markers. -/
def codeLines? (inner : List Line) : Option (List Line) :=
  match inner.findIdxs (marks pythonFence) with
  | [fence] =>
      match (inner.drop (fence + 1)).findIdx? (marks fenceClose) with
      | none => none
      | some length =>
          let codeLines := (inner.drop (fence + 1)).take length
          -- `closing <= fence + 1`, or nothing but blank lines
          if length = 0 ∨ codeLines.any isVisible = false then none else some codeLines
  | _ => none

/-- `locate_verifier`. -/
def locateVerifier (sha256Hex : List Char → String) (text : List Char) :
    Except ExtractionError Located :=
  let lines := text.splitOn '\n'
  match lines.findIdxs (marks markerStart), lines.findIdxs (marks markerEnd) with
  | [start], [finish] => do
      require (start < finish) ⟨genericError⟩
      let inner := (lines.take finish).drop (start + 1)
      let codeLines ← fetch (codeLines? inner) ⟨genericError⟩
      let code := sourceText codeLines
      pure ⟨code, expectedLine (lines.drop (finish + 1)),
        ⟨start + 1, finish + 1, codeLines.length, code.count '\n', sha256Hex code⟩⟩
  | _, _ => .error ⟨genericError⟩

/-! ## What is accepted -/

section Accepted

/-- One item among the items satisfies a test. -/
theorem findIdxs_eq_singleton {α : Type} {test : α → Bool} {items : List α} {start index : Nat} :
    items.findIdxs test start = [index] ↔ ∃ before item after, items = before ++ item :: after ∧
      index = before.length + start ∧ test item = true ∧ (∀ other ∈ before, test other = false) ∧
        ∀ other ∈ after, test other = false := by
  induction items generalizing start with
  | nil =>
      constructor
      · exact nofun
      · rintro ⟨before, item, after, none, -⟩
        exact absurd none.symm (List.append_ne_nil_of_right_ne_nil _ (List.cons_ne_nil _ _))
  | cons first later ih =>
      rw [List.findIdxs_cons]
      by_cases here : test first = true
      · rw [if_pos here]
        constructor
        · intro same
          obtain ⟨rfl, none⟩ := List.cons.inj same
          exact ⟨[], first, later, rfl, (Nat.zero_add _).symm, here, nofun,
            List.findIdxs_eq_nil_iff.mp none⟩
        · rintro ⟨before, item, after, same, rfl, -, others, none⟩
          cases before with
          | nil =>
              obtain ⟨rfl, rfl⟩ := List.cons.inj same
              rw [List.findIdxs_eq_nil_iff.mpr none, List.length_nil, Nat.zero_add]
          | cons other before =>
              obtain ⟨rfl, -⟩ := List.cons.inj same
              rw [others _ List.mem_cons_self] at here
              cases here
      · rw [if_neg here, ih]
        constructor
        · rintro ⟨before, item, after, rfl, rfl, tested, others, none⟩
          refine ⟨first :: before, item, after, rfl, ?_, tested,
            List.forall_mem_cons.mpr ⟨Bool.eq_false_of_not_eq_true here, others⟩, none⟩
          rw [List.length_cons]
          omega
        · rintro ⟨before, item, after, same, rfl, tested, others, none⟩
          cases before with
          | nil =>
              obtain ⟨rfl, -⟩ := List.cons.inj same
              exact absurd tested here
          | cons other before =>
              obtain ⟨rfl, rfl⟩ := List.cons.inj same
              refine ⟨before, item, after, rfl, ?_, tested, (List.forall_mem_cons.mp others).2, none⟩
              rw [List.length_cons]
              omega

/-- The lines between the only start marker and the only end marker after it. -/
structure Framed (lines head inner tail : List Line) : Prop where
  parts : ∃ opening closing, lines = head ++ opening :: (inner ++ closing :: tail) ∧
    marks markerStart opening = true ∧ marks markerEnd closing = true
  starts : ∀ line ∈ head ++ inner ++ tail, marks markerStart line = false
  ends : ∀ line ∈ head ++ inner ++ tail, marks markerEnd line = false

/-- The lines after the only `~~~python` line. -/
structure Fenced (inner preface rest : List Line) : Prop where
  parts : ∃ fence, inner = preface ++ fence :: rest ∧ marks pythonFence fence = true
  only : ∀ line ∈ preface ++ rest, marks pythonFence line = false

/-- The exact lines of the contract: each one is marked by itself and is one line. -/
theorem marker_texts : markerStart.toList ≠ markerEnd.toList ∧
    ∀ mark ∈ [markerStart, pythonFence, fenceClose, markerEnd],
      marks mark mark.toList = true ∧ '\n' ∉ mark.toList := by
  decide +kernel

/-- No line is a start marker and an end marker. -/
theorem marks_apart {line : Line} (start : marks markerStart line = true) :
    marks markerEnd line = false := by
  unfold marks at *
  rw [decide_eq_true_iff] at start
  rw [start, decide_eq_false_iff_not]
  exact marker_texts.1

theorem marks_apart' {line : Line} (finish : marks markerEnd line = true) :
    marks markerStart line = false := by
  by_contra start
  have clash := marks_apart (Bool.eq_true_of_not_eq_false start)
  rw [finish] at clash
  cases clash

/-- **One start marker and one end marker, in this order.** -/
theorem framed_iff {lines : List Line} {start finish : Nat} :
    (lines.findIdxs (marks markerStart) = [start] ∧ lines.findIdxs (marks markerEnd) = [finish] ∧
      start < finish) ↔
    ∃ head inner tail, Framed lines head inner tail ∧ start = head.length ∧
      finish = head.length + 1 + inner.length := by
  constructor
  · rintro ⟨starts, ends, before⟩
    obtain ⟨head, opening, after, split, rfl, opens, noHead, noAfter⟩ := findIdxs_eq_singleton.mp starts
    obtain ⟨upTo, closing, tail, split', rfl, closes, noUpTo, noTail⟩ := findIdxs_eq_singleton.mp ends
    -- the start marker stands before the end marker
    obtain ⟨inner, rfl⟩ : ∃ inner, upTo = head ++ opening :: inner := by
      rcases List.append_eq_append_iff.mp (split.symm.trans split') with ⟨rest, rfl, same⟩ |
        ⟨rest, rfl, -⟩
      · cases rest with
        | nil => simp at before
        | cons other rest =>
            obtain ⟨rfl, -⟩ := List.cons.inj same
            exact ⟨rest, rfl⟩
      · rw [List.length_append] at before
        omega
    have same : after = inner ++ closing :: tail := by
      rw [split, List.append_assoc] at split'
      exact (List.cons.inj (List.append_cancel_left split')).2
    subst same
    refine ⟨head, inner, tail, ⟨⟨opening, closing, split, opens, closes⟩, ?_, ?_⟩, by omega, ?_⟩
    · simp only [List.forall_mem_append, List.forall_mem_cons] at noAfter ⊢
      exact ⟨⟨noHead, noAfter.1⟩, noAfter.2.2⟩
    · simp only [List.forall_mem_append, List.forall_mem_cons] at noUpTo ⊢
      exact ⟨⟨noUpTo.1, noUpTo.2.2⟩, noTail⟩
    · rw [List.length_append, List.length_cons]
      omega
  · rintro ⟨head, inner, tail, ⟨⟨opening, closing, rfl, opens, closes⟩, starts, ends⟩, rfl, rfl⟩
    simp only [List.forall_mem_append] at starts ends
    refine ⟨findIdxs_eq_singleton.mpr ⟨head, opening, _, rfl, rfl, opens, starts.1.1, ?_⟩,
      findIdxs_eq_singleton.mpr ⟨head ++ opening :: inner, closing, tail, by simp, ?_, closes, ?_,
        ends.2⟩, by omega⟩
    · simp only [List.forall_mem_append, List.forall_mem_cons]
      exact ⟨starts.1.2, marks_apart' closes, starts.2⟩
    · rw [List.length_append, List.length_cons]
      omega
    · simp only [List.forall_mem_append, List.forall_mem_cons]
      exact ⟨ends.1.1, marks_apart opens, ends.1.2⟩

theorem Framed.inner_eq {lines head inner tail : List Line} (framed : Framed lines head inner tail) :
    (lines.take (head.length + 1 + inner.length)).drop (head.length + 1) = inner ∧
      lines.drop (head.length + 1 + inner.length + 1) = tail := by
  obtain ⟨⟨opening, closing, rfl, -, -⟩, -, -⟩ := framed
  constructor
  · rw [List.append_cons, List.take_append, List.drop_append]
    simp
  · have split : head ++ opening :: (inner ++ closing :: tail) =
        (head ++ opening :: inner ++ [closing]) ++ tail := by simp
    rw [split]
    refine List.drop_left' ?_
    simp only [List.length_append, List.length_cons, List.length_nil]
    omega

/-- The lines up to the first one that closes the fence. -/
def sourceOf (rest : List Line) : List Line := rest.takeWhile fun line => !marks fenceClose line

/-- The first closing line, by its index. -/
theorem findIdx?_marks {rest : List Line} {length : Nat}
    (index : rest.findIdx? (marks fenceClose) = some length) :
    (∃ line ∈ rest, marks fenceClose line = true) ∧ rest.take length = sourceOf rest := by
  obtain ⟨inside, rfl⟩ := List.findIdx?_eq_some_iff_findIdx_eq.mp index
  refine ⟨List.findIdx_lt_length.mp inside, ?_⟩
  rw [sourceOf, List.takeWhile_eq_take_findIdx_not]
  simp only [Bool.not_not]

/-- **The source is what stands before the first closing line**, unless all of it is blank. -/
theorem codeLines?_eq_some {inner codeLines : List Line} :
    codeLines? inner = some codeLines ↔ ∃ preface rest, Fenced inner preface rest ∧
      (∃ line ∈ rest, marks fenceClose line = true) ∧ codeLines = sourceOf rest ∧
        ∃ line ∈ sourceOf rest, isVisible line = true := by
  unfold codeLines?
  constructor
  · intro found
    split at found
    · rename_i fence only
      obtain ⟨preface, line, rest, rfl, rfl, opens, before, after⟩ := findIdxs_eq_singleton.mp only
      have dropped : (preface ++ line :: rest).drop (preface.length + 0 + 1) = rest := by simp
      rw [dropped] at found
      split at found
      · cases found
      · rename_i length index
        obtain ⟨closes, taken⟩ := findIdx?_marks index
        rw [taken] at found
        dsimp only at found
        split at found
        · cases found
        · rename_i visible
          obtain rfl := Option.some.inj found
          push Not at visible
          refine ⟨preface, rest, ⟨⟨line, rfl, opens⟩, List.forall_mem_append.mpr ⟨before, after⟩⟩,
            closes, rfl, ?_⟩
          exact List.any_eq_true.mp (Bool.eq_true_of_not_eq_false visible.2)
    · cases found
  · rintro ⟨preface, rest, ⟨⟨line, rfl, opens⟩, only⟩, closes, rfl, visible⟩
    obtain ⟨before, after⟩ := List.forall_mem_append.mp only
    rw [findIdxs_eq_singleton.mpr ⟨preface, line, rest, rfl, rfl, opens, before, after⟩]
    have dropped : (preface ++ line :: rest).drop (preface.length + 0 + 1) = rest := by simp
    obtain ⟨length, index⟩ : ∃ length, rest.findIdx? (marks fenceClose) = some length :=
      ⟨_, List.findIdx?_eq_some_of_exists closes⟩
    obtain ⟨-, taken⟩ := findIdx?_marks index
    dsimp only
    rw [dropped, index]
    dsimp only
    rw [taken]
    refine if_neg ?_
    rintro (rfl | blank)
    · obtain ⟨other, member, -⟩ := visible
      rw [← taken] at member
      exact List.not_mem_nil member
    · rw [List.any_eq_true.mpr visible] at blank
      cases blank

/-- The lines between the fence and the end marker, of a text with the right markers and fence. -/
def Holds (text : List Char) (rest : List Line) : Prop :=
  ∃ head inner tail preface, Framed (text.splitOn '\n') head inner tail ∧ Fenced inner preface rest

/-- **What `locate_verifier` accepts, and what it returns.** -/
theorem locate_eq_ok {sha256Hex : List Char → String} {text : List Char} {located : Located} :
    locateVerifier sha256Hex text = .ok located ↔
      ∃ head inner tail preface rest, Framed (text.splitOn '\n') head inner tail ∧
        Fenced inner preface rest ∧ (∃ line ∈ rest, marks fenceClose line = true) ∧
        (∃ line ∈ sourceOf rest, isVisible line = true) ∧
        located = ⟨sourceText (sourceOf rest), expectedLine tail,
          ⟨head.length + 1, head.length + 1 + inner.length + 1, (sourceOf rest).length,
            (sourceText (sourceOf rest)).count '\n', sha256Hex (sourceText (sourceOf rest))⟩⟩ := by
  unfold locateVerifier
  constructor
  · intro done
    dsimp only at done
    split at done
    · rename_i start finish starts ends
      simp only [bind_eq_ok, require_eq_ok, fetch_eq_ok, pure_eq_ok] at done
      obtain ⟨_, before, codeLines, found, rfl⟩ := done
      obtain ⟨head, inner, tail, framed, rfl, rfl⟩ := framed_iff.mp ⟨starts, ends, before⟩
      rw [framed.inner_eq.1] at found
      obtain ⟨preface, rest, fenced, closes, rfl, visible⟩ := codeLines?_eq_some.mp found
      exact ⟨head, inner, tail, preface, rest, framed, fenced, closes, visible,
        by rw [framed.inner_eq.2]⟩
    · cases done
  · rintro ⟨head, inner, tail, preface, rest, framed, fenced, closes, visible, rfl⟩
    obtain ⟨starts, ends, before⟩ := framed_iff.mpr ⟨head, inner, tail, framed, rfl, rfl⟩
    have found := codeLines?_eq_some.mpr ⟨preface, rest, fenced, closes, rfl, visible⟩
    dsimp only
    rw [starts, ends]
    simp only [bind_eq_ok, require_eq_ok, fetch_eq_ok, pure_eq_ok]
    refine ⟨⟨⟩, before, sourceOf rest, ?_, ?_⟩
    · rw [framed.inner_eq.1]
      exact found
    · rw [framed.inner_eq.2]

end Accepted

/-! ## Whole or not at all -/

section Whole

variable {sha256Hex : List Char → String} {text : List Char}

/-- The lines of a source between its fences, of a text that has exactly one of each marker and each
fence. -/
def Embeds (text : List Char) (source : List Line) : Prop :=
  ∃ rest, Holds text rest ∧ ∃ closing trail, rest = source ++ closing :: trail ∧
    marks fenceClose closing = true ∧ ∀ line ∈ source ++ trail, marks fenceClose line = false

/-- What is run of a text is the whole source of a block of the exact-line contract. -/
def RunsWhole (sha256Hex : List Char → String) (text : List Char) : Prop :=
  ∀ located, locateVerifier sha256Hex text = .ok located →
    ∃ source, Embeds text source ∧ located.code = sourceText source

/-- No line closes the fence again, unless nothing but blank lines stand before the first that
does. -/
def ClosesOnce (text : List Char) : Prop :=
  ∀ rest, Holds text rest → rest.countP (marks fenceClose) ≤ 1 ∨
    ∀ line ∈ sourceOf rest, isVisible line = false

theorem not_closes_of_mem_sourceOf {rest : List Line} {line : Line} (member : line ∈ sourceOf rest) :
    marks fenceClose line = false := by
  have kept := List.mem_takeWhile_imp member
  simpa using kept

/-- The source, the first closing line, and what follows. -/
theorem exists_split {rest : List Line} (closes : ∃ line ∈ rest, marks fenceClose line = true) :
    ∃ closing trail, rest = sourceOf rest ++ closing :: trail ∧ marks fenceClose closing = true := by
  have whole : sourceOf rest ++ rest.dropWhile (fun line => !marks fenceClose line) = rest :=
    List.takeWhile_append_dropWhile
  cases dropped : rest.dropWhile fun line => !marks fenceClose line with
  | nil =>
      obtain ⟨line, member, marked⟩ := closes
      have kept := List.dropWhile_eq_nil_iff.mp dropped line member
      rw [marked] at kept
      cases kept
  | cons closing trail =>
      have stops := List.head?_dropWhile_not (fun line => !marks fenceClose line) rest
      rw [dropped] at stops whole
      exact ⟨closing, trail, whole.symm, by simpa using stops⟩

theorem Framed.findIdxs {lines head inner tail : List Line} (framed : Framed lines head inner tail) :
    lines.findIdxs (marks markerStart) = [head.length] ∧
      lines.findIdxs (marks markerEnd) = [head.length + 1 + inner.length] := by
  obtain ⟨starts, ends, -⟩ := framed_iff.mpr ⟨head, inner, tail, framed, rfl, rfl⟩
  exact ⟨starts, ends⟩

theorem Fenced.findIdxs {inner preface rest : List Line} (fenced : Fenced inner preface rest) :
    inner.findIdxs (marks pythonFence) = [preface.length] := by
  obtain ⟨⟨fence, split, opens⟩, only⟩ := fenced
  obtain ⟨before, after⟩ := List.forall_mem_append.mp only
  exact findIdxs_eq_singleton.mpr ⟨preface, fence, rest, split, rfl, opens, before, after⟩

/-- The lines between the markers are those of one pair of markers. -/
theorem Framed.inner_unique {lines head inner tail head' inner' tail' : List Line}
    (framed : Framed lines head inner tail) (framed' : Framed lines head' inner' tail') :
    inner = inner' := by
  have heads : head.length = head'.length :=
    (List.cons.inj (framed.findIdxs.1.symm.trans framed'.findIdxs.1)).1
  have finishes := (List.cons.inj (framed.findIdxs.2.symm.trans framed'.findIdxs.2)).1
  rw [← framed.inner_eq.1, ← framed'.inner_eq.1, finishes, heads]

/-- The lines after the fence are those of one fence. -/
theorem Fenced.rest_unique {inner preface rest preface' rest' : List Line}
    (fenced : Fenced inner preface rest) (fenced' : Fenced inner preface' rest') : rest = rest' := by
  have same := (List.cons.inj (fenced.findIdxs.symm.trans fenced'.findIdxs)).1
  obtain ⟨⟨_, split, -⟩, -⟩ := fenced
  obtain ⟨⟨_, split', -⟩, -⟩ := fenced'
  exact (List.cons.inj (List.append_inj (split.symm.trans split') same).2).2

/-- The lines of a block are those of one block. -/
theorem holds_unique {rest rest' : List Line} (held : Holds text rest) (held' : Holds text rest') :
    rest = rest' := by
  obtain ⟨head, inner, tail, preface, framed, fenced⟩ := held
  obtain ⟨head', inner', tail', preface', framed', fenced'⟩ := held'
  obtain rfl := framed.inner_unique framed'
  exact fenced.rest_unique fenced'

/-- **A text runs whole exactly when its fence closes once.** -/
theorem runsWhole_iff : RunsWhole sha256Hex text ↔ ClosesOnce text := by
  constructor
  · intro whole rest held
    by_contra cut
    push Not at cut
    obtain ⟨twice, line, member, visible⟩ := cut
    have closes : ∃ line ∈ rest, marks fenceClose line = true :=
      List.countP_pos_iff.mp (by omega)
    obtain ⟨head, inner, tail, preface, framed, fenced⟩ := id held
    obtain ⟨source, ⟨rest', held', closing, trail, split, -, others⟩, -⟩ := whole _
      (locate_eq_ok.mpr ⟨head, inner, tail, preface, rest, framed, fenced, closes,
        ⟨line, member, Bool.eq_true_of_not_eq_false visible⟩, rfl⟩)
    obtain rfl := holds_unique held held'
    have once : rest.countP (marks fenceClose) ≤ 1 := by
      simp only [List.forall_mem_append] at others
      rw [split, List.countP_append, List.countP_cons,
        List.countP_eq_zero.mpr fun line among => by simp [others.1 line among],
        List.countP_eq_zero.mpr fun line among => by simp [others.2 line among]]
      split <;> omega
    omega
  · intro once located done
    obtain ⟨head, inner, tail, preface, rest, framed, fenced, closes, ⟨line, member, visible⟩, rfl⟩ :=
      locate_eq_ok.mp done
    have held : Holds text rest := ⟨head, inner, tail, preface, framed, fenced⟩
    obtain ⟨closing, trail, split, marked⟩ := exists_split closes
    refine ⟨sourceOf rest, ⟨rest, held, closing, trail, split, marked, ?_⟩, rfl⟩
    refine List.forall_mem_append.mpr ⟨fun _ => not_closes_of_mem_sourceOf, fun other among => ?_⟩
    by_contra again
    have again := Bool.eq_true_of_not_eq_false again
    rcases once rest held with one | blank
    · -- the first closing line and this one
      have two : 2 ≤ rest.countP (marks fenceClose) := by
        rw [split, List.countP_append, List.countP_cons, if_pos marked]
        have counted := List.countP_pos_iff.mpr ⟨other, among, again⟩
        omega
      omega
    · rw [blank line member] at visible
      cases visible

end Whole

/-! ## Embedding a source and locating it -/

section Embedding

variable {sha256Hex : List Char → String} {before source after : List Char}

/-- A record that embeds a source in a block of the exact-line contract. -/
def embed (before source after : List Char) : List Char :=
  before ++ '\n' :: (markerStart.toList ++ '\n' :: (pythonFence.toList ++ '\n' :: (source ++
    '\n' :: (fenceClose.toList ++ '\n' :: (markerEnd.toList ++ '\n' :: after)))))

/-- Locating an embedded source gives it back, or fails. -/
def Recovers (sha256Hex : List Char → String) (before source after : List Char) : Prop :=
  ∀ located, locateVerifier sha256Hex (embed before source after) = .ok located →
    located.code = source ++ ['\n']

theorem splitOn_embed : (embed before source after).splitOn '\n' =
    before.splitOn '\n' ++ markerStart.toList :: ((pythonFence.toList :: (source.splitOn '\n' ++
      [fenceClose.toList])) ++ markerEnd.toList :: after.splitOn '\n') := by
  have plain : ∀ mark ∈ [markerStart, pythonFence, fenceClose, markerEnd],
      '\n' ∉ mark.toList := fun mark member => (marker_texts.2 mark member).2
  simp only [List.forall_mem_cons] at plain
  obtain ⟨start, fence, close, finish, -⟩ := plain
  simp only [embed, List.splitOn_append_cons_self, List.splitOn_eq_singleton start,
    List.splitOn_eq_singleton fence, List.splitOn_eq_singleton close,
    List.splitOn_eq_singleton finish]
  simp

theorem marks_self : ∀ mark ∈ [markerStart, pythonFence, fenceClose, markerEnd],
    marks mark mark.toList = true :=
  fun mark member => (marker_texts.2 mark member).1

/-- One item among the items satisfies a test that one of them satisfies. -/
theorem others_of_findIdxs {α : Type} {test : α → Bool} {before after : List α} {item : α}
    {index : Nat} (one : (before ++ item :: after).findIdxs test = [index])
    (here : test item = true) : ∀ other ∈ before ++ after, test other = false := by
  have count : ((before ++ item :: after).findIdxs test).length =
      (before ++ item :: after).countP test := List.length_findIdxs
  rw [one, List.length_singleton, List.countP_append, List.countP_cons, if_pos here] at count
  refine List.forall_mem_append.mpr ⟨fun other member => ?_, fun other member => ?_⟩
  · have none : before.countP test = 0 := by omega
    simpa using List.countP_eq_zero.mp none other member
  · have none : after.countP test = 0 := by omega
    simpa using List.countP_eq_zero.mp none other member

/-- The block of an embedded source is the one it was embedded in. -/
theorem holds_embed {rest : List Line} (held : Holds (embed before source after) rest) :
    rest = source.splitOn '\n' ++ [fenceClose.toList] := by
  obtain ⟨head, inner, tail, preface, framed, fenced⟩ := held
  have self := marks_self
  simp only [List.forall_mem_cons] at self
  obtain ⟨start, fence, -, finish, -⟩ := self
  obtain ⟨starts, ends⟩ := framed.findIdxs
  have startOthers := others_of_findIdxs (splitOn_embed ▸ starts) start
  have endOthers : ∀ line ∈ (before.splitOn '\n' ++ markerStart.toList :: pythonFence.toList ::
      (source.splitOn '\n' ++ [fenceClose.toList])) ++ after.splitOn '\n',
      marks markerEnd line = false := by
    have one : ((before.splitOn '\n' ++ markerStart.toList :: pythonFence.toList ::
        (source.splitOn '\n' ++ [fenceClose.toList])) ++ markerEnd.toList ::
          after.splitOn '\n').findIdxs (marks markerEnd) = [head.length + 1 + inner.length] := by
      rw [← ends, splitOn_embed]
      simp
    exact others_of_findIdxs one finish
  have ours : Framed ((embed before source after).splitOn '\n') (before.splitOn '\n')
      (pythonFence.toList :: (source.splitOn '\n' ++ [fenceClose.toList]))
      (after.splitOn '\n') := by
    refine ⟨⟨_, _, splitOn_embed, start, finish⟩, fun line member => startOthers line ?_,
      fun line member => endOthers line ?_⟩
    · rcases List.mem_append.mp member with within | behind
      · rcases List.mem_append.mp within with ahead | inside
        · exact List.mem_append_left _ ahead
        · exact List.mem_append_right _ (List.mem_append_left _ inside)
      · exact List.mem_append_right _ (List.mem_append_right _ (List.mem_cons_of_mem _ behind))
    · rcases List.mem_append.mp member with within | behind
      · rcases List.mem_append.mp within with ahead | inside
        · exact List.mem_append_left _ (List.mem_append_left _ ahead)
        · exact List.mem_append_left _ (List.mem_append_right _ (List.mem_cons_of_mem _ inside))
      · exact List.mem_append_right _ behind
  obtain rfl := framed.inner_unique ours
  have one : ([] ++ pythonFence.toList :: (source.splitOn '\n' ++ [fenceClose.toList])).findIdxs
      (marks pythonFence) = [preface.length] := fenced.findIdxs
  have fenceOthers := others_of_findIdxs one fence
  have ourFence : Fenced (pythonFence.toList :: (source.splitOn '\n' ++ [fenceClose.toList])) []
      (source.splitOn '\n' ++ [fenceClose.toList]) :=
    ⟨⟨_, rfl, fence⟩, fenceOthers⟩
  exact fenced.rest_unique ourFence

/-- **An embedded source comes back whole exactly when the fence closes once.** -/
theorem recovers_iff : Recovers sha256Hex before source after ↔
    ClosesOnce (embed before source after) := by
  have lines : sourceText (source.splitOn '\n') = source ++ ['\n'] := by
    rw [sourceText, List.intercalate_splitOn]
  constructor
  · intro recovers rest held
    by_contra cut
    push Not at cut
    obtain ⟨twice, line, member, visible⟩ := cut
    have closes : ∃ line ∈ rest, marks fenceClose line = true :=
      List.countP_pos_iff.mp (by omega)
    obtain ⟨head, inner, tail, preface, framed, fenced⟩ := id held
    have code := recovers _ (locate_eq_ok.mpr ⟨head, inner, tail, preface, rest, framed, fenced,
      closes, ⟨line, member, Bool.eq_true_of_not_eq_false visible⟩, rfl⟩)
    -- the lines of the code are those of the source
    have same : sourceOf rest = source.splitOn '\n' := by
      have texts := List.append_cancel_right (code.trans lines.symm)
      have cut : ([('\n')].intercalate (sourceOf rest)).splitOn '\n' = sourceOf rest := by
        refine List.splitOn_intercalate '\n' (fun other among => ?_) (List.ne_nil_of_mem member)
        have inText : other ∈ source.splitOn '\n' ++ [fenceClose.toList] :=
          holds_embed held ▸ List.takeWhile_subset _ among
        rcases List.mem_append.mp inText with inSource | isClose
        · exact free_of_mem_splitOn inSource
        · rw [List.mem_singleton.mp isClose]
          exact (marker_texts.2 fenceClose (by simp)).2
      rw [← cut, texts, List.intercalate_splitOn]
    have none : (source.splitOn '\n').countP (marks fenceClose) = 0 := by
      refine List.countP_eq_zero.mpr fun other among => ?_
      rw [not_closes_of_mem_sourceOf (same ▸ among)]
      exact Bool.false_ne_true
    rw [holds_embed held, List.countP_append, none, List.countP_singleton] at twice
    split at twice <;> omega
  · intro once located done
    obtain ⟨head, inner, tail, preface, rest, framed, fenced, closes, ⟨line, member, visible⟩, rfl⟩ :=
      locate_eq_ok.mp done
    have held : Holds (embed before source after) rest := ⟨head, inner, tail, preface, framed, fenced⟩
    obtain rfl := holds_embed held
    have self : marks fenceClose fenceClose.toList = true := marks_self _ (by simp)
    rcases once _ held with one | blank
    · rw [List.countP_append, List.countP_singleton, if_pos self] at one
      have none : ∀ line ∈ source.splitOn '\n', marks fenceClose line = false := by
        intro other among
        by_contra again
        have counted := List.countP_pos_iff.mpr ⟨other, among, Bool.eq_true_of_not_eq_false again⟩
        omega
      have whole : sourceOf (source.splitOn '\n' ++ [fenceClose.toList]) = source.splitOn '\n' := by
        rw [sourceOf, List.takeWhile_append_of_pos fun line among => by simp [none line among],
          List.takeWhile_cons_of_neg (by simp [self]), List.append_nil]
      rw [whole]
      exact lines
    · rw [blank line member] at visible
      cases visible

/-- **The embedded verifier is run whole or not at all exactly when its fence closes once.** -/
theorem locate_whole_iff (sha256Hex : List Char → String) :
    (∀ text, RunsWhole sha256Hex text ↔ ClosesOnce text) ∧
      ∀ before source after, Recovers sha256Hex before source after ↔
        ClosesOnce (embed before source after) :=
  ⟨fun _ => runsWhole_iff, fun _ _ _ => recovers_iff⟩

/-- A source with a line that closes the fence. -/
def cutSource : List Char := "print(1)\n~~~\nraise SystemExit(1)".toList

/-- **Only the lines before it are run.** -/
theorem runs_cut_source :
    (∃ located, locateVerifier (fun _ => "") (embed [] cutSource []) = .ok located ∧
      located.code = "print(1)\n".toList) ∧
    ¬ Recovers (fun _ => "") [] cutSource [] ∧ ¬ RunsWhole (fun _ => "") (embed [] cutSource []) := by
  have run : (locateVerifier (fun _ => "") (embed [] cutSource [])).toOption.map Located.code =
      some "print(1)\n".toList := by
    decide +kernel
  obtain ⟨located, done, code⟩ := Option.map_eq_some_iff.mp run
  have done : locateVerifier (fun _ => "") (embed [] cutSource []) = .ok located := by
    cases found : locateVerifier (fun _ => "") (embed [] cutSource []) with
    | error _ => rw [found] at done; cases done
    | ok other => rw [found] at done; exact congrArg _ (Option.some.inj done)
  have lost : ¬ Recovers (fun _ => "") [] cutSource [] := by
    intro recovers
    have whole := code.symm.trans (recovers located done)
    exact absurd whole (by decide +kernel)
  exact ⟨⟨located, done, code⟩, lost, fun whole => lost (recovers_iff.mpr (runsWhole_iff.mp whole))⟩

end Embedding

end Aegis.RecordVerifier
