/-
# Links.Anchors — the anchors that the headings of a document generate

A document gives each heading with a nonempty slug an anchor: its slug, followed from the second
heading with that slug on by the number of earlier ones. The count is kept for each slug by itself,
so an anchor that was made by numbering can meet the slug of another heading. The anchors are
pairwise distinct exactly when no slug of the document is another of its slugs followed by a number
that was used for it (`generatedAnchors_distinct_iff`).
-/
import Aegis.Lib.Dict
import Aegis.Lib.PythonText
import Aegis.Lib.Unicode
import Aegis.Links.Code
import Mathlib.Data.List.Dedup

namespace Aegis.Links

open Aegis.Lib Aegis.Lib.Regex

set_option autoImplicit false

/-! ## Headings -/

/-- `HEADING`. -/
def headingPattern : Pattern :=
  sequence [start, indent, (many (· == '#') 1 (some 6)).group 1,
    Pattern.optional (sequence [many isGap 1 none, (few (· != '\n') 0 none).group 2]),
    many isGap 0 none, finish]

/-- `SETEXT`. -/
def setextPattern : Pattern :=
  sequence [start, indent, ((many (· == '=') 1 none).or (many (· == '-') 1 none)).group 1,
    many isGap 0 none, finish]

/-- `EXPLICIT_SLUG`. -/
def explicitSlugPattern : Pattern :=
  sequence [literal "\x7b#", (many (fun c => c != '\x7d' && !isBlank c) 1 none).group 1,
    literal "\x7d", many isBlank 0 none, finish]

/-- `HTML_TAG`. -/
def htmlTagPattern : Pattern := sequence [literal "<", many (· != '>') 0 none, literal ">"]

section Tables

variable (tables : Unicode)

/-- `HTML_ANCHOR`. -/
def htmlAnchorPattern : Pattern :=
  let inTag := many (fun c => c != '<' && c != '>') 0 none
  let mark := fun c => c == '\x22' || c == '\x27'
  sequence [literal "<", inTag, boundary tables.isWord, (literal "id").or (literal "name"),
    many isBlank 0 none, literal "=", many isBlank 0 none, one mark,
    (many (fun c => !mark c) 1 none).group 1, one mark, inTag, literal ">"]

/-- `slugify`. -/
def slugify (text : List Char) : List Char :=
  let trimmed := htmlTagPattern.remove (stripChars text)
  let kept := (tables.lower trimmed).filter fun c => tables.isAlnum c || c ∈ [' ', '_', '-']
  kept.map fun c => if c = ' ' then '-' else c

/-- The text of the heading on a line, with the line behind it. -/
def headingText? (line : List Char) (next : Option (List Char)) : Option (List Char) :=
  match headingPattern.match? line with
  | some found => some ((found.group? 2).getD [])
  | none =>
      if (next.any fun later => !(stripChars line).isEmpty && (setextPattern.match? later).isSome) = true
      then some line else none

/-- The texts of the headings, in order. -/
def headingTexts : List (List Char) → List (List Char)
  | [] => []
  | line :: later => (headingText? line later.head?).toList ++ headingTexts later

/-- The slug of a heading: the explicit one if it has one. -/
def slugOf (raw : List Char) : String :=
  match explicitSlugPattern.search [] raw with
  | some found => String.ofList ((found.group? 1).getD [])
  | none => String.ofList (slugify tables raw)

/-! ## Anchors -/

/-- The anchor of a heading behind so many headings with its slug. -/
def anchorText (slug : String) (seen : Nat) : String :=
  if seen = 0 then slug else slug ++ "-" ++ Nat.repr seen

/-- The loop over the headings, with the counts of the slugs so far. -/
def numberSlugs : List (String × Nat) → List String → List String
  | _, [] => []
  | counts, slug :: later =>
      let seen := (Dict.get? counts slug).getD 0
      anchorText slug seen :: numberSlugs (Dict.assign counts slug (seen + 1)) later

/-- `Document`: the body without its code, and the anchors it offers. -/
structure Document where
  body : List Char
  anchors : List String

/-- The slugs of the headings that have one. -/
def headingSlugs (text : List Char) : List String :=
  ((headingTexts (lines (stripCode text))).map (slugOf tables)).filter (· ≠ "")

/-- The anchors that are generated for the headings, in order. -/
def generatedAnchors (text : List Char) : List String := numberSlugs [] (headingSlugs tables text)

/-- `Document.__init__`. -/
def Document.ofText (text : List Char) : Document where
  body := stripCode text
  anchors := ((htmlAnchorPattern tables).finditer (stripCode text)).map
    (fun found => String.ofList ((found.group? 1).getD [])) ++ "top" :: generatedAnchors tables text

end Tables

/-! ## When they are distinct -/

/-- No slug is another slug followed by a number that was used for it. -/
def SlugsApart (slugs : List String) : Prop :=
  ∀ slug ∈ slugs, ∀ k, 0 < k → k < slugs.count slug → slug ++ "-" ++ Nat.repr k ∉ slugs

theorem anchorText_pos (slug : String) {k : Nat} (positive : 0 < k) :
    anchorText slug k = slug ++ "-" ++ Nat.repr k :=
  if_neg (Nat.ne_of_gt positive)

theorem hyphen_notMem_repr (k : Nat) : '-' ∉ (Nat.repr k).toList := by
  rw [Nat.toList_repr]
  intro member
  have digit := Nat.isDigit_of_mem_toDigits (by decide) (by decide) member
  exact absurd digit (by decide)

/-- What stands behind the last separator of a text determines the text before it. -/
theorem append_separator_inj {α : Type} {separator : α} {left right before after : List α}
    (freeBefore : separator ∉ before) (freeAfter : separator ∉ after)
    (same : left ++ separator :: before = right ++ separator :: after) :
    left = right ∧ before = after := by
  rcases List.append_eq_append_iff.mp same with ⟨middle, rfl, split⟩ | ⟨middle, rfl, split⟩
  · cases middle with
    | nil => exact ⟨(List.append_nil _).symm, (List.cons.inj split).2⟩
    | cons c middle =>
        obtain ⟨-, rfl⟩ := List.cons.inj split
        exact absurd (List.mem_append_right _ List.mem_cons_self) freeBefore
  · cases middle with
    | nil => exact ⟨List.append_nil _, (List.cons.inj split).2.symm⟩
    | cons c middle =>
        obtain ⟨-, rfl⟩ := List.cons.inj split
        exact absurd (List.mem_append_right _ List.mem_cons_self) freeAfter

theorem repr_injective : Function.Injective Nat.repr := by
  intro m n same
  have digits := congrArg String.toList same
  rw [Nat.toList_repr, Nat.toList_repr] at digits
  rw [← Nat.ofDigitChars_ten_toDigits (n := m), digits, Nat.ofDigitChars_ten_toDigits]

theorem numbered_inj {left right : String} {m n : Nat}
    (same : left ++ "-" ++ Nat.repr m = right ++ "-" ++ Nat.repr n) : left = right ∧ m = n := by
  have chars := congrArg String.toList same
  have hyphen : "-".toList = ['-'] := rfl
  simp only [String.toList_append, hyphen, List.append_assoc, List.singleton_append] at chars
  obtain ⟨slugs, numbers⟩ :=
    append_separator_inj (hyphen_notMem_repr m) (hyphen_notMem_repr n) chars
  exact ⟨String.toList_inj.mp slugs, repr_injective (String.toList_inj.mp numbers)⟩

/-- The counts are those of the slugs so far. -/
def Counts (counts : List (String × Nat)) (seen : List String) : Prop :=
  ∀ slug, (Dict.get? counts slug).getD 0 = seen.count slug

theorem Counts.assign {counts : List (String × Nat)} {seen : List String} (counted : Counts counts seen)
    (slug : String) :
    Counts (Dict.assign counts slug ((Dict.get? counts slug).getD 0 + 1)) (seen ++ [slug]) := by
  intro asked
  rw [Dict.get?_assign, counted slug, List.count_append, List.count_singleton]
  by_cases same : asked = slug
  · subst same
    simp
  · have other : (slug == asked) = false := beq_eq_false_iff_ne.mpr (Ne.symm same)
    simp [same, other, counted asked]

theorem length_numberSlugs (counts : List (String × Nat)) (slugs : List String) :
    (numberSlugs counts slugs).length = slugs.length := by
  induction slugs generalizing counts with
  | nil => rfl
  | cons slug later ih => rw [numberSlugs, List.length_cons, List.length_cons, ih]

/-- A heading's anchor is its slug with the number of earlier headings that have it. -/
theorem getElem?_numberSlugs {counts : List (String × Nat)} {seen : List String}
    (counted : Counts counts seen) (slugs : List String) (i : Nat) :
    (numberSlugs counts slugs)[i]? =
      slugs[i]?.map fun slug => anchorText slug ((seen ++ slugs.take i).count slug) := by
  induction slugs generalizing counts seen i with
  | nil => rfl
  | cons slug later ih =>
      rw [numberSlugs, counted slug]
      cases i with
      | zero => simp
      | succ i =>
          have next := counted.assign slug
          rw [counted slug] at next
          simp [ih next i]

theorem counts_nil : Counts [] [] := fun _ => rfl

theorem getElem_numberSlugs {slugs : List String} {i : Nat} (inside : i < slugs.length)
    (numbered : i < (numberSlugs [] slugs).length) :
    (numberSlugs [] slugs)[i] = anchorText slugs[i] ((slugs.take i).count slugs[i]) := by
  have found := getElem?_numberSlugs counts_nil slugs i
  rw [List.getElem?_eq_getElem numbered, List.getElem?_eq_getElem inside] at found
  exact Option.some.inj found

/-- An occurrence comes after fewer occurrences than there are. -/
theorem count_take_lt {slugs : List String} {i : Nat} (inside : i < slugs.length) :
    (slugs.take i).count slugs[i] < slugs.count slugs[i] := by
  have split := List.take_append_drop i slugs
  have here : slugs.drop i = slugs[i] :: slugs.drop (i + 1) := List.drop_eq_getElem_cons inside
  calc (slugs.take i).count slugs[i]
      < (slugs.take i).count slugs[i] + (slugs.drop i).count slugs[i] := by
        rw [here, List.count_cons_self]
        omega
    _ = slugs.count slugs[i] := by rw [← List.count_append, split]

/-- Each number below the count of a slug is that of one of its headings. -/
theorem exists_occurrence {slugs : List String} {slug : String} {k : Nat}
    (few : k < slugs.count slug) :
    ∃ (i : Nat) (inside : i < slugs.length), slugs[i] = slug ∧ (slugs.take i).count slug = k := by
  induction slugs generalizing k with
  | nil => exact absurd few (Nat.not_lt_zero k)
  | cons first later ih =>
      by_cases same : first = slug
      · subst same
        cases k with
        | zero => exact ⟨0, Nat.zero_lt_succ _, rfl, rfl⟩
        | succ k =>
            rw [List.count_cons_self, Nat.succ_lt_succ_iff] at few
            obtain ⟨i, inside, found, count⟩ := ih few
            exact ⟨i + 1, Nat.succ_lt_succ inside, found, by simp [count]⟩
      · rw [List.count_cons_of_ne same] at few
        obtain ⟨i, inside, found, count⟩ := ih few
        exact ⟨i + 1, Nat.succ_lt_succ inside, found, by simp [same, count]⟩

/-- Two headings have one anchor when they are one occurrence of a slug, or when the slug of one is
the numbered anchor of the other. -/
theorem anchorText_eq {left right : String} {m n : Nat} (same : anchorText left m = anchorText right n) :
    (left = right ∧ m = n) ∨ (0 < n ∧ left = right ++ "-" ++ Nat.repr n) ∨
      (0 < m ∧ right = left ++ "-" ++ Nat.repr m) := by
  rcases Nat.eq_zero_or_pos m with rfl | isM
  · rcases Nat.eq_zero_or_pos n with rfl | isN
    · exact .inl ⟨same, rfl⟩
    · rw [anchorText_pos right isN] at same
      exact .inr (.inl ⟨isN, same⟩)
  · rw [anchorText_pos left isM] at same
    rcases Nat.eq_zero_or_pos n with rfl | isN
    · exact .inr (.inr ⟨isM, same.symm⟩)
    · rw [anchorText_pos right isN] at same
      exact .inl (numbered_inj same)

/-- A later occurrence of a slug comes after more occurrences. -/
theorem count_take_lt_of_lt {slugs : List String} {i j : Nat} (inside : i < slugs.length)
    (before : i < j) : (slugs.take i).count slugs[i] < (slugs.take j).count slugs[i] := by
  have step : (slugs.take (i + 1)).count slugs[i] = (slugs.take i).count slugs[i] + 1 := by
    rw [List.take_add_one, List.getElem?_eq_getElem inside, List.count_append]
    simp
  have upTo : (slugs.take (i + 1)).count slugs[i] ≤ (slugs.take j).count slugs[i] :=
    (List.take_prefix_take_left before).sublist.count_le _
  omega

/-- **The anchors of the headings are distinct exactly when their slugs are apart.** -/
theorem nodup_numberSlugs_iff {slugs : List String} :
    (numberSlugs [] slugs).Nodup ↔ SlugsApart slugs := by
  have long := length_numberSlugs [] slugs
  constructor
  · intro distinct slug member k positive few meets
    obtain ⟨i, inI, isSlug, count⟩ := exists_occurrence few
    obtain ⟨j, inJ, isOther, none⟩ := exists_occurrence (List.count_pos_iff.mpr meets)
    have numberedI : i < (numberSlugs [] slugs).length := long.symm ▸ inI
    have numberedJ : j < (numberSlugs [] slugs).length := long.symm ▸ inJ
    have anchors : (numberSlugs [] slugs)[i] = (numberSlugs [] slugs)[j] := by
      rw [getElem_numberSlugs inI, getElem_numberSlugs inJ, isSlug, isOther, count, none,
        anchorText_pos slug positive]
      rfl
    obtain rfl := distinct.getElem_inj_iff.mp anchors
    have meeting : slug = slug ++ "-" ++ Nat.repr k := isSlug.symm.trans isOther
    rw [← meeting, count] at none
    exact absurd none (Nat.ne_of_gt positive)
  · intro apart
    rw [List.nodup_iff_pairwise_ne, List.pairwise_iff_getElem]
    intro i j numberedI numberedJ before same
    have inI : i < slugs.length := long ▸ numberedI
    have inJ : j < slugs.length := long ▸ numberedJ
    rw [getElem_numberSlugs inI, getElem_numberSlugs inJ] at same
    rcases anchorText_eq same with ⟨slug, count⟩ | ⟨positive, slug⟩ | ⟨positive, slug⟩
    · have more := count_take_lt_of_lt inI before
      rw [← slug] at count
      omega
    · exact apart slugs[j] (List.getElem_mem inJ) _ positive (count_take_lt inJ)
        (slug ▸ List.getElem_mem inI)
    · exact apart slugs[i] (List.getElem_mem inI) _ positive (count_take_lt inI)
        (slug ▸ List.getElem_mem inJ)

/-- Every heading that has a slug has an anchor of its own, so there are as many anchors as there are
such headings. -/
structure AnchorsOwn (tables : Unicode) (text : List Char) : Prop where
  distinct : (generatedAnchors tables text).Nodup
  counted : (generatedAnchors tables text).dedup.length = (headingSlugs tables text).length

/-- **The headings of a document have anchors of their own exactly when their slugs are apart.** -/
theorem generatedAnchors_own_iff (tables : Unicode) (text : List Char) :
    AnchorsOwn tables text ↔ SlugsApart (headingSlugs tables text) := by
  constructor
  · intro own
    exact nodup_numberSlugs_iff.mp own.distinct
  · intro apart
    have distinct := nodup_numberSlugs_iff.mpr apart
    refine ⟨distinct, ?_⟩
    rw [generatedAnchors, distinct.dedup]
    exact length_numberSlugs [] _

/-- Two headings `A` and one `A 1`: the second and the third get one anchor. -/
theorem repeated_heading_meets_another :
    ¬ AnchorsOwn asciiTables "# A\n# A\n# A 1".toList := by
  intro own
  have anchors : generatedAnchors asciiTables "# A\n# A\n# A 1".toList = ["a", "a-1", "a-1"] := by
    decide +kernel
  have distinct := own.distinct
  rw [anchors] at distinct
  exact absurd distinct (by decide)

end Aegis.Links
