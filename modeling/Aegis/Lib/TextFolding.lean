/-
# Lib.TextFolding — folding a text folds its parts

Three foldings of a text, and what each leaves of a part of it: collapsing blanks keeps the trimmed
collapse of a part (`collapse_infix`), trimming keeps a trimmed part (`infix_stripChars`), and lower
case keeps the lower case of an ASCII part (`lower_infix`). `dropEnd` removes characters of a class
and blanks from the end, and keeps what ends in another character (`infix_dropEnd`).
-/
import Aegis.Lib.PythonText
import Aegis.Lib.Unicode
import Mathlib.Data.List.Infix

namespace Aegis.Lib

set_option autoImplicit false

/-! ## Collapsing blanks -/

/-- `re.sub(r"\s+", " ", text)`, behind a blank or not. -/
def collapseFrom : Bool → List Char → List Char
  | _, [] => []
  | behind, c :: rest =>
      if isBlank c then
        if behind then collapseFrom true rest else ' ' :: collapseFrom true rest
      else c :: collapseFrom false rest

def collapse (text : List Char) : List Char := collapseFrom false text

/-- A place is behind a blank. -/
def endsBlank : Bool → List Char → Bool
  | behind, [] => behind
  | _, c :: rest => endsBlank (isBlank c) rest

theorem collapseFrom_append (behind : Bool) (left right : List Char) :
    collapseFrom behind (left ++ right) =
      collapseFrom behind left ++ collapseFrom (endsBlank behind left) right := by
  induction left generalizing behind with
  | nil => rfl
  | cons c left ih =>
      rw [List.cons_append, collapseFrom, collapseFrom, endsBlank]
      cases blank : isBlank c with
      | false => simp [ih]
      | true => cases behind <;> simp [ih]

theorem stripChars_blank (text : List Char) : stripChars (' ' :: text) = stripChars text := by
  unfold stripChars
  rw [List.dropWhile_cons_of_pos (by decide)]

/-- The trimmed collapse is the same behind a blank. -/
theorem stripChars_collapseFrom (behind : Bool) (text : List Char) :
    stripChars (collapseFrom behind text) = stripChars (collapse text) := by
  cases behind with
  | false => rfl
  | true =>
      cases text with
      | nil => rfl
      | cons c rest =>
          unfold collapse
          rw [collapseFrom, collapseFrom]
          cases isBlank c with
          | false => rfl
          | true => exact (stripChars_blank _).symm

theorem stripChars_isInfix (text : List Char) : stripChars text <:+: text :=
  (List.rdropWhile_prefix isBlank _).isInfix.trans (List.dropWhile_suffix isBlank).isInfix

/-- **A part of a text is collapsed as a part of its collapse.** -/
theorem collapse_infix {part text : List Char} (inside : part <:+: text) :
    stripChars (collapse part) <:+: collapse text := by
  obtain ⟨before, after, rfl⟩ := inside
  unfold collapse
  rw [collapseFrom_append, collapseFrom_append]
  have here := stripChars_isInfix (collapseFrom (endsBlank false before) part)
  rw [stripChars_collapseFrom] at here
  exact here.trans ⟨_, _, rfl⟩

theorem mem_collapseFrom {behind : Bool} {text : List Char} {c : Char}
    (member : c ∈ collapseFrom behind text) : c = ' ' ∨ c ∈ text := by
  induction text generalizing behind with
  | nil => cases member
  | cons d rest ih =>
      rw [collapseFrom] at member
      have later : ∀ {flag : Bool}, c ∈ collapseFrom flag rest → c = ' ' ∨ c ∈ d :: rest :=
        fun inRest => (ih inRest).imp_right (List.mem_cons_of_mem d)
      split at member
      · split at member
        · exact later member
        · rcases List.mem_cons.mp member with rfl | inRest
          · exact .inl rfl
          · exact later inRest
      · rcases List.mem_cons.mp member with rfl | inRest
        · exact .inr List.mem_cons_self
        · exact later inRest

/-! ## Trimming -/

/-- Blanks are dropped up to a part that starts with none. -/
theorem dropWhile_append_of_head {p : Char → Bool} (before : List Char) {part : List Char}
    (visible : ∀ c ∈ part.head?, p c = false) :
    ∃ kept, (before ++ part).dropWhile p = kept ++ part := by
  induction before with
  | nil =>
      refine ⟨[], ?_⟩
      cases part with
      | nil => rfl
      | cons c rest => simp [visible c rfl]
  | cons c before ih =>
      rw [List.cons_append, List.dropWhile_cons]
      split
      · exact ih
      · exact ⟨c :: before, rfl⟩

theorem rdropWhile_append_of_getLast {p : Char → Bool} {part : List Char} (after : List Char)
    (visible : ∀ c ∈ part.getLast?, p c = false) :
    ∃ kept, (part ++ after).rdropWhile p = part ++ kept := by
  have turned : ∀ c ∈ part.reverse.head?, p c = false := by
    rw [List.head?_reverse]
    exact visible
  obtain ⟨kept, dropped⟩ := dropWhile_append_of_head after.reverse turned
  refine ⟨kept.reverse, ?_⟩
  rw [List.rdropWhile, List.reverse_append, dropped, List.reverse_append, List.reverse_reverse]

/-- A trimmed part of a text is a part of the trimmed text. -/
theorem infix_stripChars {part text : List Char} (trimmed : Trimmed part) (inside : part <:+: text) :
    part <:+: stripChars text := by
  obtain ⟨before, after, rfl⟩ := inside
  cases part with
  | nil => exact List.nil_infix
  | cons first rest =>
      have head : ∀ c ∈ (first :: rest ++ after).head?, isBlank c = false := by
        intro c member
        exact trimmed.first c (by simpa using member)
      obtain ⟨front, isFront⟩ := dropWhile_append_of_head before head
      have last : ∀ c ∈ (front ++ (first :: rest)).getLast?, isBlank c = false := by
        intro c member
        rw [List.getLast?_append_of_ne_nil _ (List.cons_ne_nil _ _)] at member
        exact trimmed.last c member
      obtain ⟨back, isBack⟩ := rdropWhile_append_of_getLast after last
      refine ⟨front, back, ?_⟩
      rw [stripChars, List.append_assoc before, isFront, ← List.append_assoc, isBack]

/-! ## Lower case -/

namespace Unicode

variable (tables : Unicode)

theorem lowerFrom_append (before left right : List Char)
    (plain : ∀ c ∈ left, c.toNat < 128) :
    tables.lowerFrom before (left ++ right) =
      left.map Char.toLower ++ tables.lowerFrom (left.reverse ++ before) right := by
  induction left generalizing before with
  | nil => rfl
  | cons c left ih =>
      obtain ⟨first, others⟩ := List.forall_mem_cons.mp plain
      rw [List.cons_append, lowerFrom, tables.lowerAt_ascii _ _ _ first, ih _ others]
      simp

theorem lower_ascii {text : List Char} (plain : ∀ c ∈ text, c.toNat < 128) :
    tables.lower text = text.map Char.toLower := by
  have whole := tables.lowerFrom_append [] text [] plain
  rw [List.append_nil] at whole
  rw [lower, whole]
  simp [lowerFrom]

theorem lowerFrom_split (before left right : List Char) :
    ∃ front, tables.lowerFrom before (left ++ right) =
      front ++ tables.lowerFrom (left.reverse ++ before) right := by
  induction left generalizing before with
  | nil => exact ⟨[], rfl⟩
  | cons c left ih =>
      obtain ⟨front, split⟩ := ih (c :: before)
      refine ⟨tables.lowerAt before c (left ++ right) ++ front, ?_⟩
      rw [List.cons_append, lowerFrom, split]
      simp

/-- **An ASCII part of a text is folded as a part of the folded text.** -/
theorem lower_infix {part text : List Char} (plain : ∀ c ∈ part, c.toNat < 128)
    (inside : part <:+: text) : tables.lower part <:+: tables.lower text := by
  obtain ⟨before, after, rfl⟩ := inside
  obtain ⟨front, split⟩ := tables.lowerFrom_split [] before (part ++ after)
  rw [tables.lower_ascii plain, lower, List.append_assoc, split,
    tables.lowerFrom_append _ part after plain]
  exact ⟨front, _, List.append_assoc _ _ _⟩

theorem isBlank_toLower {c : Char} (plain : c.toNat < 128) (visible : isBlank c = false) :
    isBlank c.toLower = false := by
  have each : ∀ n : Fin 128, isBlank (Char.ofNat n) = false → isBlank (Char.ofNat n).toLower = false := by
    decide
  have here := each ⟨c.toNat, plain⟩
  simp only [Char.ofNat_toNat] at here
  exact here visible

/-- An ASCII text that is trimmed stays so. -/
theorem trimmed_lower {text : List Char} (plain : ∀ c ∈ text, c.toNat < 128)
    (trimmed : Trimmed text) : Trimmed (tables.lower text) := by
  rw [tables.lower_ascii plain]
  refine ⟨fun c member => ?_, fun c member => ?_⟩
  · rw [List.head?_map] at member
    obtain ⟨d, isHead, rfl⟩ := Option.mem_map.mp member
    exact isBlank_toLower (plain d (List.mem_of_head? isHead)) (trimmed.first d isHead)
  · rw [List.getLast?_map] at member
    obtain ⟨d, isLast, rfl⟩ := Option.mem_map.mp member
    exact isBlank_toLower (plain d (List.mem_of_getLast? isLast)) (trimmed.last d isLast)

end Unicode

/-! ## The end of a text -/

section End

variable {drops : Char → Bool}

/-- The characters from the end of a text on, once a character has been dropped or not. -/
def dropEndFrom (drops : Char → Bool) : Bool → List Char → List Char
  | _, [] => []
  | dropped, c :: rest =>
      if drops c || dropped && isBlank c then dropEndFrom drops true rest else c :: rest

/-- `while text and text[-1] in class: text = text[:-1].rstrip()`. -/
def dropEnd (drops : Char → Bool) (text : List Char) : List Char :=
  (dropEndFrom drops false text.reverse).reverse

theorem dropEndFrom_suffix (dropped : Bool) (text : List Char) :
    dropEndFrom drops dropped text <:+ text := by
  induction text generalizing dropped with
  | nil => exact List.suffix_rfl
  | cons c rest ih =>
      rw [dropEndFrom]
      split
      · exact (ih true).trans (List.suffix_cons c rest)
      · exact List.suffix_rfl

/-- What is left starts with a character that is kept, and with no blank unless the text does. -/
theorem dropEndFrom_head {dropped : Bool} {text rest : List Char} {c : Char}
    (visible : ∀ d ∈ text.head?, isBlank d = false)
    (left : dropEndFrom drops dropped text = c :: rest) : drops c = false ∧ isBlank c = false := by
  have dropping : ∀ {text : List Char}, dropEndFrom drops true text = c :: rest →
      drops c = false ∧ isBlank c = false := by
    intro text left
    induction text with
    | nil => cases left
    | cons d more ih =>
        rw [dropEndFrom] at left
        split at left
        · exact ih left
        · rename_i kept
          obtain ⟨rfl, -⟩ := List.cons.inj left
          simpa using kept
  cases text with
  | nil => cases left
  | cons d more =>
      rw [dropEndFrom] at left
      split at left
      · exact dropping left
      · rename_i kept
        obtain ⟨rfl, -⟩ := List.cons.inj left
        refine ⟨?_, visible d rfl⟩
        simp only [Bool.or_eq_true, not_or, Bool.not_eq_true] at kept
        exact kept.1

/-- A character that is kept stops the dropping. -/
theorem dropEndFrom_append {c : Char} (kept : drops c = false) (visible : isBlank c = false)
    (dropped : Bool) (behind rest : List Char) :
    ∃ left, dropEndFrom drops dropped (behind ++ c :: rest) = left ++ c :: rest := by
  induction behind generalizing dropped with
  | nil => exact ⟨[], by simp [dropEndFrom, kept, visible]⟩
  | cons d behind ih =>
      rw [List.cons_append, dropEndFrom]
      split
      · exact ih true
      · exact ⟨d :: behind, rfl⟩

/-- **What is left of a trimmed part is a part of what is left.** -/
theorem infix_dropEnd {part text : List Char} (trimmed : Trimmed part) (inside : part <:+: text) :
    dropEnd drops part <:+: dropEnd drops text := by
  unfold dropEnd
  have suffix : dropEndFrom drops false part.reverse <:+ part.reverse := dropEndFrom_suffix _ _
  cases left : dropEndFrom drops false part.reverse with
  | nil => exact List.nil_infix
  | cons c rest =>
      have visible : ∀ d ∈ part.reverse.head?, isBlank d = false := by
        rw [List.head?_reverse]
        exact trimmed.last
      obtain ⟨kept, plain⟩ := dropEndFrom_head visible left
      rw [left] at suffix
      obtain ⟨front, split⟩ := suffix
      obtain ⟨before, after, rfl⟩ := inside
      have turned : (before ++ part ++ after).reverse =
          (after.reverse ++ front) ++ c :: (rest ++ before.reverse) := by
        rw [List.reverse_append, List.reverse_append, ← split]
        simp
      obtain ⟨more, stopped⟩ :=
        dropEndFrom_append kept plain false (after.reverse ++ front) (rest ++ before.reverse)
      rw [turned, stopped]
      exact ⟨before, more.reverse, by simp⟩

end End

end Aegis.Lib
