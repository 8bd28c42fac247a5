/-
# PlanLint.Lint — requirement units that a new plan body drops

The linter takes requirement units from the lines of the previous plan bodies (`extractUnits`) and
reports those whose normalised text is no part of the normalised new body (`collectDropped`). It
reports every unit that is missing (`kept_of_collectDropped`), and text that is kept verbatim between
two other texts loses none: normalising a unit on its own gives a part of the normalised body
(`verbatim_kept`).
-/
import Aegis.Lib.Regex
import Aegis.Lib.SortBy
import Aegis.Lib.TextFolding
import Mathlib.Data.Prod.Lex
import Mathlib.Data.String.Basic

namespace Aegis.PlanLint

open Aegis.Lib Aegis.Lib.Regex

set_option autoImplicit false

/-! ## Normalising -/

/-- `TRANSLATION`: straight quotes. -/
def straightQuote (c : Char) : Char :=
  if 0x2018 ≤ c.toNat ∧ c.toNat ≤ 0x201b then '\x27'
  else if 0x201c ≤ c.toNat ∧ c.toNat ≤ 0x201f then '\x22'
  else c

/-- `STRIPPED_EMPHASIS`. -/
def isEmphasis (c : Char) : Bool := c == '*' || c == '_' || c == '\x60'

/-- `TERMINAL_PUNCTUATION`. -/
def isTerminal (c : Char) : Bool := c ∈ ['.', ',', ';', ':', '!', '?']

section Tables

variable (tables : Unicode) (forms : Compatibility)

/-- `normalise`. -/
def normalise (text : List Char) : List Char :=
  let straight := (forms.normalize text).map straightQuote
  let plain := straight.filter fun c => !isEmphasis c
  dropEnd isTerminal (tables.lower (stripChars (collapse plain)))

/-! ## Requirement units -/

/-- `\d`. -/
def isDecimal (c : Char) : Bool := (decimalValue? c).isSome

/-- `AC_ROW_RE`. -/
def acRowPattern : Pattern :=
  sequence [start, many isBlank 0 none, many isDecimal 1 none, literal ".", many isBlank 1 none,
    literal "**AC", many isDecimal 1 none]

/-- `OBLIGATION_KEYWORDS`. -/
def obligationKeywords : List String :=
  ["must", "never", "exactly", "zero", "at most", "non-zero", "required", "immutable", "superseded",
    "shall"]

/-- `KEYWORD_RES`. -/
def keywordPattern (keyword : String) : Pattern :=
  let inWord := fun c => ('0' ≤ c && c ≤ '9') || ('a' ≤ c && c ≤ 'z')
  sequence [notBehind inWord, literal keyword, notAhead inWord]

/-- `has_obligation_keyword`. -/
def hasObligationKeyword (lowered : List Char) : Bool :=
  obligationKeywords.any fun keyword => ((keywordPattern keyword).search [] lowered).isSome

def minClauseLength : Nat := 8

/-- The clauses of a line that are long enough. -/
def clausesOf (line : List Char) : List (List Char) :=
  ((line.splitOn ';').map stripChars).filter fun clause => minClauseLength ≤ clause.length

/-- `extract_units`. -/
def extractUnits (line : List Char) : List (List Char) :=
  let isAcRow := (acRowPattern.match? line).isSome
  let hasKeyword := hasObligationKeyword (tables.lower line)
  if !(isAcRow || hasKeyword) then []
  else (if isAcRow then [stripChars line] else []) ++ clausesOf line

/-! ## Dropped units -/

/-- A requirement unit that was dropped. -/
structure Finding where
  previous_file : String
  line : Nat
  clause : String
  deriving DecidableEq, Repr

/-- The key that findings are sorted by. -/
def findingKey (finding : Finding) : String ×ₗ Nat ×ₗ String :=
  toLex (finding.previous_file, toLex (finding.line, finding.clause))

/-- The units of a body, each with its file and line. -/
def unitsOf (previous : String × List Char) : List Finding :=
  ((previous.2.splitOn '\n').zipIdx 1).flatMap fun line =>
    (extractUnits tables line.1).map fun unit => ⟨previous.1, line.2, String.ofList unit⟩

/-- The loop over the units, with the findings so far. -/
def collectUnits (newNormalised : List Char) : List Finding → List Finding → List Finding
  | found, [] => found
  | found, unit :: later =>
      if unit.clause = "" ∨ normalise tables forms unit.clause.toList <:+: newNormalised ∨ unit ∈ found
      then collectUnits newNormalised found later
      else collectUnits newNormalised (found ++ [unit]) later

/-- `collect_dropped`. -/
def collectDropped (previous : List (String × List Char)) (newNormalised : List Char) :
    List Finding :=
  sortBy findingKey
    (collectUnits tables forms newNormalised [] (previous.flatMap (unitsOf tables)))

end Tables

/-! ## Parts of a text -/

theorem infix_of_mem_intercalate (separator : List Char) {part : List Char}
    {parts : List (List Char)} (member : part ∈ parts) : part <:+: separator.intercalate parts := by
  induction parts with
  | nil => cases member
  | cons first rest ih =>
      cases rest with
      | nil =>
          obtain rfl := List.mem_singleton.mp member
          rw [List.intercalate_singleton]
      | cons second more =>
          rw [List.intercalate_cons_cons]
          rcases List.mem_cons.mp member with rfl | later
          · exact ⟨[], separator ++ separator.intercalate (second :: more), by simp⟩
          · exact (ih later).trans (List.suffix_append _ _).isInfix

theorem infix_of_mem_splitOn {separator : Char} {text part : List Char}
    (member : part ∈ text.splitOn separator) : part <:+: text := by
  have whole := infix_of_mem_intercalate [separator] member
  rwa [List.intercalate_splitOn] at whole

section Units

variable {tables : Unicode} {forms : Compatibility}

/-- A unit is a part of its line. -/
theorem infix_of_mem_extractUnits {line unit : List Char} (member : unit ∈ extractUnits tables line) :
    unit <:+: line := by
  unfold extractUnits at member
  simp only at member
  split at member
  · cases member
  · rcases List.mem_append.mp member with row | clause
    · split at row
      · obtain rfl := List.mem_singleton.mp row
        exact stripChars_isInfix line
      · cases row
    · obtain ⟨stripped, -⟩ := List.mem_filter.mp clause
      obtain ⟨cut, isCut, rfl⟩ := List.mem_map.mp stripped
      exact (stripChars_isInfix cut).trans (infix_of_mem_splitOn isCut)

theorem straightQuote_ascii {c : Char} (plain : c.toNat < 128) : straightQuote c = c := by
  unfold straightQuote
  rw [if_neg (by omega), if_neg (by omega)]

theorem map_straightQuote_ascii {text : List Char} (plain : ∀ c ∈ text, c.toNat < 128) :
    text.map straightQuote = text := by
  rw [List.map_congr_left fun c member => straightQuote_ascii (plain c member), List.map_id']

/-- **An ASCII part of a text between two newlines is normalised as a part of the normalised text.** -/
theorem normalise_infix {body unit : List Char} (plain : ∀ c ∈ body, c.toNat < 128)
    (inside : unit <:+: body) (before after : List Char) :
    normalise tables forms unit <:+:
      normalise tables forms (before ++ '\n' :: body ++ '\n' :: after) := by
  have plainUnit : ∀ c ∈ unit, c.toNat < 128 := fun c member => plain c (inside.subset member)
  have whole : forms.normalize (before ++ '\n' :: body ++ '\n' :: after) =
      forms.normalize before ++ '\n' :: body ++ '\n' :: forms.normalize after := by
    rw [List.append_assoc, List.cons_append, forms.normalize_newline, forms.normalize_newline,
      forms.normalize_ascii body plain, List.append_assoc, List.cons_append]
  have cut : unit.map straightQuote <:+:
      (forms.normalize before ++ '\n' :: body ++ '\n' :: forms.normalize after).map straightQuote := by
    have between : body <:+: forms.normalize before ++ '\n' :: body ++ '\n' :: forms.normalize after :=
      ⟨forms.normalize before ++ ['\n'], '\n' :: forms.normalize after, by simp⟩
    exact (inside.trans between).map straightQuote
  have kept := cut.filter fun c => !isEmphasis c
  have collapsed := collapse_infix kept
  have trimmed := infix_stripChars (trimmed_stripChars _) collapsed
  have plainPart : ∀ c ∈ stripChars (collapse ((unit.map straightQuote).filter fun c => !isEmphasis c)),
      c.toNat < 128 := by
    intro c member
    rcases mem_collapseFrom (mem_of_mem_stripChars member) with rfl | among
    · decide
    · rw [map_straightQuote_ascii plainUnit] at among
      exact plainUnit c (List.mem_of_mem_filter among)
  have lowered := tables.lower_infix plainPart trimmed
  unfold normalise
  rw [whole, forms.normalize_ascii unit plainUnit]
  exact infix_dropEnd (tables.trimmed_lower plainPart (trimmed_stripChars _)) lowered

/-! ## What is reported -/

/-- The findings are the units that are missing. -/
theorem mem_collectUnits {newNormalised : List Char} {found units : List Finding} {finding : Finding} :
    finding ∈ collectUnits tables forms newNormalised found units ↔
      finding ∈ found ∨ (finding ∈ units ∧ finding.clause ≠ "" ∧
        ¬ normalise tables forms finding.clause.toList <:+: newNormalised) := by
  induction units generalizing found with
  | nil => simp [collectUnits]
  | cons unit later ih =>
      rw [collectUnits]
      split
      · rename_i skipped
        rw [ih, List.mem_cons]
        constructor
        · rintro (held | ⟨member, missing⟩)
          · exact .inl held
          · exact .inr ⟨.inr member, missing⟩
        · rintro (held | ⟨rfl | member, nonempty, missing⟩)
          · exact .inl held
          · exact .inl ((skipped.resolve_left nonempty).resolve_left missing)
          · exact .inr ⟨member, nonempty, missing⟩
      · rename_i reported
        rw [ih, List.mem_append, List.mem_singleton, List.mem_cons]
        constructor
        · rintro ((held | rfl) | ⟨member, missing⟩)
          · exact .inl held
          · exact .inr ⟨.inl rfl, fun empty => reported (.inl empty),
              fun kept => reported (.inr (.inl kept))⟩
          · exact .inr ⟨.inr member, missing⟩
        · rintro (held | ⟨rfl | member, missing⟩)
          · exact .inl (.inl held)
          · exact .inl (.inr rfl)
          · exact .inr ⟨member, missing⟩

theorem mem_collectDropped {previous : List (String × List Char)} {newNormalised : List Char}
    {finding : Finding} :
    finding ∈ collectDropped tables forms previous newNormalised ↔
      (∃ body ∈ previous, finding ∈ unitsOf tables body) ∧ finding.clause ≠ "" ∧
        ¬ normalise tables forms finding.clause.toList <:+: newNormalised := by
  rw [collectDropped, mem_sortBy, mem_collectUnits, List.mem_flatMap]
  simp

theorem exists_mem_unitsOf {body : String × List Char} {line unit : List Char}
    (isLine : line ∈ body.2.splitOn '\n') (isUnit : unit ∈ extractUnits tables line) :
    ∃ number, (⟨body.1, number, String.ofList unit⟩ : Finding) ∈ unitsOf tables body := by
  have listed : line ∈ ((body.2.splitOn '\n').zipIdx 1).map Prod.fst := by
    rw [List.zipIdx_map_fst]
    exact isLine
  obtain ⟨numbered, member, rfl⟩ := List.mem_map.mp listed
  exact ⟨numbered.2, List.mem_flatMap.mpr ⟨numbered, member, List.mem_map_of_mem isUnit⟩⟩

theorem exists_of_mem_unitsOf {body : String × List Char} {finding : Finding}
    (member : finding ∈ unitsOf tables body) :
    ∃ line ∈ body.2.splitOn '\n', finding.clause.toList ∈ extractUnits tables line := by
  obtain ⟨numbered, isNumbered, inLine⟩ := List.mem_flatMap.mp member
  obtain ⟨unit, isUnit, rfl⟩ := List.mem_map.mp inLine
  refine ⟨numbered.1, List.fst_mem_of_mem_zipIdx isNumbered, ?_⟩
  rwa [String.toList_ofList]

/-- Every unit of a body is a part of the normalised new body. -/
def UnitsKept (tables : Unicode) (forms : Compatibility) (body newNormalised : List Char) : Prop :=
  ∀ line ∈ body.splitOn '\n', ∀ unit ∈ extractUnits tables line,
    normalise tables forms unit <:+: newNormalised

/-- **Nothing is reported exactly when every unit is kept.** -/
theorem collectDropped_eq_nil {previous : List (String × List Char)} {newNormalised : List Char} :
    collectDropped tables forms previous newNormalised = [] ↔
      ∀ body ∈ previous, UnitsKept tables forms body.2 newNormalised := by
  rw [List.eq_nil_iff_forall_not_mem]
  constructor
  · intro none body isBody line isLine unit isUnit
    obtain ⟨number, member⟩ := exists_mem_unitsOf isLine isUnit
    have unreported := none ⟨body.1, number, String.ofList unit⟩
    rw [mem_collectDropped] at unreported
    by_contra missing
    refine unreported ⟨⟨body, isBody, member⟩, ?_, by rwa [String.toList_ofList]⟩
    rintro empty
    have isEmpty : unit = [] := by
      have chars := congrArg String.toList empty
      rwa [String.toList_ofList] at chars
    subst isEmpty
    apply missing
    have folded : normalise tables forms [] = [] := by
      unfold normalise
      rw [forms.normalize_ascii [] fun _ member => absurd member List.not_mem_nil]
      rfl
    rw [folded]
    exact List.nil_infix
  · intro kept finding member
    rw [mem_collectDropped] at member
    obtain ⟨⟨body, isBody, inBody⟩, -, missing⟩ := member
    obtain ⟨line, isLine, isUnit⟩ := exists_of_mem_unitsOf inBody
    exact missing (kept body isBody line isLine _ isUnit)

/-- A body that is kept verbatim between two other texts keeps its units. -/
theorem unitsKept_verbatim {body : List Char} (plain : ∀ c ∈ body, c.toNat < 128)
    (before after : List Char) :
    UnitsKept tables forms body
      (normalise tables forms (before ++ '\n' :: body ++ '\n' :: after)) := by
  intro line isLine unit isUnit
  exact normalise_infix plain
    ((infix_of_mem_extractUnits isUnit).trans (infix_of_mem_splitOn isLine)) before after

end Units

/-- **Text kept verbatim is never reported as dropped, and what is not reported is kept.** -/
theorem kept_text_unreported (tables : Unicode) (forms : Compatibility) :
    (∀ file body before after, (∀ c ∈ body, c.toNat < 128) →
      let new := normalise tables forms (before ++ '\n' :: body ++ '\n' :: after)
      UnitsKept tables forms body new ∧ collectDropped tables forms [(file, body)] new = []) ∧
    ∀ previous new, collectDropped tables forms previous new = [] →
      ∀ body ∈ previous, UnitsKept tables forms body.2 new := by
  refine ⟨fun file body before after plain => ?_, fun previous new => collectDropped_eq_nil.mp⟩
  have kept : UnitsKept tables forms body
      (normalise tables forms (before ++ '\n' :: body ++ '\n' :: after)) :=
    unitsKept_verbatim plain before after
  refine ⟨kept, collectDropped_eq_nil.mpr fun other isOther => ?_⟩
  obtain rfl := List.mem_singleton.mp isOther
  exact kept

def sampleBody : List Char := "1. **AC1** It **must** hold; nothing else.".toList

theorem sampleBody_unreported :
    extractUnits asciiTables sampleBody ≠ [] ∧
      collectDropped asciiTables normalTexts [("plan.md", sampleBody)]
        (normalise asciiTables normalTexts ([] ++ '\n' :: sampleBody ++ '\n' :: [])) = [] :=
  ⟨by decide +kernel,
    ((kept_text_unreported asciiTables normalTexts).1 "plan.md" sampleBody [] [] (by decide)).2⟩

end Aegis.PlanLint
