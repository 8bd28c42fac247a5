/-
# DeliveryControl.SchemaText — comparing stored schema texts

`canonical_schema_sql` of `storage.py`. Quoted segments are kept, the text between them is put in
upper case, and its whitespace, every `IFNOTEXISTS` that is then left, and the semicolons at the end
are dropped.

Whitespace separates words, so that two texts of different words can have one canonical text
(`separated_words_merged`). What is compared otherwise is `canonicalSchemaSql_faithful`: the quoted
segments and the form of every stretch between them.
-/
import Aegis.Lib.PythonText
import Aegis.Lib.QuotedText

namespace Aegis.DeliveryControl

open Aegis.Lib
open Aegis.Lib.QuotedText

set_option autoImplicit false

/-- `str.upper`, one character at a time. No character other than a quote is put in upper case as a
quote. -/
structure Uppercase where
  upper : Char → List Char
  unquoted : ∀ c, isQuote c = false → Unquoted (upper c)

/-- A piece of a text. -/
inductive SchemaPart
  | quoted (text : List Char)
  | code (text : List Char)
  deriving DecidableEq, Repr

namespace SchemaPart

def text : SchemaPart → List Char
  | quoted text => text
  | code text => text

/-- The pieces of a text, one turn of the loop for each. -/
def within : Nat → List Char → List SchemaPart
  | 0, _ => []
  | _ + 1, [] => []
  | turns + 1, c :: rest =>
      if isQuote c = true then
        let scanned := scanQuoted c rest
        .quoted (c :: scanned.1) :: within turns scanned.2
      else
        .code ((c :: rest).takeWhile fun d => !isQuote d) ::
          within turns ((c :: rest).dropWhile fun d => !isQuote d)

/-- Every turn consumes a character. -/
def parts (sql : List Char) : List SchemaPart := within sql.length sql

end SchemaPart

def phrase : List Char := "IFNOTEXISTS".toList

/-- `text.replace("IFNOTEXISTS", "")`, with `skipped` characters of an occurrence still to skip. -/
def dropPhrase : Nat → List Char → List Char
  | _, [] => []
  | skipped + 1, _ :: rest => dropPhrase skipped rest
  | 0, c :: rest =>
      if phrase.isPrefixOf (c :: rest) = true then dropPhrase 10 rest else c :: dropPhrase 0 rest

def rstripSemicolons (text : List Char) : List Char := text.rdropWhile (· = ';')

namespace Uppercase

variable (case : Uppercase)

/-- `"".join(text.upper().split()).replace("IFNOTEXISTS", "")`. -/
def codeForm (text : List Char) : List Char :=
  dropPhrase 0 ((text.flatMap case.upper).filter fun c => !isBlank c)

def partForm : SchemaPart → List Char
  | .quoted text => text
  | .code text => case.codeForm text

/-- `canonical_schema_sql`. -/
def canonicalSchemaSql (sql : String) : String :=
  String.ofList (rstripSemicolons ((SchemaPart.parts sql.toList).flatMap case.partForm))

end Uppercase

/-! ## The pieces of a text -/

namespace SchemaPart

/-- The stretch in front of the first segment, and the segments with the stretches behind them. -/
def layout : List SchemaPart → List Char × List (List Char × List Char)
  | [] => ([], [])
  | .code text :: rest => (text ++ (layout rest).1, (layout rest).2)
  | .quoted text :: rest => ([], (text, (layout rest).1) :: (layout rest).2)

/-- The quoted segments of the pieces. -/
def quotedTexts (pieces : List SchemaPart) : List (List Char) :=
  pieces.filterMap fun
    | .quoted text => some text
    | .code _ => none

theorem layout_segments (pieces : List SchemaPart) :
    (layout pieces).2.map Prod.fst = quotedTexts pieces := by
  induction pieces with
  | nil => rfl
  | cons piece rest ih =>
      cases piece with
      | code text => exact ih
      | quoted text => exact congrArg (text :: ·) ih

/-- No stretch is in front of a text that starts with a quote. -/
theorem layout_startsQuoted {turns : Nat} {sql : List Char} (starts : StartsQuoted sql) :
    (layout (within turns sql)).1 = [] := by
  cases turns with
  | zero => rfl
  | succ turns =>
      cases sql with
      | nil => rfl
      | cons c rest =>
          rw [within, if_pos (starts c rfl)]
          rfl

theorem startsQuoted_dropWhile (sql : List Char) :
    StartsQuoted (sql.dropWhile fun d => !isQuote d) := by
  intro c head
  have stopped := List.head?_dropWhile_not (fun d => !isQuote d) sql
  rw [head] at stopped
  simpa using stopped

/-- The stretches of a layout are unquoted. -/
theorem layout_unquoted (turns : Nat) (sql : List Char) :
    Unquoted (layout (within turns sql)).1 ∧
      ∀ entry ∈ (layout (within turns sql)).2, Unquoted entry.2 := by
  induction turns generalizing sql with
  | zero => exact ⟨fun _ member => absurd member List.not_mem_nil,
      fun _ member => absurd member List.not_mem_nil⟩
  | succ turns ih =>
      cases sql with
      | nil => exact ⟨fun _ member => absurd member List.not_mem_nil,
          fun _ member => absurd member List.not_mem_nil⟩
      | cons c rest =>
          rw [within]
          split
          · obtain ⟨stretch, stretches⟩ := ih (scanQuoted c rest).2
            refine ⟨fun _ member => absurd member List.not_mem_nil, ?_⟩
            intro entry member
            rcases List.mem_cons.mp member with rfl | later
            · exact stretch
            · exact stretches entry later
          · obtain ⟨-, stretches⟩ := ih ((c :: rest).dropWhile fun d => !isQuote d)
            refine ⟨?_, stretches⟩
            intro d member
            rw [layout, layout_startsQuoted (startsQuoted_dropWhile _), List.append_nil] at member
            simpa using List.mem_takeWhile_imp member

end SchemaPart

/-! ## The form of a text -/

namespace Uppercase

variable {case : Uppercase}

theorem mem_dropPhrase {c : Char} : ∀ {skipped : Nat} {text : List Char},
    c ∈ dropPhrase skipped text → c ∈ text
  | skipped, [], member => by
      cases skipped <;> exact member
  | skipped + 1, d :: rest, member =>
      List.mem_cons_of_mem _ (mem_dropPhrase member)
  | 0, d :: rest, member => by
      rw [dropPhrase] at member
      split at member
      · exact List.mem_cons_of_mem _ (mem_dropPhrase member)
      · rcases List.mem_cons.mp member with rfl | later
        · exact List.mem_cons_self
        · exact List.mem_cons_of_mem _ (mem_dropPhrase later)

theorem codeForm_unquoted {text : List Char} (unquoted : Unquoted text) :
    Unquoted (case.codeForm text) := by
  intro c member
  obtain ⟨d, inText, upper⟩ := List.mem_flatMap.mp (List.mem_of_mem_filter (mem_dropPhrase member))
  exact case.unquoted d (unquoted d inText) c upper

theorem lastForm_unquoted {text : List Char} (unquoted : Unquoted text) :
    Unquoted (rstripSemicolons (case.codeForm text)) := by
  intro c member
  exact codeForm_unquoted unquoted c ((List.rdropWhile_prefix (· = ';') _).subset member)

theorem written_front (text : List Char) (rest : List (List Char × List Char)) :
    case.codeForm text ++ written case.codeForm case.codeForm [] rest =
      written case.codeForm case.codeForm text rest := by
  cases rest with
  | nil => exact List.append_nil _
  | cons entry rest => rfl

/-- The forms of the pieces are the written layout. -/
theorem flatMap_partForm (turns : Nat) (sql : List Char) :
    (SchemaPart.within turns sql).flatMap case.partForm =
      written case.codeForm case.codeForm (SchemaPart.layout (SchemaPart.within turns sql)).1
        (SchemaPart.layout (SchemaPart.within turns sql)).2 := by
  induction turns generalizing sql with
  | zero => rfl
  | succ turns ih =>
      cases sql with
      | nil => rfl
      | cons c rest =>
          rw [SchemaPart.within]
          split
          · rw [List.flatMap_cons, ih (scanQuoted c rest).2]
            rfl
          · have first : (SchemaPart.layout (SchemaPart.within turns
                ((c :: rest).dropWhile fun d => !isQuote d))).1 = [] :=
              SchemaPart.layout_startsQuoted (SchemaPart.startsQuoted_dropWhile (c :: rest))
            rw [List.flatMap_cons, ih, SchemaPart.layout, first, List.append_nil]
            exact written_front _ _

theorem rdropWhile_append_of_last {visible rest : List Char} {p : Char → Bool}
    (last : visible.rdropWhile p = visible) :
    (visible ++ rest).rdropWhile p = visible ++ rest.rdropWhile p := by
  have front : visible.reverse.dropWhile p = visible.reverse := by
    have reversed := congrArg List.reverse last
    rwa [List.rdropWhile, List.reverse_reverse] at reversed
  unfold List.rdropWhile
  rw [List.reverse_append, List.dropWhile_append]
  split
  · rename_i none
    rw [List.isEmpty_iff.mp none, front, List.reverse_reverse, List.reverse_nil, List.append_nil]
  · rw [List.reverse_append, List.reverse_reverse]

theorem rdropWhile_append_of_ne {front text : List Char} {p : Char → Bool}
    (kept : text.rdropWhile p ≠ []) :
    (front ++ text).rdropWhile p = front ++ text.rdropWhile p := by
  unfold List.rdropWhile at kept ⊢
  rw [List.reverse_append, List.dropWhile_append, if_neg, List.reverse_append, List.reverse_reverse]
  intro none
  exact kept (congrArg List.reverse (List.isEmpty_iff.mp none))

/-- A closed segment ends with a quote. -/
theorem closes_last {quote : Char} {body : List Char} (closed : closes quote body = true) :
    body.getLast? = some quote := by
  induction body using closes.induct quote with
  | case1 => cases closed
  | case2 c => exact congrArg some (of_decide_eq_true closed)
  | case3 d body ih =>
      rw [closes, if_pos rfl, Bool.and_eq_true] at closed
      have later := ih closed.2
      cases body with
      | nil => cases later
      | cons e body => exact later
  | case4 c d body other ih =>
      rw [closes, if_neg other] at closed
      exact ih closed

theorem rstrip_segment {segment : List Char} (isSegment : IsSegment segment) :
    rstripSemicolons segment = segment := by
  obtain ⟨quote, body, rfl, isQuoted, closed⟩ := isSegment
  refine List.rdropWhile_eq_self_iff.mpr fun nonempty => ?_
  have last : (quote :: body).getLast? = some quote := by
    have ends := closes_last closed
    cases body with
    | nil => cases ends
    | cons c body => exact ends
  have final : (quote :: body).getLast nonempty = quote :=
    Option.some.inj ((List.getLast?_eq_some_getLast nonempty).symm.trans last)
  rw [final, decide_eq_true_eq]
  rintro rfl
  cases isQuoted

/-- The semicolons at the end are those of the last stretch. -/
theorem rstrip_written {first : List Char} {rest : List (List Char × List Char)}
    (closed : ∀ entry ∈ rest, IsSegment entry.1) :
    rstripSemicolons (written case.codeForm case.codeForm first rest) =
      written case.codeForm (fun text => rstripSemicolons (case.codeForm text)) first rest := by
  induction rest generalizing first with
  | nil => rfl
  | cons entry rest ih =>
      obtain ⟨segment, stretch⟩ := entry
      have isSegment : IsSegment segment := closed (segment, stretch) List.mem_cons_self
      have later : rstripSemicolons (written case.codeForm case.codeForm stretch rest) =
          written case.codeForm (fun text => rstripSemicolons (case.codeForm text)) stretch rest :=
        ih fun other member => closed other (List.mem_cons_of_mem _ member)
      have visible : (case.codeForm first ++ segment).rdropWhile (· = ';') =
          case.codeForm first ++ segment := by
        have kept : segment.rdropWhile (· = ';') = segment := rstrip_segment isSegment
        rw [rdropWhile_append_of_ne (by rw [kept]; exact isSegment.ne_nil), kept]
      rw [written, written, ← later, rstripSemicolons, ← List.append_assoc,
        rdropWhile_append_of_last visible, List.append_assoc]
      rfl

/-! ## What is compared -/

/-- The layout of a text: its stretches and quoted segments. -/
def layoutOf (sql : String) : List Char × List (List Char × List Char) :=
  SchemaPart.layout (SchemaPart.parts sql.toList)

def quotedSegments (sql : String) : List (List Char) :=
  SchemaPart.quotedTexts (SchemaPart.parts sql.toList)

variable (case)

/-- Every quoted segment is closed, and two segments of one kind have more than dropped text between
them. -/
structure Readable (sql : String) : Prop where
  closed : ∀ segment ∈ quotedSegments sql, IsSegment segment
  separated : Separated case.codeForm (layoutOf sql).2

/-- The same quoted segments, and between them stretches of the same form; the last stretches are the
same up to semicolons at the end. -/
def SameForm (left right : String) : Prop :=
  Agree case.codeForm (fun text => rstripSemicolons (case.codeForm text)) (layoutOf left).1
    (layoutOf right).1 (layoutOf left).2 (layoutOf right).2

variable {case}

theorem Readable.wellFormed {sql : String} (readable : case.Readable sql) :
    WellFormed case.codeForm (layoutOf sql).1 (layoutOf sql).2 := by
  obtain ⟨first, stretches⟩ := SchemaPart.layout_unquoted sql.toList.length sql.toList
  refine ⟨first, stretches, ?_, readable.separated⟩
  intro entry member
  apply readable.closed
  rw [quotedSegments, ← SchemaPart.layout_segments]
  exact List.mem_map_of_mem member

theorem canonicalSchemaSql_eq {sql : String} (readable : case.Readable sql) :
    (case.canonicalSchemaSql sql).toList =
      written case.codeForm (fun text => rstripSemicolons (case.codeForm text)) (layoutOf sql).1
        (layoutOf sql).2 := by
  have forms : (SchemaPart.parts sql.toList).flatMap case.partForm =
      written case.codeForm case.codeForm (layoutOf sql).1 (layoutOf sql).2 :=
    flatMap_partForm _ _
  rw [canonicalSchemaSql, String.toList_ofList, forms]
  exact rstrip_written readable.wellFormed.closed

/-- **Two readable texts have one canonical text exactly when they have the same form; they then
have the same quoted segments.** -/
theorem canonicalSchemaSql_faithful {left right : String} (leftReadable : case.Readable left)
    (rightReadable : case.Readable right) :
    (case.canonicalSchemaSql left = case.canonicalSchemaSql right ↔ case.SameForm left right) ∧
      (case.SameForm left right → quotedSegments left = quotedSegments right) := by
  constructor
  · rw [← String.toList_inj, canonicalSchemaSql_eq leftReadable, canonicalSchemaSql_eq rightReadable]
    exact written_eq_iff (fun _ => codeForm_unquoted) (fun _ => lastForm_unquoted)
      leftReadable.wellFormed rightReadable.wellFormed
  · intro same
    rw [quotedSegments, quotedSegments, ← SchemaPart.layout_segments, ← SchemaPart.layout_segments]
    exact same.segments

end Uppercase

/-! ## Words -/

/-- Upper case of ASCII. -/
def asciiUpper : Uppercase where
  upper c := if 97 ≤ c.toNat ∧ c.toNat ≤ 122 then [Char.ofNat (c.toNat - 32)] else [c]
  unquoted := by
    have letters : ∀ n < 123, 97 ≤ n → isQuote (Char.ofNat (n - 32)) = false := by
      decide
    intro c plain d member
    split at member
    · rename_i lower
      obtain rfl := List.mem_singleton.mp member
      exact letters c.toNat (by omega) lower.1
    · obtain rfl := List.mem_singleton.mp member
      exact plain

def isWordChar (c : Char) : Bool := c.isAlphanum || c = '_'

/-- The words and signs of a stretch. -/
def codeTokens (text : List Char) : List (List Char) :=
  (text.splitBy fun c d => isWordChar c && isWordChar d).filter fun token => !token.all isBlank

/-- The words and signs outside the quoted segments, in upper case. -/
def Uppercase.unquotedTokens (case : Uppercase) (sql : String) : List (List Char) :=
  (SchemaPart.parts sql.toList).flatMap fun
    | .quoted _ => []
    | .code text => codeTokens (text.flatMap case.upper)

theorem faithful_of_sample :
    (asciiUpper.canonicalSchemaSql "create table if not exists t(\"a\" TEXT default 'x;');" =
        asciiUpper.canonicalSchemaSql "CREATE TABLE t(\"a\" text DEFAULT 'x;')" ↔
      asciiUpper.SameForm "create table if not exists t(\"a\" TEXT default 'x;');"
        "CREATE TABLE t(\"a\" text DEFAULT 'x;')") ∧
      (asciiUpper.SameForm "create table if not exists t(\"a\" TEXT default 'x;');"
        "CREATE TABLE t(\"a\" text DEFAULT 'x;')" →
        Uppercase.quotedSegments "create table if not exists t(\"a\" TEXT default 'x;');" =
          Uppercase.quotedSegments "CREATE TABLE t(\"a\" text DEFAULT 'x;')") :=
  Uppercase.canonicalSchemaSql_faithful ⟨by decide +kernel, by decide +kernel⟩
    ⟨by decide +kernel, by decide +kernel⟩

/-- A column of a declared type, and a column of another name. -/
theorem separated_words_merged :
    asciiUpper.canonicalSchemaSql "CREATE TABLE t(x INT)" =
        asciiUpper.canonicalSchemaSql "CREATE TABLE t(xINT)" ∧
      asciiUpper.unquotedTokens "CREATE TABLE t(x INT)" ≠
        asciiUpper.unquotedTokens "CREATE TABLE t(xINT)" := by
  decide +kernel

end Aegis.DeliveryControl
