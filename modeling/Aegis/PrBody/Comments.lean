/-
# PrBody.Comments — comments and Row source records of a field

A Row source record is a comment itself. `_strip_field_comments` puts a marker in the place of each
record, strips the comments and puts the records back: what is left is read line by line
(`stripFieldComments_eq`). A record hides no text and shows none where it stands outside of every
other comment (`keeps_text_iff`). A record inside of a comment that an earlier line opened would close
it, its marker does not (`record_in_comment_hides_text`).
-/
import Aegis.Lib.Comments
import Aegis.Lib.PythonText

namespace Aegis.PrBody

open Aegis.Lib

set_option autoImplicit false

abbrev Line := List Char

/-! ## Comments -/

def html : Marks Char where
  opener := ['<', '!', '-', '-']
  closer := ['-', '-', '>']
  opens := by decide
  closes := by decide

/-- `_strip_html_comments`. -/
def stripHtmlComments (text : List Char) : List Char := (html.strip false text).1

/-- `"\n".join(lines)`. -/
def joinLines (lines : List Line) : List Char := ['\n'].intercalate lines

def isBlankLine (line : Line) : Bool := line.all isBlank

theorem strip_plain {line : Line} (free : '<' ∉ line) : html.strip false line = (line, false) := by
  have missing := cutAt_free free ['!', '-', '-'] []
  rw [List.append_nil] at missing
  rw [Marks.strip_visible]
  simp [html, missing, cutAt]

theorem strip_hidden {line : Line} (free : '-' ∉ line) : html.strip true line = ([], true) := by
  have missing := cutAt_free free ['-', '>'] []
  rw [List.append_nil] at missing
  rw [Marks.strip_inside]
  simp [html, missing, cutAt]

theorem splitOn_stripHtmlComments {lines : List Line} (plain : ∀ line ∈ lines, '\n' ∉ line) :
    (stripHtmlComments (joinLines lines)).splitOn '\n' = scanLines html.strip false lines :=
  html.splitOn_strip (by decide) (by decide) plain false

/-! ## Records -/

def rowLabel : List Char := ['R', 'o', 'w', ' ', 's', 'o', 'u', 'r', 'c', 'e', ':']

/-- `ROW_SOURCE_RE.match(text)`, the content of the record. -/
def rowSource? (text : List Char) : Option (List Char) := do
  let inside ← html.opener.isPrefixOf? text
  let labelled ← rowLabel.isPrefixOf? (inside.dropWhile isBlank)
  let (content, behind) ← cutAt html.closer labelled
  if '\n' ∉ content ∧ behind.all isBlank = true then some content else none

/-- `ROW_SOURCE_RE.match(line.strip())`. -/
def isRecord (line : Line) : Bool := (rowSource? (stripChars line)).isSome

theorem stripChars_split (text : List Char) : ∃ lead trail, text = lead ++ stripChars text ++ trail ∧
    (∀ c ∈ lead, isBlank c = true) ∧ ∀ c ∈ trail, isBlank c = true := by
  refine ⟨text.takeWhile isBlank, (text.dropWhile isBlank).rtakeWhile isBlank, ?_,
    fun c => List.mem_takeWhile_imp, fun c => List.mem_rtakeWhile_imp⟩
  rw [stripChars, List.append_assoc, List.rdropWhile_append_rtakeWhile,
    List.takeWhile_append_dropWhile]

/-- A record that stands outside of every comment leaves blanks. -/
theorem strip_record {line : Line} (record : isRecord line = true) :
    ∃ blanks, html.strip false line = (blanks, false) ∧ isBlankLine blanks = true := by
  obtain ⟨content, found⟩ := Option.isSome_iff_exists.mp record
  simp only [rowSource?, Option.bind_eq_bind, Option.bind_eq_some_iff] at found
  obtain ⟨inside, opened, labelled, label, ⟨text, behind⟩, closed, ends⟩ := found
  rw [List.isPrefixOf?_eq_some_iff_append_eq] at opened label
  split at ends
  · rename_i holds
    obtain ⟨lead, trail, whole, isLead, isTrail⟩ := stripChars_split line
    have free : ∀ {c : Char} {blanks : List Char}, (∀ d ∈ blanks, isBlank d = true) →
        isBlank c = false → c ∉ blanks := fun blank visible member => by
      rw [blank _ member] at visible
      cases visible
    have isOpened : cutAt html.opener line = some (lead, inside ++ trail) := by
      have front : '<' ∉ lead := free isLead rfl
      have cut := cutAt_free front ['!', '-', '-'] (html.opener ++ (inside ++ trail))
      rw [show html.opener = '<' :: ['!', '-', '-'] from rfl, cutAt_mark] at cut
      rw [whole, ← opened]
      simpa [html] using cut
    have isClosed : cutAt html.closer (inside ++ trail) =
        some (inside.takeWhile isBlank ++ rowLabel ++ text, behind ++ trail) := by
      have front : '-' ∉ inside.takeWhile isBlank ++ rowLabel := by
        simp only [List.mem_append, not_or]
        exact ⟨free (fun c => List.mem_takeWhile_imp) rfl, by decide⟩
      have same : inside ++ trail = inside.takeWhile isBlank ++ rowLabel ++ (labelled ++ trail) := by
        rw [List.append_assoc, ← List.append_assoc rowLabel, label, ← List.append_assoc,
          List.takeWhile_append_dropWhile]
      have cut := cutAt_free front ['-', '>'] (labelled ++ trail)
      rw [show '-' :: ['-', '>'] = html.closer from rfl, cutAt_append closed] at cut
      rw [same, cut]
      rfl
    have rest : ∀ c ∈ behind ++ trail, isBlank c = true := by
      simp only [List.mem_append]
      rintro c (member | member)
      · exact List.all_eq_true.mp holds.2 c member
      · exact isTrail c member
    refine ⟨lead ++ (behind ++ trail), ?_, ?_⟩
    · rw [Marks.strip_visible, isOpened]
      simp only [Marks.strip_inside, isClosed, strip_plain (free rest rfl)]
    · simp only [isBlankLine, List.all_eq_true, List.mem_append] at rest ⊢
      rintro c (member | member)
      · exact isLead c member
      · exact rest c member
  · cases ends

/-! ## The markers of the records -/

def hexDigits : List Char := "0123456789abcdef".toList

/-- `secrets.token_hex(8)`. -/
structure Nonce where
  digits : List Char
  hex : ∀ c ∈ digits, c ∈ hexDigits

section Markers

variable (nonce : Nonce)

def markerLabel : List Char := "@@ROWSOURCE@@".toList

def markerHead : List Char := markerLabel ++ nonce.digits ++ ['@', '@']

def marker (index : Nat) : Line := markerHead nonce ++ (Nat.toDigits 10 index ++ ['@', '@'])

/-- The index in a line, without newlines, that the pattern of the markers matches. -/
def markerIndex? (line : Line) : Option Nat := do
  let rest ← (markerHead nonce).isPrefixOf? line
  let (digits, behind) ← cutAt ['@', '@'] rest
  if digits ≠ [] ∧ behind = [] then
    digits.foldl (fun read c => read.bind fun n => (decimalValue? c).map (10 * n + ·)) (some 0)
  else none

/-- The lines with a marker for every record; so many records stand before them. -/
def markRecords : Nat → List Line → List Line
  | _, [] => []
  | index, line :: rest =>
      if isRecord line = true then marker nonce index :: markRecords (index + 1) rest
      else line :: markRecords index rest

/-- `_strip_field_comments`, which raises where a marker's index is that of no record. -/
def stripFieldComments (field : List Line) : Option (List Line) :=
  ((stripHtmlComments (joinLines (markRecords nonce 0 field))).splitOn '\n').mapM fun line =>
    match markerIndex? nonce line with
    | some index => (field.filter isRecord)[index]?
    | none => some line

theorem markerIndex?_marker (index : Nat) : markerIndex? nonce (marker nonce index) = some index := by
  have digits : ∀ c ∈ Nat.toDigits 10 index, c.isDigit = true :=
    fun c member => Nat.isDigit_of_mem_toDigits (by decide) (by decide) member
  have front : '@' ∉ Nat.toDigits 10 index := fun member => by cases digits _ member
  have head : (markerHead nonce).isPrefixOf? (marker nonce index) =
      some (Nat.toDigits 10 index ++ ['@', '@']) :=
    List.isPrefixOf?_eq_some_iff_append_eq.mpr rfl
  have cut := cutAt_free front ['@'] ['@', '@']
  rw [show cutAt ['@', '@'] ['@', '@'] = some ([], []) from rfl] at cut
  have nonempty : Nat.toDigits 10 index ≠ [] := Nat.toDigits_ne_nil
  simp [markerIndex?, head, cut, nonempty, foldl_decimalValue? digits,
    Nat.ofDigitChars_ten_toDigits]

/-- A marker holds the characters of its label and digits. -/
theorem free_marker {c : Char} (label : c ∉ markerLabel) (hex : c ∉ hexDigits)
    (noDigit : c.isDigit = false) (index : Nat) : c ∉ marker nonce index := by
  have bars : c ∉ ['@', '@'] := fun member => label (List.mem_of_mem_take (i := 2) member)
  intro member
  simp only [marker, markerHead, List.mem_append] at member
  rcases member with ((member | member) | member) | member | member
  · exact label member
  · exact hex (nonce.hex c member)
  · exact bars member
  · have digit := Nat.isDigit_of_mem_toDigits (by decide) (by decide) member
    rw [noDigit] at digit
    cases digit
  · exact bars member

theorem mem_markRecords {index : Nat} {lines : List Line} {line : Line}
    (member : line ∈ markRecords nonce index lines) : line ∈ lines ∨ ∃ k, line = marker nonce k := by
  induction lines generalizing index with
  | nil => exact .inl member
  | cons first rest ih =>
      rw [markRecords] at member
      split at member
      all_goals
        rcases List.mem_cons.mp member with rfl | member
        · simp
        · exact (ih member).imp_left (List.mem_cons_of_mem _)

/-! ## What is left -/

/-- A line of a field: a record is kept as it is, unless it stands inside of a comment. -/
def keepLine (inside : Bool) (line : Line) : Line × Bool :=
  if isRecord line = true then if inside = true then ([], true) else (line, false)
  else html.strip inside line

/-- The lines of a field without comments but with its records, read line by line. -/
def keptLines (field : List Line) : List Line := scanLines keepLine false field

/-- A line put back for a marker. -/
def Restores (records : List Line) (cleaned kept : Line) : Prop :=
  ∃ index, cleaned = marker nonce index ∧ records[index]? = some kept

theorem alike_markRecords {records : List Line} {inside : Bool} {index : Nat} {lines : List Line}
    (behind : records.drop index = lines.filter isRecord) :
    Alike html.strip keepLine (Restores nonce records) inside (markRecords nonce index lines) lines := by
  induction lines generalizing inside index with
  | nil => exact .nil inside
  | cons line rest ih =>
      rw [markRecords]
      split
      · rename_i record
        rw [List.filter_cons_of_pos record] at behind
        have here : records[index]? = some line := by
          rw [← List.head?_drop, behind, List.head?_cons]
        have later : records.drop (index + 1) = rest.filter isRecord := by
          rw [← List.tail_drop, behind, List.tail_cons]
        have hidden := strip_hidden (free_marker nonce (c := '-') (by decide) (by decide) rfl index)
        have shown := strip_plain (free_marker nonce (c := '<') (by decide) (by decide) rfl index)
        cases inside with
        | true =>
            refine .same ?_ ?_
            · rw [hidden, keepLine, if_pos record, if_pos rfl]
            · rw [hidden]
              exact ih later
        | false =>
            have kept : keepLine false line = (line, false) := by
              rw [keepLine, if_pos record, if_neg Bool.false_ne_true]
            refine .whole ?_ ?_ ?_ (ih later)
            · rw [shown]
            · rw [kept]
            · rw [shown, kept]
              exact ⟨index, rfl, here⟩
      · rename_i other
        rw [List.filter_cons_of_neg other] at behind
        exact .same (by rw [keepLine, if_neg other]) (ih behind)

theorem restored {records cleaned kept : List Line}
    (each : List.Forall₂ (fun one other => one = other ∨ Restores nonce records one other) cleaned kept)
    (apart : ∀ line ∈ kept, markerIndex? nonce line = none) :
    (cleaned.mapM fun line => match markerIndex? nonce line with
      | some index => records[index]?
      | none => some line) = some kept := by
  induction each with
  | nil => rfl
  | cons first each ih =>
      obtain ⟨here, apart⟩ := List.forall_mem_cons.mp apart
      rw [List.mapM_cons, ih apart]
      obtain rfl | ⟨index, rfl, found⟩ := first
      · simp [here]
      · simp [markerIndex?_marker, found]

/-- The lines that `_strip_field_comments` returns where none of them has the form of a marker. -/
theorem stripFieldComments_eq {field : List Line} (plain : ∀ line ∈ field, '\n' ∉ line)
    (apart : ∀ line ∈ keptLines field, markerIndex? nonce line = none) :
    stripFieldComments nonce field = some (keptLines field) := by
  have marked : ∀ line ∈ markRecords nonce 0 field, '\n' ∉ line := by
    intro line member
    obtain here | ⟨index, rfl⟩ := mem_markRecords nonce member
    · exact plain line here
    · exact free_marker nonce (by decide) (by decide) rfl index
  have alike : Alike html.strip keepLine (Restores nonce (field.filter isRecord)) false
      (markRecords nonce 0 field) field := alike_markRecords nonce rfl
  rw [stripFieldComments, splitOn_stripHtmlComments marked]
  exact restored nonce alike.scanLines.1 apart

/-! ## Visible text -/

/-- The lines that the field shows, without its records. -/
def plainLines (field : List Line) : List Line :=
  (stripHtmlComments (joinLines field)).splitOn '\n'

/-- Taking the records and the blank lines away leaves the visible lines of the field. -/
def KeepsText (field : List Line) : Prop :=
  (stripFieldComments nonce field).map
      (List.filter fun line => !isRecord line && !isBlankLine line) =
    some ((plainLines field).filter fun line => !isBlankLine line)

instance (field : List Line) : Decidable (KeepsText nonce field) := inferInstanceAs (Decidable (_ = _))

/-- No record stands inside of a comment that an earlier line opened. -/
def RecordsVisible : Bool → List Line → Prop
  | _, [] => True
  | inside, line :: rest =>
      (isRecord line = true → inside = false) ∧ RecordsVisible (html.strip inside line).2 rest

instance decideVisible : ∀ inside lines, Decidable (RecordsVisible inside lines)
  | _, [] => inferInstanceAs (Decidable True)
  | inside, line :: rest =>
      have := decideVisible (html.strip inside line).2 rest
      inferInstanceAs (Decidable (_ ∧ _))

theorem RecordsVisible.alike {inside : Bool} {lines : List Line}
    (visible : RecordsVisible inside lines) :
    Alike html.strip keepLine (fun plain kept => isBlankLine plain = true ∧ isRecord kept = true)
      inside lines lines := by
  induction lines generalizing inside with
  | nil => exact .nil inside
  | cons line rest ih =>
      obtain ⟨here, later⟩ := visible
      by_cases record : isRecord line = true
      · obtain rfl := here record
        obtain ⟨blanks, shown, blank⟩ := strip_record record
        have kept : keepLine false line = (line, false) := by
          rw [keepLine, if_pos record, if_neg Bool.false_ne_true]
        rw [shown] at later
        refine .whole ?_ ?_ ?_ (ih later)
        · rw [shown]
        · rw [kept]
        · rw [shown, kept]
          exact ⟨blank, record⟩
      · exact .same (by rw [keepLine, if_neg record]) (ih later)

theorem not_blank_of_record {line : Line} (record : isRecord line = true) :
    isBlankLine line = false := by
  by_contra blank
  rw [Bool.not_eq_false] at blank
  have none : line.dropWhile isBlank = [] :=
    List.dropWhile_eq_nil_iff.mpr (List.all_eq_true.mp blank)
  simp [isRecord, stripChars, none, rowSource?, html, List.isPrefixOf?] at record

theorem filter_records {plain kept : List Line}
    (each : List.Forall₂ (fun plain kept => plain = kept ∨
      isBlankLine plain = true ∧ isRecord kept = true) plain kept) :
    kept.filter (fun line => !isRecord line && !isBlankLine line) =
      plain.filter fun line => !isRecord line && !isBlankLine line := by
  induction each with
  | nil => rfl
  | cons first each ih =>
      obtain rfl | ⟨blank, record⟩ := first
      · simp only [List.filter_cons, ih]
      · simp [ih, blank, record]

/-- Where no record stands inside of a comment, keeping the records hides no text and shows none,
unless what the comments leave reads as a record itself. -/
theorem keeps_text_iff {field : List Line} (plain : ∀ line ∈ field, '\n' ∉ line)
    (apart : ∀ line ∈ keptLines field, markerIndex? nonce line = none)
    (visible : RecordsVisible false field) :
    KeepsText nonce field ↔ ∀ line ∈ plainLines field, isRecord line = false := by
  have each := visible.alike.scanLines.1
  rw [← splitOn_stripHtmlComments plain] at each
  rw [KeepsText, stripFieldComments_eq nonce plain apart, Option.map_some, Option.some.injEq]
  rw [keptLines, filter_records each]
  constructor
  · intro same line member
    by_contra record
    rw [Bool.not_eq_false] at record
    have shown : line ∈ (plainLines field).filter fun line => !isBlankLine line := by
      simp [member, not_blank_of_record record]
    rw [← same] at shown
    simp [record] at shown
  · intro none
    refine List.filter_congr fun line member => ?_
    rw [none line member, Bool.not_false, Bool.true_and]

end Markers

/-! ## A record inside of a comment -/

section Sample

def sampleNonce : Nonce := ⟨"00112233aabbccdd".toList, by decide⟩

/-- The record closes the comment for a reader of the page, its marker does not. -/
theorem record_in_comment_hides_text : ¬ KeepsText sampleNonce
    ["<!-- open".toList, "<!-- Row source: a -->".toList, "visible".toList] := by
  decide +kernel

theorem record_keeps_text : KeepsText sampleNonce
    ["<!-- note -->".toList, "<!-- Row source: a -->".toList, "visible".toList] :=
  (keeps_text_iff sampleNonce (by decide) (by decide +kernel) (by decide +kernel)).mpr
    (by decide +kernel)

end Sample

end Aegis.PrBody
