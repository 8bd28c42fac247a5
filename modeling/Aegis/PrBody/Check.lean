/-
# PrBody.Check — the structural check of a pull-request body

`check` cuts the body into lines, blanks what is code, and looks for the three bound fields. In the
skills field it counts the data rows behind each table's delimiter row and the source rows that the
Row source records behind the table name.
-/
import Aegis.Lib.Regex
import Aegis.Lib.Unicode
import Aegis.PrBody.Comments
import Aegis.Routing.Contract

namespace Aegis.PrBody

open Aegis.Lib
open Aegis.Routing (caseless)

set_option autoImplicit false

/-- Texts are compared by their characters. -/
theorem lawfulBEq_chars : LawfulBEq (List Char) := inferInstance

attribute [local instance] lawfulBEq_chars

/-! ## Lines -/

/-- `re.split(r"\r\n|\n|\r", text)`. -/
def splitMarkdownLines : List Char → List Line
  | [] => [[]]
  | '\r' :: '\n' :: rest => [] :: splitMarkdownLines rest
  | c :: rest =>
      if c = '\n' ∨ c = '\r' then [] :: splitMarkdownLines rest
      else (splitMarkdownLines rest).modifyHead (c :: ·)

/-- `_strip_indented_code`. -/
def stripIndentedCode (lines : List Line) : List Line :=
  lines.map fun line => if line.take 4 = [' ', ' ', ' ', ' '] ∧ stripChars line ≠ [] then [] else line

/-- The character and the run length of an open fence. -/
structure Fence where
  char : Char
  run : Nat

def openFence? : Line → Option Fence
  | [] => none
  | char :: rest =>
      if (char = '\x60' ∨ char = '~') ∧ rest.take 2 = [char, char] then
        some ⟨char, (rest.takeWhile (· = char)).length + 1⟩
      else none

def Fence.closes (fence : Fence) (stripped : Line) : Bool :=
  stripped != [] && stripped.all (· = fence.char) && fence.run ≤ stripped.length

/-- `_strip_fenced_code`. -/
def stripFencedCode : Option Fence → List Line → List Line
  | _, [] => []
  | none, line :: rest =>
      match openFence? (stripChars line) with
      | some fence => [] :: stripFencedCode (some fence) rest
      | none => line :: stripFencedCode none rest
  | some fence, line :: rest =>
      [] :: stripFencedCode (if fence.closes (stripChars line) then none else some fence) rest

/-! ## Fields -/

inductive Field where
  | skills
  | security
  | witness
  deriving DecidableEq, Repr

def Field.all : List Field := [.skills, .security, .witness]

def Field.marker : Field → Line
  | .skills => "<!-- bound-field: skills -->".toList
  | .security => "<!-- bound-field: security -->".toList
  | .witness => "<!-- bound-field: witness -->".toList

def endMarker : Line := "<!-- bound-field: end -->".toList

/-- The indices of the lines that a marker stands alone on. -/
def positions (lines : List Line) (marker : Line) : List Nat :=
  (List.range lines.length).filter fun i => lines[i]?.map stripChars = some marker

/-- `_field_pairs_ok`, of one field. -/
def pairOk (lines : List Line) (field : Field) : Bool :=
  match (positions lines field.marker).head? with
  | none => false
  | some start => (positions lines endMarker).any fun stop => decide (start < stop) &&
      !((Field.all.filter (· ≠ field)).any fun other =>
        (positions lines other.marker).any fun i => decide (start < i) && decide (i < stop))

/-- `_field_slice`. -/
def fieldSlice (lines : List Line) (start stop : Line) : List Line :=
  match lines.dropWhile fun line => stripChars line ≠ start with
  | [] => []
  | _ :: behind =>
      if (behind.any fun line => stripChars line = stop) = true then
        behind.takeWhile fun line => stripChars line ≠ stop
      else []

/-! ## Tables -/

/-- `_split_cells`. -/
def splitCells : Line → List Line
  | [] => [[]]
  | '\\' :: c :: rest => (splitCells rest).modifyHead fun cell => '\\' :: c :: cell
  | c :: rest => if c = '|' then [] :: splitCells rest else (splitCells rest).modifyHead (c :: ·)

/-- `[c.strip() for c in _split_cells(line)][1:-1]`. -/
def cellsOf (line : Line) : List Line := (((splitCells line).map stripChars).drop 1).dropLast

/-- White space collapsed to one blank, but for what stands in front. -/
def squeeze : List Char → List Char
  | [] => []
  | c :: rest =>
      if isBlank c = true then
        if squeeze rest = [] ∨ (squeeze rest).head? = some ' ' then squeeze rest
        else ' ' :: squeeze rest
      else c :: squeeze rest

/-- `" ".join(text.split())`. -/
def joinWords (text : List Char) : List Char := squeeze (text.dropWhile isBlank)

/-- `re.fullmatch(r":?-{3,}:?", cell)`. -/
def isDelimiterCell (cell : List Char) : Bool :=
  let inner := if cell.head? = some ':' then cell.drop 1 else cell
  let inner := if inner.getLast? = some ':' then inner.dropLast else inner
  inner.all (· = '-') && 3 ≤ inner.length

/-- `_is_delimiter_row`. -/
def isDelimiterRow (line : Line) : Bool :=
  (cellsOf line).length == 4 && (cellsOf line).all isDelimiterCell

def skillLabel : List Char := "skill".toList

/-- `DOCUMENTED_HEADER`. -/
def documentedHeader : List Line :=
  [skillLabel, "stage / agent".toList, "how applied".toList, "result / evidence".toList]

section Tables

variable (tables : Unicode)

/-- `_is_header_row`. -/
def isHeaderRow (line : Line) : Bool :=
  (cellsOf line).map (fun cell => joinWords (tables.lower cell)) == documentedHeader

/-- Whether `_data_rows` keeps a line without newlines. -/
def isDataRow (line : Line) : Bool :=
  line.head? == some '|' && 5 ≤ line.count '|' && (cellsOf line).length == 4 &&
    (cellsOf line).head?.all (fun first => first != [] && tables.lower first != skillLabel &&
      !("<skill name".toList.isPrefixOf (tables.lower first))) &&
    !(cellsOf line).all fun cell => cell != [] && cell.all fun c => c == '-' || c == ' ' || c == ':'

/-- A table: the rows that are counted and the lines behind them. -/
structure SkillsTable where
  rows : List Line
  behind : List Line

/-- `_tables`. -/
def tablesOf : List Line → List SkillsTable
  | header :: delimiter :: rest =>
      if isHeaderRow tables header = true ∧ isDelimiterRow delimiter = true then
        ⟨rest.takeWhile (isDataRow tables), rest.dropWhile (isDataRow tables)⟩ ::
          tablesOf (rest.dropWhile (isDataRow tables))
      else tablesOf (delimiter :: rest)
  | _ => []
termination_by lines => lines.length
decreasing_by
  · have shorter := (List.dropWhile_sublist (isDataRow tables) (l := rest)).length_le
    simp only [List.length_cons]
    omega
  · simp

end Tables

/-! ## Records -/

/-- The fields of a record, the last of them first, and its `row=` token. -/
structure RowRecord where
  fields : List (List Char × List Char) := []
  row : Option (List Char) := none

/-- `\s*\([^)]*\)\s*$`. -/
def remark : Regex.Pattern :=
  Regex.sequence [Regex.many isBlank 0 none, Regex.literal "(", Regex.many (· ≠ ')') 0 none,
    Regex.literal ")", Regex.many isBlank 0 none, Regex.finish]

def RowRecord.take (record : RowRecord) (part : List Char) : RowRecord :=
  match cutAt ['='] (stripChars part) with
  | none => record
  | some (key, value) =>
      if stripChars key = "row".toList then
        { record with row := some (stripChars (remark.remove (stripChars value))) }
      else { record with fields := (stripChars key, stripChars value) :: record.fields }

/-- `_row_source_fields`. -/
def rowSourceFields (line : Line) : RowRecord :=
  match rowSource? (stripChars line) with
  | none => {}
  | some content => (content.splitOn ';').foldl RowRecord.take {}

/-- `ROW_SOURCE_REQUIRED`. -/
def rowSourceRequired : List String := ["agent", "stage", "round", "target", "source", "binding"]

/-- A value that is not empty and no placeholder of the template. -/
def answered (value : List Char) : Bool :=
  value != [] && !(value.head? == some '<' && value.dropWhile (· ≠ '>') == ['>'])

/-- `_missing_row_source_fields`. -/
def missingRowSourceFields (record : RowRecord) : List String :=
  rowSourceRequired.filter fun name => !answered ((record.fields.lookup name.toList).getD [])

/-- `int(text)`. -/
def readInt (text : List Char) : Option Int :=
  let (sign, digits) : Int × List Char := match stripChars text with
    | '-' :: rest => (-1, rest)
    | '+' :: rest => (1, rest)
    | rest => (1, rest)
  let groups := digits.splitOn '_'
  if groups.all (· ≠ []) = true then (readDigits groups.flatten).map fun n => sign * n else none

def maxRangeSpan : Int := 10000

/-- What is wrong with a part of a `row=` token. -/
inductive RangeFault where
  | repeated (part : List Char)
  | nonpositive (part : List Char)
  | unbounded (part : List Char)
  | overlapping (part : List Char)
  deriving DecidableEq

/-- The source rows named so far. -/
structure Coverage where
  covered : List Int := []
  named : List (List Char) := []
  faults : List RangeFault := []

def Coverage.fault (coverage : Coverage) (fault : RangeFault) : Coverage :=
  { coverage with faults := coverage.faults ++ [fault] }

/-- A part that is no number names one source row. -/
def Coverage.name (coverage : Coverage) (part : List Char) : Coverage :=
  if part ∈ coverage.named then coverage.fault (.repeated part)
  else { coverage with named := part :: coverage.named }

def spanOf (low high : Int) : List Int :=
  (List.range (high - low + 1).toNat).map fun (n : Nat) => low + n

/-- A part of a token that is not empty. -/
def Coverage.takePart (coverage : Coverage) (part : List Char) : Coverage :=
  match cutAt ['.', '.'] part with
  | some (low, high) =>
      match readInt low, readInt high with
      | some low, some high =>
          if low < 1 ∨ high < 1 then coverage.fault (.nonpositive part)
          else if high < low ∨ high - low + 1 > maxRangeSpan then coverage.fault (.unbounded part)
          else if (spanOf low high).any (· ∈ coverage.covered) = true then
            coverage.fault (.overlapping part)
          else { coverage with covered := spanOf low high ++ coverage.covered }
      | _, _ => coverage.name part
  | none =>
      match readInt part with
      | some single =>
          if single < 1 then coverage.fault (.nonpositive part)
          else if single ∈ coverage.covered then coverage.fault (.repeated part)
          else { coverage with covered := single :: coverage.covered }
      | none => coverage.name part

/-- The parts of the tokens, in their order. -/
def partsOf (tokens : List (List Char)) : List (List Char) :=
  ((tokens.flatMap fun token => token.splitOn ',').map stripChars).filter (· ≠ [])

/-- `_block_row_coverage`, before the counts are summed. -/
def blockRowCoverage (tokens : List (List Char)) : Coverage :=
  (partsOf tokens).foldl Coverage.takePart {}

/-! ## The check -/

/-- A phrase in small letters at the start of a text under `re.IGNORECASE`. -/
def startsCaseless : List Char → List Char → Bool
  | [], _ => true
  | letter :: letters, c :: text => caseless letter c && startsCaseless letters text
  | _ :: _, [] => false

def owedNote : List Char :=
  "stage a (plan author) and stage b (plan auditor) rows are owed".toList

/-- The Row source records that follow a table. -/
def attached : List Line → List Line
  | [] => []
  | line :: rest =>
      if stripChars line = [] ∨ startsCaseless owedNote (stripChars line) = true then attached rest
      else if isRecord line = true then line :: attached rest
      else []

inductive Failure where
  | duplicateMarker (field : Field)
  | missingField (field : Field)
  | emptySkills
  | noRecord (block rows : Nat)
  | badRange (fault : RangeFault)
  | fewSources (block sources rows : Nat)
  | missingRecordFields (names : List String)
  deriving DecidableEq

/-- What `_skills_field_failures` finds for one table. -/
def tableFailures (block : Nat) (table : SkillsTable) : List Failure :=
  if table.rows = [] then []
  else
    let tokens := (attached table.behind).map fun line => (rowSourceFields line).row.getD []
    if tokens = [] then [.noRecord block table.rows.length]
    else
      let coverage := blockRowCoverage tokens
      let total := coverage.covered.length + coverage.named.length
      coverage.faults.map Failure.badRange ++
        if total < table.rows.length then [.fewSources block total table.rows.length] else []

/-- `_record_structural_failures`. -/
def recordFailures (lines : List Line) : List Failure :=
  (lines.filter isRecord).flatMap fun line =>
    match missingRowSourceFields (rowSourceFields line) with
    | [] => []
    | missing => [.missingRecordFields missing]

/-- `NO_SKILL_AFFIRM_RE`. -/
def noSkillPhrases : List (List Char) :=
  ["no matching skill exists".toList, "no matching skill was used".toList,
    "no aegis skill matches".toList, "no aegis skill was used".toList]

def botAuthors : List String := ["dependabot[bot]", "renovate[bot]"]

section Check

variable (tables : Unicode) (nonce nonce' : Nonce)

/-- `NO_SKILL_AFFIRM_RE.match(line)`. -/
def statesNoSkill (line : Line) : Bool :=
  let text := line.dropWhile isBlank
  noSkillPhrases.any fun phrase => startsCaseless phrase text &&
    !(text.drop phrase.length).head?.any tables.isWord

/-- `_skills_field_failures`. -/
def skillsFieldFailures (nonce : Nonce) (field : List Line) : Option (List Failure) := do
  let lines ← stripFieldComments nonce field
  some ((tablesOf tables lines).zipIdx.flatMap fun entry => tableFailures (entry.2 + 1) entry.1)

/-- The failures of a skills field; each use of `_strip_field_comments` draws a nonce. -/
def skillsFailures (field : List Line) : Option (List Failure) := do
  let cleaned ← stripFieldComments nonce field
  let rows := (tablesOf tables cleaned).flatMap SkillsTable.rows
  let stated := (plainLines field).any (statesNoSkill tables)
  let uncovered ← (if rows = [] then some [] else skillsFieldFailures tables nonce' field :
    Option (List Failure))
  some ((if rows = [] ∧ stated = false then [.emptySkills] else []) ++ uncovered ++
    recordFailures cleaned)

/-- The lines of a body, without code. -/
def bodyLines (body : List Char) : List Line :=
  stripIndentedCode (stripFencedCode none (splitMarkdownLines body))

def missingFailures (lines : List Line) (field : Field) : List Failure :=
  if pairOk lines field = true then [] else [.missingField field]

/-- `check`. -/
def check (body : List Char) (author : Option String) : Option (List Failure) :=
  if author.any (· ∈ botAuthors) = true then some []
  else
    let lines := bodyLines body
    let duplicates := (Field.all.filter fun field => 1 < (positions lines field.marker).length).map
      Failure.duplicateMarker
    let inSkills := if pairOk lines .skills = true then
        skillsFailures tables nonce nonce' (fieldSlice lines Field.skills.marker endMarker)
      else some [.missingField .skills]
    inSkills.map fun failures => duplicates ++ failures ++ missingFailures lines .security ++
      missingFailures lines .witness

end Check

end Aegis.PrBody
