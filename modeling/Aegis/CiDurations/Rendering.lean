/-
# CiDurations.Rendering — the table of an evidence object

`render_table` writes every value through `escape_text`: a backslash is doubled, a character that could
start a line becomes a hex escape, a pipe is escaped, and a long text is cut. What is written has no
line boundary (`plain_escapeText`) and no unescaped pipe (`closed_escapeText`), also where the cut goes
through an escape, so no value adds a line or a column (`render_table_unforgeable`). The escapes of
distinct texts are distinct, since no escape is the start of another (`escapeOne_prefixFree`).
-/
import Aegis.CiDurations.Verdict
import Aegis.Lib.TextLines

namespace Aegis.CiDurations

open Aegis.Lib

set_option autoImplicit false

/-! ## Escaping -/

def escapeMaxLength : Nat := 300

/-- Neither a control nor one of `UNICODE_LINE_SEPARATORS`. -/
def isShown (c : Char) : Bool :=
  32 ≤ c.toNat && c.toNat ≠ 127 && !([0x85, 0x2028, 0x2029].contains c.toNat)

/-- `"%02x" % n`. -/
def hexText (n : Nat) : List Char :=
  List.replicate (2 - (Nat.toDigits 16 n).length) '0' ++ Nat.toDigits 16 n

/-- `text.replace("\\", "\\\\")`. -/
def doubleBackslashes (text : List Char) : List Char :=
  text.flatMap fun c => if c = '\\' then ['\\', '\\'] else [c]

/-- The hex escapes of the characters that are not shown. -/
def hexHidden (text : List Char) : List Char :=
  text.flatMap fun c => if isShown c = true then [c] else '\\' :: 'x' :: hexText c.toNat

/-- `text.replace("|", "\\|")`. -/
def escapePipes (text : List Char) : List Char :=
  text.flatMap fun c => if c = '|' then ['\\', '|'] else [c]

/-- A text after all replacements. -/
def escaped (text : List Char) : List Char := escapePipes (hexHidden (doubleBackslashes text))

/-- `"[truncated %d]"`, behind an ellipsis. -/
def truncationMark (more : Nat) : List Char :=
  '\u2026' :: ("[truncated ".toList ++ (Nat.toDigits 10 more ++ [']']))

/-- `escape_text`, of the text of a value, or of `None`. -/
def escapeText (value : Option String) : List Char :=
  let text := escaped (value.getD "").toList
  if text.length > escapeMaxLength then
    text.take escapeMaxLength ++ truncationMark (text.length - escapeMaxLength)
  else text

/-! ## The table -/

structure TableCall where
  url : Option String
  http_status : Int

/-- A row: the texts of its cells, and its exit codes with the texts of their labels. -/
structure TableRow where
  cell : String → Option String
  exit_codes : List (String × String)

/-- A prerequisite: a list of texts, or one. -/
inductive Prerequisite where
  | list (items : List (Option String))
  | single (value : Option String)

structure StepDetail where
  step : Option String
  state : Option String
  detail : Option String

/-- What `render_table` reads of an evidence object. -/
structure TableEvidence where
  run : String → Option String
  api_urls : List TableCall
  jobs : List TableRow
  prerequisite : String → Prerequisite
  step_details : List StepDetail
  marker : Marker

def runKeys : List String :=
  ["repository", "workflow", "workflow_file", "run_id", "run_attempt", "attempt_requested", "run_event",
    "run_status", "run_conclusion", "run_head_sha", "candidate_sha", "candidate_status",
    "run_created_at", "run_updated_at", "fetched_at", "jobs_total_count", "jobs_reported_total",
    "jobs_truncated", "fixture_precedence", "http_status"]

def columns : List String :=
  ["job", "state", "conclusion", "started_at", "completed_at", "duration_s", "duration_provenance",
    "exit_code", "exit_codes", "exit_code_provenance", "coverage", "skip_reason", "artifact", "log_url"]

def prerequisiteKeys : List String :=
  ["failed_or_missing", "coverage_gaps", "roster_delta", "artifact_retention", "artifact_unmapped",
    "step_skipped"]

/-- The text of an integer. -/
def decimalText (value : Int) : List Char :=
  if value < 0 then '-' :: Nat.toDigits 10 value.natAbs else Nat.toDigits 10 value.natAbs

def Status.text : Status → String
  | .failed => "FAILED"
  | .unbound => "UNBOUND"
  | .stale => "STALE"
  | .incomplete => "INCOMPLETE"
  | .complete => "COMPLETE"

/-- `separator.join(texts)`. -/
def join (separator : String) (texts : List (List Char)) : List Char :=
  List.intercalate separator.toList texts

/-- `_exit_codes_text`. -/
def exitCodesText (codes : List (String × String)) : String :=
  if codes = [] then notSelected
  else String.ofList (join "," (codes.map fun pair => pair.1.toList ++ '=' :: pair.2.toList))

/-- `"- %s: %s"`. -/
def itemLine (key : String) (text : List Char) : List Char :=
  "- ".toList ++ (key.toList ++ (": ".toList ++ text))

def callLine (call : TableCall) : List Char :=
  itemLine "api_url" (escapeText call.url ++
    (" (http_status=".toList ++ (decimalText call.http_status ++ [')'])))

def cellText (row : TableRow) (column : String) : List Char :=
  if column = "exit_codes" then escapeText (some (exitCodesText row.exit_codes))
  else escapeText (row.cell column)

/-- `"| %s |" % " | ".join(cells)`. -/
def pipeLine (cells : List (List Char)) : List Char :=
  "| ".toList ++ (join " | " cells ++ " |".toList)

def rowLine (row : TableRow) : List Char := pipeLine (columns.map (cellText row))

def Prerequisite.text : Prerequisite → List Char
  | .list items => join ", " (items.map escapeText)
  | .single value => escapeText value

def prerequisiteLine (evidence : TableEvidence) (key : String) : List Char :=
  let rendered := (evidence.prerequisite key).text
  itemLine key (if rendered = [] then "none".toList else rendered)

def stepLine (item : StepDetail) : List Char :=
  itemLine "step_state" (escapeText item.step ++
    (" [".toList ++ (escapeText item.state ++ ("] ".toList ++ escapeText item.detail))))

def statusLine (marker : Marker) : List Char :=
  "STATUS: ".toList ++ (marker.status.text.toList ++
    (" (exit ".toList ++ (Nat.toDigits 10 marker.exitCode ++
      (") reason: ".toList ++ escapeText (some marker.reason)))))

/-- A trailer, when its list is not empty. -/
def trailer (name : String) (jobs : List String) : List (List Char) :=
  if jobs = [] then []
  else [name.toList ++ (": ".toList ++ join ", " (jobs.map fun job => escapeText (some job)))]

/-- The lines of the run, and the header of the jobs. -/
def headLines (evidence : TableEvidence) : List (List Char) :=
  ["## ci-durations run identity".toList] ++
    (runKeys.map fun key => itemLine key (escapeText (evidence.run key))) ++
    evidence.api_urls.map callLine ++
    [[], "## ci-durations jobs".toList, pipeLine (columns.map String.toList),
      pipeLine (columns.map fun _ => "---".toList)]

def prerequisiteLines (evidence : TableEvidence) : List (List Char) :=
  [[], "## ci-durations prerequisites and gaps".toList] ++
    prerequisiteKeys.map (prerequisiteLine evidence) ++ evidence.step_details.map stepLine ++ [[]]

def markerLines (marker : Marker) : List (List Char) :=
  statusLine marker ::
    (trailer "failing" marker.failing_jobs ++
      trailer "required-job-skipped" marker.skipped_required_jobs ++
      trailer "unexpected-skip" marker.unexpected_skipped_jobs)

def tableLines (evidence : TableEvidence) : List (List Char) :=
  headLines evidence ++ (evidence.jobs.map rowLine ++
    (prerequisiteLines evidence ++ markerLines evidence.marker))

/-- `render_table`. -/
def renderTable (evidence : TableEvidence) : List Char := join "\n" (tableLines evidence)

/-! ## Each character has its escape -/

/-- The escape of one character. -/
def escapeOne (c : Char) : List Char :=
  if c = '\\' then ['\\', '\\']
  else if isShown c = false then '\\' :: 'x' :: hexText c.toNat
  else if c = '|' then ['\\', '|']
  else [c]

/-- The codes of the characters that are not shown. -/
def hiddenCodes : List Nat := List.range 32 ++ [0x7f, 0x85, 0x2028, 0x2029]

theorem mem_hiddenCodes {c : Char} (hidden : isShown c = false) : c.toNat ∈ hiddenCodes := by
  unfold isShown at hidden
  unfold hiddenCodes
  simp only [List.mem_append, List.mem_range, List.mem_cons, List.not_mem_nil, or_false]
  simp at hidden
  omega

/-- The hex digits of a hidden character are neither pipes nor backslashes nor hidden. -/
theorem hexText_digits {n : Nat} (hidden : n ∈ hiddenCodes) :
    ∀ c ∈ hexText n, c ≠ '\\' ∧ c ≠ '|' ∧ isShown c = true := by
  have all : ∀ n ∈ hiddenCodes, ∀ c ∈ hexText n, c ≠ '\\' ∧ c ≠ '|' ∧ isShown c = true := by
    decide +kernel
  exact all n hidden

theorem hexText_prefixFree {m n : Nat} (isLeft : m ∈ hiddenCodes) (isRight : n ∈ hiddenCodes)
    (starts : hexText m <+: hexText n) : m = n := by
  have all : ∀ m ∈ hiddenCodes, ∀ n ∈ hiddenCodes, hexText m <+: hexText n → m = n := by
    decide +kernel
  exact all m isLeft n isRight starts

theorem escaped_eq (text : List Char) : escaped text = text.flatMap escapeOne := by
  unfold escaped escapePipes hexHidden doubleBackslashes
  rw [List.flatMap_assoc, List.flatMap_assoc]
  refine List.flatMap_congr fun c _ => ?_
  unfold escapeOne
  split
  · rename_i backslash
    subst backslash
    rfl
  · cases shown : isShown c with
    | true => simp [shown]
    | false =>
        have plain : ∀ digits : List Char, (∀ d ∈ digits, d ≠ '|') →
            digits.flatMap (fun d => if d = '|' then ['\\', '|'] else [d]) = digits := by
          intro digits free
          induction digits with
          | nil => rfl
          | cons d digits ih =>
              obtain ⟨here, later⟩ := List.forall_mem_cons.mp free
              rw [List.flatMap_cons, if_neg here, ih later]
              rfl
        have digits := plain (hexText c.toNat) fun d member =>
          (hexText_digits (mem_hiddenCodes shown) d member).2.1
        simp [shown, digits]

theorem escapeOne_cases (c : Char) :
    (c = '\\' ∧ escapeOne c = ['\\', '\\']) ∨ (c = '|' ∧ escapeOne c = ['\\', '|']) ∨
      (isShown c = false ∧ escapeOne c = '\\' :: 'x' :: hexText c.toNat) ∨
      (isShown c = true ∧ c ≠ '\\' ∧ c ≠ '|' ∧ escapeOne c = [c]) := by
  unfold escapeOne
  split
  · rename_i backslash
    exact .inl ⟨backslash, rfl⟩
  · rename_i other
    cases shown : isShown c with
    | false => exact .inr (.inr (.inl ⟨rfl, rfl⟩))
    | true =>
        rw [if_neg Bool.noConfusion]
        split
        · rename_i pipe
          exact .inr (.inl ⟨pipe, rfl⟩)
        · rename_i plain
          exact .inr (.inr (.inr ⟨rfl, other, plain, rfl⟩))

/-- **No escape is the start of another one.** -/
theorem escapeOne_prefixFree {c d : Char} {rest rest' : List Char}
    (same : escapeOne c ++ rest = escapeOne d ++ rest') : c = d ∧ rest = rest' := by
  have equal : c = d := by
    rcases escapeOne_cases c with ⟨isLeft, left⟩ | ⟨isLeft, left⟩ | ⟨isLeft, left⟩ | ⟨-, isLeft, -, left⟩ <;>
      rcases escapeOne_cases d with ⟨isRight, right⟩ | ⟨isRight, right⟩ | ⟨isRight, right⟩ |
        ⟨-, isRight, -, right⟩ <;>
      rw [left, right] at same
    case inr.inr.inl.inr.inr.inl =>
      have digits := (List.cons.inj (List.cons.inj same).2).2
      have starts : hexText c.toNat <+: hexText c.toNat ++ rest := List.prefix_append _ _
      have starts' : hexText d.toNat <+: hexText c.toNat ++ rest :=
        ⟨rest', digits.symm⟩
      have codes : c.toNat = d.toNat := by
        rcases List.prefix_or_prefix_of_prefix starts starts' with shorter | shorter
        · exact hexText_prefixFree (mem_hiddenCodes isLeft) (mem_hiddenCodes isRight) shorter
        · exact (hexText_prefixFree (mem_hiddenCodes isRight) (mem_hiddenCodes isLeft) shorter).symm
      exact Char.toNat_inj.mp codes
    case inr.inr.inr.inr.inr.inr => exact (List.cons.inj same).1
    all_goals grind
  subst equal
  exact ⟨rfl, List.append_cancel_left same⟩

theorem escaped_injective {left right : List Char} (same : escaped left = escaped right) :
    left = right := by
  rw [escaped_eq, escaped_eq] at same
  have nonempty : ∀ c, escapeOne c ≠ [] := by
    intro c
    unfold escapeOne
    split
    · exact List.cons_ne_nil _ _
    · split
      · exact List.cons_ne_nil _ _
      · split <;> exact List.cons_ne_nil _ _
  induction left generalizing right with
  | nil =>
      cases right with
      | nil => rfl
      | cons d right =>
          rw [List.flatMap_nil, List.flatMap_cons] at same
          exact absurd (List.append_eq_nil_iff.mp same.symm).1 (nonempty d)
  | cons c left ih =>
      cases right with
      | nil =>
          rw [List.flatMap_nil, List.flatMap_cons] at same
          exact absurd (List.append_eq_nil_iff.mp same).1 (nonempty c)
      | cons d right =>
          rw [List.flatMap_cons, List.flatMap_cons] at same
          obtain ⟨rfl, later⟩ := escapeOne_prefixFree same
          rw [ih later]

theorem escapeText_of_short {value : Option String}
    (short : (escaped (value.getD "").toList).length ≤ escapeMaxLength) :
    escapeText value = escaped (value.getD "").toList :=
  if_neg (Nat.not_lt.mpr short)

/-! ## Lines -/

/-- A text without line boundaries. -/
def Plain (text : List Char) : Prop := ∀ c ∈ text, isLineBreak c = false

instance (text : List Char) : Decidable (Plain text) := inferInstanceAs (Decidable (∀ c ∈ text, _))

theorem Plain.append {left right : List Char} (isLeft : Plain left) (isRight : Plain right) :
    Plain (left ++ right) := fun c member =>
  (List.mem_append.mp member).elim (isLeft c) (isRight c)

theorem Plain.cons {c : Char} {rest : List Char} (first : isLineBreak c = false) (later : Plain rest) :
    Plain (c :: rest) := List.forall_mem_cons.mpr ⟨first, later⟩

theorem plain_of_shown {c : Char} (shown : isShown c = true) : isLineBreak c = false := by
  unfold isShown at shown
  unfold isLineBreak
  simp at shown ⊢
  omega

theorem plain_digits (n : Nat) : Plain (Nat.toDigits 10 n) := fun c member => by
  have digit := Nat.isDigit_of_mem_toDigits (by decide) (by decide) member
  refine plain_of_shown ?_
  simp only [Char.isDigit, Bool.and_eq_true, decide_eq_true_eq, UInt32.le_iff_toNat_le, ge_iff_le] at digit
  change 48 ≤ c.toNat ∧ c.toNat ≤ 57 at digit
  unfold isShown
  simp
  omega

theorem plain_escapeOne (c : Char) : Plain (escapeOne c) := by
  unfold escapeOne
  split
  · decide
  · split
    · rename_i hidden
      refine .cons (by decide) (.cons (by decide) fun d member => ?_)
      exact plain_of_shown (hexText_digits (mem_hiddenCodes hidden) d member).2.2
    · rename_i shown
      rw [Bool.not_eq_false] at shown
      split
      · decide
      · exact .cons (plain_of_shown shown) nofun

theorem plain_escaped (text : List Char) : Plain (escaped text) := by
  rw [escaped_eq]
  intro c member
  obtain ⟨d, -, inEscape⟩ := List.mem_flatMap.mp member
  exact plain_escapeOne d c inEscape

/-- **What is written of a value has no line boundary.** -/
theorem plain_escapeText (value : Option String) : Plain (escapeText value) := by
  unfold escapeText
  dsimp only
  split
  · refine .append (fun c member => plain_escaped _ c (List.mem_of_mem_take member)) ?_
    exact .cons (by decide) (.append (by decide) (.append (plain_digits _) (by decide)))
  · exact plain_escaped _

theorem mem_join {separator : String} {texts : List (List Char)} {c : Char}
    (member : c ∈ join separator texts) : c ∈ separator.toList ∨ ∃ text ∈ texts, c ∈ text := by
  unfold join at member
  induction texts with
  | nil => cases member
  | cons text texts ih =>
      cases texts with
      | nil =>
          rw [List.intercalate_singleton] at member
          exact .inr ⟨text, List.mem_singleton_self _, member⟩
      | cons next texts =>
          rw [List.intercalate_cons_cons, List.append_assoc] at member
          rcases List.mem_append.mp member with here | member
          · exact .inr ⟨text, List.mem_cons_self .., here⟩
          · rcases List.mem_append.mp member with between | later
            · exact .inl between
            · exact (ih later).imp_right fun ⟨found, known, inFound⟩ =>
                ⟨found, List.mem_cons_of_mem _ known, inFound⟩

theorem plain_join {separator : String} (plain : Plain separator.toList) {texts : List (List Char)}
    (each : ∀ text ∈ texts, Plain text) : Plain (join separator texts) := fun c member =>
  (mem_join member).elim (plain c) fun ⟨text, known, inText⟩ => each text known c inText

/-! ## Columns -/

/-- Whether the text is behind an escaping backslash after some characters, unless one of them is an
unescaped pipe. -/
def scanEscapes : Bool → List Char → Option Bool
  | behind, [] => some behind
  | true, _ :: rest => scanEscapes false rest
  | false, c :: rest =>
      if c = '\\' then scanEscapes true rest
      else if c = '|' then none
      else scanEscapes false rest

/-- A line split at its unescaped pipes. -/
def splitPipes : Bool → List Char → List (List Char)
  | _, [] => [[]]
  | true, c :: rest => (splitPipes false rest).modifyHead (c :: ·)
  | false, c :: rest =>
      if c = '\\' then (splitPipes true rest).modifyHead (c :: ·)
      else if c = '|' then [] :: splitPipes false rest
      else (splitPipes false rest).modifyHead (c :: ·)

theorem scanEscapes_append (left right : List Char) (behind : Bool) :
    scanEscapes behind (left ++ right) =
      (scanEscapes behind left).bind fun after => scanEscapes after right := by
  induction left generalizing behind with
  | nil => rfl
  | cons c left ih =>
      rw [List.cons_append]
      cases behind with
      | true => rw [scanEscapes, scanEscapes, ih]
      | false =>
          rw [scanEscapes, scanEscapes]
          split
          · exact ih true
          · split
            · rfl
            · exact ih false

/-- A cell without unescaped pipes is not split. -/
theorem splitPipes_append {cell : List Char} (rest : List Char) :
    ∀ {behind after : Bool}, scanEscapes behind cell = some after →
      splitPipes behind (cell ++ rest) = (splitPipes after rest).modifyHead (cell ++ ·) := by
  induction cell with
  | nil =>
      intro behind after scanned
      obtain rfl := Option.some.inj scanned
      rw [List.nil_append]
      generalize splitPipes behind rest = pieces
      cases pieces <;> rfl
  | cons c cell ih =>
      intro behind after scanned
      have deeper : ∀ pieces : List (List Char),
          (pieces.modifyHead (cell ++ ·)).modifyHead (c :: ·) = pieces.modifyHead (c :: cell ++ ·) := by
        intro pieces
        cases pieces <;> rfl
      rw [List.cons_append]
      cases behind with
      | true =>
          rw [scanEscapes] at scanned
          rw [splitPipes, ih scanned, deeper]
      | false =>
          rw [scanEscapes] at scanned
          rw [splitPipes]
          split at scanned
          · rw [if_pos ‹_›, ih scanned, deeper]
          · rw [if_neg ‹_›]
            split at scanned
            · cases scanned
            · rw [if_neg ‹_›, ih scanned, deeper]

/-- Free of unescaped pipes, and not ending behind a backslash. -/
def Closed (cell : List Char) : Prop := scanEscapes false cell = some false

theorem Closed.append {left right : List Char} (isLeft : Closed left) (isRight : Closed right) :
    Closed (left ++ right) := by
  unfold Closed at *
  rw [scanEscapes_append, isLeft]
  exact isRight

theorem closed_plain {text : List Char} (plain : ∀ c ∈ text, c ≠ '\\' ∧ c ≠ '|') : Closed text := by
  unfold Closed
  induction text with
  | nil => rfl
  | cons c text ih =>
      obtain ⟨here, later⟩ := List.forall_mem_cons.mp plain
      rw [scanEscapes, if_neg here.1, if_neg here.2, ih later]

theorem closed_escapeOne (c : Char) : Closed (escapeOne c) := by
  rcases escapeOne_cases c with ⟨-, same⟩ | ⟨-, same⟩ | ⟨hidden, same⟩ | ⟨-, backslash, pipe, same⟩ <;>
    rw [same]
  · rfl
  · rfl
  · have digits : Closed (hexText c.toNat) := closed_plain fun d member =>
      have digit := hexText_digits (mem_hiddenCodes hidden) d member
      ⟨digit.1, digit.2.1⟩
    exact digits
  · exact closed_plain (List.forall_mem_singleton.mpr ⟨backslash, pipe⟩)

theorem closed_escaped (text : List Char) : Closed (escaped text) := by
  rw [escaped_eq]
  induction text with
  | nil => rfl
  | cons c text ih =>
      rw [List.flatMap_cons]
      exact (closed_escapeOne c).append ih

/-- **What is written of a value has no unescaped pipe**, also where an escape is cut. -/
theorem closed_escapeText (value : Option String) : Closed (escapeText value) := by
  unfold escapeText
  dsimp only
  split
  · -- a start of a text without unescaped pipes has none, and the ellipsis ends any escape
    obtain ⟨behind, cut⟩ : ∃ behind, scanEscapes false
        ((escaped (value.getD "").toList).take escapeMaxLength) = some behind := by
      have whole := closed_escaped (value.getD "").toList
      unfold Closed at whole
      rw [← List.take_append_drop escapeMaxLength (escaped (value.getD "").toList),
        scanEscapes_append] at whole
      obtain ⟨behind, cut, -⟩ := Option.bind_eq_some_iff.mp whole
      exact ⟨behind, cut⟩
    have mark : ∀ more, Closed ("[truncated ".toList ++ (Nat.toDigits 10 more ++ [']'])) := fun more =>
      closed_plain fun c member => by
        rcases List.mem_append.mp member with inText | member
        · exact (by decide : ∀ c ∈ "[truncated ".toList, c ≠ '\\' ∧ c ≠ '|') c inText
        · rcases List.mem_append.mp member with digit | bracket
          · have digit := Nat.isDigit_of_mem_toDigits (by decide) (by decide) digit
            constructor
            all_goals
              rintro rfl
              cases digit
          · obtain rfl := List.mem_singleton.mp bracket
            decide
    unfold Closed
    rw [scanEscapes_append, cut, Option.bind_some, truncationMark]
    cases behind <;> exact mark _
  · exact closed_escaped _

theorem splitPipes_cell {cell : List Char} (closed : Closed cell) (rest : List Char) :
    splitPipes false (' ' :: (cell ++ ' ' :: '|' :: rest)) =
      (' ' :: (cell ++ [' '])) :: splitPipes false rest := by
  have space : Closed [' '] := rfl
  have padded : Closed (' ' :: (cell ++ [' '])) := space.append (closed.append space)
  have same : ' ' :: (cell ++ ' ' :: '|' :: rest) = ' ' :: (cell ++ [' ']) ++ '|' :: rest := by simp
  have bar : splitPipes false ('|' :: rest) = [] :: splitPipes false rest := rfl
  rw [same, splitPipes_append _ padded, bar, List.modifyHead_cons, List.append_nil]

/-- A line of cells splits into these cells. -/
theorem splitPipes_pipeLine {cells : List (List Char)} (nonempty : cells ≠ [])
    (closed : ∀ cell ∈ cells, Closed cell) :
    splitPipes false (pipeLine cells) =
      [] :: ((cells.map fun cell => ' ' :: (cell ++ [' '])) ++ [[]]) := by
  have general : ∀ cells : List (List Char), cells ≠ [] → (∀ cell ∈ cells, Closed cell) →
      splitPipes false (' ' :: (join " | " cells ++ " |".toList)) =
        (cells.map fun cell => ' ' :: (cell ++ [' '])) ++ [[]] := by
    intro cells
    induction cells with
    | nil => exact fun none => absurd rfl none
    | cons cell cells ih =>
        intro _ closed
        obtain ⟨here, later⟩ := List.forall_mem_cons.mp closed
        cases cells with
        | nil =>
            rw [join, List.intercalate_singleton]
            exact splitPipes_cell here []
        | cons next cells =>
            have cut : ' ' :: (join " | " (cell :: next :: cells) ++ " |".toList) =
                ' ' :: (cell ++ ' ' :: '|' :: ' ' :: (join " | " (next :: cells) ++ " |".toList)) := by
              rw [join, join, List.intercalate_cons_cons, List.append_assoc, List.append_assoc]
              rfl
            rw [cut, splitPipes_cell here, ih (List.cons_ne_nil _ _) later]
            rfl
  have bar : splitPipes false (pipeLine cells) =
      [] :: splitPipes false (' ' :: (join " | " cells ++ " |".toList)) := rfl
  rw [bar, general cells nonempty closed]

theorem closed_cellText (row : TableRow) (column : String) : Closed (cellText row column) := by
  unfold cellText
  split
  · exact closed_escapeText _
  · exact closed_escapeText _

/-! ## The lines of the table -/

/-- `text.splitlines()`. -/
def splitlines (text : List Char) : List (List Char) := splitLines (translateNewlines text)

theorem plain_itemLine {key : String} (isKey : Plain key.toList) {text : List Char} (plain : Plain text) :
    Plain (itemLine key text) :=
  .append (by decide) (isKey.append (.append (by decide) plain))

theorem plain_pipeLine {cells : List (List Char)} (each : ∀ cell ∈ cells, Plain cell) :
    Plain (pipeLine cells) :=
  .append (by decide) ((plain_join (by decide) each).append (by decide))

theorem plain_callLine (call : TableCall) : Plain (callLine call) := by
  refine plain_itemLine (by decide) ((plain_escapeText _).append (.append (by decide) (.append ?_ (by decide))))
  unfold decimalText
  split
  · exact .cons (by decide) (plain_digits _)
  · exact plain_digits _

theorem plain_rowLine (row : TableRow) : Plain (rowLine row) :=
  plain_pipeLine (List.forall_mem_map.mpr fun column _ => by
    unfold cellText
    split
    · exact plain_escapeText _
    · exact plain_escapeText _)

theorem plain_prerequisiteLine (evidence : TableEvidence) {key : String} (isKey : Plain key.toList) :
    Plain (prerequisiteLine evidence key) := by
  refine plain_itemLine isKey ?_
  split
  · decide
  · cases evidence.prerequisite key with
    | list items => exact plain_join (by decide) (List.forall_mem_map.mpr fun item _ => plain_escapeText _)
    | single value => exact plain_escapeText _

theorem plain_stepLine (item : StepDetail) : Plain (stepLine item) :=
  plain_itemLine (by decide) ((plain_escapeText _).append (.append (by decide)
    ((plain_escapeText _).append (.append (by decide) (plain_escapeText _)))))

theorem plain_statusLine (marker : Marker) : Plain (statusLine marker) := by
  have status : Plain marker.status.text.toList := by cases marker.status <;> decide
  exact .append (by decide) (status.append (.append (by decide)
    ((plain_digits _).append (.append (by decide) (plain_escapeText _)))))

theorem plain_trailer {name : String} (isName : Plain name.toList) (jobs : List String) :
    ∀ line ∈ trailer name jobs, Plain line := by
  unfold trailer
  split
  · exact fun _ member => absurd member List.not_mem_nil
  · exact List.forall_mem_singleton.mpr (isName.append (.append (by decide)
      (plain_join (by decide) (List.forall_mem_map.mpr fun _ _ => plain_escapeText _))))

theorem plain_tableLines (evidence : TableEvidence) : ∀ line ∈ tableLines evidence, Plain line := by
  have runs : ∀ key ∈ runKeys, Plain key.toList := by decide
  have prerequisites : ∀ key ∈ prerequisiteKeys, Plain key.toList := by decide
  have heads : ∀ column ∈ columns, Plain column.toList := by decide
  unfold tableLines headLines prerequisiteLines markerLines
  simp only [List.forall_mem_append, List.forall_mem_map, List.forall_mem_cons, List.not_mem_nil,
    false_implies, implies_true, and_true, and_assoc]
  exact ⟨by decide, fun key member => plain_itemLine (runs key member) (plain_escapeText _),
    fun call _ => plain_callLine call, by decide, by decide,
    plain_pipeLine (List.forall_mem_map.mpr heads),
    plain_pipeLine (List.forall_mem_map.mpr fun _ _ => by decide), fun row _ => plain_rowLine row,
    by decide, by decide,
    fun key member => plain_prerequisiteLine evidence (prerequisites key member),
    fun item _ => plain_stepLine item, by decide, plain_statusLine _, plain_trailer (by decide) _,
    plain_trailer (by decide) _, plain_trailer (by decide) _⟩

/-- Lines that are joined by newlines are read back, when the last one is not empty. -/
theorem splitlines_join {lines : List (List Char)} {last : List Char} (plain : ∀ line ∈ lines, Plain line)
    (isLast : Plain last) (visible : last ≠ []) :
    splitlines (join "\n" (lines ++ [last])) = lines ++ [last] := by
  have untouched : ∀ c ∈ join "\n" (lines ++ [last]), c ≠ '\r' := by
    rintro c member rfl
    rcases mem_join member with between | ⟨line, known, inLine⟩
    · exact absurd between (by decide)
    · rcases List.mem_append.mp known with before | isEnd
      · exact absurd (plain line before _ inLine) (by decide)
      · obtain rfl := List.mem_singleton.mp isEnd
        exact absurd (isLast _ inLine) (by decide)
  rw [splitlines, translateNewlines_plain untouched]
  clear untouched
  induction lines with
  | nil =>
      rw [List.nil_append, join, List.intercalate_singleton]
      induction last with
      | nil => exact absurd rfl visible
      | cons c rest ih =>
          obtain ⟨here, later⟩ := List.forall_mem_cons.mp isLast
          rw [splitLines, here, if_neg Bool.false_ne_true]
          cases rest with
          | nil => rfl
          | cons d rest => rw [ih later (List.cons_ne_nil _ _)]
  | cons line lines ih =>
      obtain ⟨here, later⟩ := List.forall_mem_cons.mp plain
      obtain ⟨next, others, same⟩ := List.exists_cons_of_ne_nil
        (List.append_ne_nil_of_right_ne_nil lines (List.cons_ne_nil last []))
      have joined : join "\n" (line :: (lines ++ [last])) = line ++ '\n' :: join "\n" (lines ++ [last]) := by
        rw [same, join, join, List.intercalate_cons_cons, List.append_assoc]
        rfl
      rw [List.cons_append, joined, splitLines_line here, ih later]

/-- `line.startswith("STATUS:")`. -/
def startsStatus (line : List Char) : Bool := "STATUS:".toList.isPrefixOf line

def trailerCount (marker : Marker) : Nat :=
  (if marker.failing_jobs = [] then 0 else 1) + (if marker.skipped_required_jobs = [] then 0 else 1) +
    (if marker.unexpected_skipped_jobs = [] then 0 else 1)

/-- A rendered table with the lines of its layout. -/
structure Unforgeable (evidence : TableEvidence) : Prop where
  lines : splitlines (renderTable evidence) = tableLines evidence
  count : (splitlines (renderTable evidence)).length =
    35 + evidence.api_urls.length + evidence.jobs.length + evidence.step_details.length +
      trailerCount evidence.marker
  jobLines : ((splitlines (renderTable evidence)).drop (25 + evidence.api_urls.length)).take
    evidence.jobs.length = evidence.jobs.map rowLine
  cells : ∀ row ∈ evidence.jobs, splitPipes false (rowLine row) =
    [] :: ((columns.map fun column => ' ' :: (cellText row column ++ [' '])) ++ [[]])
  status : ∃ reason, (splitlines (renderTable evidence)).filter startsStatus =
    ["STATUS: ".toList ++ (evidence.marker.status.text.toList ++
      (" (exit ".toList ++ (Nat.toDigits 10 evidence.marker.exitCode ++ (") reason: ".toList ++ reason))))]

theorem length_trailer (name : String) (jobs : List String) :
    (trailer name jobs).length = if jobs = [] then 0 else 1 := by
  unfold trailer
  split <;> rfl

theorem length_tableLines (evidence : TableEvidence) :
    (tableLines evidence).length = 35 + evidence.api_urls.length + evidence.jobs.length +
      evidence.step_details.length + trailerCount evidence.marker := by
  have runs : runKeys.length = 20 := rfl
  have prerequisites : prerequisiteKeys.length = 6 := rfl
  unfold tableLines headLines prerequisiteLines markerLines trailerCount
  simp only [List.length_append, List.length_map, List.length_cons, List.length_nil, length_trailer,
    runs, prerequisites]
  omega

theorem filter_tableLines (evidence : TableEvidence) :
    (tableLines evidence).filter startsStatus = [statusLine evidence.marker] := by
  have none : ∀ {α : Type} (f : α → List Char) (items : List α), (∀ item, startsStatus (f item) = false) →
      (items.map f).filter startsStatus = [] := by
    intro α f items other
    rw [List.filter_eq_nil_iff]
    exact List.forall_mem_map.mpr fun item _ => by rw [other item]; exact Bool.false_ne_true
  have trailers : ∀ (name : String) (jobs : List String),
      (∀ text, startsStatus (name.toList ++ text) = false) →
        (trailer name jobs).filter startsStatus = [] := by
    intro name jobs other
    unfold trailer
    split
    · rfl
    · rw [List.filter_singleton, other]
      rfl
  have status : startsStatus (statusLine evidence.marker) = true := rfl
  unfold tableLines headLines prerequisiteLines markerLines
  simp only [List.filter_append, List.filter_cons_of_pos status]
  rw [none _ runKeys fun _ => rfl, none _ evidence.api_urls fun _ => rfl,
    none _ evidence.jobs fun _ => rfl, none _ prerequisiteKeys fun _ => rfl,
    none _ evidence.step_details fun _ => rfl, trailers "failing" _ fun _ => rfl,
    trailers "required-job-skipped" _ fun _ => rfl, trailers "unexpected-skip" _ fun _ => rfl]
  rfl

theorem splitlines_renderTable (evidence : TableEvidence) :
    splitlines (renderTable evidence) = tableLines evidence := by
  have visible : ∀ line ∈ markerLines evidence.marker, line ≠ [] := by
    have trailers : ∀ {name : String} {jobs : List String}, name ≠ "" →
        ∀ line ∈ trailer name jobs, line ≠ [] := by
      intro name jobs named
      unfold trailer
      split
      · exact fun _ member => absurd member List.not_mem_nil
      · exact List.forall_mem_singleton.mpr (List.append_ne_nil_of_left_ne_nil (by simpa using named) _)
    unfold markerLines
    simp only [List.forall_mem_cons, List.forall_mem_append, and_assoc]
    exact ⟨List.cons_ne_nil _ _, trailers (by decide), trailers (by decide), trailers (by decide)⟩
  have nonempty : markerLines evidence.marker ≠ [] := List.cons_ne_nil _ _
  have plain := plain_tableLines evidence
  have cut : tableLines evidence = (headLines evidence ++ (evidence.jobs.map rowLine ++
      (prerequisiteLines evidence ++ (markerLines evidence.marker).dropLast))) ++
        [(markerLines evidence.marker).getLast nonempty] := by
    rw [List.append_assoc, List.append_assoc, List.append_assoc, List.dropLast_append_getLast]
    rfl
  rw [cut, List.forall_mem_append, List.forall_mem_singleton] at plain
  rw [renderTable, cut]
  exact splitlines_join plain.1 plain.2 (visible _ (List.getLast_mem nonempty))

theorem jobs_of_tableLines (evidence : TableEvidence) :
    ((tableLines evidence).drop (25 + evidence.api_urls.length)).take evidence.jobs.length =
      evidence.jobs.map rowLine := by
  have head : (headLines evidence).length = 25 + evidence.api_urls.length := by
    have runs : runKeys.length = 20 := rfl
    unfold headLines
    simp only [List.length_append, List.length_map, List.length_cons, List.length_nil, runs]
    omega
  rw [tableLines, List.drop_left' head, List.take_left' (List.length_map _)]

/-- **No value forges the table, and distinct texts have distinct escapes.** -/
theorem render_table_unforgeable (evidence : TableEvidence) :
    Unforgeable evidence ∧
      ∀ left right : Option String,
        (escaped (left.getD "").toList).length ≤ escapeMaxLength →
          (escaped (right.getD "").toList).length ≤ escapeMaxLength →
            escapeText left = escapeText right → left.getD "" = right.getD "" := by
  have lines := splitlines_renderTable evidence
  refine ⟨⟨lines, ?_, ?_, fun row _ => ?_, ?_⟩, fun left right isLeft isRight same => ?_⟩
  · rw [lines, length_tableLines]
  · rw [lines, jobs_of_tableLines]
  · exact splitPipes_pipeLine (List.cons_ne_nil _ _)
      (List.forall_mem_map.mpr fun column _ => closed_cellText row column)
  · rw [lines, filter_tableLines]
    exact ⟨_, rfl⟩
  · rw [escapeText_of_short isLeft, escapeText_of_short isRight] at same
    exact String.toList_inj.mp (escaped_injective same)

end Aegis.CiDurations
