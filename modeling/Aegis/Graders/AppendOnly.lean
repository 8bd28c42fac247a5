/-
# Graders.AppendOnly — grading of recorded versions of an audit document

`graders/append_only.py`: of every recorded version the immutable rows of four sections are read from
the Markdown text. The rows of a version have to extend those of the version before, and the ids of
the rows, their first cells, have to pass the ordering gates of the plan.

`Preserved` is what the comparison of neighbours comes to for the whole sequence
(`preserved_of_checkVersions`). The gates read ids through `rowId`, which skips every pipe at the start
of a row: `rowId_eq_firstCell_iff` says where it reads another cell than the first, and
`gradeVersionSequence_sound_iff` what follows for a record that passes.
-/
import Aegis.Graders.Base
import Aegis.Lib.PythonText
import Mathlib.Data.List.Infix

namespace Aegis.Graders

open Aegis.Lib
open Aegis.Lib.Guarded
open Aegis.Runner (IsHexDigest RunnerError)

set_option autoImplicit false

/-- Texts are compared by their characters. -/
theorem lawfulBEq_chars : LawfulBEq (List Char) := inferInstance

attribute [local instance] lawfulBEq_chars

/-! ## Rows of a document -/

inductive SectionKey
  | stateSnapshots
  | decisionLog
  | approvals
  | deviations
  deriving DecidableEq, Repr

namespace SectionKey

def text : SectionKey → String
  | stateSnapshots => "State snapshots"
  | decisionLog => "Decision log"
  | approvals => "Approvals"
  | deviations => "Deviations"

/-- `SECTION_KEYS`. -/
def all : List SectionKey := [stateSnapshots, decisionLog, approvals, deviations]

theorem mem_all (key : SectionKey) : key ∈ all := by
  cases key <;> decide

/-- `ID_SECTION_KEYS`. -/
def idSections : List SectionKey := [stateSnapshots, decisionLog, approvals]

end SectionKey

abbrev Row := List Char

def startsWith (text start : List Char) : Bool := start.isPrefixOf text

/-- `text.lstrip()`. -/
def lstrip (text : List Char) : List Char := text.dropWhile isBlank

/-- `text.strip("|")`. -/
def stripPipes (text : List Char) : List Char := (text.dropWhile (· = '|')).rdropWhile (· = '|')

/-- `_is_separator_row`. -/
def isSeparatorRow (line : List Char) : Bool :=
  let stripped := stripChars line
  let inner := stripPipes stripped
  startsWith stripped ['|'] && stripped.getLast? == some '|' && !inner.isEmpty &&
    inner.all (· ∈ [' ', ':', '-', '|']) && inner.contains '-'

/-- `rows[-1] = rows[-1] + " " + text`, of rows that are there. -/
def appendToLast (text : List Char) : List Row → List Row
  | [] => []
  | [row] => [row ++ ' ' :: text]
  | row :: rest => row :: appendToLast text rest

/-- The rows, from one more line of a section. -/
def collectRow (separator : Option Nat) (rows : List Row) (placed : List Char × Nat) : List Row :=
  let (line, index) := placed
  if stripChars line = [] then rows
  else if startsWith (lstrip line) "<!--".toList then rows
  else
    match separator with
    | some separator =>
        if index ≤ separator then rows
        else if startsWith (lstrip line) ['|'] then rows ++ [stripChars line] else rows
    | none =>
        if startsWith (lstrip line) "- ".toList then rows ++ [stripChars line]
        else appendToLast (stripChars line) rows

/-- The immutable rows among the lines of a section. -/
def immutableRows (lines : List (List Char)) : List Row :=
  (lines.zipIdx 0).foldl (collectRow (lines.findIdx? isSeparatorRow)) []

/-- The lines of each section that was met, and the section that is being read. -/
structure RawSections where
  raw : SectionKey → Option (List (List Char)) := fun _ => none
  current : Option SectionKey := none

def RawSections.put (sections : RawSections) (key : SectionKey) (lines : List (List Char)) :
    SectionKey → Option (List (List Char)) :=
  fun asked => if asked = key then some lines else sections.raw asked

section Reading

variable {F : Type}

/-- The first section whose key starts the header. -/
def openSection (sections : RawSections) (header : List Char) : Except (Raised F) RawSections :=
  match SectionKey.all.find? fun key => startsWith header key.text.toList with
  | none => .ok { sections with current := none }
  | some key => do
      refuse ((sections.raw key).isSome = true)
        (malformed ("duplicate section header matching '" ++ key.text ++
          "': a shadow section cannot replace the graded one"))
      pure { raw := sections.put key [], current := some key }

/-- One line of the document. -/
def readLine (sections : RawSections) (line : List Char) : Except (Raised F) RawSections :=
  let stripped := stripChars line
  if startsWith stripped "## ".toList then openSection sections (stripChars (stripped.drop 3))
  else
    match sections.current with
    | none => .ok sections
    | some key =>
        .ok { sections with raw := sections.put key ((sections.raw key).getD [] ++ [line]) }

/-- `extract_immutable_rows`. -/
def extractImmutableRows (content : List Char) : Except (Raised F) (SectionKey → List Row) := do
  let sections ← (content.splitOn '\n').foldlM readLine {}
  pure fun key => immutableRows ((sections.raw key).getD [])

end Reading

/-- `_row_id`. -/
def rowId (row : Row) : List Char :=
  if startsWith row ['|'] then
    (((stripPipes row).splitOn '|').map stripChars).headD []
  else row

/-- The ids of the rows of a section. -/
def sectionIds (rows : SectionKey → List Row) (key : SectionKey) : List (List Char) :=
  (rows key).map rowId

def contains (text part : List Char) : Bool := text.tails.any (part.isPrefixOf ·)

/-- `_is_placeholder`. -/
def isPlaceholder (row : Row) : Bool :=
  contains row "(none yet)".toList || contains row "(none recorded".toList

/-! ## Neighbouring versions -/

section Checks

variable {F : Type}

/-- The comparison of the rows of a section, from an index on. -/
def checkRows (key : SectionKey) (removedPlaceholder : Bool) :
    List Row → List Row → Nat → Except (Raised F) Unit
  | previous :: before, current :: rows, index => do
      require (current = previous)
        (if removedPlaceholder = true then
          failed .placeholderRemoved ("[" ++ key.text ++ "] a preserved empty-state placeholder row " ++
            "was replaced instead of appended after")
        else
          failed .appendOnlyViolation ("[" ++ key.text ++
            s!"] immutable row #{index + 1} was edited, reordered, or replaced"))
      checkRows key removedPlaceholder before rows (index + 1)
  | _, _, _ => .ok ()

/-- `_check_prefix`, of one section. -/
def checkSection (previous current : SectionKey → List Row) (key : SectionKey) :
    Except (Raised F) Unit := do
  let removedPlaceholder := (previous key).any fun row => isPlaceholder row && row ∉ current key
  refuse ((current key).length < (previous key).length)
    (if removedPlaceholder = true then
      failed .placeholderRemoved
        ("[" ++ key.text ++ "] a preserved empty-state placeholder row was removed")
    else
      failed .appendOnlyViolation ("[" ++ key.text ++
        s!"] an immutable row was deleted ({(previous key).length} -> {(current key).length})"))
  checkRows key removedPlaceholder (previous key) (current key) 0

/-- `_check_prefix`. -/
def checkPrefix (previous current : SectionKey → List Row) : Except (Raised F) Unit :=
  forM SectionKey.all (checkSection previous current)

/-- The rows that a version has beyond the one before, by their sections. -/
def addedRows (previous current : SectionKey → List Row) : List (SectionKey × Row) :=
  SectionKey.all.flatMap fun key => ((current key).drop (previous key).length).map (key, ·)

/-- The loop over neighbouring versions. -/
def checkVersions : (SectionKey → List Row) → List (SectionKey → List Row) →
    Except (Raised F) (List (SectionKey × Row))
  | _, [] => .ok []
  | previous, current :: later => do
      checkPrefix previous current
      let added ← checkVersions current later
      pure (addedRows previous current ++ added)

/-! ## The gates -/

def gateId (gates : List (String × Json F)) (key : String) : List Char :=
  ((nonemptyText? (valueAt gates key)).getD "").toList

def gateIds (gates : List (String × Json F)) (key : String) : List (List Char) :=
  ((textList? (valueAt gates key)).getD []).map String.toList

/-- `_first_step_index`. -/
def firstStepIndex (census : List (SectionKey → List (List Char))) (key : SectionKey)
    (wanted : List Char) : Option Nat :=
  census.findIdx? fun ids => wanted ∈ ids key

def checkForbidden (census : List (SectionKey → List (List Char))) (gates : List (String × Json F)) :
    Except (Raised F) Unit :=
  forM census fun ids =>
    refuse (∃ forbidden ∈ gateIds gates "forbidden_snapshot_ids", forbidden ∈ ids .stateSnapshots)
      (failed .forbiddenSnapshot "forbidden snapshot id(s) appear in the sequence")

def checkStage3 (census : List (SectionKey → List (List Char))) (gates : List (String × Json F)) :
    Except (Raised F) Unit :=
  let stage3 := gateId gates "stage3_snapshot_id"
  match firstStepIndex census .stateSnapshots stage3 with
  | none => .ok ()
  | some 0 =>
      .error (failed .orderingGateViolation ("the Stage 3 snapshot " ++ String.ofList stage3 ++
        " appears in the first recorded version; it must follow the recorded owner gate"))
  | some (before + 1) =>
      require (∀ owner ∈ gateIds gates "stage2_owner_ids",
          owner ∈ (census[before]?.map fun ids => ids .decisionLog).getD [])
        (failed .orderingGateViolation ("Stage 2 owner record(s) are not recorded before the Stage 3 " ++
          "snapshot " ++ String.ofList stage3))

def checkCompletion (census : List (SectionKey → List (List Char))) (gates : List (String × Json F)) :
    Except (Raised F) Unit :=
  let acceptance := gateId gates "spec_acceptance_id"
  let completion := gateId gates "spec_owner_completion_id"
  match firstStepIndex census .decisionLog completion with
  | none => .ok ()
  | some completed =>
      require ((firstStepIndex census .decisionLog acceptance).any (· < completed) = true)
        (failed .orderingGateViolation ("owner completion " ++ String.ofList completion ++
          s!" (version index {completed}) must be recorded after the user's spec acceptance " ++
          String.ofList acceptance))

/-- `_check_gates`. -/
def checkGates (census : List (SectionKey → List (List Char))) (gates : List (String × Json F)) :
    Except (Raised F) Unit := do
  checkForbidden census gates
  checkStage3 census gates
  checkCompletion census gates

/-- The comparison of one section of the last version with the plan. -/
def checkFinal (final : SectionKey → List (List Char)) (field : String × Json F) :
    Except (Raised F) Unit :=
  require (((textList? field.2).getD []).map String.toList =
      ((SectionKey.idSections.find? (·.text = field.1)).map final).getD [])
    (failed .expectedRecordMissing
      ("[" ++ field.1 ++ "] final immutable IDs do not match the required IDs"))

/-! ## The grader -/

structure ParsedVersion where
  versionId : String
  normalizedSha256 : String
  rows : SectionKey → List Row

/-- One recorded version. -/
def parseVersion (trust : Trust) : Json F → Except (Raised F) ParsedVersion
  | .object fields => do
      let versionId ← requireStr fields "version_id"
      let content ← requireStr fields "content"
      let rows ← extractImmutableRows content.toList
      pure ⟨versionId, trust.sha256Hex (String.ofList (translateNewlines content.toList)), rows⟩
  | _ => .error (malformed "every version must be a mapping")

def addedText (added : SectionKey × Row) : String :=
  "[" ++ added.1.text ++ "] +" ++ String.ofList added.2

def ParsedVersion.hashes (version : ParsedVersion) : Json F :=
  .dict [("version_id", .str version.versionId), ("normalized_sha256", .str version.normalizedSha256)]

/-- The reproduction data of a PASS. -/
def versionData (versions : List ParsedVersion) (added : List (SectionKey × Row)) :
    List (String × Json F) :=
  [("version_sha256s", .array (versions.map ParsedVersion.hashes)),
    ("added_rows", .array (added.map fun added => .str (addedText added))),
    ("hashing", .str ("run-local normalized-LF SHA-256; fixture-manifest pins are never applied to " ++
      "this evidence"))]

def versionKeys : List String := ["versions", "evidence_pointer"]

/-- The body of `grade_version_sequence`. -/
def gradeVersionSequenceBody (trust : Trust) (plan : TrustedGradingPlan F)
    (data : List (String × Json F)) : Except (Raised F) (List (String × Json F)) := do
  requireKeys data versionKeys versionKeys
  match valueAt data "versions" with
  | .array (entry :: later) => do
      let gates ← fetch plan.semanticGates (.runner (.schemaValidation
        "the trusted plan must carry the semantic gates for append-only grading"))
      let first ← parseVersion trust entry
      let rest ← later.mapM (parseVersion trust)
      let added ← checkVersions first.rows (rest.map ParsedVersion.rows)
      let census := (first :: rest).map fun version => sectionIds version.rows
      checkGates census gates
      forM (plan.expectedFinalIds.getD [])
        (checkFinal (sectionIds ((first :: rest).getLast (List.cons_ne_nil _ _)).rows))
      pure (versionData (first :: rest) added)
  | _ => .error (malformed "versions must be a non-empty list")

/-- `grade_version_sequence`. -/
def gradeVersionSequence [JsonFloat F] (trust : Trust) (plan : TrustedGradingPlan F)
    (evidence : List (String × Json F)) : Except RunnerError (GraderResult F) :=
  runGrader trust "graders.append_only" "oracle.append_only.version_sequence" plan evidence
    (gradeVersionSequenceBody trust)

end Checks

/-! ## Preserved rows -/

section Preservation

variable {F : Type}

/-- Every section starts with the rows that it had. -/
def Extends (previous current : SectionKey → List Row) : Prop :=
  ∀ key, previous key <+: current key

theorem Extends.trans {first second third : SectionKey → List Row} (left : Extends first second)
    (right : Extends second third) : Extends first third :=
  fun key => (left key).trans (right key)

instance : IsTrans (SectionKey → List Row) Extends := ⟨fun _ _ _ => Extends.trans⟩

theorem checkRows_eq_ok {key : SectionKey} {removedPlaceholder : Bool} {previous current : List Row}
    {index : Nat} (longer : previous.length ≤ current.length) :
    checkRows (F := F) key removedPlaceholder previous current index = .ok () ↔
      previous <+: current := by
  induction previous generalizing current index with
  | nil => exact ⟨fun _ => List.nil_prefix, fun _ => by cases current <;> rfl⟩
  | cons row before ih =>
      cases current with
      | nil => simp at longer
      | cons first rows =>
          simp only [checkRows, bind_eq_ok, require_eq_ok, List.cons_prefix_cons]
          rw [List.length_cons, List.length_cons] at longer
          have rest : checkRows (F := F) key removedPlaceholder before rows (index + 1) = .ok () ↔
              before <+: rows := ih (by omega)
          constructor
          · rintro ⟨_, same, checked⟩
            exact ⟨same.symm, rest.mp checked⟩
          · rintro ⟨same, start⟩
            exact ⟨⟨⟩, same.symm, rest.mpr start⟩

theorem checkSection_eq_ok {previous current : SectionKey → List Row} {key : SectionKey} :
    checkSection (F := F) previous current key = .ok () ↔ previous key <+: current key := by
  unfold checkSection
  simp only [bind_eq_ok, refuse_eq_ok]
  constructor
  · rintro ⟨_, longer, checked⟩
    exact (checkRows_eq_ok (by omega)).mp checked
  · intro start
    have longer := start.length_le
    exact ⟨⟨⟩, by omega, (checkRows_eq_ok longer).mpr start⟩

theorem checkPrefix_eq_ok {previous current : SectionKey → List Row} :
    checkPrefix (F := F) previous current = .ok () ↔ Extends previous current := by
  unfold checkPrefix Extends
  rw [forM_eq_ok]
  simp only [checkSection_eq_ok]
  exact ⟨fun each key => each key (SectionKey.mem_all key), fun each key _ => each key⟩

/-- The added rows of one section. -/
def addedIn (added : List (SectionKey × Row)) (key : SectionKey) : List Row :=
  (added.filter (·.1 = key)).map Prod.snd

theorem addedIn_append (left right : List (SectionKey × Row)) (key : SectionKey) :
    addedIn (left ++ right) key = addedIn left key ++ addedIn right key := by
  unfold addedIn
  rw [List.filter_append, List.map_append]

theorem addedIn_addedRows (previous current : SectionKey → List Row) (key : SectionKey) :
    addedIn (addedRows previous current) key = (current key).drop (previous key).length := by
  have section_ : ∀ (other : SectionKey) (rows : List Row),
      addedIn (rows.map (other, ·)) key = if other = key then rows else [] := by
    intro other rows
    unfold addedIn
    by_cases same : other = key
    · rw [if_pos same, List.filter_eq_self.mpr (by simp [same]), List.map_map]
      exact List.map_id rows
    · rw [if_neg same, List.filter_eq_nil_iff.mpr (by simp [same]), List.map_nil]
  simp only [addedRows, SectionKey.all, List.flatMap_cons, List.flatMap_nil, addedIn_append, section_]
  cases key <;> simp [addedIn]

/-- What a passed comparison says of the whole sequence. -/
structure Preserved (versions : List (SectionKey → List Row)) (added : List (SectionKey × Row)) :
    Prop where
  extends_ : ∀ (i j : Nat) (earlier later : SectionKey → List Row), i ≤ j → versions[i]? = some earlier → versions[j]? = some later →
    Extends earlier later
  accounted : ∀ first last, versions.head? = some first → versions.getLast? = some last →
    ∀ key, last key = first key ++ addedIn added key

theorem chain_of_checkVersions {first : SectionKey → List Row}
    {later : List (SectionKey → List Row)} {added : List (SectionKey × Row)}
    (checked : checkVersions (F := F) first later = .ok added) :
    (first :: later).IsChain Extends ∧ ∀ last, (first :: later).getLast? = some last →
      ∀ key, last key = first key ++ addedIn added key := by
  induction later generalizing first added with
  | nil =>
      obtain rfl := Except.ok.inj checked
      refine ⟨.singleton _, fun last isLast key => ?_⟩
      obtain rfl := Option.some.inj isLast
      exact (List.append_nil _).symm
  | cons current later ih =>
      simp only [checkVersions, bind_eq_ok, pure_eq_ok] at checked
      obtain ⟨_, extends_, rest, checked, rfl⟩ := checked
      have extends_ := checkPrefix_eq_ok.mp extends_
      obtain ⟨chain, accounted⟩ := ih checked
      refine ⟨.cons_cons extends_ chain, fun last isLast key => ?_⟩
      rw [List.getLast?_cons_cons] at isLast
      rw [accounted last isLast key, addedIn_append, addedIn_addedRows, ← List.append_assoc]
      exact congrArg (· ++ _) (List.prefix_iff_eq_append.mp (extends_ key)).symm

/-- Neighbours that extend each other extend each other over the whole sequence. -/
theorem preserved_of_checkVersions {first : SectionKey → List Row}
    {later : List (SectionKey → List Row)} {added : List (SectionKey × Row)}
    (checked : checkVersions (F := F) first later = .ok added) :
    Preserved (first :: later) added := by
  obtain ⟨chain, accounted⟩ := chain_of_checkVersions checked
  constructor
  · intro i j earlier later least isEarlier isLater
    rcases Nat.lt_or_eq_of_le least with before | rfl
    · have pairwise := List.isChain_iff_pairwise.mp chain
      obtain ⟨left, rfl⟩ := List.getElem?_eq_some_iff.mp isEarlier
      obtain ⟨right, rfl⟩ := List.getElem?_eq_some_iff.mp isLater
      exact List.pairwise_iff_getElem.mp pairwise i j left right before
    · obtain rfl := Option.some.inj (isEarlier.symm.trans isLater)
      exact fun key => List.prefix_refl _
  · intro start last isFirst isLast
    obtain rfl := Option.some.inj isFirst
    exact accounted last isLast

end Preservation

/-! ## Ids -/

/-- The first cell of a row; a row without pipes is one cell. -/
def firstCell (row : Row) : List Char :=
  if startsWith row ['|'] then stripChars ((row.drop 1).takeWhile (· ≠ '|')) else row

/-- A row whose first cell is cut off with the pipes around it. -/
def Skipped (row : Row) : Prop := startsWith row ['|', '|'] = true

theorem head?_splitOn (separator : Char) (text : List Char) :
    (text.splitOn separator).head? = some (text.takeWhile (· ≠ separator)) := by
  show (text.splitOnP (· == separator)).head? = _
  induction text with
  | nil => rfl
  | cons c rest ih =>
      rw [List.splitOnP_cons_eq_if_modifyHead]
      by_cases here : c = separator
      · rw [if_pos (by simpa using here), List.takeWhile_cons_of_neg (by simpa using here)]
        rfl
      · rw [if_neg (by simpa using here), List.head?_modifyHead, ih,
          List.takeWhile_cons_of_pos (by simpa using here)]
        rfl

/-- The pipes at the end are behind the first cell. -/
theorem takeWhile_rdropWhile (text : List Char) :
    (text.rdropWhile (· = '|')).takeWhile (· ≠ '|') = text.takeWhile (· ≠ '|') := by
  induction text using List.reverseRecOn with
  | nil => rfl
  | append_singleton text last ih =>
      by_cases pipe : last = '|'
      · rw [List.rdropWhile_concat_pos _ _ _ (by simpa using pipe), ih, List.takeWhile_append]
        subst pipe
        split
        · rename_i whole
          rw [(List.takeWhile_prefix _).eq_of_length whole, List.takeWhile_cons_of_neg (by simp),
            List.append_nil]
        · rfl
      · rw [List.rdropWhile_concat_neg _ _ _ (by simpa using pipe)]

theorem rowId_of_pipe (rest : List Char) :
    rowId ('|' :: rest) = stripChars ((rest.dropWhile (· = '|')).takeWhile (· ≠ '|')) := by
  show (((stripPipes ('|' :: rest)).splitOn '|').map stripChars).headD [] = _
  rw [List.headD_eq_head?_getD, List.head?_map, head?_splitOn]
  show stripChars (((rest.dropWhile (· = '|')).rdropWhile (· = '|')).takeWhile (· ≠ '|')) = _
  rw [takeWhile_rdropWhile]

theorem rowId_of_not_skipped {row : Row} (whole : ¬ Skipped row) : rowId row = firstCell row := by
  cases row with
  | nil => rfl
  | cons c rest =>
      by_cases pipe : c = '|'
      · subst pipe
        rw [rowId_of_pipe]
        show _ = stripChars (rest.takeWhile (· ≠ '|'))
        cases rest with
        | nil => rfl
        | cons d rest =>
            have other : d ≠ '|' := by
              rintro rfl
              exact whole rfl
            rw [List.dropWhile_cons_of_neg (by simpa using other)]
      · have unpiped : startsWith (c :: rest) ['|'] = false := by
          show (('|' == c) && _) = false
          rw [beq_false_of_ne (Ne.symm pipe), Bool.false_and]
        unfold rowId firstCell
        rw [unpiped]
        rfl

theorem firstCell_of_skipped {row : Row} (skipped : Skipped row) : firstCell row = [] := by
  obtain ⟨rest, rfl⟩ := List.isPrefixOf_iff_prefix.mp skipped
  rfl

/-! ## Gates over a census of ids -/

section Gates

variable {F : Type}

/-- The ids of the sections, version by version. -/
abbrev Census := List (SectionKey → List (List Char))

def StandsAt (census : Census) (key : SectionKey) (wanted : List Char) (i : Nat) : Prop :=
  ∃ ids, census[i]? = some ids ∧ wanted ∈ ids key

/-- The first version in which an id stands. -/
structure FirstAt (census : Census) (key : SectionKey) (wanted : List Char) (i : Nat) : Prop where
  stands : StandsAt census key wanted i
  first : ∀ j < i, ¬ StandsAt census key wanted j

theorem firstStepIndex_eq_some {census : Census} {key : SectionKey} {wanted : List Char} {i : Nat} :
    firstStepIndex census key wanted = some i ↔ FirstAt census key wanted i := by
  unfold firstStepIndex
  rw [List.findIdx?_eq_some_iff_getElem]
  constructor
  · rintro ⟨bound, stands, before⟩
    refine ⟨⟨census[i], List.getElem?_eq_getElem bound, of_decide_eq_true stands⟩, ?_⟩
    rintro j earlier ⟨ids, held, stands⟩
    obtain ⟨bound, rfl⟩ := List.getElem?_eq_some_iff.mp held
    exact before j earlier (decide_eq_true stands)
  · rintro ⟨⟨ids, held, stands⟩, first⟩
    obtain ⟨bound, rfl⟩ := List.getElem?_eq_some_iff.mp held
    refine ⟨bound, decide_eq_true stands, fun j earlier stands => ?_⟩
    exact first j earlier
      ⟨census[j], List.getElem?_eq_getElem (by omega), of_decide_eq_true stands⟩

theorem StandsAt.exists_first {census : Census} {key : SectionKey} {wanted : List Char} {i : Nat}
    (stands : StandsAt census key wanted i) : ∃ j ≤ i, FirstAt census key wanted j := by
  classical
  exact ⟨Nat.find ⟨i, stands⟩, Nat.find_min' _ stands, Nat.find_spec ⟨i, stands⟩,
    fun j before => Nat.find_min _ before⟩

theorem not_firstAt_of_none {census : Census} {key : SectionKey} {wanted : List Char}
    (absent : firstStepIndex census key wanted = none) (i : Nat) : ¬ FirstAt census key wanted i := by
  intro first
  rw [firstStepIndex_eq_some.mpr first] at absent
  cases absent

theorem FirstAt.unique {census : Census} {key : SectionKey} {wanted : List Char} {i j : Nat}
    (left : FirstAt census key wanted i) (right : FirstAt census key wanted j) : i = j := by
  rcases Nat.lt_trichotomy i j with before | same | after
  · exact absurd left.stands (right.first i before)
  · exact same
  · exact absurd right.stands (left.first j after)

/-- **The gates of a plan** over a census. -/
structure GatesHold (gates : List (String × Json F)) (census : Census) : Prop where
  forbidden : ∀ ids ∈ census, ∀ id ∈ gateIds gates "forbidden_snapshot_ids",
    id ∉ ids .stateSnapshots
  stage3 : ∀ i, FirstAt census .stateSnapshots (gateId gates "stage3_snapshot_id") i →
    ∃ before, i = before + 1 ∧
      ∀ owner ∈ gateIds gates "stage2_owner_ids", StandsAt census .decisionLog owner before
  completion : ∀ i, FirstAt census .decisionLog (gateId gates "spec_owner_completion_id") i →
    ∃ j < i, FirstAt census .decisionLog (gateId gates "spec_acceptance_id") j

variable {census : Census} {gates : List (String × Json F)}

theorem checkForbidden_eq_ok :
    checkForbidden census gates = .ok () ↔
      ∀ ids ∈ census, ∀ id ∈ gateIds gates "forbidden_snapshot_ids", id ∉ ids .stateSnapshots := by
  unfold checkForbidden
  simp only [forM_eq_ok, refuse_eq_ok]
  constructor
  · intro each ids member id named stands
    exact each ids member ⟨id, named, stands⟩
  · rintro each ids member ⟨id, named, stands⟩
    exact each ids member id named stands

theorem mem_at_iff_standsAt {key : SectionKey} {wanted : List Char} {i : Nat} :
    wanted ∈ (census[i]?.map fun ids => ids key).getD [] ↔ StandsAt census key wanted i := by
  unfold StandsAt
  cases census[i]? with
  | none => exact ⟨nofun, nofun⟩
  | some ids => exact ⟨fun stands => ⟨ids, rfl, stands⟩, fun ⟨_, same, stands⟩ => Option.some.inj same ▸ stands⟩

theorem checkStage3_eq_ok :
    checkStage3 census gates = .ok () ↔
      ∀ i, FirstAt census .stateSnapshots (gateId gates "stage3_snapshot_id") i →
        ∃ before, i = before + 1 ∧
          ∀ owner ∈ gateIds gates "stage2_owner_ids", StandsAt census .decisionLog owner before := by
  unfold checkStage3
  dsimp only
  split
  · rename_i absent
    exact ⟨fun _ i first => absurd first (not_firstAt_of_none absent i), fun _ => rfl⟩
  · rename_i found
    constructor
    · exact nofun
    · intro gate
      obtain ⟨before, same, -⟩ := gate 0 (firstStepIndex_eq_some.mp found)
      omega
  · rename_i before found
    have first := firstStepIndex_eq_some.mp found
    simp only [require_eq_ok, mem_at_iff_standsAt]
    constructor
    · intro owners i other
      exact ⟨before, other.unique first, owners⟩
    · intro gate
      obtain ⟨other, same, owners⟩ := gate (before + 1) first
      obtain rfl : before = other := by omega
      exact owners

theorem checkCompletion_eq_ok :
    checkCompletion census gates = .ok () ↔
      ∀ i, FirstAt census .decisionLog (gateId gates "spec_owner_completion_id") i →
        ∃ j < i, FirstAt census .decisionLog (gateId gates "spec_acceptance_id") j := by
  unfold checkCompletion
  dsimp only
  split
  · rename_i absent
    exact ⟨fun _ i first => absurd first (not_firstAt_of_none absent i), fun _ => rfl⟩
  · rename_i completed found
    have first := firstStepIndex_eq_some.mp found
    rw [require_eq_ok, Option.any_eq_true]
    simp only [decide_eq_true_iff]
    constructor
    · rintro ⟨accepted, isFirst, before⟩ i other
      exact ⟨accepted, other.unique first ▸ before, firstStepIndex_eq_some.mp isFirst⟩
    · intro gate
      obtain ⟨accepted, before, isFirst⟩ := gate completed first
      exact ⟨accepted, firstStepIndex_eq_some.mpr isFirst, before⟩

theorem checkGates_eq_ok : checkGates census gates = .ok () ↔ GatesHold gates census := by
  unfold checkGates
  simp only [bind_eq_ok]
  constructor
  · rintro ⟨_, forbidden, _, stage3, completion⟩
    exact ⟨checkForbidden_eq_ok.mp forbidden, checkStage3_eq_ok.mp stage3,
      checkCompletion_eq_ok.mp completion⟩
  · rintro ⟨forbidden, stage3, completion⟩
    exact ⟨⟨⟩, checkForbidden_eq_ok.mpr forbidden, ⟨⟩, checkStage3_eq_ok.mpr stage3,
      checkCompletion_eq_ok.mpr completion⟩

end Gates

/-! ## What a PASS says -/

section Results

variable {F : Type}

/-- The ids that the gates are about. -/
def firstCells (versions : List (SectionKey → List Row)) : Census :=
  versions.map fun rows key => (rows key).map firstCell

/-- The ids that the gates read. -/
def readIds (versions : List (SectionKey → List Row)) : Census := versions.map sectionIds

variable {versions : List (SectionKey → List Row)} {key : SectionKey} {wanted : List Char} {i : Nat}

theorem standsAt_map {id : Row → List Char} :
    StandsAt (versions.map fun rows key => (rows key).map id) key wanted i ↔
      ∃ rows, versions[i]? = some rows ∧ ∃ row ∈ rows key, id row = wanted := by
  unfold StandsAt
  rw [List.getElem?_map]
  cases versions[i]? with
  | none => simp
  | some rows => simp

theorem standsAt_firstCells : StandsAt (firstCells versions) key wanted i ↔
    ∃ rows, versions[i]? = some rows ∧ ∃ row ∈ rows key, firstCell row = wanted :=
  standsAt_map

theorem standsAt_readIds : StandsAt (readIds versions) key wanted i ↔
    ∃ rows, versions[i]? = some rows ∧ ∃ row ∈ rows key, rowId row = wanted :=
  standsAt_map

/-- The id stands in the section, but only in rows whose first cell was skipped. -/
structure OnlySkipped (rows : List Row) (id : List Char) : Prop where
  stands : ∃ row ∈ rows, rowId row = id
  skipped : ∀ row ∈ rows, rowId row = id → Skipped row

/-- An id in a first cell is read. -/
theorem readIds_of_firstCells (nonempty : wanted ≠ [])
    (stands : StandsAt (firstCells versions) key wanted i) :
    StandsAt (readIds versions) key wanted i := by
  obtain ⟨rows, held, row, member, same⟩ := standsAt_firstCells.mp stands
  refine standsAt_readIds.mpr ⟨rows, held, row, member, ?_⟩
  rw [rowId_of_not_skipped, same]
  intro skipped
  exact nonempty (same.symm.trans (firstCell_of_skipped skipped))

/-- An id that is read stands in a first cell, exactly unless only skipping rows hold it. -/
theorem firstCells_iff_of_readIds (nonempty : wanted ≠ []) {rows : SectionKey → List Row}
    (held : versions[i]? = some rows) (read : StandsAt (readIds versions) key wanted i) :
    StandsAt (firstCells versions) key wanted i ↔ ¬ OnlySkipped (rows key) wanted := by
  obtain ⟨found, isFound, stands⟩ := standsAt_readIds.mp read
  obtain rfl := Option.some.inj (held.symm.trans isFound)
  constructor
  · intro first only
    obtain ⟨found, isFound, row, member, same⟩ := standsAt_firstCells.mp first
    obtain rfl := Option.some.inj (held.symm.trans isFound)
    by_cases skipped : Skipped row
    · exact nonempty (same.symm.trans (firstCell_of_skipped skipped))
    · exact skipped (only.skipped row member ((rowId_of_not_skipped skipped).trans same))
  · intro other
    have whole : ∃ row ∈ rows key, rowId row = wanted ∧ ¬ Skipped row := by
      by_contra none
      refine other ⟨stands, fun row member same => ?_⟩
      by_contra whole
      exact none ⟨row, member, same, whole⟩
    obtain ⟨row, member, same, whole⟩ := whole
    exact standsAt_firstCells.mpr
      ⟨rows, held, row, member, (rowId_of_not_skipped whole).symm.trans same⟩

theorem StandsAt.later {id : Row → List Char} {added : List (SectionKey × Row)}
    (preserved : Preserved versions added) {j : Nat} (least : i ≤ j) (bound : j < versions.length)
    (stands : StandsAt (versions.map fun rows key => (rows key).map id) key wanted i) :
    StandsAt (versions.map fun rows key => (rows key).map id) key wanted j := by
  obtain ⟨rows, held, row, member, same⟩ := standsAt_map.mp stands
  have later := List.getElem?_eq_getElem bound
  exact standsAt_map.mpr ⟨_, later, row,
    (preserved.extends_ i j _ _ least held later key).mem member, same⟩

theorem StandsAt.lt_length {census : Census} (stands : StandsAt census key wanted i) :
    i < census.length := by
  obtain ⟨ids, held, -⟩ := stands
  exact (List.getElem?_eq_some_iff.mp held).1

/-- **Where the gates read first cells**: in the version before the first Stage 3 snapshot no Stage 2
owner, and in the version before the first owner completion no spec acceptance, stands only in rows
whose first cell is skipped. -/
structure ReadInFirstCells (gates : List (String × Json F)) (versions : List (SectionKey → List Row)) :
    Prop where
  owners : ∀ i, FirstAt (firstCells versions) .stateSnapshots (gateId gates "stage3_snapshot_id")
      (i + 1) → ∀ rows, versions[i]? = some rows →
    ∀ owner ∈ gateIds gates "stage2_owner_ids", ¬ OnlySkipped (rows .decisionLog) owner
  acceptance : ∀ i, FirstAt (firstCells versions) .decisionLog
      (gateId gates "spec_owner_completion_id") (i + 1) → ∀ rows, versions[i]? = some rows →
    ¬ OnlySkipped (rows .decisionLog) (gateId gates "spec_acceptance_id")

theorem getElem?_before {census : Census} (stands : StandsAt census key wanted (i + 1))
    (same : census.length = versions.length) : ∃ rows, versions[i]? = some rows :=
  ⟨_, List.getElem?_eq_getElem (by have bound := stands.lt_length; omega)⟩

theorem length_firstCells : (firstCells versions).length = versions.length := List.length_map _

theorem mem_firstCells {ids : SectionKey → List (List Char)} (member : ids ∈ firstCells versions)
    (stands : wanted ∈ ids key) : ∃ i, StandsAt (firstCells versions) key wanted i := by
  obtain ⟨i, held⟩ := List.mem_iff_getElem?.mp member
  exact ⟨i, ids, held, stands⟩

/-- **The gates hold of the first cells exactly where first cells are read**, of versions whose rows are
preserved and whose read ids pass the gates. -/
theorem gatesHold_firstCells_iff {gates : List (String × Json F)} {added : List (SectionKey × Row)}
    (preserved : Preserved versions added) (read : GatesHold gates (readIds versions))
    (named : ∀ key ∈ ["spec_acceptance_id", "spec_owner_completion_id", "stage3_snapshot_id"],
      gateId gates key ≠ [])
    (listed : ∀ key, ∀ id ∈ gateIds gates key, id ≠ []) :
    GatesHold gates (firstCells versions) ↔ ReadInFirstCells gates versions := by
  have acceptanceNamed := named "spec_acceptance_id" (by decide)
  have completionNamed := named "spec_owner_completion_id" (by decide)
  have stage3Named := named "stage3_snapshot_id" (by decide)
  constructor
  · intro gate
    constructor
    · intro i first rows held owner isOwner
      obtain ⟨before, same, owners⟩ := gate.stage3 (i + 1) first
      obtain rfl : i = before := by omega
      have stands := owners owner isOwner
      have nonempty := listed _ owner isOwner
      exact (firstCells_iff_of_readIds nonempty held (readIds_of_firstCells nonempty stands)).mp stands
    · intro i first rows held
      obtain ⟨accepted, before, isFirst⟩ := gate.completion (i + 1) first
      have bound := first.stands.lt_length
      rw [length_firstCells] at bound
      have stands := isFirst.stands.later preserved (Nat.le_of_lt_succ before) (by omega)
      exact (firstCells_iff_of_readIds acceptanceNamed held
        (readIds_of_firstCells acceptanceNamed stands)).mp stands
  · intro condition
    refine ⟨?_, ?_, ?_⟩
    · intro ids member id isForbidden stands
      obtain ⟨i, stands⟩ := mem_firstCells member stands
      obtain ⟨found, held, stands⟩ := readIds_of_firstCells (listed _ id isForbidden) stands
      exact read.forbidden found (List.mem_of_getElem? held) id isForbidden stands
    · intro t first
      obtain ⟨c, earlier, readFirst⟩ :=
        (readIds_of_firstCells stage3Named first.stands).exists_first
      obtain ⟨before, rfl, owners⟩ := read.stage3 c readFirst
      obtain ⟨i, rfl⟩ : ∃ i, t = i + 1 := ⟨t - 1, by omega⟩
      refine ⟨i, rfl, fun owner isOwner => ?_⟩
      obtain ⟨rows, held⟩ := getElem?_before first.stands length_firstCells
      have bound := (List.getElem?_eq_some_iff.mp held).1
      have stands := (owners owner isOwner).later preserved (Nat.le_of_succ_le_succ earlier) bound
      exact (firstCells_iff_of_readIds (listed _ owner isOwner) held stands).mpr
        (condition.owners i first rows held owner isOwner)
    · intro t first
      obtain ⟨c, earlier, readFirst⟩ :=
        (readIds_of_firstCells completionNamed first.stands).exists_first
      obtain ⟨accepted, before, isFirst⟩ := read.completion c readFirst
      obtain ⟨i, rfl⟩ : ∃ i, t = i + 1 := ⟨t - 1, by omega⟩
      obtain ⟨rows, held⟩ := getElem?_before first.stands length_firstCells
      have bound := (List.getElem?_eq_some_iff.mp held).1
      have stands := isFirst.stands.later preserved (show accepted ≤ i by omega) bound
      have stands := (firstCells_iff_of_readIds acceptanceNamed held stands).mpr
        (condition.acceptance i first rows held)
      obtain ⟨j, le, first⟩ := stands.exists_first
      exact ⟨j, by omega, first⟩

/-- The recorded versions, by the rows of their contents. -/
def Recorded (evidence : List (String × Json F)) (versions : List (SectionKey → List Row)) : Prop :=
  ∃ entries, valueAt evidence "versions" = .array entries ∧
    List.Forall₂ (fun entry rows => ∃ fields content, entry = .object fields ∧
      valueAt fields "content" = .str content ∧
      extractImmutableRows (F := F) content.toList = .ok rows) entries versions

theorem recorded_of_parseVersion {trust : Trust} {entry : Json F} {version : ParsedVersion}
    (parsed : parseVersion trust entry = .ok version) :
    ∃ fields content, entry = .object fields ∧ valueAt fields "content" = .str content ∧
      extractImmutableRows (F := F) content.toList = .ok version.rows := by
  unfold parseVersion at parsed
  split at parsed
  · rename_i fields
    simp only [requireStr, bind_eq_ok, fetch_eq_ok, pure_eq_ok, nonemptyText?_eq_some] at parsed
    obtain ⟨_, -, content, ⟨isContent, -⟩, rows, extracted, rfl⟩ := parsed
    exact ⟨fields, content, rfl, isContent, extracted⟩
  · cases parsed

/-- What a body that returned has checked. -/
theorem checked_of_body {trust : Trust} {plan : TrustedGradingPlan F}
    {evidence reproduction : List (String × Json F)}
    (done : gradeVersionSequenceBody trust plan evidence = .ok reproduction) :
    ∃ gates versions added, plan.semanticGates = some gates ∧ Recorded evidence versions ∧
      valueAt reproduction "added_rows" = .array (added.map fun added => .str (addedText added)) ∧
      Preserved versions added ∧ GatesHold gates (readIds versions) := by
  unfold gradeVersionSequenceBody at done
  obtain ⟨_, -, graded⟩ := bind_eq_ok.mp done
  split at graded
  · rename_i entry later recorded
    simp only [bind_eq_ok, fetch_eq_ok, pure_eq_ok, mapM_eq_ok_iff] at graded
    obtain ⟨gates, named, first, isFirst, rest, each, added, compared, _, gate, _, -, rfl⟩ := graded
    refine ⟨gates, (first :: rest).map ParsedVersion.rows, added, named, ⟨_, recorded, ?_⟩, rfl,
      preserved_of_checkVersions compared, ?_⟩
    · refine List.forall₂_map_right_iff.mpr (.cons (recorded_of_parseVersion isFirst) ?_)
      exact each.imp fun entry version parsed => recorded_of_parseVersion parsed
    · have gate := checkGates_eq_ok.mp gate
      rw [readIds, List.map_map]
      exact gate
  · cases graded

theorem gateIds_ne_nil {gates : List (String × Json F)} (key : String) :
    ∀ id ∈ gateIds gates key, id ≠ [] := by
  intro id member
  obtain ⟨text, listed, rfl⟩ := List.mem_map.mp member
  have nonempty : text ≠ "" := by
    cases read : textList? (valueAt gates key) with
    | none =>
        rw [read] at listed
        cases listed
    | some texts =>
        rw [read] at listed
        exact ne_empty_of_mem_textList? read text listed
  exact fun empty => nonempty (String.toList_eq_nil_iff.mp empty)

variable [JsonFloat F] {trust : Trust} {plan : TrustedGradingPlan F}
  {evidence : List (String × Json F)}

theorem gateId_ne_nil (valid : plan.Valid trust) {gates : List (String × Json F)}
    (named : plan.semanticGates = some gates) {key : String}
    (single : key ∈ ["spec_acceptance_id", "spec_owner_completion_id", "stage3_snapshot_id"]) :
    gateId gates key ≠ [] := by
  obtain ⟨text, found⟩ := valid.exists_gateText named single
  unfold gateId
  rw [found]
  exact fun empty => (nonemptyText?_eq_some.mp found).2 (String.toList_eq_nil_iff.mp empty)

/-- **What a PASS says**: rows are preserved and every added row is reported, and the gates hold of the
first cells exactly where first cells are read. -/
theorem gradeVersionSequence_sound_iff {result : GraderResult F}
    (graded : gradeVersionSequence trust plan evidence = .ok result)
    (pass : result.resultState = .pass) :
    ∃ gates versions added, plan.semanticGates = some gates ∧ Recorded evidence versions ∧
      valueAt result.reproduction "added_rows" =
        .array (added.map fun added => .str (addedText added)) ∧
      Preserved versions added ∧
      (GatesHold gates (firstCells versions) ↔ ReadInFirstCells gates versions) := by
  obtain ⟨gradable, done⟩ := body_of_pass graded pass
  obtain ⟨gates, versions, added, named, recorded, reported, preserved, read⟩ := checked_of_body done
  have valid := TrustedGradingPlan.valid_of_validate gradable.validated
  refine ⟨gates, versions, added, named, recorded, reported, preserved, ?_⟩
  exact gatesHold_firstCells_iff preserved read (fun _ => gateId_ne_nil valid named)
    gateIds_ne_nil

end Results

/-! ## A sample -/

section Sample

open Aegis.Budget (ZeroFloat)

def sampleGates : List (String × Json ZeroFloat) :=
  [("spec_acceptance_id", .str "D1"), ("spec_owner_completion_id", .str "D2"),
    ("stage2_owner_ids", .array [.str "D0"]), ("stage3_snapshot_id", .str "S3"),
    ("forbidden_snapshot_ids", .array [])]

def sampleVersionPlan : TrustedGradingPlan ZeroFloat :=
  { samplePlan "SCENARIO_A_CONTROL_O"
      ["oracle.append_only.version_sequence", "oracle.state_machine.transitions"] with
    semanticGates := some sampleGates }

def sampleDocument (snapshots decisions : String) : String :=
  "## State snapshots\n| ID |\n|---|\n" ++ snapshots ++ "## Decision log\n| ID |\n|---|\n" ++ decisions

/-- The owner's row stands in both versions, the snapshot in the second. -/
def sampleVersions (owner : String) : List (String × Json ZeroFloat) :=
  [("versions", .array
      [.dict [("version_id", .str "v0"), ("content", .str (sampleDocument "| S2 |\n" owner))],
        .dict [("version_id", .str "v1"), ("content", .str (sampleDocument "| S2 |\n| S3 |\n" owner))]]),
    ("evidence_pointer", .str "log")]

theorem sampleVersions_pass (owner : String) (member : owner ∈ ["| D0 |", "|| D0 |"]) :
    ∃ result, gradeVersionSequence sampleTrust sampleVersionPlan (sampleVersions owner) = .ok result ∧
      result.resultState = .pass := by
  refine (runGrader_pass_iff sampleTrust_hex (by decide)).mpr ?_
  simp only [List.mem_cons, List.not_mem_nil, or_false] at member
  rcases member with rfl | rfl
  · exact ⟨⟨rfl, by decide, rfl, rfl, rfl⟩, _, rfl⟩
  · exact ⟨⟨rfl, by decide, rfl, rfl, rfl⟩, _, rfl⟩

def rowsOf (document : String) : SectionKey → List Row :=
  match extractImmutableRows (F := ZeroFloat) document.toList with
  | .ok rows => rows
  | .error _ => fun _ => []

def sampleRows (owner : String) : List (SectionKey → List Row) :=
  [rowsOf (sampleDocument "| S2 |\n" owner), rowsOf (sampleDocument "| S2 |\n| S3 |\n" owner)]

theorem sampleVersions_sound :
    ∃ result, gradeVersionSequence sampleTrust sampleVersionPlan (sampleVersions "| D0 |") =
        .ok result ∧ result.resultState = .pass ∧
      ∃ gates versions added, sampleVersionPlan.semanticGates = some gates ∧
        Recorded (sampleVersions "| D0 |") versions ∧
        valueAt result.reproduction "added_rows" =
          .array (added.map fun added => .str (addedText added)) ∧
        Preserved versions added ∧
        (GatesHold gates (firstCells versions) ↔ ReadInFirstCells gates versions) := by
  obtain ⟨result, graded, pass⟩ := sampleVersions_pass "| D0 |" (by decide)
  exact ⟨result, graded, pass, gradeVersionSequence_sound_iff graded pass⟩

/-- **A skipped first cell passes a gate**: behind two pipes the owner counts as recorded. -/
theorem skipped_owner_passes :
    (∃ result, gradeVersionSequence sampleTrust sampleVersionPlan (sampleVersions "|| D0 |") =
      .ok result ∧ result.resultState = .pass) ∧
    sampleVersionPlan.semanticGates = some sampleGates ∧
    Recorded (sampleVersions "|| D0 |") (sampleRows "|| D0 |") ∧
    ¬ GatesHold sampleGates (firstCells (sampleRows "|| D0 |")) := by
  refine ⟨sampleVersions_pass "|| D0 |" (by decide), rfl, ⟨_, rfl, ?_⟩, fun gate => ?_⟩
  · exact .cons ⟨_, _, rfl, rfl, rfl⟩ (.cons ⟨_, _, rfl, rfl, rfl⟩ .nil)
  · have first : FirstAt (firstCells (sampleRows "|| D0 |")) .stateSnapshots
        (gateId sampleGates "stage3_snapshot_id") 1 := by
      refine ⟨⟨_, rfl, by decide⟩, fun j before stands => ?_⟩
      obtain rfl : j = 0 := by omega
      obtain ⟨rows, held, stands⟩ := standsAt_firstCells.mp stands
      obtain rfl := Option.some.inj held
      exact absurd stands (by decide)
    obtain ⟨before, same, owners⟩ := gate.stage3 1 first
    obtain rfl : before = 0 := by omega
    obtain ⟨rows, held, stands⟩ := standsAt_firstCells.mp (owners "D0".toList (by decide))
    obtain rfl := Option.some.inj held
    exact absurd stands (by decide)

end Sample

end Aegis.Graders
