/-
# CiDurations.ExitCodes — the exit codes that artifact records give a job

`_apply_artifact_exit_codes` reads the records of every artifact directory and writes the cells of the
row of the job that the directory is mapped to. Within one directory no record is lost
(`Tally.accounts`), but the cells are written anew by every directory of a job: the last one replaces
the pairs, and the last one with bound records replaces the single code
(`row_of_apply`). So a job keeps all its records exactly when what its earlier directories hold does not
matter (`exit_codes_keep_iff`).
-/
import Aegis.Budget.Conservation
import Aegis.CiDurations.Verdict
import Aegis.Evidence.Verifier
import Aegis.Lib.PythonJson
import Aegis.Lib.PythonText
import Mathlib.Data.List.ReduceOption

namespace Aegis.CiDurations

open Aegis.Lib
open Aegis.Lib.Guarded
open Aegis.Evidence (truthy)

set_option autoImplicit false

/-! ## Records -/

/-- The text of a record file: not readable as JSON, not UTF-8, or a value. -/
inductive Content (F : Type) where
  | unreadable
  | undecodable
  | value (read : Json F)

structure RecordFile (F : Type) where
  name : String
  content : Content F

/-- An artifact directory with its `*.json` files. -/
structure ArtifactDirectory (F : Type) where
  name : String
  files : List (RecordFile F)

/-- `UnicodeDecodeError` for a record that is not UTF-8, `TypeError` for a label that is no text. -/
inductive RecordFault where
  | undecodable
  | label
  deriving DecidableEq, Repr

section Records

variable {F : Type}

/-- `ARTIFACT_JOB_MAP`. -/
def artifactJob (stem : String) : Option String :=
  if stem = "offline-checks-linux" then some "validate-skills"
  else if stem = "offline-checks-windows" then some "windows-offline-checks"
  else if stem = "tools-tests-linux" then some "tools-tests-linux"
  else if stem = "tools-tests-windows" then some "tools-tests-windows"
  else none

/-- `text.rsplit("-", 1)`, the part behind the last dash first. -/
def cutLast (text : List Char) : Option (List Char × List Char) :=
  let last := (text.reverse.takeWhile (· ≠ '-')).reverse
  if last.length = text.length then none
  else some (last, text.take (text.length - last.length - 1))

/-- `_segments`. -/
def segments (name : String) : String :=
  match cutLast name.toList with
  | none => ""
  | some (last, front) =>
      match cutLast front with
      | none => ""
      | some (middle, stem) =>
          if isDigits middle = true ∧ isDigits last = true then String.ofList stem else ""

/-- The job that a directory is mapped to. -/
def ArtifactDirectory.job (directory : ArtifactDirectory F) : Option String :=
  artifactJob (segments directory.name)

/-- `run_event_field`. -/
def runEventField (event : String) : String :=
  if event = "pull_request" then "pr_head_sha" else "checkout_sha"

-- `str` of a JSON value, the head of the run and its event.
variable (shown : Json F → String) (runHead : Option String) (event : String)

/-- `_records_bind`: whether the recorded head is the head of the run. -/
def recordsBind (record : List (String × Json F)) : Bool :=
  match (Dict.get? record (runEventField event)).bind Json.text? with
  | some recorded => runHead = some recorded
  | none => false

/-- `_recorded`. -/
def recorded (record : List (String × Json F)) (key : String) : String :=
  ((Dict.get? record key).bind Json.text?).getD notRecorded

/-- The exit code of a record, where it is an integer. -/
def exitCode? (record : List (String × Json F)) : Option Int :=
  match Dict.get? record "exit_code" with
  | some (.int code) => some code
  | _ => none

variable [JsonFloat F]

/-- `record.get("label") or record_path.name`. -/
def labelOf (file : String) (record : List (String × Json F)) : Json F :=
  match (Dict.get? record "label").filter truthy with
  | some label => label
  | none => .str file

/-! ## One directory -/

/-- The lists that the records of a directory are sorted into. -/
structure Tally (F : Type) where
  codes : List (Json F × Int) := []
  bounded : List (Json F) := []
  notes : List String := []
  mismatches : List String := []
  unreadable : List String := []

/-- A record that is an object. -/
def Tally.takeRecord (tally : Tally F) (directory file : String) (record : List (String × Json F)) :
    Tally F :=
  let location := s!"{directory}/{file}"
  let head := runHead.getD "None"
  if recordsBind runHead event record = false then
    { tally with
      mismatches := tally.mismatches ++
        [s!"{location}: head mismatch (bound field {runEventField event}, " ++
          s!"record={recorded record (runEventField event)} run={head})"] }
  else
    match exitCode? record with
    | none =>
        { tally with
          bounded := tally.bounded ++ [labelOf file record]
          notes := tally.notes ++ [s!"{location}: record-gap: exit_code"] }
    | some code =>
        let checkout := recorded record "checkout_sha"
        let pullRequest := recorded record "pr_head_sha"
        let elapsed := shown ((Dict.get? record "elapsed_seconds").getD .null)
        { tally with
          bounded := tally.bounded ++ [labelOf file record]
          codes := tally.codes ++ [(labelOf file record, code)]
          notes := tally.notes ++
            [s!"{location} (bound_by={runEventField event}, checkout_sha={checkout}, " ++
              s!"pr_head_sha={pullRequest}, elapsed_seconds={elapsed})"] }

/-- A record file. -/
def Tally.take (tally : Tally F) (directory : String) (file : RecordFile F) :
    Except RecordFault (Tally F) :=
  match file.content with
  | .undecodable => .error .undecodable
  | .unreadable =>
      .ok { tally with unreadable := tally.unreadable ++ [s!"{file.name}: record-unreadable"] }
  | .value (.object record) => .ok (tally.takeRecord shown runHead event directory file.name record)
  | .value _ =>
      .ok { tally with unreadable := tally.unreadable ++ [s!"{file.name}: record-malformed"] }

/-- The files of a directory, in the order of their paths. -/
def ArtifactDirectory.sortedFiles (directory : ArtifactDirectory F) : List (RecordFile F) :=
  sortBy RecordFile.name directory.files

def ArtifactDirectory.tally (directory : ArtifactDirectory F) : Except RecordFault (Tally F) :=
  directory.sortedFiles.foldlM (fun tally file => tally.take shown runHead event directory.name file) {}

/-! ## Rows -/

inductive ExitCode where
  | notRecorded
  | notApplicable
  | code (value : Int)
  deriving DecidableEq, Repr

/-- The exit-code cells of the row of a job. -/
structure ExitRow (F : Type) where
  job : String
  exitCode : ExitCode := .notRecorded
  exitCodeProvenance : String := notSelected
  exitCodes : Option (List (Json F × Int)) := none
  exitCodesProvenance : String := notSelected

/-- What is noted of a directory. -/
structure ArtifactEntry (F : Type) where
  directory : String
  job : Option String := none
  reason : String := "not_mapped"
  records : Nat := 0
  label : Option String := none
  exitCodes : List (Json F × Int) := []

/-- The cells of a row after a directory of its job. -/
def ExitRow.settle (row : ExitRow F) (tally : Tally F) : ExitRow F :=
  let provenance := if tally.notes = [] then notSelected else " | ".intercalate tally.notes
  { row with
    exitCodes := some tally.codes
    exitCodesProvenance := provenance
    exitCodeProvenance :=
      if tally.mismatches ≠ [] then " | ".intercalate tally.mismatches
      else if tally.notes ≠ [] then provenance
      else row.exitCodeProvenance
    exitCode :=
      match tally.codes.head?.filter fun _ => (tally.codes.map Prod.snd).dedup.length = 1 ∧
        tally.codes.length = tally.bounded.length with
      | some (_, code) => .code code
      | none => if tally.bounded ≠ [] then .notApplicable else row.exitCode }

/-- `", ".join(label for label, _ in codes) or None`. -/
def joinLabels (codes : List (Json F × Int)) : Except RecordFault (Option String) := do
  let labels ← codes.mapM fun pair => fetch pair.1.text? RecordFault.label
  pure ((some (", ".intercalate labels)).filter (· ≠ ""))

/-- What is noted of a directory of a job. -/
def entryOf (directory : ArtifactDirectory F) (job : String) (tally : Tally F) :
    Except RecordFault (ArtifactEntry F) := do
  let label ← joinLabels tally.codes
  pure {
    directory := directory.name
    job := some job
    reason :=
      if tally.codes ≠ [] then "mapped"
      else if tally.mismatches ≠ [] then "artifact head mismatch"
      else if tally.unreadable ≠ [] then "record-unreadable"
      else "record-gap: exit_code"
    records := tally.bounded.length + tally.mismatches.length + tally.unreadable.length
    label := label
    exitCodes := tally.codes }

/-- One turn of the loop over the directories. -/
def applyDirectory (state : List (ExitRow F) × List (ArtifactEntry F))
    (directory : ArtifactDirectory F) :
    Except RecordFault (List (ExitRow F) × List (ArtifactEntry F)) :=
  match directory.job with
  | none => .ok (state.1, state.2 ++ [{ directory := directory.name }])
  | some job => do
      let tally ← directory.tally shown runHead event
      let entry ← entryOf directory job tally
      pure (state.1.map fun row => if row.job = job then row.settle tally else row,
        state.2 ++ [entry])

/-- The rows that `_derive_job_rows` hands over. -/
def freshRows (F : Type) : List (ExitRow F) := jobRoster.map fun name => { job := name }

/-- `_apply_artifact_exit_codes` on the fresh rows. -/
def applyArtifactExitCodes (directories : List (ArtifactDirectory F)) :
    Except RecordFault (List (ExitRow F) × List (ArtifactEntry F)) :=
  directories.foldlM (applyDirectory shown runHead event) (freshRows F, [])

end Records

/-! ## What a directory holds -/

section Held

variable {F : Type} [JsonFloat F] (shown : Json F → String) (runHead : Option String) (event : String)

/-- A readable record that is bound to the head of the run. -/
def RecordFile.bound? (file : RecordFile F) : Option (List (String × Json F)) :=
  match file.content with
  | .value (.object record) => if recordsBind runHead event record = true then some record else none
  | _ => none

/-- The pair that a bound record with an integer exit code contributes. -/
def RecordFile.pair? (file : RecordFile F) : Option (Json F × Int) :=
  (file.bound? runHead event).bind fun record =>
    (exitCode? record).map fun code => (labelOf file.name record, code)

def ArtifactDirectory.pairs (directory : ArtifactDirectory F) : List (Json F × Int) :=
  directory.files.filterMap (RecordFile.pair? runHead event)

/-- The exit codes of the bound records, where they are integers. -/
def ArtifactDirectory.boundCodes (directory : ArtifactDirectory F) : List (Option Int) :=
  directory.files.filterMap fun file => (file.bound? runHead event).map exitCode?

/-- The code that all bound records carry. -/
def agreedCode (codes : List (Option Int)) : Option Int :=
  codes.head?.join.filter fun code => ∀ other ∈ codes, other = some code

theorem agreedCode_eq_some {codes : List (Option Int)} {code : Int} :
    agreedCode codes = some code ↔ codes ≠ [] ∧ ∀ other ∈ codes, other = some code := by
  unfold agreedCode
  rw [Option.filter_eq_some_iff, decide_eq_true_eq]
  constructor
  · rintro ⟨first, all⟩
    refine ⟨?_, all⟩
    rintro rfl
    cases first
  · rintro ⟨nonempty, all⟩
    obtain ⟨first, rest, rfl⟩ := List.exists_cons_of_ne_nil nonempty
    refine ⟨?_, all⟩
    rw [List.head?_cons, all first (List.mem_cons_self ..)]
    rfl

/-- The lists of a tally over some files. -/
structure Tally.Accounts (tally : Tally F) (files : List (RecordFile F)) : Prop where
  codes : tally.codes = files.filterMap (RecordFile.pair? runHead event)
  bounded : tally.bounded.length = (files.filterMap (RecordFile.bound? runHead event)).length

variable {shown runHead event}

theorem Tally.take_eq_ok {tally after : Tally F} {directory : String} {file : RecordFile F}
    (taken : tally.take shown runHead event directory file = .ok after) :
    after.codes = tally.codes ++ (file.pair? runHead event).toList ∧
      after.bounded.length = tally.bounded.length + (file.bound? runHead event).toList.length := by
  unfold Tally.take at taken
  unfold RecordFile.pair? RecordFile.bound?
  split at taken
  · cases taken
  · rename_i content
    obtain rfl := Except.ok.inj taken
    simp [content]
  · rename_i record content
    obtain rfl := Except.ok.inj taken
    rw [content]
    unfold Tally.takeRecord
    by_cases binds : recordsBind runHead event record = true
    · cases code : exitCode? record <;> simp [binds, code]
    · simp [binds]
  · rename_i value other content
    obtain rfl := Except.ok.inj taken
    rw [content]
    cases value with
    | object record => exact absurd rfl (other record)
    | _ => simp

omit [JsonFloat F] in
theorem filterMap_one {β : Type} (f : RecordFile F → Option β) (file : RecordFile F) :
    [file].filterMap f = (f file).toList := by
  cases found : f file <;> simp [found]

theorem Tally.Accounts.take {tally after : Tally F} {files : List (RecordFile F)}
    (accounts : tally.Accounts runHead event files) {directory : String} {file : RecordFile F}
    (taken : tally.take shown runHead event directory file = .ok after) :
    after.Accounts runHead event (files ++ [file]) := by
  obtain ⟨codes, bounded⟩ := Tally.take_eq_ok taken
  constructor
  · rw [codes, accounts.codes, List.filterMap_append, filterMap_one]
  · rw [bounded, accounts.bounded, List.filterMap_append, List.length_append, filterMap_one]

/-- **No record of a directory is lost.** -/
theorem Tally.accounts {directory : ArtifactDirectory F} {tally : Tally F}
    (read : directory.tally shown runHead event = .ok tally) :
    tally.Accounts runHead event directory.sortedFiles := by
  have general : ∀ (files before : List (RecordFile F)) (start : Tally F),
      start.Accounts runHead event before →
      files.foldlM (fun tally file => tally.take shown runHead event directory.name file) start =
        .ok tally → tally.Accounts runHead event (before ++ files) := by
    intro files
    induction files with
    | nil =>
        intro before start accounts done
        obtain rfl := Except.ok.inj done
        rwa [List.append_nil]
    | cons file files ih =>
        intro before start accounts done
        rw [List.foldlM_cons, bind_eq_ok] at done
        obtain ⟨next, taken, done⟩ := done
        have later := ih (before ++ [file]) next (accounts.take taken) done
        rwa [List.append_assoc] at later
  exact general directory.sortedFiles [] {} ⟨rfl, rfl⟩ read

/-! ## What a directory does to the row of its job -/

theorem pairs_codes (directory : ArtifactDirectory F) :
    (directory.pairs runHead event).map Prod.snd =
      (directory.boundCodes runHead event).reduceOption := by
  unfold ArtifactDirectory.pairs ArtifactDirectory.boundCodes List.reduceOption
  rw [List.map_filterMap, List.filterMap_filterMap]
  refine List.filterMap_congr fun file _ => ?_
  unfold RecordFile.pair?
  cases file.bound? runHead event with
  | none => rfl
  | some record => cases code : exitCode? record <;> simp [code]

theorem Tally.pairs_perm {directory : ArtifactDirectory F} {tally : Tally F}
    (read : directory.tally shown runHead event = .ok tally) :
    tally.codes.Perm (directory.pairs runHead event) ∧
      tally.bounded.length = (directory.boundCodes runHead event).length := by
  have sorted : directory.sortedFiles.Perm directory.files := perm_sortBy _
  refine ⟨?_, ?_⟩
  · rw [(Tally.accounts read).codes]
    exact sorted.filterMap _
  · have same : directory.boundCodes runHead event =
        (directory.files.filterMap (RecordFile.bound? runHead event)).map exitCode? := by
      rw [List.map_filterMap]
      rfl
    rw [(Tally.accounts read).bounded, same, List.length_map]
    exact (sorted.filterMap _).length_eq

omit [JsonFloat F] in
/-- Codes that are all alike and as many as the bound records are the code that all of these carry. -/
theorem agreedCode_of_perm {codes : List (Json F × Int)} {bound : List (Option Int)}
    (perm : (codes.map Prod.snd).Perm bound.reduceOption) :
    (codes.head?.filter fun _ => (codes.map Prod.snd).dedup.length = 1 ∧
      codes.length = bound.length).map Prod.snd = agreedCode bound := by
  have lengths : codes.length = bound.reduceOption.length := by
    rw [← perm.length_eq, List.length_map]
  have members : ∀ code, code ∈ codes.map Prod.snd ↔ some code ∈ bound := fun code =>
    perm.mem_iff.trans List.reduceOption_mem_iff
  ext code
  rw [agreedCode_eq_some, Option.map_eq_some_iff]
  constructor
  · rintro ⟨⟨label, code⟩, kept, rfl⟩
    obtain ⟨first, alike⟩ := Option.filter_eq_some_iff.mp kept
    obtain ⟨single, whole⟩ := of_decide_eq_true alike
    obtain ⟨only, alone⟩ := List.length_eq_one_iff.mp single
    have isFirst : code ∈ codes.map Prod.snd :=
      List.mem_map.mpr ⟨_, List.mem_of_mem_head? first, rfl⟩
    have equal : ∀ other ∈ codes.map Prod.snd, other = only := fun other member => by
      have kept := List.mem_dedup.mpr member
      rwa [alone, List.mem_singleton] at kept
    have filled := List.reduceOption_length_eq_iff.mp (lengths.symm.trans whole)
    refine ⟨?_, fun other member => ?_⟩
    · rintro rfl
      exact absurd ((members code).mp isFirst) List.not_mem_nil
    · obtain ⟨value, rfl⟩ := Option.isSome_iff_exists.mp (filled other member)
      rw [equal value ((members value).mpr member), ← equal code isFirst]
  · rintro ⟨nonempty, all⟩
    have filled : bound.reduceOption.length = bound.length :=
      List.reduceOption_length_eq_iff.mpr fun other member => by rw [all other member, Option.isSome_some]
    have equal : ∀ other ∈ codes.map Prod.snd, other = code := fun other member =>
      Option.some.inj (all _ ((members other).mp member))
    have whole : codes.length = bound.length := lengths.trans filled
    cases codes with
    | nil => exact absurd (List.eq_nil_of_length_eq_zero whole.symm) nonempty
    | cons pair rest =>
        refine ⟨pair, Option.filter_eq_some_iff.mpr ⟨rfl, decide_eq_true ⟨?_, whole⟩⟩,
          equal _ (List.mem_cons_self ..)⟩
        rw [List.eq_replicate_of_mem equal, List.length_map, List.length_cons,
          List.replicate_dedup (Nat.succ_ne_zero _)]
        rfl

/-- The single code is filled in when all bound records agree on it. -/
theorem settle_exitCode {directory : ArtifactDirectory F} {tally : Tally F}
    (read : directory.tally shown runHead event = .ok tally) (row : ExitRow F) :
    (row.settle tally).exitCode =
      match agreedCode (directory.boundCodes runHead event) with
      | some code => .code code
      | none => if directory.boundCodes runHead event = [] then row.exitCode else .notApplicable := by
  obtain ⟨pairs, bounded⟩ := Tally.pairs_perm read
  have codes : (tally.codes.map Prod.snd).Perm (directory.boundCodes runHead event).reduceOption := by
    rw [← pairs_codes]
    exact pairs.map _
  have agreed := agreedCode_of_perm codes
  rw [← bounded] at agreed
  have none_left : tally.bounded = [] ↔ directory.boundCodes runHead event = [] := by
    rw [← List.length_eq_zero_iff, bounded, List.length_eq_zero_iff]
  unfold ExitRow.settle
  rw [← agreed]
  dsimp only
  split
  · rename_i label code kept
    rw [kept]
    rfl
  · rename_i kept
    rw [kept]
    simp only [Option.map_none, none_left, ne_eq, ite_not]

end Held

/-! ## The row of a job -/

section Row

variable {F : Type} [JsonFloat F] (shown : Json F → String) (runHead : Option String) (event : String)

/-- The directories that are mapped to a job. -/
def directoriesOf (job : String) (directories : List (ArtifactDirectory F)) :
    List (ArtifactDirectory F) :=
  directories.filter fun directory => directory.job = some job

/-- The single code after the directories of a job. -/
def exitCodeOf (directories : List (ArtifactDirectory F)) : ExitCode :=
  directories.foldl (fun code directory =>
    match agreedCode (directory.boundCodes runHead event) with
    | some agreed => .code agreed
    | none => if directory.boundCodes runHead event = [] then code else .notApplicable) .notRecorded

/-- The cells of a row are those of the last directory of its job. -/
structure ExitRow.Follows (row : ExitRow F) (directories : List (ArtifactDirectory F)) : Prop where
  exitCodes : ∀ codes, row.exitCodes = some codes →
    ∃ last, directories.getLast? = some last ∧ codes.Perm (last.pairs runHead event)
  none_read : row.exitCodes = none → directories = []
  exitCode : row.exitCode = exitCodeOf runHead event directories

variable {shown runHead event}

theorem ExitRow.Follows.settle {row : ExitRow F} {directories : List (ArtifactDirectory F)}
    (follows : row.Follows runHead event directories) {directory : ArtifactDirectory F}
    {tally : Tally F} (read : directory.tally shown runHead event = .ok tally) :
    (row.settle tally).Follows runHead event (directories ++ [directory]) where
  exitCodes codes same := by
    obtain rfl := Option.some.inj same
    exact ⟨directory, List.getLast?_concat, (Tally.pairs_perm read).1⟩
  none_read none_read := by cases none_read
  exitCode := by
    rw [settle_exitCode read row, follows.exitCode]
    unfold exitCodeOf
    rw [List.foldl_append]
    rfl

/-- What one turn of the loop does to the rows. -/
theorem rows_of_applyDirectory {rows after : List (ExitRow F)} {entries later : List (ArtifactEntry F)}
    {directory : ArtifactDirectory F}
    (applied : applyDirectory shown runHead event (rows, entries) directory = .ok (after, later)) :
    ∃ tally, (∀ job, directory.job = some job → directory.tally shown runHead event = .ok tally) ∧
      after = rows.map fun row => if directory.job = some row.job then row.settle tally else row := by
  unfold applyDirectory at applied
  split at applied
  · rename_i unmapped
    obtain ⟨rfl, -⟩ := Prod.mk.inj (Except.ok.inj applied)
    refine ⟨{}, fun job mapped => ?_, ?_⟩
    · rw [unmapped] at mapped
      cases mapped
    · simp [unmapped]
  · rename_i job mapped
    simp only [bind_eq_ok, pure_eq_ok, Prod.mk.injEq] at applied
    obtain ⟨tally, read, _, -, rfl, -⟩ := applied
    refine ⟨tally, fun _ _ => read, ?_⟩
    simp only [mapped, Option.some.injEq, eq_comm]

omit [JsonFloat F] in
theorem directoriesOf_concat (job : String) (directories : List (ArtifactDirectory F))
    (directory : ArtifactDirectory F) :
    directoriesOf job (directories ++ [directory]) =
      if directory.job = some job then directoriesOf job directories ++ [directory]
      else directoriesOf job directories := by
  unfold directoriesOf
  rw [List.filter_append]
  split <;> rename_i mapped <;> simp [mapped]

/-- **Every row follows the directories of its job.** -/
theorem row_of_apply {directories : List (ArtifactDirectory F)} {rows : List (ExitRow F)}
    {entries : List (ArtifactEntry F)}
    (applied : applyArtifactExitCodes shown runHead event directories = .ok (rows, entries)) :
    rows.map ExitRow.job = jobRoster ∧
      ∀ row ∈ rows, row.Follows runHead event (directoriesOf row.job directories) := by
  unfold applyArtifactExitCodes at applied
  induction directories using List.reverseRecOn generalizing rows entries with
  | nil =>
      obtain ⟨rfl, -⟩ := Prod.mk.inj (Except.ok.inj applied)
      refine ⟨rfl, List.forall_mem_map.mpr fun job _ => ⟨nofun, fun _ => rfl, rfl⟩⟩
  | append_singleton directories directory ih =>
      rw [List.foldlM_append] at applied
      simp only [bind_eq_ok, List.foldlM_cons, List.foldlM_nil, pure_eq_ok] at applied
      obtain ⟨⟨before, known⟩, reached, ⟨after, later⟩, turned, same⟩ := applied
      obtain ⟨rfl, rfl⟩ := Prod.mk.inj same
      obtain ⟨jobs, follows⟩ := ih reached
      obtain ⟨tally, read, rfl⟩ := rows_of_applyDirectory turned
      have job : ∀ row : ExitRow F,
          (if directory.job = some row.job then row.settle tally else row).job = row.job := by
        intro row
        split <;> rfl
      refine ⟨?_, List.forall_mem_map.mpr fun row member => ?_⟩
      · rw [List.map_map, ← jobs]
        exact List.map_congr_left fun row _ => job row
      · rw [job, directoriesOf_concat]
        split
        · rename_i mapped
          exact (follows row member).settle (read _ mapped)
        · exact follows row member

end Row

/-! ## When a job keeps its records -/

section Kept

variable {F : Type} [JsonFloat F] (shown : Json F → String) (runHead : Option String) (event : String)

/-- A row that holds every pair of the directories of its job, and a single code only when all their
bound records carry it. -/
structure ExitRow.Keeps (row : ExitRow F) (directories : List (ArtifactDirectory F)) : Prop where
  pairs : (row.exitCodes.getD []).Perm
    (directories.flatMap fun directory => directory.pairs runHead event)
  single : ∀ code, row.exitCode = .code code →
    ∀ directory ∈ directories, ∀ held ∈ directory.boundCodes runHead event, held = some code

/-- What the directories of a job before the last one hold does not matter: no pairs, and no bound
record at all when the bound records of the last one agree. -/
def LastDecides (directories : List (ArtifactDirectory F)) : Prop :=
  ∀ front last, directories = front ++ [last] →
    (∀ directory ∈ front, directory.pairs runHead event = []) ∧
      ((agreedCode (last.boundCodes runHead event)).isSome = true →
        ∀ directory ∈ front, directory.boundCodes runHead event = [])

variable {shown runHead event}

theorem pairs_eq_nil {directory : ArtifactDirectory F} :
    directory.pairs runHead event = [] ↔ ∀ code, some code ∉ directory.boundCodes runHead event := by
  rw [← List.map_eq_nil_iff (f := Prod.snd), pairs_codes, List.eq_nil_iff_forall_not_mem]
  exact forall_congr' fun code => not_congr List.reduceOption_mem_iff

omit [JsonFloat F] in
theorem exitCodeOf_concat (front : List (ArtifactDirectory F)) (last : ArtifactDirectory F) :
    exitCodeOf runHead event (front ++ [last]) =
      match agreedCode (last.boundCodes runHead event) with
      | some code => .code code
      | none =>
          if last.boundCodes runHead event = [] then exitCodeOf runHead event front
          else .notApplicable := by
  unfold exitCodeOf
  rw [List.foldl_append]
  rfl

/-- Directories without pairs leave no single code. -/
theorem exitCodeOf_of_empty {directories : List (ArtifactDirectory F)}
    (empty : ∀ directory ∈ directories, directory.pairs runHead event = []) (code : Int) :
    exitCodeOf runHead event directories ≠ .code code := by
  induction directories using List.reverseRecOn with
  | nil => exact nofun
  | append_singleton front last ih =>
      have unagreed : agreedCode (last.boundCodes runHead event) = none := by
        rw [Option.eq_none_iff_forall_ne_some]
        intro agreed isAgreed
        obtain ⟨nonempty, all⟩ := agreedCode_eq_some.mp isAgreed
        obtain ⟨held, member⟩ := List.exists_mem_of_ne_nil _ nonempty
        exact pairs_eq_nil.mp (empty last (List.mem_append_right _ (List.mem_singleton_self _))) agreed
          (all held member ▸ member)
      have before := ih fun directory member => empty directory (List.mem_append_left _ member)
      rw [exitCodeOf_concat, unagreed]
      dsimp only
      split
      · exact before
      · exact nofun

theorem keeps_iff {row : ExitRow F} {directories : List (ArtifactDirectory F)}
    (follows : row.Follows runHead event directories) :
    row.Keeps runHead event directories ↔ LastDecides runHead event directories := by
  induction directories using List.reverseRecOn with
  | nil =>
      refine ⟨fun _ front last same => ?_, fun _ => ⟨?_, fun _ _ _ member => ?_⟩⟩
      · exact absurd same.symm (List.append_ne_nil_of_right_ne_nil _ (List.cons_ne_nil _ _))
      · cases held : row.exitCodes with
        | none => exact .refl _
        | some codes =>
            obtain ⟨last, here, -⟩ := follows.exitCodes codes held
            cases here
      · cases member
  | append_singleton front last _ =>
      obtain ⟨codes, held⟩ : ∃ codes, row.exitCodes = some codes := by
        cases held : row.exitCodes with
        | none => exact absurd (follows.none_read held) (List.append_ne_nil_of_right_ne_nil _
            (List.cons_ne_nil _ _))
        | some codes => exact ⟨codes, rfl⟩
      obtain ⟨_, isLast, perm⟩ := follows.exitCodes codes held
      rw [List.getLast?_concat, Option.some.injEq] at isLast
      subst isLast
      have exitCode := follows.exitCode
      rw [exitCodeOf_concat] at exitCode
      have together : (front ++ [last]).flatMap (fun directory => directory.pairs runHead event) =
          (front.flatMap fun directory => directory.pairs runHead event) ++ last.pairs runHead event := by
        rw [List.flatMap_append, List.flatMap_singleton]
      constructor
      · rintro ⟨pairs, single⟩ front' last' same
        obtain ⟨rfl, isLast⟩ := List.append_inj' same rfl
        obtain rfl := List.singleton_inj.mp isLast
        rw [held, Option.getD_some, together] at pairs
        have lengths := perm.symm.length_eq.trans pairs.length_eq
        rw [List.length_append] at lengths
        have nothing : (front.flatMap fun directory => directory.pairs runHead event) = [] :=
          List.eq_nil_of_length_eq_zero (by omega)
        have empty := List.flatMap_eq_nil_iff.mp nothing
        refine ⟨empty, fun isSome directory member => ?_⟩
        obtain ⟨code, agreed⟩ := Option.isSome_iff_exists.mp isSome
        rw [agreed] at exitCode
        refine List.eq_nil_iff_forall_not_mem.mpr fun bound isBound => ?_
        obtain rfl := single code exitCode directory (List.mem_append_left _ member) bound isBound
        exact pairs_eq_nil.mp (empty directory member) code isBound
      · intro decides
        obtain ⟨empty, alone⟩ := decides front last rfl
        refine ⟨?_, fun code isCode directory member bound isBound => ?_⟩
        · rw [held, Option.getD_some, together, List.flatMap_eq_nil_iff.mpr empty]
          exact perm
        · rw [isCode] at exitCode
          cases agreed : agreedCode (last.boundCodes runHead event) with
          | none =>
              rw [agreed] at exitCode
              dsimp only at exitCode
              split at exitCode
              · exact absurd exitCode.symm (exitCodeOf_of_empty empty code)
              · cases exitCode
          | some other =>
              rw [agreed] at exitCode alone
              obtain rfl := ExitCode.code.inj exitCode
              rcases List.mem_append.mp member with before | isLast
              · rw [alone rfl directory before] at isBound
                cases isBound
              · obtain rfl := List.mem_singleton.mp isLast
                exact (agreedCode_eq_some.mp agreed).2 bound isBound

/-- **A job keeps all its records exactly when its last directory decides.** -/
theorem exit_codes_keep_iff {directories : List (ArtifactDirectory F)} {rows : List (ExitRow F)}
    {entries : List (ArtifactEntry F)}
    (applied : applyArtifactExitCodes shown runHead event directories = .ok (rows, entries)) :
    ∀ row ∈ rows, row.Keeps runHead event (directoriesOf row.job directories) ↔
      LastDecides runHead event (directoriesOf row.job directories) :=
  fun row member => keeps_iff ((row_of_apply applied).2 row member)

end Kept

/-! ## Two attempts of one job -/

section Sample

open Aegis.Budget (ZeroFloat)

/-- A directory of one attempt, with one record of the run head. -/
def sampleAttempt (attempt : String) (code : Int) : ArtifactDirectory ZeroFloat where
  name := "offline-checks-linux-7-" ++ attempt
  files := [⟨"ber.json", .value (.object [("checkout_sha", .str "4f2a"), ("exit_code", .int code),
    ("label", .str "ber")])⟩]

def sampleShown (_ : Json ZeroFloat) : String := ""

/-- The failing record of the first attempt is lost, and the job shows a single code of zero. -/
theorem second_attempt_hides_failure : ∃ rows entries row,
    applyArtifactExitCodes sampleShown (some "4f2a") "push" [sampleAttempt "1" 5, sampleAttempt "2" 0] =
        .ok (rows, entries) ∧ row ∈ rows ∧ row.job = "validate-skills" ∧ row.exitCode = .code 0 ∧
      ¬ row.Keeps (some "4f2a") "push"
        (directoriesOf row.job [sampleAttempt "1" 5, sampleAttempt "2" 0]) := by
  refine ⟨_, _, _, rfl, List.mem_cons_of_mem _ (List.mem_cons_self ..), rfl, rfl, fun keeps => ?_⟩
  have lost := keeps.single 0 rfl (sampleAttempt "1" 5) (List.mem_cons_self ..) (some 5)
    (List.mem_cons_self ..)
  cases lost

/-- One directory keeps its record. -/
theorem single_attempt_keeps : ∃ rows entries,
    applyArtifactExitCodes sampleShown (some "4f2a") "push" [sampleAttempt "1" 5] =
        .ok (rows, entries) ∧
      ∀ row ∈ rows, row.Keeps (some "4f2a") "push" (directoriesOf row.job [sampleAttempt "1" 5]) ↔
        LastDecides (some "4f2a") "push" (directoriesOf row.job [sampleAttempt "1" 5]) :=
  ⟨_, _, rfl, @exit_codes_keep_iff _ _ sampleShown _ _ _ _ _ rfl⟩

end Sample

end Aegis.CiDurations
