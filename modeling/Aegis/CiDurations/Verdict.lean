/-
# CiDurations.Verdict — the six rows of a run and its marker

The records of a run are reduced to one row per job of the roster, taken from the first record of
its name (`deriveJobRows`), and the rows to a marker by a cascade in which the first match wins
(`deriveStatus`). COMPLETE is the last case: nothing failed, the candidate is the head of the run and
no row leaves a gap (`clean_of_complete`).
-/
import Aegis.CiDurations.Reading
import Aegis.Lib.SortBy
import Aegis.Lib.TextFolding
import Aegis.Lib.Unicode
import Mathlib.Data.List.Dedup
import Mathlib.Data.String.Basic

namespace Aegis.CiDurations

open Aegis.Lib

set_option autoImplicit false

/-! ## Tables -/

def notRecorded : String := "not_recorded"

def notSelected : String := "not_selected"

def notSupplied : String := "not_supplied"

def jobRoster : List String :=
  ["changes", "validate-skills", "gate-guard", "windows-offline-checks", "tools-tests-linux",
    "tools-tests-windows"]

def nonGreenExecutedConclusions : List String :=
  ["failure", "cancelled", "timed_out", "action_required", "stale"]

def greenConclusions : List String := ["success"]

def terminalConclusions : List String :=
  ["success", "failure", "cancelled", "timed_out", "action_required", "stale", "neutral", "skipped"]

/-- `REQUIRED_JOBS_BY_EVENT`. -/
def requiredJobs (event : String) : List String :=
  if event = "pull_request" then ["gate-guard"] else []

/-- `EXPECTED_SKIPS_BY_EVENT`. -/
def expectedSkips (event : String) : List String :=
  if event = "push" then ["gate-guard"]
  else if event = "pull_request" then
    ["windows-offline-checks", "tools-tests-linux", "tools-tests-windows"]
  else []

/-! ## Durations -/

inductive Duration where
  | notRecorded
  | notApplicable
  | seconds (count : Nat)
  deriving DecidableEq, Repr

section Clock

-- The microsecond in UTC of a text with an offset that `datetime.fromisoformat` reads.
variable (fromisoformat : String → Option Int)

/-- `_iso`. -/
def iso : Option String → Option Int
  | none => none
  | some text =>
      if text = "" then none
      else if text.toList.getLast? = some 'Z' then
        fromisoformat (String.ofList (text.toList.dropLast ++ "+00:00".toList))
      else fromisoformat text

/-- `duration_seconds`. -/
def durationSeconds (startedAt completedAt : Option String) : Option Int :=
  match iso fromisoformat startedAt, iso fromisoformat completedAt with
  | some started, some completed => some ((completed - started).tdiv 1000000)
  | _, _ => none

theorem durationSeconds_isSome {startedAt completedAt : Option String} :
    (durationSeconds fromisoformat startedAt completedAt).isSome = true ↔
      (iso fromisoformat startedAt).isSome = true ∧ (iso fromisoformat completedAt).isSome = true := by
  unfold durationSeconds
  cases iso fromisoformat startedAt <;> cases iso fromisoformat completedAt <;> simp

end Clock

/-! ## Rows -/

inductive JobState where
  | missing
  | skipped
  | executed
  | unresolved
  deriving DecidableEq, Repr

structure Row where
  job : String
  state : JobState
  conclusion : String
  duration_s : Duration
  coverage : String
  skip_reason : String
  note : String
  deriving DecidableEq, Repr

/-- `_derive_skip_reason`. -/
def deriveSkipReason (jobName event : String) (changesConclusion : Option String) : String :=
  let shown := if event = "" then notRecorded else event
  let failed := changesConclusion.filter fun conclusion => conclusion ∈ nonGreenExecutedConclusions
  match failed.filter fun _ => jobName ≠ "changes" with
  | some conclusion => s!"dependency-failed (changes={conclusion})"
  | none =>
      if jobName ∉ expectedSkips event then
        s!"unexpected-skip-for-event ({jobName} is not filter-skippable on event={shown}; " ++
          "the marker is INCOMPLETE)"
      else if jobName = "gate-guard" then "event-filter (pull_request-only job)"
      else s!"event-filter (paths did not select it on event={shown})"

/-- `_negative_note`. -/
def negativeNote (seconds : Int) : String :=
  if seconds < 0 then s!"executed-negative-window raw={seconds}s" else notSelected

/-- `_missing_row`. -/
def missingRow (name : String) : Row :=
  { job := name, state := .missing, conclusion := notRecorded, duration_s := .notRecorded,
    coverage := "not_demonstrated", skip_reason := notSelected,
    note := "roster-job-absent-from-api-response" }

/-- The row of a job that was executed. -/
def executedRow (name conclusion : String) (seconds : Option Int) : Row :=
  match seconds with
  | none =>
      { job := name, state := .executed, conclusion, duration_s := .notRecorded,
        coverage := "not_demonstrated", skip_reason := notSelected,
        note := "required-field-gap: timestamp missing" }
  | some count =>
      { job := name, state := .executed, conclusion, duration_s := .seconds count.toNat,
        coverage := "demonstrated", skip_reason := notSelected, note := negativeNote count }

/-- The first record of each name. -/
def byName (payloadJobs : List JobRecord) (name : String) : Option JobRecord :=
  payloadJobs.find? fun job => job.name = some name

section Rows

variable (fromisoformat : String → Option Int)

/-- The row of the first record of a name. The conclusion decides what it is, never the times. -/
def recordRow (event : String) (changesConclusion : Option String) (name : String)
    (job : JobRecord) : Row :=
  match job.conclusion with
  | none =>
      { job := name, state := .unresolved, conclusion := notRecorded, duration_s := .notRecorded,
        coverage := "not_demonstrated", skip_reason := notSelected,
        note := "required-field-gap: no terminal conclusion" }
  | some conclusion =>
      if conclusion = "skipped" then
        { job := name, state := .skipped, conclusion, duration_s := .notApplicable,
          coverage := "not_selected",
          skip_reason := deriveSkipReason name event changesConclusion, note := notSelected }
      else if conclusion ∈ terminalConclusions then
        executedRow name conclusion (durationSeconds fromisoformat job.started_at job.completed_at)
      else
        { job := name, state := .unresolved, conclusion, duration_s := .notRecorded,
          coverage := "not_demonstrated", skip_reason := notSelected,
          note := "required-field-gap: no terminal conclusion" }

def rowOf (payloadJobs : List JobRecord) (event name : String) : Row :=
  match byName payloadJobs name with
  | none => missingRow name
  | some job =>
      let changesConclusion := (byName payloadJobs "changes").bind JobRecord.conclusion
      recordRow fromisoformat event changesConclusion name job

/-- `_derive_job_rows`. -/
def deriveJobRows (payloadJobs : List JobRecord) (event : String) : List Row :=
  jobRoster.map (rowOf fromisoformat payloadJobs event)

end Rows

/-! ## The run and its candidate -/

inductive CandidateStatus where
  | notSupplied
  | unresolvable
  | differs
  | matches
  deriving DecidableEq, Repr

def CandidateStatus.text : CandidateStatus → String
  | .notSupplied => Aegis.CiDurations.notSupplied
  | .unresolvable => "unresolvable"
  | .differs => "differs"
  | .matches => "matches"

section Binding

variable (tables : Unicode)

/-- `text.strip().lower()`. -/
def folded (text : String) : List Char := tables.lower (stripChars text.toList)

/-- `derive_staleness`. The run is stale exactly where the candidate differs. -/
def deriveStaleness (candidateSha runHeadSha : Option String) : CandidateStatus :=
  match candidateSha.filter (· ≠ ""), runHeadSha.filter (· ≠ "") with
  | none, _ => .notSupplied
  | some _, none => .unresolvable
  | some candidate, some head =>
      if folded tables candidate ≠ folded tables head then .differs else .matches

structure RunIdentity where
  run_attempt : Option Int
  run_event : String
  run_status : String
  run_conclusion : String
  candidate_sha : String
  candidate_status : CandidateStatus
  deriving DecidableEq, Repr

def RunIdentity.stale (identity : RunIdentity) : Bool := identity.candidate_status = .differs

/-- `_run_identity`. -/
def runIdentity (run : RunPayload) (candidate : Option String) : RunIdentity :=
  { run_attempt := run.run_attempt
    run_event := run.event.getD notRecorded
    run_status := run.status.getD notRecorded
    run_conclusion := run.conclusion.getD notRecorded
    candidate_sha := (candidate.filter (· ≠ "")).getD notSupplied
    candidate_status := deriveStaleness tables candidate run.head_sha }

end Binding

/-! ## The marker -/

inductive Status where
  | failed
  | unbound
  | stale
  | incomplete
  | complete
  deriving DecidableEq, Repr

/-- The exit code of a status. -/
def Status.exitCode : Status → Nat
  | .failed => 4
  | .unbound | .stale | .incomplete => 1
  | .complete => 0

structure Marker where
  status : Status
  reason : String
  failing_jobs : List String
  non_green_jobs : List String
  skipped_required_jobs : List String
  unexpected_skipped_jobs : List String
  deriving DecidableEq, Repr

def Marker.exitCode (marker : Marker) : Nat := marker.status.exitCode

/-- `sorted(names)`: one name is compared with nothing, and `None` with no text. -/
def sortNames (names : List (Option String)) : Except Failure (List (Option String)) :=
  if names.length ≤ 1 then .ok names
  else
    match names.mapM id with
    | none => .error (.typeError "'<' not supported between instances of 'NoneType' and 'str'")
    | some texts => .ok ((sortBy id texts).map some)

/-- `",".join(sorted(names))`. -/
def joinNames (names : List (Option String)) : Except Failure String := do
  match (← sortNames names).mapM id with
  | none => .error (.typeError "sequence item: expected str instance, NoneType found")
  | some texts => .ok (",".intercalate texts)

section Cascade

variable (identity : RunIdentity) (rows : List Row)

def executedRows : List Row := rows.filter fun row => row.state = .executed

def failingJobs : List String :=
  ((executedRows rows).filter fun row => row.conclusion ∈ nonGreenExecutedConclusions).map Row.job

def softJobs : List String :=
  ((executedRows rows).filter fun row =>
    row.conclusion ∉ greenConclusions ∧ row.conclusion ∉ nonGreenExecutedConclusions).map Row.job

def skippedRequired (event : String) : List String :=
  (rows.filter fun row => row.state = .skipped ∧ row.job ∈ requiredJobs event).map Row.job

/-- A failed `changes` job explains the skips of the others. -/
def dependencyFailed : Bool :=
  (rows.find? fun row => row.job = "changes").any fun row =>
    row.conclusion ∈ nonGreenExecutedConclusions

/-- `_unexpected_skips`. -/
def unexpectedSkips (event : String) : List String :=
  (rows.filter fun row =>
    row.state = .skipped ∧ row.job ∉ expectedSkips event ∧
      ¬(dependencyFailed rows = true ∧ row.job ≠ "changes")).map Row.job

def runRed : Bool :=
  identity.run_status = "completed" ∧ identity.run_conclusion ∉ greenConclusions

/-- What a row alone leaves open. -/
def rowGap (row : Row) : List String :=
  match row.state with
  | .missing => [row.job ++ "=missing"]
  | .unresolved => [row.job ++ "=unresolved"]
  | .executed => if row.duration_s = .notRecorded then [row.job ++ "=duration_not_recorded"] else []
  | .skipped => []

/-- The reasons that need no name of the delta. -/
def gapReasons (event : String) (truncated : Bool) : List String :=
  rows.flatMap rowGap
    ++ (skippedRequired rows event).map ("required-job-skipped:" ++ ·)
    ++ (unexpectedSkips rows event).map ("unexpected-skip-for-event:" ++ ·)
    ++ (if truncated then ["jobs-truncated"] else [])
    ++ (if softJobs rows = [] then []
        else ["executed-job-not-green:" ++ ",".intercalate (sortBy id (softJobs rows))])
    ++ (if identity.run_status = "completed" then [] else ["run_status=" ++ identity.run_status])
    ++ (if identity.run_attempt = some 1 then []
        else ["run_attempt=" ++ (identity.run_attempt.map toString).getD notRecorded])

def deltaReasons (rosterDelta : List (Option String)) : Except Failure (List String) :=
  if rosterDelta = [] then .ok []
  else (joinNames rosterDelta).map fun names => ["roster_delta=" ++ names]

def blockedReasons : List String :=
  if identity.candidate_status = .matches then []
  else ["candidate_status=" ++ identity.candidate_status.text]

/-- `derive_status`: the first case that matches. -/
def deriveStatus (rosterDelta : List (Option String)) (event : String) (truncated : Bool) :
    Except Failure Marker :=
  let failing := failingJobs rows
  let soft := softJobs rows
  let required := skippedRequired rows event
  let unexpected := unexpectedSkips rows event
  if runRed identity = true ∨ failing ≠ [] then
    let red := identity.run_conclusion
    let offending := if runRed identity = true ∧ red ≠ "" ∧ red ∉ failing then
      failing ++ ["run_conclusion=" ++ red] else failing
    .ok ⟨.failed, "not_green", offending, failing ++ soft, required, unexpected⟩
  else if identity.candidate_sha = notSupplied then
    .ok ⟨.unbound, "no_candidate_supplied", [], [], required, unexpected⟩
  else if identity.stale = true then
    .ok ⟨.stale, "candidate_differs_from_run_head", [], [], required, unexpected⟩
  else
    (deltaReasons rosterDelta).map fun delta =>
      let reasons := blockedReasons identity ++ gapReasons identity rows event truncated ++ delta
      if reasons ≠ [] then ⟨.incomplete, "; ".intercalate reasons, [], soft, required, unexpected⟩
      else ⟨.complete, "head_bound_green", [], [], required, unexpected⟩

end Cascade

/-! ## The command -/

structure Prerequisites where
  failed_or_missing : List String
  coverage_gaps : List String
  roster_delta : List (Option String)

def truncatedPage : Option String := some "truncated-jobs-page"

/-- `_prerequisites`. -/
def prerequisites (rows : List Row) (payloadJobs : List JobRecord) (truncated : Bool) :
    Except Failure Prerequisites := do
  let names := (payloadJobs.map JobRecord.name).dedup
  let delta ← sortNames (names.filter fun name => ∀ job ∈ jobRoster, name ≠ some job)
  return {
    failed_or_missing := (rows.filter fun row => row.state = .missing ∨
      (row.state = .executed ∧ row.conclusion ∉ greenConclusions)).map Row.job
    coverage_gaps := (rows.filter fun row => row.coverage = "not_demonstrated").map fun row =>
      s!"{row.job}: {row.note}"
    roster_delta := if truncated then delta ++ [truncatedPage] else delta }

structure Evidence where
  run_identity : RunIdentity
  jobs : List Row
  prerequisites : Prerequisites
  marker : Marker

/-- `build_evidence`. -/
def buildEvidence (identity : RunIdentity) (rows : List Row) (needed : Prerequisites) :
    Except Failure Evidence :=
  (deriveStatus identity rows needed.roster_delta identity.run_event
    (decide (truncatedPage ∈ needed.roster_delta))).map fun marker =>
      ⟨identity, rows, needed, marker⟩

section Command

variable (tables : Unicode) (fromisoformat : String → Option Int)

/-- What the command makes of a reading. -/
def evidenceOf (candidate : Option String) (reading : Reading) : Except Failure Evidence := do
  let identity := runIdentity tables reading.run_payload candidate
  let rows := deriveJobRows fromisoformat reading.payloadJobs identity.run_event
  let needed ← prerequisites rows reading.payloadJobs reading.truncated
  buildEvidence identity rows needed

/-- The arguments that choose and bind a run. -/
structure Request where
  repository : String
  workflow : String
  run_id : Option String
  head : Option String
  event : Option String
  attempt : Option Int
  candidate : Option String

/-- The attempt asked for is the one that was recorded. -/
def checkAttempt (runId : String) (recorded attempt : Option Int) : Except Failure Unit :=
  match attempt, recorded with
  | none, _ => .ok ()
  | some asked, none => .error (.refused
      s!"--attempt {asked} requested but the run payload records no run_attempt")
  | some asked, some number =>
      if number = asked then .ok () else .error (.refused
        s!"--attempt {asked} requested but run {runId} reports run_attempt={number}")

/-- The run asked for, or the newest one of the head asked for. -/
def chosenRun (transport : Transport) (request : Request) : Except Failure String :=
  match request.run_id.filter (· ≠ ""), request.head.filter (· ≠ "") with
  | some runId, _ => .ok runId
  | none, some head =>
      resolveRunId transport request.repository request.workflow head request.event
  | none, none => .error (.refused "supply --run-id or --head to identify a run")

/-- `run_command`, up to the evidence that it prints. -/
def runCommand (transport : Transport) (request : Request) : Except Failure Evidence := do
  let runId ← chosenRun transport request
  let reading ← fetchRunAndJobs transport request.repository runId
  checkAttempt runId reading.run_payload.run_attempt request.attempt
  evidenceOf tables fromisoformat request.candidate reading

end Command

end Aegis.CiDurations
