/-
# Live.AllowanceHistory — the spend of earlier runs, as the artifacts prove it

`workflow_runtime.py`: the ended smoke runs prove their spend one by one, and the first listed of the
ended trial runs with the largest total names the rest. `collectAllowanceHistory` merges both under
the identities of the smoke runs. What `gh` answers is a `GitHub`.
-/
import Aegis.Live.SmokeSpendMaps
import Aegis.Live.Transport

namespace Aegis.Live

open Aegis.Lib
open Aegis.Lib.Guarded

set_option autoImplicit false

/-! ## Names -/

def smokeProofSchema : String := "ber-live-smoke-proof/1.0.0"

def resumeManifestSchema : String := "ber-resume-manifest/1.2.0"

def smokeArtifactName : String := "ber-live-smoke-proof"

/-- `TRIAL_ARTIFACT_NAMES`. -/
def trialArtifactNames : List String := ["ber-resume-manifest", "ber-resume-manifest-job-1"]

def smokeWorkflowFile : String := "eval-smoke.yml"

def trialWorkflowFile : String := "eval-run.yml"

def preservedHistoricalLedgerCents : Nat := 222

def preservedHistoricalSmokeCents : Nat := 18

/-- What `gh` answers to a listing of runs, to a listing of the artifacts of a run and to a download
of a member of an artifact, each as parsed. A call that fails or is no JSON raises. -/
structure GitHub (F : Type) where
  runPages : String → Except String (Json F)
  artifactPages : String → Except String (Json F)
  member : String → String → String → Except String (Json F)

section Model

variable {F : Type}

/-! ## Listings -/

/-- `_json_pages`. -/
def jsonPages (payload : Json F) (label : String) : Except String (List (Json F)) :=
  match payload with
  | .array pages => do
      require (∀ page ∈ pages, page.isObject = true) (label ++ " contained a non-object page")
      pure pages
  | _ => .error (label ++ " was not a list of pages")

/-- The elements that the pages list under a key. -/
def pageElements (key missing : String) (pages : List (Json F)) : Except String (List (Json F)) := do
  let lists ← pages.mapM fun page =>
    match page.getD key .null with
    | .array elements => pure elements
    | _ => .error missing
  pure lists.flatten

def isNone : Json F → Bool
  | .null => true
  | _ => false

/-- The first total that a page declares. -/
def declaredTotal (pages : List (Json F)) : Json F :=
  ((pages.map fun page => page.getD "total_count" .null).find? fun total => !isNone total).getD .null

/-- The declared total is the number of elements. -/
def checkTotal (total : Json F) (length : Nat) (undeclared incomplete : String) :
    Except String Unit :=
  match total with
  | .int count => do
      require (0 ≤ count) undeclared
      require (count = length) incomplete
  | _ => .error undeclared

variable (gh : GitHub F)

/-- `list_workflow_runs`. -/
def listWorkflowRuns (workflowFile : String) : Except String (List (Json F)) := do
  let payload ← gh.runPages workflowFile
  let pages ← jsonPages payload "workflow run listing"
  let runs ← pageElements "workflow_runs" "a workflow run listing page has no workflow_runs list" pages
  checkTotal (declaredTotal pages) runs.length
    "the workflow run listing did not report an integer total_count"
    "the workflow run listing is incomplete"
  pure runs

/-- `list_run_artifacts`. -/
def listRunArtifacts (runId : String) : Except String (List (Json F)) := do
  let payload ← gh.artifactPages runId
  let pages ← jsonPages payload "artifact listing"
  let artifacts ← pageElements "artifacts" "an artifact listing page has no artifacts list" pages
  checkTotal (declaredTotal pages) artifacts.length
    "artifact listing did not report an integer total_count" "artifact listing is incomplete"
  pure artifacts

/-- `download_artifact_json`. -/
def downloadArtifactJson (runId artifactName member : String) : Except String (Json F) := do
  let payload ← gh.member runId artifactName member
  require (payload.isObject = true) ("artifact " ++ artifactName ++ " member is not a JSON object")
  pure payload

/-! ## Provenance -/

/-- `_require_text`. -/
def requireText (payload : Json F) (key label : String) : Except String String :=
  match payload.getD key .null with
  | .str text => do
      refuse (strip text = "") (label ++ " missing or not a non-empty string: " ++ key)
      pure text
  | _ => .error (label ++ " missing or not a non-empty string: " ++ key)

/-- `^[0-9a-f]{length}$`: a newline may follow. -/
def isHexText (length : Nat) (text : String) : Bool :=
  let chars := text.toList
  (chars.take length).length = length ∧
    (chars.take length).all (fun c => c ∈ "0123456789abcdef".toList) ∧
    (chars.drop length = [] ∨ chars.drop length = ['\n'])

/-- `_require_hex`. -/
def requireHex (payload : Json F) (key : String) (length : Nat) (label : String) :
    Except String String := do
  let value ← requireText payload key label
  require (isHexText length value = true) (label ++ " has malformed provenance: " ++ key)
  pure value

/-- A run id is a text or a positive number. -/
def checkRunId : Json F → Except String Unit
  | .str _ => pure ()
  | .int value => require (0 < value) "run entry id must be positive"
  | _ => .error "run entry has no positive id"

/-- `run_attempt`, which defaults to the first. -/
def runAttemptOf (run : Json F) : Except String Nat :=
  match run.getD "run_attempt" (.int 1) with
  | .int attempt => if 0 < attempt then pure attempt.toNat
      else .error "run attempt must be a positive integer"
  | _ => .error "run attempt must be a positive integer"

structure RunProvenance where
  attempt : Nat
  headSha : String

/-- `_validate_run_provenance`. -/
def validateRunProvenance (run : Json F) : Except String RunProvenance := do
  checkRunId (run.getD "id" .null)
  let attempt ← runAttemptOf run
  let head ← requireHex run "head_sha" 40 "run entry"
  pure ⟨attempt, head⟩

structure ProvenancePins where
  subjectVendor : String
  judgeVendor : String
  judgeModel : String
  deriving DecidableEq, Repr

/-- `proof_provenance_pins`. -/
def proofProvenancePins : Except String ProvenancePins := do
  let subject ← fetch (subjectPins.lookup "anthropic") "KeyError"
  let judge ← fetch (judgePins.lookup (subject.vendor, subject.model)) "KeyError"
  pure ⟨subject.vendor, judge.vendor, judge.model⟩

variable [JsonFloat F] (digest : List Char → String)

/-- `payload.get(key) == value`. -/
def fieldIs (payload : Json F) (key : String) (value : Json F) : Bool :=
  (payload.getD key .null).same value

/-- The hash of a proof, without the field that holds it. -/
def proofHash (payload : Json F) : String :=
  match payload with
  | .object fields => digest
      (Json.object (fields.filter fun field => field.1 ≠ "proof_sha256")).ordered.render
  | _ => ""

/-- The vendors and the model that a proof names. -/
def checkProofPins (payload : Json F) : Except String Unit := do
  let pins ← proofProvenancePins
  let subject ← requireText payload "subject_vendor" "smoke proof"
  require (subject = pins.subjectVendor) "smoke proof subject vendor is not pinned"
  let judge ← requireText payload "judge_vendor" "smoke proof"
  require (judge = pins.judgeVendor) "smoke proof judge vendor is not pinned"
  let model ← requireText payload "judge_model" "smoke proof"
  require (model = pins.judgeModel) "smoke proof judge model is not pinned"

/-- The hashes that a proof names. -/
def checkProofHashes (payload : Json F) (headSha : String) : Except String Unit := do
  let head ← requireHex payload "head_sha" 40 "smoke proof"
  require (head = headSha) "smoke proof head does not match the workflow run head"
  let _ ← requireHex payload "dataset_sha256" 64 "smoke proof"
  let _ ← requireHex payload "built_config_sha256" 64 "smoke proof"
  let _ ← requireHex payload "config_template_sha256" 64 "smoke proof"
  let _ ← requireText payload "gate_id" "smoke proof"

/-- `_validate_smoke_proof`. -/
def validateSmokeProof (payload run : Json F) : Except String Unit := do
  let provenance ← validateRunProvenance run
  require (fieldIs payload "schema" (.str smokeProofSchema) = true) "unsupported smoke proof schema"
  require (fieldIs payload "status" (.str "PASS") = true ∨ fieldIs payload "status" (.str "FAIL") = true)
    "smoke proof status is missing or untrusted"
  require (fieldIs payload "workflow" (.str "eval-smoke") = true) "smoke proof workflow is not eval-smoke"
  require (fieldIs payload "citability" (.str "REAL_HOST") = true)
    "smoke proof citability is not REAL_HOST"
  checkProofHashes payload provenance.headSha
  checkProofPins payload
  require (fieldIs payload "max_output_tokens" (.int 16384) = true)
    "smoke proof max_output_tokens is not the pinned 16384"
  require (fieldIs payload "planned_calls" (.int 2) = true ∧
    fieldIs payload "dispatched_calls" (.int 2) = true) "smoke proof call shape is not exactly two calls"
  let supplied ← requireHex payload "proof_sha256" 64 "smoke proof"
  require (supplied = proofHash digest payload) "smoke proof hash does not verify"

/-- `_validate_trial_manifest`. -/
def validateTrialManifest (payload run : Json F) : Except String Unit := do
  let provenance ← validateRunProvenance run
  require (fieldIs payload "schema" (.str resumeManifestSchema) = true)
    "unsupported trial manifest schema"
  let plan := payload.getD "plan" .null
  require (plan.isObject = true) "trial manifest has no plan provenance"
  let dispatch ← requireHex plan "dispatch_sha" 40 "trial plan"
  require (dispatch = provenance.headSha)
    "trial plan dispatch head does not match the workflow run head"
  let _ ← requireHex plan "config_sha256" 64 "trial plan"
  let _ ← requireHex plan "dataset_sha256" 64 "trial plan"
  let _ ← requireText plan "gate_id" "trial plan"
  let pins ← proofProvenancePins
  require (fieldIs plan "subject_vendors" (.array [.str pins.subjectVendor]) = true)
    "trial plan subject vendor is not the pinned single vendor"
  require (fieldIs plan "max_output_tokens" (.int 16384) = true)
    "trial plan output cap is not the pinned 16384"

/-! ## Reading one run -/

variable (shown : Shown F) (currentRunId : Json F)

/-- The names of the artifacts that are objects. -/
def artifactNames (artifacts : List (Json F)) : List (Json F) :=
  (artifacts.filter Json.isObject).map fun artifact => artifact.getD "name" .null

def publishes (names : List (Json F)) (name : String) : Bool :=
  names.any fun held => held.same (.str name)

/-- `_available_artifact_name`. -/
def availableArtifactName (names : List (Json F)) (candidates : List String) : Option String :=
  candidates.find? (publishes names)

/-- The run is another one than the current run, and it has ended. -/
def isEligible (run : Json F) : Except String Bool :=
  if isNone currentRunId = true then pure (fieldIs run "status" (.str "completed"))
  else do
    let listed ← pythonStr shown (run.getD "id" .null)
    let current ← pythonStr shown currentRunId
    pure (listed ≠ current ∧ fieldIs run "status" (.str "completed") = true)

/-- What a proof records of its run. -/
structure SmokeGate where
  runId : String
  attempt : Nat
  spent : Nat
  deriving DecidableEq, Repr

/-- The record that a gate is merged as. -/
def SmokeGate.record (gate : SmokeGate) : Json F :=
  .object [("smoke_run_attempt", .int gate.attempt), ("smoke_run_id", .str gate.runId),
    ("spent_cents", .int gate.spent)]

/-- The gate of an ended smoke run. -/
def smokeGate (run : Json F) : Except String SmokeGate := do
  let _ ← validateRunProvenance run
  let runId ← pythonStr shown (run.getD "id" .null)
  let artifacts ← listRunArtifacts gh runId
  require (publishes (artifactNames artifacts) smokeArtifactName = true)
    ("ended smoke run " ++ runId ++ " has no proof artifact: UNKNOWN, not zero")
  let payload ← downloadArtifactJson gh runId smokeArtifactName "smoke-proof.json"
  validateSmokeProof digest payload run
  let spent ← strictCents (payload.getD "spent_cents" .null) "smoke proof spent_cents"
  let normalized ← normalizeSmokeRunId shown (run.getD "id" .null)
  let attempt ← runAttemptOf run
  pure ⟨normalized, attempt, spent⟩

/-- The manifest of an ended trial run: its total and its own smoke spend. -/
structure TrialManifest where
  total : Nat
  smokeSpend : SmokeSpend
  deriving DecidableEq

/-- The total without the smoke spend. -/
def TrialManifest.ledger (trial : TrialManifest) : Nat :=
  trial.total - (trial.smokeSpend.map Prod.snd).sum

def trialManifest (run : Json F) : Except String TrialManifest := do
  let _ ← validateRunProvenance run
  let runId ← pythonStr shown (run.getD "id" .null)
  let artifacts ← listRunArtifacts gh runId
  let name ← fetch (availableArtifactName (artifactNames artifacts) trialArtifactNames)
    ("ended trial run " ++ runId ++ " has no resume manifest: UNKNOWN, not zero")
  let payload ← downloadArtifactJson gh runId name "manifest.json"
  validateTrialManifest payload run
  let totals := payload.getD "totals" .null
  require (totals.isObject = true)
    ("trial manifest " ++ runId ++ " has no totals: UNKNOWN, not zero")
  let spent ← strictCents (totals.getD "spent_cents" .null) "trial total spent_cents"
  let records ← validateSmokeSpend shown (payload.getD "smoke_spend" (.object []))
  let smoke ← smokeSpendTotal shown (SmokeSpend.records records)
  refuse (spent < smoke) "trial manifest total is below its smoke spend"
  pure ⟨spent, records⟩

/-- A run is read where it is eligible. -/
def readRun {α : Type} (noObject noId : String) (read : Json F → Except String α) (run : Json F) :
    Except String (Option α) := do
  require (run.isObject = true) noObject
  refuse (isNone (run.getD "id" .null) = true) noId
  if ← isEligible shown currentRunId run then
    let found ← read run
    pure (some found)
  else pure none

def readSmokeRun : Json F → Except String (Option SmokeGate) :=
  readRun shown currentRunId "a workflow run entry was not an object"
    "a smoke workflow run entry has no id" (smokeGate gh digest shown)

def readTrialRun : Json F → Except String (Option TrialManifest) :=
  readRun shown currentRunId "a trial workflow-run entry was not an object"
    "a trial workflow run entry has no id" (trialManifest gh shown)

/-! ## Collecting -/

/-- One turn of the loop over the smoke runs. -/
def addSmokeRun (records : SmokeSpend) (run : Json F) : Except String SmokeSpend := do
  match ← readSmokeRun gh digest shown currentRunId run with
  | none => pure records
  | some gate => mergeSmokeGateSpend shown (SmokeSpend.records records) gate.record

/-- `collect_smoke_proof_spends`. -/
def collectSmokeProofSpends : Except String SmokeSpend := do
  let runs ← listWorkflowRuns gh smokeWorkflowFile
  runs.foldlM (addSmokeRun gh digest shown currentRunId) []

/-- The manifest chosen so far, and the totals seen. -/
structure TrialChoice where
  chosen : Option TrialManifest := none
  seenTotals : List Nat := []

def TrialChoice.next (choice : TrialChoice) (trial : TrialManifest) : TrialChoice where
  seenTotals := choice.seenTotals.insert trial.total
  chosen :=
    match choice.chosen with
    | none => some trial
    | some held => if held.total < trial.total then some trial else some held

/-- One turn of the loop over the trial runs. -/
def addTrialRun (choice : TrialChoice) (run : Json F) : Except String TrialChoice := do
  match ← readTrialRun gh shown currentRunId run with
  | none => pure choice
  | some trial => pure (choice.next trial)

/-- `ledger_spend_cents` and `smoke_spend` of the latest trial. -/
structure TrialSpend where
  ledgerSpendCents : Nat
  smokeSpend : SmokeSpend

/-- What is left of the loop over the trial runs. -/
def TrialChoice.spend (choice : TrialChoice) : Except String TrialSpend := do
  refuse (1 < choice.seenTotals.length)
    ("multiple independent trial manifests have different totals; " ++
      "aggregation is ambiguous, fail closed")
  match choice.chosen with
  | none => pure ⟨preservedHistoricalLedgerCents, []⟩
  | some trial => pure ⟨max trial.ledger preservedHistoricalLedgerCents, trial.smokeSpend⟩

/-- `collect_latest_trial_spend`. -/
def collectLatestTrialSpend : Except String TrialSpend := do
  let runs ← listWorkflowRuns gh trialWorkflowFile
  let choice ← runs.foldlM (addTrialRun gh shown currentRunId) {}
  choice.spend

/-- The digits of an attempt, or the first attempt. -/
def attemptOfDigits (text : List Char) : Except String Nat :=
  if isDigits text = true then pythonInt shown text text else pure 1

/-- The run id and the attempt that are read back from the key of an identity. -/
def rereadIdentity (identity : String) : Except String (String × Nat) :=
  match identity.toList.splitOn '|' with
  | [_, runId, attempt, _] => do
      let attempt ← attemptOfDigits shown attempt
      pure (String.ofList runId, attempt)
  | _ => do
      let runId := identity.toList.takeWhile (· ≠ '#')
      let attempt ← attemptOfDigits shown ((identity.toList.dropWhile (· ≠ '#')).drop 1)
      pure (String.ofList runId, attempt)

/-- One entry of the trial's smoke spend. -/
def addTrialEntry (records : SmokeSpend) (entry : String × Nat) : Except String SmokeSpend := do
  let run ← rereadIdentity shown entry.1
  addSmokeSpend shown (SmokeSpend.records records) (.str run.1) (.int entry.2) (.int run.2)
    (.str allowanceId) (.str phaseSmoke)

structure AllowanceHistory where
  ledgerSpendCents : Nat
  smokeSpend : SmokeSpend
  smokeSpendCents : Nat
  deriving DecidableEq

/-- The preserved spend of smoke runs that have no artifacts. -/
def preserveSmoke (records : SmokeSpend) : Except String SmokeSpend := do
  let recorded ← smokeSpendTotal shown (SmokeSpend.records records)
  if recorded = 0 then
    addSmokeSpend shown (SmokeSpend.records records) (.str "preserved-historical-20261031")
      (.int preservedHistoricalSmokeCents) .null (.str allowanceId) (.str phaseSmoke)
  else if recorded < preservedHistoricalSmokeCents then
    .error ("observed smoke history is below the preserved historical floor and " ++
      "cannot be deduplicated without double counting; fail closed")
  else pure records

/-- What `collect_allowance_history` makes of both collections. -/
def mergeHistory (smokeRecords : SmokeSpend) (trial : TrialSpend) :
    Except String AllowanceHistory := do
  let entries ← validateSmokeSpend shown (SmokeSpend.records trial.smokeSpend)
  let merged ← entries.foldlM (addTrialEntry shown) smokeRecords
  let records ← preserveSmoke shown merged
  let total ← smokeSpendTotal shown (SmokeSpend.records records)
  pure ⟨max trial.ledgerSpendCents preservedHistoricalLedgerCents, records, total⟩

/-- `collect_allowance_history`. -/
def collectAllowanceHistory : Except String AllowanceHistory := do
  let smokeRecords ← collectSmokeProofSpends gh digest shown currentRunId
  let trial ← collectLatestTrialSpend gh shown currentRunId
  mergeHistory shown smokeRecords trial

end Model

end Aegis.Live
