/-
# Evidence.Writer — the two stages of the evidence writer

`finalizeInputEvidence` writes the stage A artifacts and the input manifest,
`finalizeFinalBundle` the final report, the stage B artifacts, the final manifest
and the detached marker. This is the path without a policy receipt: a bundle that
claims one is refused. A failed call raises; what it leaves on disk is not modelled.
-/
import Aegis.Evidence.Artifacts
import Mathlib.Data.List.Sort

namespace Aegis.Evidence

open Aegis.Lib
open Aegis.Lib.Guarded

set_option autoImplicit false

/-! ## Documents -/

section Documents

variable {F : Type} [JsonFloat F] (host : Host F)

/-- `canonical_bytes`, of a value that can be written. -/
@[irreducible] def canonicalBytes (value : Json F) : ByteArray := (String.ofList value.canonical).toUTF8

/-- `json.loads(content.decode("utf-8"))`. -/
def loads (content : ByteArray) : Option (Json F) :=
  (String.fromUTF8? content).bind fun text => Json.parse text.toList

/-- `_load_json_bytes`. -/
def loadJsonBytes (root : FileTree String) (name : String) :
    Except EvidenceFault (Json F × ByteArray) :=
  match root (host.key name) with
  | .missing => .error (.integrityError s!"missing evidence artifact: {name}")
  | .outside none => .error (.integrityError s!"missing evidence artifact: {name}")
  | .directory => .error .osError
  | .outside (some content) => parsed content
  | .file content => parsed content
where
  parsed (content : ByteArray) : Except EvidenceFault (Json F × ByteArray) :=
    match loads content with
    | none =>
        .error (.integrityError s!"corrupt evidence artifact {name}: {host.decodeError content}")
    | some value =>
        if value.isObject = true then .ok (value, content)
        else .error (.integrityError s!"evidence artifact {name} is not an object")

/-- `_require_supported_version`. -/
def requireSupportedVersion (document : Json F) (where_ : String) : Except EvidenceFault Unit :=
  require ((document.getD "schema_version" .null).same (.str schemaVersion) = true)
    (.integrityError s!"{where_} has missing or unsupported schema_version")

/-- A list of the report: every record is an object of a supported version. -/
def requireRecordVersions (report : Json F) (name : String) : Except EvidenceFault Unit :=
  match report.getD name (.array []) with
  | .array records =>
      forM records.zipIdx fun record => do
        require (record.1.isObject = true)
          (.integrityError s!"final report {name}[{record.2}] must be an object")
        requireSupportedVersion record.1 s!"final report {name}[{record.2}]"
  | _ => .error (.integrityError s!"final report {name} must be a list")

/-- `_require_report_record_versions`. -/
def requireReportRecordVersions (report : Json F) : Except EvidenceFault Unit :=
  forM ["attempts", "aggregates"] (requireRecordVersions report)

/-- A nonempty text under `runner_version`. -/
def requireRunnerVersion (report : Json F) : Except EvidenceFault Unit :=
  match report.get? "runner_version" with
  | some (.str version) =>
      refuse (version = "") (.integrityError "final report has no runner_version")
  | _ => .error (.integrityError "final report has no runner_version")

/-! ## Policy receipts -/

def stageAReceipt : String := "policy/stage-a.json"

def stageBReceipt : String := "policy/stage-b.json"

/-- `_manifest_claims`. -/
def manifestClaims (root : FileTree String) (manifestName receipt : String) :
    Except EvidenceFault Bool :=
  match root (host.key manifestName) with
  | .missing => .ok false
  | _ => do
      let (manifest, _) ← loadJsonBytes host root manifestName
      match manifest.get? "artifacts" with
      | some (.array artifacts) =>
          pure (artifacts.any fun entry =>
            entry.isObject && (entry.getD "path" .null).same (.str receipt))
      | _ => pure false

/-- `os.path.lexists`. -/
def lexists (root : FileTree String) (path : String) : Bool :=
  match root (host.key path) with
  | .missing => false
  | _ => true

/-- `_has_stage_a_policy_claim`. -/
def hasStageAPolicyClaim (root : FileTree String) : Except EvidenceFault Bool :=
  if lexists host root stageAReceipt = true then .ok true
  else manifestClaims host root inputManifestName stageAReceipt

/-- `_has_policy_claim`. -/
def hasPolicyClaim (root : FileTree String) : Except EvidenceFault Bool := do
  if (← hasStageAPolicyClaim host root) = true then pure true
  else if lexists host root stageBReceipt = true then pure true
  else manifestClaims host root finalManifestName stageBReceipt

end Documents

/-! ## Stages -/

/-- When the writer reads the clock. -/
inductive Moment
  | artifact (index : Nat)
  | policyReport
  | report
  | marker
  deriving DecidableEq, Repr

/-- What a stage has written so far. -/
structure Stage where
  root : FileTree String
  entries : List ManifestEntry := []
  seen : List String

structure EvidenceWriter where
  runId : String
  runId_nonempty : runId ≠ ""

structure InputEvidenceBundle where
  inputEvidenceManifestSha256 : String
  artifactCount : Nat
  deriving DecidableEq, Repr

structure FinalEvidenceBundle where
  finalReportSha256 : String
  finalEvidenceManifestSha256 : String
  finalizationMarkerSha256 : String
  deriving DecidableEq, Repr

section Stages

variable {F : Type} (host : Host F) (now : Moment → String)

/-- One turn of the loop over the artifacts of a stage. -/
def writeArtifact (stage : Stage) (artifact : EvidenceArtifact) : Except EvidenceFault Stage := do
  let path ← validateArtifactPath host (.str artifact.relativePath)
  refuse (path ∈ stage.seen)
    (.evidenceError s!"duplicate artifact path {host.repr (.str path)}")
  let entry ← manifestEntry host (now (.artifact stage.entries.length)) artifact
  checkNoSelfHash artifact.content entry.sha256 path
  let root ← atomicWrite host stage.root path artifact.content
  pure { root := root, entries := stage.entries ++ [entry], seen := stage.seen ++ [path] }

def writeArtifacts (stage : Stage) (artifacts : List EvidenceArtifact) :
    Except EvidenceFault Stage :=
  artifacts.foldlM (writeArtifact host now) stage

/-- `sorted(entries, key=lambda e: e["path"])`. -/
def sortedEntries (entries : List ManifestEntry) : List ManifestEntry :=
  entries.insertionSort fun left right => left.path ≤ right.path

def manifestDocument (kind runId : String) (entries : List ManifestEntry) : Json F :=
  .dict [("schema_version", .str schemaVersion), ("manifest_kind", .str kind),
    ("run_id", .str runId),
    ("artifacts", .array ((sortedEntries entries).map ManifestEntry.toJson))]

def markerDocument (runId manifestSha reportSha finalStatus finalizedAt : String) : Json F :=
  .dict [("schema_version", .str schemaVersion),
    ("marker_kind", .str "detached_finalization_marker"), ("run_id", .str runId),
    ("final_evidence_manifest_sha256", .str manifestSha),
    ("final_report_sha256", .str reportSha), ("final_status", .str finalStatus),
    ("finalized_at", .str finalizedAt),
    ("note", .str ("detached per the non-circular protocol: not listed in the " ++
      "manifest it names; contains no hash of itself; its own " ++
      "SHA-256 is recorded by the consuming index/rollup"))]

variable [JsonFloat F]

/-- `EvidenceWriter.finalize_input_evidence`. -/
def finalizeInputEvidence (writer : EvidenceWriter) (root : FileTree String)
    (artifacts : List EvidenceArtifact) :
    Except EvidenceFault (FileTree String × InputEvidenceBundle) := do
  refuse (stageAReceipt ∈ artifacts.map fun artifact => forwardSlashes artifact.relativePath)
    (.evidenceError "policy-bound Stage A requires the claimed policy writer")
  let claimed ← hasPolicyClaim host root
  refuse (claimed = true)
    (.evidenceError "policy-bound Stage A requires the claimed policy writer")
  let stage ← writeArtifacts host now { root := root, seen := [] } artifacts
  let manifestBytes :=
    canonicalBytes (manifestDocument (F := F) "input_evidence" writer.runId stage.entries)
  let root ← atomicWrite host stage.root inputManifestName manifestBytes
  pure (root, ⟨host.sha256Hex manifestBytes, stage.entries.length⟩)

/-- `_validated_final_report_bytes`. -/
def validatedFinalReportBytes (finalReport : List (String × Json F))
    (runId inputManifestSha256 : String) : Except EvidenceFault ByteArray := do
  require ((Json.dict finalReport).finite = true)
    (.canonicalizationError "non-finite float")
  let reportBytes := canonicalBytes (Json.dict finalReport)
  let report : Json F ← fetch (loads reportBytes) .valueError
  requireSupportedVersion report "final report"
  requireReportRecordVersions report
  requireRunnerVersion report
  require ((report.getD "run_id" .null).same (.str runId) = true)
    (.evidenceError ("final report run_id " ++ host.repr (report.getD "run_id" .null) ++
      " does not match the writer's run_id " ++ host.repr (.str runId)))
  let binding ← fetch (report.get? "run_evidence_binding") unbound
  require (binding.isObject = true ∧ (binding.getD "input_evidence_manifest_sha256" .null).same
    (.str inputManifestSha256) = true) unbound
  forM ["final_evidence_manifest_sha256", "final_report_sha256"] fun forbidden =>
    refuse ((binding.get? forbidden).isSome = true)
      (.circularError (s!"the final report must not carry {forbidden}; those hashes " ++
        "live only in the detached marker"))
  pure reportBytes
where
  unbound : EvidenceFault := .evidenceError ("the final report must carry " ++
    "run_evidence_binding.input_evidence_manifest_sha256 (stage A binding)")

/-- The record of the final report in the final manifest. -/
def reportEntry (reportBytes : ByteArray) (reportCreatedAt : String)
    (reportMetadata : Option ArtifactMetadata) : Except EvidenceFault ManifestEntry :=
  manifestEntry host reportCreatedAt {
    relativePath := finalReportName
    content := reportBytes
    metadata := { reportMetadata.getD {} with createdAt := some reportCreatedAt } }

/-- What stage B is given beside the bundle root and the writer. -/
structure FinalRequest (F : Type) where
  finalReport : List (String × Json F)
  artifacts : List EvidenceArtifact
  inputManifestSha256 : String
  finalStatus : String
  finalizedAt : Option String := none
  reportMetadata : Option ArtifactMetadata := none

/-- `policy_report_created_at or finalized_at or _utc_now_iso()`. -/
def FinalRequest.reportCreatedAt (request : FinalRequest F) : String :=
  ((if request.reportMetadata.isSome = true then some (now .policyReport) else none).filter
      (· ≠ "")).getD
    ((request.finalizedAt.filter (· ≠ "")).getD (now .report))

/-- The date on the marker. -/
def FinalRequest.markerFinalizedAt (request : FinalRequest F) : String :=
  if request.reportMetadata.isSome = true then now .marker else request.reportCreatedAt now

/-- The bytes of the marker of a finalized bundle. -/
def FinalRequest.markerBytes (request : FinalRequest F) (writer : EvidenceWriter)
    (bundle : FinalEvidenceBundle) : ByteArray :=
  canonicalBytes (markerDocument (F := F) writer.runId bundle.finalEvidenceManifestSha256
    bundle.finalReportSha256 request.finalStatus (request.markerFinalizedAt now))

/-- `EvidenceWriter.finalize_final_bundle`. -/
def finalizeFinalBundle (writer : EvidenceWriter) (root : FileTree String)
    (request : FinalRequest F) :
    Except EvidenceFault (FileTree String × FinalEvidenceBundle) := do
  refuse (stageBReceipt ∈
      request.artifacts.map fun artifact => forwardSlashes artifact.relativePath)
    (.evidenceError "policy Stage B receipt requires the claimed policy writer")
  let claimed ← hasPolicyClaim host root
  refuse (claimed = true) (.evidenceError "policy-bound Stage A requires policy finalization")
  refuse ((request.reportMetadata.bind ArtifactMetadata.createdAt).isSome = true)
    (.evidenceError "policy report created_at must be writer-stamped")
  refuse (request.reportMetadata.isSome = true ∧ request.finalizedAt.isSome = true)
    (.evidenceError "policy report finalized_at cannot be caller-supplied")
  refuse (request.finalStatus = "") (.evidenceError "final_status must be a nonempty string")
  let reportBytes ← validatedFinalReportBytes host request.finalReport writer.runId
    request.inputManifestSha256
  let reportSha := host.sha256Hex reportBytes
  let root ← atomicWrite host root finalReportName reportBytes
  let stage ← writeArtifacts host now { root := root, seen := [finalReportName] } request.artifacts
  let entry ← reportEntry host reportBytes (request.reportCreatedAt now) request.reportMetadata
  let manifestBytes := canonicalBytes
    (manifestDocument (F := F) "final_evidence" writer.runId (stage.entries ++ [entry]))
  let manifestSha := host.sha256Hex manifestBytes
  refuse (Contains reportBytes manifestSha)
    (.circularError ("the final report contains the final-manifest hash; " ++
      "a self-referential hash cannot verify"))
  let root ← atomicWrite host stage.root finalManifestName manifestBytes
  let markerBytes := canonicalBytes (markerDocument (F := F) writer.runId manifestSha reportSha
    request.finalStatus (request.markerFinalizedAt now))
  let root ← atomicWrite host root markerName markerBytes
  pure (root, ⟨reportSha, manifestSha, host.sha256Hex markerBytes⟩)

end Stages

end Aegis.Evidence
