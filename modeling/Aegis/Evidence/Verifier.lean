/-
# Evidence.Verifier — a finished bundle checked against its marker

`verifyFinalBundle` reads the four documents of a bundle and every artifact that a
manifest lists. What the bundle root holds is arbitrary: nothing is assumed about
who wrote it.
-/
import Aegis.Evidence.Writer

namespace Aegis.Evidence

open Aegis.Lib
open Aegis.Lib.Guarded

set_option autoImplicit false

section Verify

variable {F : Type} [JsonFloat F] (host : Host F)

/-- The keys that every manifest entry has. -/
def metadataKeys : List String :=
  ["sensitivity", "redaction_state", "retention_class", "created_at", "expiration_at",
    "access_policy_ref"]

/-- The bytes of the artifact at a path that was validated. -/
def artifactContent (root : FileTree String) (rawPath : Json F) (path : String) :
    Except EvidenceFault ByteArray := do
  refuse (∃ part ∈ segments path, '\x00' ∈ part.toList) .valueError
  match root (host.key path) with
  | .outside _ =>
      .error (.integrityError
        s!"manifest artifact {host.repr rawPath} resolves outside the bundle root")
  | .missing => .error (.integrityError s!"missing artifact {host.repr (.str path)}")
  | .directory => .error .osError
  | .file content => .ok content

/-- One turn of the loop of `_verify_manifest_artifacts`. -/
def verifyEntry (root : FileTree String) (allowFinalReport : Bool)
    (verified : List (String × String)) (entry : Json F) :
    Except EvidenceFault (List (String × String)) := do
  require (entry.isObject = true) .attributeError
  let rawPath := entry.getD "path" (.str "")
  let path ← (validateArtifactPath host rawPath allowFinalReport).mapError unsafePath
  refuse (path ∈ verified.map Prod.fst)
    (.integrityError s!"manifest lists {host.repr (.str path)} twice")
  let content ← artifactContent host root rawPath path
  require ((Json.int content.size).same (entry.getD "bytes" .null) = true)
    (.integrityError (s!"truncated or padded artifact {host.repr (.str path)}: " ++
      s!"{content.size} bytes, manifest says " ++ host.str (entry.getD "bytes" .null)))
  let actualSha := host.sha256Hex content
  require ((Json.str actualSha).same (entry.getD "sha256" .null) = true)
    (.integrityError (s!"hash mismatch for {host.repr (.str path)}: manifest " ++
      host.str (entry.getD "sha256" .null) ++ s!", actual {actualSha}"))
  checkNoSelfHash content actualSha path
  forM metadataKeys fun metaKey =>
    require ((entry.get? metaKey).isSome = true) (.integrityError
      s!"artifact {host.repr (.str path)} missing metadata {host.repr (.str metaKey)}")
  pure (verified ++ [(path, actualSha)])
where
  unsafePath : EvidenceFault → EvidenceFault
    | .evidenceError text => .integrityError ("manifest lists an unsafe artifact path " ++
        host.repr (entry.getD "path" (.str "")) ++ s!": {text}")
    | other => other

/-- `_verify_manifest_artifacts`. -/
def verifyManifestArtifacts (root : FileTree String) (manifest : Json F)
    (allowFinalReport : Bool := false) : Except EvidenceFault (List (String × String)) :=
  match manifest.get? "artifacts" with
  | some (.array artifacts) => artifacts.foldlM (verifyEntry host root allowFinalReport) []
  | _ => .error (.integrityError "manifest has no artifact list")

/-- `_verify_input_evidence_full`. -/
def verifyInputEvidenceFull (root : FileTree String) :
    Except EvidenceFault (String × List (String × String)) := do
  let (manifest, manifestBytes) ← loadJsonBytes host root inputManifestName
  requireSupportedVersion manifest "input manifest"
  require ((manifest.getD "manifest_kind" .null).same (.str "input_evidence") = true)
    (.integrityError "wrong manifest kind for input evidence")
  let verified ← verifyManifestArtifacts host root manifest
  pure (host.sha256Hex manifestBytes, verified)

/-- `bool(value)`. -/
def truthy : Json F → Bool
  | .null => false
  | .bool value => value
  | .int value => value != 0
  | .float value => !JsonFloat.sameInt value 0
  | .str value => value != ""
  | .array items => !items.isEmpty
  | .object fields => !fields.isEmpty

/-- The hashes of a verified bundle. -/
structure VerifiedBundle where
  inputEvidenceManifestSha256 : String
  finalEvidenceManifestSha256 : String
  finalReportSha256 : String
  finalizationMarkerSha256 : String
  deriving DecidableEq, Repr

/-- `_require_final_status`, of a marker. -/
def requireFinalStatus (marker : Json F) : Except EvidenceFault Unit :=
  match marker.get? "final_status" with
  | some (.str status) =>
      refuse (status = "") (.integrityError "final_status must be a nonempty string")
  | _ => .error (.integrityError "final_status must be a nonempty string")

/-- The final manifest of the run, and its bytes. -/
def verifyFinalManifest (root : FileTree String) (runId : Json F) :
    Except EvidenceFault ByteArray := do
  let (manifest, manifestBytes) ← loadJsonBytes host root finalManifestName
  requireSupportedVersion manifest "final manifest"
  require ((manifest.getD "manifest_kind" .null).same (.str "final_evidence") = true)
    (.integrityError "wrong manifest kind for final evidence")
  require ((manifest.getD "run_id" .null).same runId = true)
    (.integrityError "final manifest run_id differs (cross-run)")
  let _ ← verifyManifestArtifacts host root manifest true
  pure manifestBytes

/-- The marker of the run, and its bytes. -/
def verifyMarker (root : FileTree String) (runId : Json F) (manifestSha : String) :
    Except EvidenceFault (Json F × ByteArray) := do
  let (marker, markerBytes) ← loadJsonBytes host root markerName
  requireSupportedVersion marker "finalization marker"
  requireFinalStatus marker
  require ((marker.getD "marker_kind" .null).same (.str "detached_finalization_marker") = true)
    (.integrityError "missing detached finalization marker")
  require ((marker.getD "run_id" .null).same runId = true)
    (.integrityError "marker run_id differs (cross-run)")
  require ((marker.getD "final_evidence_manifest_sha256" .null).same (.str manifestSha) = true)
    (.integrityError "marker does not bind the final manifest (hash mismatch)")
  checkNoSelfHash markerBytes (host.sha256Hex markerBytes) markerName
  pure (marker, markerBytes)

/-- The final report of the run, bound to the marker and to the input manifest. -/
def verifyReport (root : FileTree String) (runId marker : Json F)
    (inputManifestSha manifestSha : String) : Except EvidenceFault ByteArray := do
  let (report, reportBytes) ← loadJsonBytes host root finalReportName
  requireSupportedVersion report "final report"
  requireReportRecordVersions report
  requireRunnerVersion report
  require ((marker.getD "final_report_sha256" .null).same
      (.str (host.sha256Hex reportBytes)) = true)
    (.integrityError "marker does not bind the final report (hash mismatch)")
  refuse (Contains reportBytes manifestSha)
    (.circularError "final report contains the final-manifest hash (circular)")
  require ((report.getD "run_id" .null).same runId = true)
    (.integrityError "final report run_id differs (cross-run)")
  let binding := report.getD "run_evidence_binding" (.object [])
  require (binding.isObject = true) .attributeError
  let boundInputSha := binding.getD "input_evidence_manifest_sha256" .null
  require (truthy boundInputSha = true)
    (.integrityError "final report lacks the stage-A input-evidence binding")
  require (boundInputSha.same (.str inputManifestSha) = true)
    (.integrityError ("final report's input_evidence_manifest_sha256 does not match the " ++
      "verified stage-A input manifest (stage-A substitution)"))
  pure reportBytes

/-- `verify_final_bundle`. -/
def verifyFinalBundle (root : FileTree String) : Except EvidenceFault VerifiedBundle := do
  let (inputManifest, _) ← loadJsonBytes host root inputManifestName
  let (inputManifestSha, _) ← verifyInputEvidenceFull host root
  let runId := inputManifest.getD "run_id" .null
  require (truthy runId = true) (.integrityError "input manifest has no run_id")
  let manifestBytes ← verifyFinalManifest host root runId
  let manifestSha := host.sha256Hex manifestBytes
  let (marker, markerBytes) ← verifyMarker host root runId manifestSha
  let reportBytes ← verifyReport host root runId marker inputManifestSha manifestSha
  pure ⟨inputManifestSha, manifestSha, host.sha256Hex reportBytes, host.sha256Hex markerBytes⟩

end Verify

end Aegis.Evidence
