/-
# Evidence.Verified — what an accepted bundle holds

Each function of the verifier accepts exactly when its checks hold:
`EntryChecked` for an entry of a manifest, `Documents.Verified` for the four
documents of a bundle. The proofs about bundles use these statements in both
directions and no longer run the verifier.
-/
import Aegis.Evidence.Verifier

namespace Aegis.Evidence

open Aegis.Lib
open Aegis.Lib.Guarded

set_option autoImplicit false

section Verified

variable {F : Type} [JsonFloat F] {host : Host F} {root : FileTree String}

theorem loadJsonBytes_eq_ok {name : String} {value : Json F} {content : ByteArray} :
    loadJsonBytes host root name = .ok (value, content) ↔
      (root (host.key name)).content = some content ∧ loads content = some value ∧
        value.isObject = true := by
  have parsed : ∀ held : ByteArray,
      loadJsonBytes.parsed host name held = .ok (value, content) ↔
        held = content ∧ loads content = some value ∧ value.isObject = true := by
    intro held
    unfold loadJsonBytes.parsed
    cases read : loads (F := F) held with
    | none =>
        refine ⟨fun done => (by cases done), ?_⟩
        rintro ⟨rfl, found, -⟩
        rw [read] at found
        cases found
    | some found =>
        simp only
        split
        · rename_i object
          rw [Except.ok.injEq, Prod.mk.injEq]
          constructor
          · rintro ⟨rfl, rfl⟩
            exact ⟨rfl, read, object⟩
          · rintro ⟨rfl, same, -⟩
            exact ⟨Option.some.inj (read.symm.trans same), rfl⟩
        · rename_i noObject
          refine ⟨fun done => (by cases done), ?_⟩
          rintro ⟨rfl, same, object⟩
          obtain rfl := Option.some.inj (read.symm.trans same)
          exact absurd object noObject
  unfold loadJsonBytes
  split <;> rename_i at_ <;> rw [at_] <;> simp [Place.content, parsed]

/-! ## Manifest entries -/

/-- The entry is accepted for the artifact at this path with this content. -/
structure EntryChecked (host : Host F) (root : FileTree String) (allowFinalReport : Bool)
    (entry : Json F) (found : String × ByteArray) : Prop where
  isObject : entry.isObject = true
  path : validateArtifactPath host (entry.getD "path" (.str "")) allowFinalReport = .ok found.1
  noNul : ¬ ∃ part ∈ segments found.1, '\x00' ∈ part.toList
  stored : root (host.key found.1) = .file found.2
  size : (Json.int found.2.size).same (entry.getD "bytes" .null) = true
  digest : entry.getD "sha256" .null = .str (host.sha256Hex found.2)
  notCircular : ¬ Contains found.2 (host.sha256Hex found.2)
  metadata : ∀ metaKey ∈ metadataKeys, (entry.get? metaKey).isSome = true

omit [JsonFloat F] in
theorem artifactContent_eq_ok {rawPath : Json F} {path : String} {content : ByteArray} :
    artifactContent host root rawPath path = .ok content ↔
      (¬ ∃ part ∈ segments path, '\x00' ∈ part.toList) ∧ root (host.key path) = .file content := by
  unfold artifactContent
  simp only [bind_eq_ok, refuse_eq_ok, exists_const]
  apply and_congr_right
  intro _
  split <;> rename_i at_ <;> rw [at_] <;> simp

theorem checkNoSelfHash_eq_ok {content : ByteArray} {ownHash label : String} {done : Unit} :
    checkNoSelfHash content ownHash label = .ok done ↔ ¬ Contains content ownHash :=
  refuse_eq_ok

variable {allowFinalReport : Bool}

theorem verifyEntry_eq_ok {verified later : List (String × String)} {entry : Json F} :
    verifyEntry host root allowFinalReport verified entry = .ok later ↔
      ∃ found, EntryChecked host root allowFinalReport entry found ∧
        found.1 ∉ verified.map Prod.fst ∧
        later = verified ++ [(found.1, host.sha256Hex found.2)] := by
  unfold verifyEntry
  simp only [bind_eq_ok, require_eq_ok, refuse_eq_ok, mapError_eq_ok, artifactContent_eq_ok,
    Json.str_same_iff, checkNoSelfHash_eq_ok, forM_eq_ok, pure_eq_ok]
  constructor
  · rintro ⟨_, object, path, valid, _, new, content, ⟨noNul, stored⟩, _, size, _, digest, _,
      notCircular, _, metadata, rfl⟩
    exact ⟨(path, content), ⟨object, valid, noNul, stored, size, digest, notCircular, metadata⟩,
      new, rfl⟩
  · rintro ⟨⟨path, content⟩, checked, new, rfl⟩
    exact ⟨⟨⟩, checked.isObject, path, checked.path, ⟨⟩, new, content,
      ⟨checked.noNul, checked.stored⟩, ⟨⟩, checked.size, ⟨⟩, checked.digest, ⟨⟩,
      checked.notCircular, ⟨⟩, checked.metadata, rfl⟩

/-- The loop accepts entries with distinct paths that are accepted one by one. -/
theorem verifyEntries_eq_ok {entries : List (Json F)} {verified later : List (String × String)}
    (distinct : (verified.map Prod.fst).Nodup) :
    entries.foldlM (verifyEntry host root allowFinalReport) verified = .ok later ↔
      ∃ found, List.Forall₂ (EntryChecked host root allowFinalReport) entries found ∧
        (verified.map Prod.fst ++ found.map Prod.fst).Nodup ∧
        later = verified ++ found.map fun artifact => (artifact.1, host.sha256Hex artifact.2) := by
  induction entries generalizing verified with
  | nil =>
      rw [List.foldlM_nil, pure_eq_ok]
      constructor
      · rintro rfl
        exact ⟨[], .nil, by simpa using distinct, by simp⟩
      · rintro ⟨found, checked, -, rfl⟩
        cases checked
        simp
  | cons entry entries ih =>
      simp only [List.foldlM_cons, bind_eq_ok, verifyEntry_eq_ok]
      constructor
      · rintro ⟨_, ⟨first, checked, new, rfl⟩, folded⟩
        have more : ((verified ++ [(first.1, host.sha256Hex first.2)]).map Prod.fst).Nodup := by
          rw [List.map_append, List.nodup_append]
          refine ⟨distinct, List.nodup_singleton _, ?_⟩
          intro path member other single same
          obtain rfl := List.mem_singleton.mp single
          exact new (same ▸ member)
        obtain ⟨found, rest, distinct', rfl⟩ := (ih more).mp folded
        refine ⟨first :: found, .cons checked rest, ?_, by simp⟩
        simpa using distinct'
      · rintro ⟨_, checked, distinct', rfl⟩
        cases checked with
        | @cons _ first _ found checked rest =>
            have parts := List.nodup_append.mp distinct'
            have new : first.1 ∉ verified.map Prod.fst := fun member =>
              parts.2.2 _ member _ (List.mem_cons_self ..) rfl
            have split : ((verified ++ [(first.1, host.sha256Hex first.2)]).map Prod.fst ++
                found.map Prod.fst).Nodup := by simpa using distinct'
            exact ⟨_, ⟨first, checked, new, rfl⟩,
              (ih (List.nodup_append.mp split).1).mpr ⟨found, rest, split, by simp⟩⟩

theorem verifyManifestArtifacts_eq_ok {manifest : Json F} {later : List (String × String)} :
    verifyManifestArtifacts host root manifest allowFinalReport = .ok later ↔
      ∃ entries found, manifest.get? "artifacts" = some (.array entries) ∧
        List.Forall₂ (EntryChecked host root allowFinalReport) entries found ∧
        (found.map Prod.fst).Nodup ∧
        later = found.map fun artifact => (artifact.1, host.sha256Hex artifact.2) := by
  unfold verifyManifestArtifacts
  split
  · rename_i entries listed
    have fresh : (([] : List (String × String)).map Prod.fst).Nodup := List.nodup_nil
    rw [verifyEntries_eq_ok fresh]
    simp [listed]
  · rename_i unlisted
    refine ⟨fun done => (by cases done), ?_⟩
    rintro ⟨entries, -, listed, -⟩
    exact absurd listed (unlisted entries)

/-- Every listed entry was checked. -/
theorem checked_of_mem {root : FileTree String} {entries : List (Json F)}
    {found : List (String × ByteArray)}
    (checked : List.Forall₂ (EntryChecked host root allowFinalReport) entries found)
    {entry : Json F} (member : entry ∈ entries) :
    ∃ artifact, EntryChecked host root allowFinalReport entry artifact := by
  induction checked with
  | nil => cases member
  | cons first _ ih =>
      rcases List.mem_cons.mp member with rfl | later
      · exact ⟨_, first⟩
      · exact ih later

omit [JsonFloat F] in
theorem validateArtifactPath_eq_ok {relativePath : Json F} {path : String} :
    validateArtifactPath host relativePath allowFinalReport = .ok path ↔
      normalizeRelativePath host relativePath = .ok path ∧
        host.key path ∉ (reservedArtifactNames allowFinalReport).map host.key := by
  unfold validateArtifactPath
  cases normalized : normalizeRelativePath host relativePath with
  | error text => simp
  | ok found =>
      simp only
      split
      · rename_i reserved
        refine ⟨fun done => (by cases done), ?_⟩
        rintro ⟨same, free⟩
        exact absurd reserved (Except.ok.inj same ▸ free)
      · rename_i free
        constructor
        · rintro ⟨⟩
          exact ⟨rfl, free⟩
        · rintro ⟨same, -⟩
          rw [Except.ok.inj same]

/-! ## Documents -/

/-- The documents of a bundle, each with its bytes. -/
structure Documents (F : Type) where
  inputManifest : Json F
  inputBytes : ByteArray
  finalManifest : Json F
  finalBytes : ByteArray
  marker : Json F
  markerBytes : ByteArray
  report : Json F
  reportBytes : ByteArray

namespace Documents

/-- The run id of the bundle. -/
def runId (documents : Documents F) : Json F := documents.inputManifest.getD "run_id" .null

/-- The input manifest to which the report is bound. -/
def boundInputSha (documents : Documents F) : Json F :=
  (documents.report.getD "run_evidence_binding" (.object [])).getD
    "input_evidence_manifest_sha256" .null

/-- What the verifier returns. -/
def hashes (host : Host F) (documents : Documents F) : VerifiedBundle where
  inputEvidenceManifestSha256 := host.sha256Hex documents.inputBytes
  finalEvidenceManifestSha256 := host.sha256Hex documents.finalBytes
  finalReportSha256 := host.sha256Hex documents.reportBytes
  finalizationMarkerSha256 := host.sha256Hex documents.markerBytes

/-- The documents that stand below the root. -/
structure Loaded (host : Host F) (root : FileTree String) (documents : Documents F) : Prop where
  input : loadJsonBytes host root inputManifestName =
    .ok (documents.inputManifest, documents.inputBytes)
  final : loadJsonBytes host root finalManifestName =
    .ok (documents.finalManifest, documents.finalBytes)
  marker : loadJsonBytes host root markerName = .ok (documents.marker, documents.markerBytes)
  report : loadJsonBytes host root finalReportName =
    .ok (documents.report, documents.reportBytes)

/-- What each document says of itself. -/
structure WellFormed (documents : Documents F) : Prop where
  inputVersion : requireSupportedVersion documents.inputManifest "input manifest" = .ok ()
  inputKind : documents.inputManifest.getD "manifest_kind" .null = .str "input_evidence"
  finalVersion : requireSupportedVersion documents.finalManifest "final manifest" = .ok ()
  finalKind : documents.finalManifest.getD "manifest_kind" .null = .str "final_evidence"
  markerVersion : requireSupportedVersion documents.marker "finalization marker" = .ok ()
  markerStatus : requireFinalStatus documents.marker = .ok ()
  markerKind : documents.marker.getD "marker_kind" .null = .str "detached_finalization_marker"
  reportVersion : requireSupportedVersion documents.report "final report" = .ok ()
  recordVersions : requireReportRecordVersions documents.report = .ok ()
  runnerVersion : requireRunnerVersion documents.report = .ok ()

/-- One run id in all four documents. -/
structure SameRun (documents : Documents F) : Prop where
  truthy : truthy documents.runId = true
  final : (documents.finalManifest.getD "run_id" .null).same documents.runId = true
  marker : (documents.marker.getD "run_id" .null).same documents.runId = true
  report : (documents.report.getD "run_id" .null).same documents.runId = true

/-- The hashes by which the documents name each other. -/
structure Bound (host : Host F) (documents : Documents F) : Prop where
  final : documents.marker.getD "final_evidence_manifest_sha256" .null =
    .str (host.sha256Hex documents.finalBytes)
  markerNotCircular : ¬ Contains documents.markerBytes (host.sha256Hex documents.markerBytes)
  report : documents.marker.getD "final_report_sha256" .null =
    .str (host.sha256Hex documents.reportBytes)
  reportNotCircular : ¬ Contains documents.reportBytes (host.sha256Hex documents.finalBytes)
  binding : (documents.report.getD "run_evidence_binding" (.object [])).isObject = true
  input : documents.boundInputSha = .str (host.sha256Hex documents.inputBytes)

/-- The documents of an accepted bundle. -/
structure Verified (host : Host F) (root : FileTree String) (documents : Documents F) : Prop where
  loaded : documents.Loaded host root
  wellFormed : documents.WellFormed
  sameRun : documents.SameRun
  bound : documents.Bound host
  inputArtifacts : ∃ verified,
    verifyManifestArtifacts host root documents.inputManifest = .ok verified
  finalArtifacts : ∃ verified,
    verifyManifestArtifacts host root documents.finalManifest true = .ok verified

end Documents

theorem verifyInputEvidenceFull_eq_ok {done : String × List (String × String)} :
    verifyInputEvidenceFull host root = .ok done ↔
      ∃ manifest bytes, loadJsonBytes host root inputManifestName = .ok (manifest, bytes) ∧
        requireSupportedVersion manifest "input manifest" = .ok () ∧
        manifest.getD "manifest_kind" .null = .str "input_evidence" ∧
        verifyManifestArtifacts host root manifest = .ok done.2 ∧
        done.1 = host.sha256Hex bytes := by
  obtain ⟨sha, verified⟩ := done
  unfold verifyInputEvidenceFull
  simp only [bind_eq_ok, require_eq_ok, pure_eq_ok, Json.same_str_iff, Prod.exists, Prod.mk.injEq]
  constructor
  · rintro ⟨manifest, bytes, loaded, _, version, _, kind, _, artifacts, rfl, rfl⟩
    exact ⟨manifest, bytes, loaded, version, kind, artifacts, rfl⟩
  · rintro ⟨manifest, bytes, loaded, version, kind, artifacts, rfl⟩
    exact ⟨manifest, bytes, loaded, (), version, (), kind, verified, artifacts, rfl, rfl⟩

theorem verifyFinalManifest_eq_ok {runId : Json F} {bytes : ByteArray} :
    verifyFinalManifest host root runId = .ok bytes ↔
      ∃ manifest, loadJsonBytes host root finalManifestName = .ok (manifest, bytes) ∧
        requireSupportedVersion manifest "final manifest" = .ok () ∧
        manifest.getD "manifest_kind" .null = .str "final_evidence" ∧
        (manifest.getD "run_id" .null).same runId = true ∧
        ∃ verified, verifyManifestArtifacts host root manifest true = .ok verified := by
  unfold verifyFinalManifest
  simp only [bind_eq_ok, require_eq_ok, pure_eq_ok, Json.same_str_iff, Prod.exists]
  constructor
  · rintro ⟨manifest, _, loaded, _, version, _, kind, _, run, verified, artifacts, rfl⟩
    exact ⟨manifest, loaded, version, kind, run, verified, artifacts⟩
  · rintro ⟨manifest, loaded, version, kind, run, verified, artifacts⟩
    exact ⟨manifest, bytes, loaded, (), version, (), kind, (), run, verified, artifacts, rfl⟩

theorem verifyMarker_eq_ok {runId marker : Json F} {manifestSha : String} {bytes : ByteArray} :
    verifyMarker host root runId manifestSha = .ok (marker, bytes) ↔
      loadJsonBytes host root markerName = .ok (marker, bytes) ∧
        requireSupportedVersion marker "finalization marker" = .ok () ∧
        requireFinalStatus marker = .ok () ∧
        marker.getD "marker_kind" .null = .str "detached_finalization_marker" ∧
        (marker.getD "run_id" .null).same runId = true ∧
        marker.getD "final_evidence_manifest_sha256" .null = .str manifestSha ∧
        ¬ Contains bytes (host.sha256Hex bytes) := by
  unfold verifyMarker
  simp only [bind_eq_ok, require_eq_ok, pure_eq_ok, Json.same_str_iff, Prod.exists,
    checkNoSelfHash_eq_ok, Prod.mk.injEq]
  constructor
  · rintro ⟨_, _, loaded, _, version, _, status, _, kind, _, run, _, final, _, free, rfl, rfl⟩
    exact ⟨loaded, version, status, kind, run, final, free⟩
  · rintro ⟨loaded, version, status, kind, run, final, free⟩
    exact ⟨marker, bytes, loaded, (), version, (), status, (), kind, (), run, (), final, (), free,
      rfl, rfl⟩

theorem verifyReport_eq_ok {runId marker : Json F} {inputSha manifestSha : String}
    {bytes : ByteArray} :
    verifyReport host root runId marker inputSha manifestSha = .ok bytes ↔
      ∃ report, loadJsonBytes host root finalReportName = .ok (report, bytes) ∧
        requireSupportedVersion report "final report" = .ok () ∧
        requireReportRecordVersions report = .ok () ∧ requireRunnerVersion report = .ok () ∧
        marker.getD "final_report_sha256" .null = .str (host.sha256Hex bytes) ∧
        ¬ Contains bytes manifestSha ∧ (report.getD "run_id" .null).same runId = true ∧
        (report.getD "run_evidence_binding" (.object [])).isObject = true ∧
        truthy ((report.getD "run_evidence_binding" (.object [])).getD
          "input_evidence_manifest_sha256" .null) = true ∧
        (report.getD "run_evidence_binding" (.object [])).getD
          "input_evidence_manifest_sha256" .null = .str inputSha := by
  unfold verifyReport
  simp only [bind_eq_ok, require_eq_ok, refuse_eq_ok, pure_eq_ok, Json.same_str_iff, Prod.exists]
  constructor
  · rintro ⟨report, _, loaded, _, version, _, records, _, runner, _, digest, _, free, _, run, _,
      binding, _, present, _, input, rfl⟩
    exact ⟨report, loaded, version, records, runner, digest, free, run, binding, present, input⟩
  · rintro ⟨report, loaded, version, records, runner, digest, free, run, binding, present, input⟩
    exact ⟨report, bytes, loaded, (), version, (), records, (), runner, (), digest, (), free, (),
      run, (), binding, (), present, (), input, rfl⟩

/-- **A bundle is accepted exactly when its documents verify.** -/
theorem verifyFinalBundle_eq_ok {bundle : VerifiedBundle} :
    verifyFinalBundle host root = .ok bundle ↔
      ∃ documents : Documents F, documents.Verified host root ∧ bundle = documents.hashes host := by
  unfold verifyFinalBundle
  simp only [bind_eq_ok, require_eq_ok, pure_eq_ok, Prod.exists, verifyInputEvidenceFull_eq_ok,
    verifyFinalManifest_eq_ok, verifyMarker_eq_ok, verifyReport_eq_ok]
  constructor
  · rintro ⟨input, inputBytes, loaded, _, verified, ⟨_, _, again, inputVersion, inputKind,
      inputArtifacts, rfl⟩, _, present, finalBytes, ⟨final, finalLoaded, finalVersion, finalKind,
      finalRun, finalArtifacts⟩, marker, markerBytes, ⟨markerLoaded, markerVersion, markerStatus,
      markerKind, markerRun, binds, markerFree⟩, reportBytes, ⟨report, reportLoaded, reportVersion,
      records, runner, digest, reportFree, reportRun, binding, -, inputBound⟩, rfl⟩
    rw [loaded] at again
    obtain ⟨rfl, rfl⟩ : input = _ ∧ inputBytes = _ := by simpa using again
    exact ⟨⟨input, inputBytes, final, finalBytes, marker, markerBytes, report, reportBytes⟩,
      ⟨⟨loaded, finalLoaded, markerLoaded, reportLoaded⟩,
        ⟨inputVersion, inputKind, finalVersion, finalKind, markerVersion, markerStatus, markerKind,
          reportVersion, records, runner⟩,
        ⟨present, finalRun, markerRun, reportRun⟩,
        ⟨binds, markerFree, digest, reportFree, binding, inputBound⟩,
        ⟨verified, inputArtifacts⟩, finalArtifacts⟩, rfl⟩
  · rintro ⟨documents, ⟨loaded, wellFormed, sameRun, bound, ⟨verified, inputArtifacts⟩,
      finalArtifacts⟩, rfl⟩
    have present : truthy documents.boundInputSha = true := by
      rw [bound.input]
      simpa [truthy] using host.sha256Hex_nonempty documents.inputBytes
    exact ⟨_, _, loaded.input, _, verified, ⟨_, _, loaded.input, wellFormed.inputVersion,
      wellFormed.inputKind, inputArtifacts, rfl⟩, (), sameRun.truthy, _,
      ⟨_, loaded.final, wellFormed.finalVersion, wellFormed.finalKind, sameRun.final,
        finalArtifacts⟩, _, _,
      ⟨loaded.marker, wellFormed.markerVersion, wellFormed.markerStatus, wellFormed.markerKind,
        sameRun.marker, bound.final, bound.markerNotCircular⟩, _,
      ⟨_, loaded.report, wellFormed.reportVersion, wellFormed.recordVersions,
        wellFormed.runnerVersion, bound.report, bound.reportNotCircular, sameRun.report,
        bound.binding, present, bound.input⟩, rfl⟩

end Verified

end Aegis.Evidence
