/-
# Evidence.FinalizedBundles — finalized bundles that the verifier accepts

The two stages keep separate lists of the paths they have seen, so stage B can
write an artifact over one of stage A. `finalized_accepted_iff` is the exact
condition under which the verifier accepts what both stages finalized.
-/
import Aegis.Evidence.Acceptance
import Aegis.Budget.Restart

namespace Aegis.Evidence

open Aegis.Lib
open Aegis.Lib.Guarded
open Finalized (Agree)

set_option autoImplicit false

section Bundles

variable {F : Type} [JsonFloat F] {host : Host F}

/-- Two stages that succeed one after the other finalize a bundle. -/
theorem exists_finalized {inputNow finalNow : Moment → String} {writer : EvidenceWriter}
    {artifacts : List EvidenceArtifact} {request : FinalRequest F} {middle root : FileTree String}
    {input : InputEvidenceBundle} {final : FinalEvidenceBundle}
    (stageA : finalizeInputEvidence host inputNow writer FileTree.empty artifacts =
      .ok (middle, input))
    (stageB : finalizeFinalBundle host finalNow writer middle request = .ok (root, final))
    (given : request.inputManifestSha256 = input.inputEvidenceManifestSha256) :
    ∃ finalized : Finalized host finalNow writer request final root,
      finalized.placements.map Placement.artifact = artifacts ++ request.artifacts ∧
      finalized.documents.hashes host = ⟨input.inputEvidenceManifestSha256,
        final.finalEvidenceManifestSha256, final.finalReportSha256,
        final.finalizationMarkerSha256⟩ := by
  obtain ⟨inputs, rfl, inputsDistinct, firstWrites, inputSha⟩ := finalizeInput_ok stageA
  obtain ⟨finals, entry, report, listed, finalsDistinct, checked, path, bytes, digest, reportSha,
    finalSha, notCircular, status, markerSha, lastWrites⟩ := finalizeFinal_ok stageB
  let finalized : Finalized host finalNow writer request final root :=
    ⟨inputs, finals, entry, report, inputsDistinct, finalsDistinct, given.trans inputSha, checked,
      path, bytes, digest, reportSha, finalSha, notCircular, status, markerSha,
      firstWrites.append lastWrites⟩
  refine ⟨finalized, ?_, ?_⟩
  · rw [← listed, ← List.map_append]
    rfl
  · rw [inputSha, finalSha, reportSha, markerSha]
    rfl

/-! ## A sample -/

theorem bytes_ofList (text : List Char) :
    (String.ofList text).toUTF8.data.toList = text.flatMap String.utf8EncodeChar := by
  show (String.ofList text).toByteArray.data.toList = _
  rw [String.toByteArray_ofList, List.utf8Encode, List.toList_data_toByteArray]

/-- A digest that keeps everything, behind a control character. -/
def markedDigest (bytes : ByteArray) : String :=
  String.ofList ('\x01' :: (Budget.plainDigest bytes).toList)

theorem markedDigest_nonempty (bytes : ByteArray) : markedDigest bytes ≠ "" := by
  intro empty
  have chars := congrArg String.toList empty
  rw [markedDigest, String.toList_ofList] at chars
  cases chars

theorem markedDigest_injective : Function.Injective markedDigest := by
  intro left right same
  have chars := String.ofList_injective same
  exact Budget.plainDigest_injective (String.toList_injective (List.cons.inj chars).2)

/-- A canonical document holds no control character, so no such digest. -/
theorem not_contains_markedDigest {value : Json F} (finite : value.finite = true)
    (bytes : ByteArray) : ¬ Contains (canonicalBytes value) (markedDigest bytes) := by
  intro contained
  have first : (1 : UInt8) ∈ (markedDigest bytes).toUTF8.data.toList := by
    rw [markedDigest, bytes_ofList, List.flatMap_cons]
    exact List.mem_append_left _ (by decide)
  have held := contained.subset first
  unfold canonicalBytes at held
  rw [bytes_ofList, List.mem_flatMap] at held
  obtain ⟨c, member, encoded⟩ := held
  obtain ⟨least, most⟩ := Json.printable_canonical value finite c member
  have single : String.utf8EncodeChar c = [c.toNat.toUInt8] := by
    have small : c.val.toNat ≤ 0x7f := by
      have : c.toNat = c.val.toNat := rfl
      omega
    unfold String.utf8EncodeChar
    rw [if_pos small]
    rfl
  rw [single, List.mem_singleton] at encoded
  have one := congrArg UInt8.toNat encoded
  rw [Nat.toUInt8_eq, UInt8.toNat_ofNat'] at one
  have : (1 : UInt8).toNat = 1 := rfl
  omega

end Bundles

open Budget (ZeroFloat)

def sampleHost : Host ZeroFloat where
  sha256Hex := markedDigest
  sha256Hex_nonempty := markedDigest_nonempty
  normcase := id
  documents_apart := by decide
  posixEvidenceAtomic := true
  writable _ := true
  expiration _ _ := .at_ "2026-01-31T00:00:00Z"
  repr _ := "value"
  str _ := "value"
  decodeError _ := "invalid"

def sampleNow : Moment → String := fun _ => "2026-01-01T00:00:00Z"

def sampleWriter : EvidenceWriter := ⟨"run-1", by decide⟩

/-- A write to a name directly below the root. -/
theorem write_leaf {root : FileTree String} {name : String} (content : ByteArray)
    (normal : targetOf sampleHost name = .ok name ∧ segments name = [name])
    (plain : '\x00' ∉ name.toList) (top : root [] = .directory)
    (temp : root [".tmp-evidence-" ++ name] = .missing)
    (free : root [name] ≠ .directory) :
    atomicWrite sampleHost root name content = .ok (root.write [name] content) := by
  obtain ⟨target, leaf⟩ := normal
  have key : sampleHost.key name = [name] := by
    rw [Host.key, leaf]
    rfl
  simp only [atomicWrite, createTemp, bind_eq_ok, require_eq_ok, refuse_eq_ok, pure_eq_ok]
  refine ⟨name, target, (), ?_, (), ?_, (), ⟨(), ?_, ?_⟩, (), ?_, (), ?_, ?_⟩
  · rw [top]
  · rw [leaf]
    rfl
  · rw [leaf]
    exact plain
  · rw [leaf]
    rintro ⟨-, held⟩
    have missing : root ((([name].dropLast) ++ [".tmp-evidence-" ++ [name].getLastD ""]).map
        sampleHost.normcase) = .missing := temp
    rw [missing] at held
    cases held
  · rw [key]
    intro directory
    cases place : root [name] <;> rw [place] at directory free <;> simp_all
  · rfl
  · rw [key]

def sampleArtifact (path text : String) : EvidenceArtifact where
  relativePath := path
  content := text.toUTF8

def sampleEntry (path : String) (content : ByteArray) : ManifestEntry where
  path := path
  bytes := content.size
  sha256 := markedDigest content
  sensitivity := "INTERNAL"
  redactionState := "sanitized_by_construction"
  retentionClass := "days_30"
  createdAt := "2026-01-01T00:00:00Z"
  expirationAt := "2026-01-31T00:00:00Z"
  accessPolicyRef := "BER-DEC-006-build-evidence-handling"
  preserveOnFailure := true

def sampleInputBytes : ByteArray :=
  manifestBytes ZeroFloat "input_evidence" sampleWriter [sampleEntry "a.txt" "one".toUTF8]

/-- The root after stage A. -/
def sampleMiddle : FileTree String :=
  (FileTree.empty.write ["a.txt"] "one".toUTF8).write [inputManifestName] sampleInputBytes

theorem sample_names : ∀ name ∈ "a.txt" :: "b.txt" :: documentNames,
    targetOf sampleHost name = .ok name ∧ segments name = [name] := by
  intro name member
  have names : ∀ name ∈ "a.txt" :: "b.txt" :: documentNames, segments name = [name] ∧
      (normalizeRelativePath sampleHost (.str name)).toOption = some name := by
    decide +kernel
  obtain ⟨leaf, normal⟩ := names name member
  refine ⟨mapError_eq_ok.mpr ?_, leaf⟩
  cases done : normalizeRelativePath sampleHost (.str name) with
  | error text =>
      rw [done] at normal
      cases normal
  | ok found =>
      rw [done] at normal
      rw [Option.some.inj normal]

/-- What the sample's texts are, apart from the names that normalise to themselves. -/
theorem sample_texts :
    (¬ Contains "one".toUTF8 (markedDigest "one".toUTF8) ∧
      ¬ Contains "two".toUTF8 (markedDigest "two".toUTF8) ∧ "one".toUTF8 ≠ "two".toUTF8) ∧
    (hasPolicyClaim sampleHost FileTree.empty = .ok false ∧
      (Json.str "a.txt" : Json ZeroFloat).same (.str stageAReceipt) = false) ∧
    (sampleHost.key stageAReceipt = ["policy", "stage-a.json"] ∧
      sampleHost.key stageBReceipt = ["policy", "stage-b.json"]) ∧
    (stageAReceipt ≠ "a.txt" ∧ stageBReceipt ≠ "a.txt" ∧ stageBReceipt ≠ "b.txt") ∧
    forwardSlashes "a.txt" = "a.txt" ∧ forwardSlashes "b.txt" = "b.txt" := by
  decide +kernel

theorem sample_key {name : String} (known : name ∈ "a.txt" :: "b.txt" :: documentNames) :
    sampleHost.key name = [name] := by
  rw [Host.key, (sample_names name known).2]
  rfl

theorem write_sampleArtifact {stage : Stage} {path text : String}
    (known : path ∈ "a.txt" :: "b.txt" :: documentNames)
    (plain : path ∉ documentNames ∧ '\x00' ∉ path.toList) (new : path ∉ stage.seen)
    (free : ¬ Contains text.toUTF8 (markedDigest text.toUTF8)) (top : stage.root [] = .directory)
    (temp : stage.root [".tmp-evidence-" ++ path] = .missing)
    (leaf : stage.root [path] ≠ .directory) :
    writeArtifact sampleHost sampleNow stage (sampleArtifact path text) =
      .ok ⟨stage.root.write [path] text.toUTF8,
        stage.entries ++ [sampleEntry path text.toUTF8], stage.seen ++ [path]⟩ := by
  have names := sample_names path known
  have valid : validateArtifactPath sampleHost (.str path) = .ok path := by
    refine validateArtifactPath_eq_ok.mpr ⟨mapError_eq_ok.mp names.1, ?_⟩
    intro reserved
    obtain ⟨name, member, same⟩ := List.mem_map.mp reserved
    have document : ∀ name ∈ reservedArtifactNames false, name ∈ documentNames := by decide
    have keys : [name] = [path] := by
      rw [Host.key, Host.key, documentNames_segments name (document name member), names.2] at same
      exact same
    exact plain.1 (List.singleton_inj.mp keys ▸ document name member)
  simp only [writeArtifact, bind_eq_ok, refuse_eq_ok, checkNoSelfHash_eq_ok, pure_eq_ok]
  exact ⟨path, valid, (), new, _, rfl, (), free, _,
    write_leaf _ names plain.2 top temp leaf, rfl⟩

theorem sample_stageA :
    finalizeInputEvidence sampleHost sampleNow sampleWriter FileTree.empty
      [sampleArtifact "a.txt" "one"] = .ok (sampleMiddle, ⟨markedDigest sampleInputBytes, 1⟩) := by
  obtain ⟨⟨free, -⟩, ⟨unclaimed, -⟩, -, ⟨other, -⟩, slashes, -⟩ := sample_texts
  have artifact : writeArtifact sampleHost sampleNow ⟨FileTree.empty, [], []⟩
      (sampleArtifact "a.txt" "one") = .ok ⟨FileTree.empty.write ["a.txt"] "one".toUTF8,
        [sampleEntry "a.txt" "one".toUTF8], ["a.txt"]⟩ :=
    write_sampleArtifact (by decide) (by decide) (by decide) free rfl rfl (fun same => by cases same)
  have unlisted : stageAReceipt ∉ [sampleArtifact "a.txt" "one"].map
      fun artifact => forwardSlashes artifact.relativePath := by
    simpa [sampleArtifact, slashes] using other
  have staged : writeArtifacts sampleHost sampleNow { root := FileTree.empty, seen := [] }
      [sampleArtifact "a.txt" "one"] = .ok ⟨FileTree.empty.write ["a.txt"] "one".toUTF8,
        [sampleEntry "a.txt" "one".toUTF8], ["a.txt"]⟩ := by
    rw [writeArtifacts, List.foldlM_cons, artifact]
    rfl
  have manifest : atomicWrite sampleHost (FileTree.empty.write ["a.txt"] "one".toUTF8)
      inputManifestName sampleInputBytes = .ok sampleMiddle :=
    write_leaf _ (sample_names _ (by decide)) (by decide) rfl rfl (fun same => by cases same)
  rw [finalizeInputEvidence]
  simp only [bind_eq_ok, refuse_eq_ok]
  exact ⟨(), unlisted, false, unclaimed, (), Bool.false_ne_true, _, staged, sampleMiddle, manifest,
    rfl⟩

theorem sampleInput_loaded : loadJsonBytes sampleHost sampleMiddle inputManifestName =
    .ok (manifestDocument "input_evidence" "run-1" [sampleEntry "a.txt" "one".toUTF8],
      sampleInputBytes) := by
  refine loadJsonBytes_eq_ok.mpr ⟨?_, loads_canonicalBytes (manifestDocument_isCanonical _ _ _),
    isObject_dict _⟩
  have key : sampleHost.key inputManifestName = [inputManifestName] := sample_key (by decide)
  have stands : sampleMiddle [inputManifestName] = .file sampleInputBytes :=
    FileTree.write_same _ _ _
  rw [key, stands]
  rfl

/-- The bundle of the sample claims no policy. -/
theorem sample_unclaimed : hasPolicyClaim sampleHost sampleMiddle = .ok false := by
  obtain ⟨-, ⟨-, other⟩, ⟨first, second⟩, -⟩ := sample_texts
  have final : sampleHost.key finalManifestName = [finalManifestName] := sample_key (by decide)
  have input : sampleHost.key inputManifestName = [inputManifestName] := sample_key (by decide)
  have noFirst : lexists sampleHost sampleMiddle stageAReceipt = false := by
    rw [lexists, first]
    rfl
  have noSecond : lexists sampleHost sampleMiddle stageBReceipt = false := by
    rw [lexists, second]
    rfl
  have noFinal : manifestClaims sampleHost sampleMiddle finalManifestName stageBReceipt =
      .ok false := by
    rw [manifestClaims, final]
    rfl
  have stands : sampleMiddle (sampleHost.key inputManifestName) = .file sampleInputBytes := by
    rw [input]
    exact FileTree.write_same _ _ _
  have noClaim : manifestClaims sampleHost sampleMiddle inputManifestName stageAReceipt =
      .ok false := by
    have path : ((sampleEntry "a.txt" "one".toUTF8).toJson : Json ZeroFloat).getD "path" .null =
        .str "a.txt" := toJson_path _ _
    rw [manifestClaims, stands, sampleInput_loaded]
    simp only [Except.bind, bind, manifestDocument_artifacts]
    show Except.ok ((_ && Json.same (((sampleEntry "a.txt" "one".toUTF8).toJson :
      Json ZeroFloat).getD "path" .null) _) || false) = _
    rw [path, other, Bool.and_false]
    rfl
  rw [hasPolicyClaim, hasStageAPolicyClaim, noFirst, noClaim, noSecond, noFinal]
  rfl

def sampleRequest (path text : String) : FinalRequest ZeroFloat where
  finalReport := [("schema_version", .str schemaVersion), ("run_id", .str "run-1"),
    ("runner_version", .str "1"), ("run_evidence_binding",
      .dict [("input_evidence_manifest_sha256", .str (markedDigest sampleInputBytes))])]
  artifacts := [sampleArtifact path text]
  inputManifestSha256 := markedDigest sampleInputBytes
  finalStatus := "COMPLETE"

theorem sampleReport_isCanonical (path text : String) :
    (Json.dict (sampleRequest path text).finalReport).IsCanonical := by
  apply Json.IsCanonical.dict
  have binding : (Json.dict [("input_evidence_manifest_sha256",
      .str (markedDigest sampleInputBytes))] : Json ZeroFloat).IsCanonical := by
    apply Json.IsCanonical.dict
    simp [Json.IsCanonical.str]
  simp [sampleRequest, Json.IsCanonical.str, binding]

theorem sampleReport_valid (path text : String) :
    validatedFinalReportBytes sampleHost (sampleRequest path text).finalReport "run-1"
      (markedDigest sampleInputBytes) =
        .ok (canonicalBytes (Json.dict (sampleRequest path text).finalReport)) := by
  have canonical := sampleReport_isCanonical path text
  set report := Json.dict (sampleRequest path text).finalReport with named
  have fields : report.getD "schema_version" .null = .str schemaVersion ∧
      report.getD "attempts" (.array []) = .array [] ∧
      report.getD "aggregates" (.array []) = .array [] ∧
      report.get? "runner_version" = some (.str "1") ∧
      report.getD "run_id" .null = .str "run-1" ∧
      report.get? "run_evidence_binding" = some (.dict [("input_evidence_manifest_sha256",
        .str (markedDigest sampleInputBytes))]) := by
    refine ⟨?_, ?_, ?_, ?_, ?_, ?_⟩ <;>
      simp [named, sampleRequest, Json.getD, Json.get?_dict, Dict.get?_cons]
  obtain ⟨version, attempts, aggregates, runner, run, binding⟩ := fields
  simp only [validatedFinalReportBytes, bind_eq_ok, require_eq_ok, fetch_eq_ok, pure_eq_ok,
    forM_eq_ok, refuse_eq_ok]
  refine ⟨(), canonical.finite, report, loads_canonicalBytes canonical, (), ?_, (), ?_, (), ?_, (),
    ?_, _, binding, (), ⟨rfl, ?_⟩, (), ?_, rfl⟩
  · rw [requireSupportedVersion, require_eq_ok, version, Json.same_str_iff]
  · rw [requireReportRecordVersions, forM_eq_ok]
    intro name member
    simp only [List.mem_cons, List.not_mem_nil, or_false] at member
    rcases member with rfl | rfl
    · rw [requireRecordVersions, attempts]
      rfl
    · rw [requireRecordVersions, aggregates]
      rfl
  · rw [requireRunnerVersion, runner]
    rfl
  · rw [run, Json.same_str_iff]
  · rw [Json.same_str_iff]
    simp [Json.getD, Json.get?_dict, Dict.get?_cons]
  · intro forbidden member
    simp only [List.mem_cons, List.not_mem_nil, or_false] at member
    rcases member with rfl | rfl <;> simp [Json.get?_dict, Dict.get?_cons]

/-- Stage B of the sample succeeds with one artifact, over the one of stage A or beside it. -/
theorem sample_stageB {path text : String} (known : path = "a.txt" ∨ path = "b.txt")
    (free : ¬ Contains text.toUTF8 (markedDigest text.toUTF8)) :
    ∃ root final, finalizeFinalBundle sampleHost sampleNow sampleWriter sampleMiddle
      (sampleRequest path text) = .ok (root, final) := by
  have plain : ∀ name ∈ documentNames, '\x00' ∉ name.toList := by decide
  have noReceipt : stageBReceipt ∉ [sampleArtifact path text].map
      fun artifact => forwardSlashes artifact.relativePath := by
    have other : stageBReceipt ≠ forwardSlashes path := by
      obtain ⟨-, -, -, ⟨-, first, second⟩, one, two⟩ := sample_texts
      rcases known with rfl | rfl
      · exact one ▸ first
      · exact two ▸ second
    simpa [sampleArtifact] using other
  have new : path ∉ [finalReportName] := by
    rcases known with rfl | rfl <;> decide
  have reported : atomicWrite sampleHost sampleMiddle finalReportName
        (canonicalBytes (Json.dict (sampleRequest path text).finalReport))
      = .ok (sampleMiddle.write [finalReportName]
          (canonicalBytes (Json.dict (sampleRequest path text).finalReport))) :=
    write_leaf _ (sample_names finalReportName (by decide)) (plain _ (by decide)) rfl rfl
      (fun same => by cases same)
  have artifact : writeArtifact sampleHost sampleNow ⟨sampleMiddle.write [finalReportName]
        (canonicalBytes (Json.dict (sampleRequest path text).finalReport)), [], [finalReportName]⟩
      (sampleArtifact path text) = .ok ⟨(sampleMiddle.write [finalReportName]
        (canonicalBytes (Json.dict (sampleRequest path text).finalReport))).write [path]
          text.toUTF8, [sampleEntry path text.toUTF8], [finalReportName, path]⟩ := by
    rcases known with rfl | rfl
    · exact write_sampleArtifact (by decide) (by decide) new free rfl rfl
        (fun same => by cases same)
    · exact write_sampleArtifact (by decide) (by decide) new free rfl rfl
        (fun same => by cases same)
  set middle := (sampleMiddle.write [finalReportName]
    (canonicalBytes (Json.dict (sampleRequest path text).finalReport))).write [path] text.toUTF8
    with named
  set entry := sampleEntry finalReportName
    (canonicalBytes (Json.dict (sampleRequest path text).finalReport))
  set finalBytes := canonicalBytes (manifestDocument (F := ZeroFloat) "final_evidence" "run-1"
    ([sampleEntry path text.toUTF8] ++ [entry])) with final
  have manifest : atomicWrite sampleHost middle finalManifestName finalBytes =
      .ok (middle.write [finalManifestName] finalBytes) := by
    rcases known with rfl | rfl <;>
      exact write_leaf _ (sample_names _ (by decide)) (plain _ (by decide)) rfl rfl
        (fun same => by cases same)
  have marked : ∀ markerBytes, atomicWrite sampleHost (middle.write [finalManifestName] finalBytes)
      markerName markerBytes =
        .ok ((middle.write [finalManifestName] finalBytes).write [markerName] markerBytes) := by
    intro markerBytes
    rcases known with rfl | rfl <;>
      exact write_leaf _ (sample_names _ (by decide)) (plain _ (by decide)) rfl rfl
        (fun same => by cases same)
  rw [finalizeFinalBundle]
  simp only [bind_eq_ok, refuse_eq_ok]
  have staged : writeArtifacts sampleHost sampleNow ⟨sampleMiddle.write [finalReportName]
        (canonicalBytes (Json.dict (sampleRequest path text).finalReport)), [], [finalReportName]⟩
      [sampleArtifact path text] =
        .ok ⟨middle, [sampleEntry path text.toUTF8], [finalReportName, path]⟩ := by
    rw [writeArtifacts, List.foldlM_cons, artifact]
    rfl
  have noDate : ¬ ((sampleRequest path text).reportMetadata.bind
      ArtifactMetadata.createdAt).isSome = true := Bool.false_ne_true
  have noDates : ¬ ((sampleRequest path text).reportMetadata.isSome = true ∧
      (sampleRequest path text).finalizedAt.isSome = true) := fun both => by cases both.1
  have status : (sampleRequest path text).finalStatus ≠ "" := by
    show "COMPLETE" ≠ ""
    decide
  have circular := not_contains_markedDigest
    (sampleReport_isCanonical path text).finite finalBytes
  exact ⟨_, _, (), noReceipt, false, sample_unclaimed, (), Bool.false_ne_true, (), noDate,
    (), noDates, (), status, _, sampleReport_valid path text, _, reported, _, staged, entry, rfl,
    (), circular, _, manifest, _, marked _, rfl⟩

theorem sample_agree :
    Agree sampleHost ([sampleArtifact "a.txt" "one"] ++ [sampleArtifact "b.txt" "two"]) := by
  have apart : sampleHost.key (forwardSlashes "a.txt") ≠
      sampleHost.key (forwardSlashes "b.txt") := by
    obtain ⟨-, -, -, -, one, two⟩ := sample_texts
    rw [one, two, sample_key (by decide), sample_key (by decide)]
    decide
  intro one first two second same
  simp only [List.cons_append, List.nil_append, List.mem_cons, List.not_mem_nil, or_false]
    at first second
  rcases first with rfl | rfl <;> rcases second with rfl | rfl
  · exact ⟨rfl, rfl⟩
  · exact absurd same apart
  · exact absurd same.symm apart
  · exact ⟨rfl, rfl⟩

/-! ## Acceptance -/

section Bundles

variable {F : Type} [JsonFloat F] {host : Host F}

/-- **The verifier accepts a finalized bundle** exactly when artifacts in one file agree
in size and hash and neither the report nor the marker holds its own hash. -/
theorem finalized_accepted_iff {inputNow finalNow : Moment → String} {writer : EvidenceWriter}
    {artifacts : List EvidenceArtifact} {request : FinalRequest F} {middle root : FileTree String}
    {input : InputEvidenceBundle} {final : FinalEvidenceBundle}
    (stageA : finalizeInputEvidence host inputNow writer FileTree.empty artifacts =
      .ok (middle, input))
    (stageB : finalizeFinalBundle host finalNow writer middle request = .ok (root, final))
    (given : request.inputManifestSha256 = input.inputEvidenceManifestSha256) :
    verifyFinalBundle host root = .ok ⟨input.inputEvidenceManifestSha256,
        final.finalEvidenceManifestSha256, final.finalReportSha256,
        final.finalizationMarkerSha256⟩ ↔
      Agree host (artifacts ++ request.artifacts) ∧
        ¬ Contains (canonicalBytes (Json.dict request.finalReport)) final.finalReportSha256 ∧
        ¬ Contains (request.markerBytes finalNow writer final) final.finalizationMarkerSha256 := by
  obtain ⟨finalized, artifacts, hashes⟩ := exists_finalized stageA stageB given
  rw [verifyFinalBundle_eq_ok, ← artifacts]
  constructor
  · rintro ⟨_, accepted, -⟩
    exact finalized.agree_of_verified accepted
  · rintro ⟨agree, reportFree, markerFree⟩
    exact ⟨_, finalized.verified agree reportFree markerFree, hashes.symm⟩

end Bundles

theorem accepted_of_sample : ∃ root final,
    finalizeFinalBundle sampleHost sampleNow sampleWriter sampleMiddle
      (sampleRequest "b.txt" "two") = .ok (root, final) ∧
    verifyFinalBundle sampleHost root = .ok ⟨markedDigest sampleInputBytes,
      final.finalEvidenceManifestSha256, final.finalReportSha256,
      final.finalizationMarkerSha256⟩ := by
  obtain ⟨root, final, stageB⟩ := sample_stageB (.inr rfl) sample_texts.1.2.1
  obtain ⟨finalized, -, -⟩ := exists_finalized sample_stageA stageB rfl
  refine ⟨root, final, stageB, (finalized_accepted_iff sample_stageA stageB rfl).mpr
    ⟨sample_agree, ?_, ?_⟩⟩
  · rw [finalized.reportSha]
    exact not_contains_markedDigest (sampleReport_isCanonical _ _).finite _
  · rw [finalized.markerSha]
    exact not_contains_markedDigest (markerDocument_isCanonical _ _ _ _ _).finite _

/-- Stage B writes `a.txt` over the one of stage A; no verification accepts the bundle. -/
theorem overwritten_bundle_refused : ∃ root final,
    finalizeInputEvidence sampleHost sampleNow sampleWriter FileTree.empty
      [sampleArtifact "a.txt" "one"] = .ok (sampleMiddle, ⟨markedDigest sampleInputBytes, 1⟩) ∧
    finalizeFinalBundle sampleHost sampleNow sampleWriter sampleMiddle
      (sampleRequest "a.txt" "two") = .ok (root, final) ∧
    ∀ bundle, verifyFinalBundle sampleHost root ≠ .ok bundle := by
  obtain ⟨root, final, stageB⟩ := sample_stageB (.inl rfl) sample_texts.1.2.1
  obtain ⟨finalized, artifacts, -⟩ := exists_finalized sample_stageA stageB rfl
  refine ⟨root, final, sample_stageA, stageB, ?_⟩
  intro bundle done
  obtain ⟨documents, accepted, -⟩ := verifyFinalBundle_eq_ok.mp done
  obtain ⟨agree, -, -⟩ := finalized.agree_of_verified accepted
  rw [artifacts] at agree
  have same := (agree (sampleArtifact "a.txt" "one") (by simp) (sampleArtifact "a.txt" "two")
    (by simp [sampleRequest]) rfl).2
  exact sample_texts.1.2.2 (markedDigest_injective same)

/-- The sample bundle, by the lemmas of the stages. -/
theorem sample_accepted : ∃ root bundle, verifyFinalBundle sampleHost root = .ok bundle := by
  obtain ⟨root, final, stageB⟩ := sample_stageB (.inr rfl) sample_texts.1.2.1
  obtain ⟨finalized, artifacts, -⟩ := exists_finalized sample_stageA stageB rfl
  refine ⟨root, _, verifyFinalBundle_eq_ok.mpr ⟨_, finalized.verified ?_ ?_ ?_, rfl⟩⟩
  · rw [artifacts]
    exact sample_agree
  · rw [finalized.reportSha]
    exact not_contains_markedDigest (sampleReport_isCanonical _ _).finite _
  · rw [finalized.markerSha]
    exact not_contains_markedDigest (markerDocument_isCanonical _ _ _ _ _).finite _

end Aegis.Evidence
