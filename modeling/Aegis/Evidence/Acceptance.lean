/-
# Evidence.Acceptance — when the verifier accepts what the writer finalized

A finalized bundle is a sequence of writes (`finalizeInput_ok`, `finalizeFinal_ok`).
The documents stand where they were written, and of two artifacts that the host
keeps in one file the later one stands there (`Finalized.stored`). So the verifier
accepts the bundle exactly when artifacts in one file agree in size and hash and
neither the report nor the marker holds its own hash.
-/
import Aegis.Evidence.WrittenFiles
import Aegis.Lib.TextLines

namespace Aegis.Evidence

open Aegis.Lib
open Aegis.Lib.Guarded

set_option autoImplicit false

section Manifests

variable {F : Type} [JsonFloat F] {host : Host F} {root : FileTree String}

theorem loads_canonicalBytes {value : Json F} (canonical : value.IsCanonical) :
    loads (canonicalBytes value) = some value := by
  unfold loads canonicalBytes
  rw [fromUTF8?_toUTF8, Option.bind_some, String.toList_ofList, canonical.parse]

omit [JsonFloat F] in
theorem toJson_path (entry : ManifestEntry) (other : Json F) :
    (entry.toJson : Json F).getD "path" other = .str entry.path := by
  simp [ManifestEntry.toJson, Json.getD, Json.get?_dict, Dict.get?_cons]

omit [JsonFloat F] in
theorem toJson_bytes (entry : ManifestEntry) :
    (entry.toJson : Json F).getD "bytes" .null = .int entry.bytes := by
  simp [ManifestEntry.toJson, Json.getD, Json.get?_dict, Dict.get?_cons]

omit [JsonFloat F] in
theorem toJson_sha256 (entry : ManifestEntry) :
    (entry.toJson : Json F).getD "sha256" .null = .str entry.sha256 := by
  simp [ManifestEntry.toJson, Json.getD, Json.get?_dict, Dict.get?_cons]

omit [JsonFloat F] in
theorem toJson_metadata (entry : ManifestEntry) :
    ∀ metaKey ∈ metadataKeys, ((entry.toJson : Json F).get? metaKey).isSome = true := by
  simp [metadataKeys, ManifestEntry.toJson, Json.get?_dict, Dict.get?_cons]

theorem toJson_isCanonical (entry : ManifestEntry) : (entry.toJson : Json F).IsCanonical := by
  apply Json.IsCanonical.dict
  simp [Json.IsCanonical.str, Json.IsCanonical.int, Json.IsCanonical.bool]

theorem manifestDocument_isCanonical (kind runId : String) (entries : List ManifestEntry) :
    (manifestDocument kind runId entries : Json F).IsCanonical := by
  apply Json.IsCanonical.dict
  have listed : (Json.array ((sortedEntries entries).map ManifestEntry.toJson) :
      Json F).IsCanonical := by
    apply Json.IsCanonical.array
    rintro _ member
    obtain ⟨entry, -, rfl⟩ := List.mem_map.mp member
    exact toJson_isCanonical entry
  simp [Json.IsCanonical.str, listed]

theorem markerDocument_isCanonical (runId manifestSha reportSha finalStatus finalizedAt : String) :
    (markerDocument runId manifestSha reportSha finalStatus finalizedAt : Json F).IsCanonical := by
  apply Json.IsCanonical.dict
  simp [Json.IsCanonical.str]

omit [JsonFloat F] in
theorem manifestDocument_artifacts (kind runId : String) (entries : List ManifestEntry) :
    (manifestDocument kind runId entries : Json F).get? "artifacts" =
      some (.array ((sortedEntries entries).map ManifestEntry.toJson)) := by
  simp [manifestDocument, Json.get?_dict, Dict.get?_cons]

omit [JsonFloat F] in
theorem isObject_dict (fields : List (String × Json F)) : (Json.dict fields).isObject = true := rfl

theorem mem_sortedEntries {entries : List ManifestEntry} {entry : ManifestEntry} :
    entry ∈ sortedEntries entries ↔ entry ∈ entries :=
  List.mem_insertionSort _

/-- Every entry of an accepted manifest was checked. -/
theorem entries_checked {kind runId : String} {entries : List ManifestEntry}
    {allowFinalReport : Bool} {verified : List (String × String)}
    (done : verifyManifestArtifacts host root (manifestDocument kind runId entries)
      allowFinalReport = .ok verified) {entry : ManifestEntry} (member : entry ∈ entries) :
    ∃ found, EntryChecked host root allowFinalReport (entry.toJson) found := by
  obtain ⟨listed, found, artifacts, checked, -, -⟩ := verifyManifestArtifacts_eq_ok.mp done
  rw [manifestDocument_artifacts] at artifacts
  obtain rfl := Json.array.inj (Option.some.inj artifacts)
  exact checked_of_mem checked
    (List.mem_map.mpr ⟨entry, mem_sortedEntries.mpr member, rfl⟩)

theorem EntryChecked.path_eq {allowFinalReport : Bool} {entry : ManifestEntry}
    {found : String × ByteArray}
    (checked : EntryChecked host root allowFinalReport (entry.toJson) found) :
    found.1 = forwardSlashes entry.path := by
  have valid := checked.path
  rw [toJson_path] at valid
  exact normalizeRelativePath_ok (validateArtifactPath_eq_ok.mp valid).1

theorem exists_forall₂ {α β : Type} {relation : α → β → Prop} {left : List α}
    (each : ∀ first ∈ left, ∃ second, relation first second) :
    ∃ right, List.Forall₂ relation left right := by
  induction left with
  | nil => exact ⟨[], .nil⟩
  | cons first rest ih =>
      obtain ⟨here, later⟩ := List.forall_mem_cons.mp each
      obtain ⟨second, related⟩ := here
      obtain ⟨others, relateds⟩ := ih later
      exact ⟨second :: others, .cons related relateds⟩

/-- The artifacts of checked entries stand at the normalized paths of the entries. -/
theorem checked_paths {entries : List ManifestEntry} {found : List (String × ByteArray)}
    {allowFinalReport : Bool}
    (checked : List.Forall₂ (fun entry : ManifestEntry =>
      EntryChecked host root allowFinalReport (entry.toJson)) entries found) :
    found.map Prod.fst = entries.map fun entry => forwardSlashes entry.path := by
  induction checked with
  | nil => rfl
  | cons first _ ih => rw [List.map_cons, List.map_cons, first.path_eq, ih]

/-- A manifest whose entries are checked one by one, with distinct paths, is accepted. -/
theorem manifest_accepted {kind runId : String} {entries : List ManifestEntry}
    {allowFinalReport : Bool}
    (each : ∀ entry ∈ entries, ∃ found,
      EntryChecked host root allowFinalReport (entry.toJson) found)
    (distinct : (entries.map fun entry => forwardSlashes entry.path).Nodup) :
    ∃ verified, verifyManifestArtifacts host root (manifestDocument kind runId entries)
      allowFinalReport = .ok verified := by
  have sorted : ∀ entry ∈ sortedEntries entries, ∃ found,
      EntryChecked host root allowFinalReport (entry.toJson) found :=
    fun entry member => each entry (mem_sortedEntries.mp member)
  obtain ⟨found, checked⟩ := exists_forall₂ sorted
  have listed : List.Forall₂ (EntryChecked host root allowFinalReport)
      ((sortedEntries entries).map ManifestEntry.toJson) found :=
    List.forall₂_map_left_iff.mpr checked
  have sorted : ((sortedEntries entries).map fun entry => forwardSlashes entry.path).Perm
      (entries.map fun entry => forwardSlashes entry.path) :=
    (List.perm_insertionSort _ _).map _
  exact ⟨_, verifyManifestArtifacts_eq_ok.mpr ⟨_, found, manifestDocument_artifacts _ _ _, listed,
    checked_paths checked ▸ sorted.nodup_iff.mpr distinct, rfl⟩⟩

end Manifests

/-! ## Finalized bundles -/

theorem documentNames_normal : ∀ name ∈ documentNames, forwardSlashes name = name := by
  decide +kernel

theorem documentNames_segments : ∀ name ∈ documentNames, segments name = [name] := by
  decide +kernel

section Finalized

variable {F : Type} [JsonFloat F] {host : Host F} {now : Moment → String} {writer : EvidenceWriter}
  {root after : FileTree String}

omit [JsonFloat F] in
/-- The host keeps the documents in files of their own. -/
theorem key_ne {one two : String} (first : one ∈ documentNames) (second : two ∈ documentNames)
    (other : one ≠ two) : host.key one ≠ host.key two := by
  unfold Host.key
  rw [documentNames_segments one first, documentNames_segments two second]
  intro same
  exact other (List.inj_on_of_nodup_map host.documents_apart first second
    (List.singleton_inj.mp same))

omit [JsonFloat F] in
theorem writeDocument_ok {name : String} {content : ByteArray} (document : name ∈ documentNames)
    (done : atomicWrite host root name content = .ok after) :
    root.Wrote [(host.key name, content)] after := by
  obtain ⟨open_, rfl⟩ := atomicWrite_ok (documentNames_normal name document) done
  exact .single open_ content

/-- The bytes of a manifest over these artifacts. -/
def manifestBytes (F : Type) [JsonFloat F] (kind : String) (writer : EvidenceWriter)
    (entries : List ManifestEntry) : ByteArray :=
  canonicalBytes (manifestDocument (F := F) kind writer.runId entries)

/-- **Stage A is the writes of its artifacts and of its manifest.** -/
theorem finalizeInput_ok {artifacts : List EvidenceArtifact} {bundle : InputEvidenceBundle}
    (done : finalizeInputEvidence host now writer root artifacts = .ok (after, bundle)) :
    ∃ placements : List (Placement host), placements.map Placement.artifact = artifacts ∧
      (placements.map Placement.path).Nodup ∧
      root.Wrote (placements.map Placement.write ++ [(host.key inputManifestName,
        manifestBytes F "input_evidence" writer (placements.map Placement.entry))]) after ∧
      bundle.inputEvidenceManifestSha256 = host.sha256Hex
        (manifestBytes F "input_evidence" writer (placements.map Placement.entry)) := by
  simp only [finalizeInputEvidence, bind_eq_ok, refuse_eq_ok, pure_eq_ok] at done
  obtain ⟨_, -, _, -, _, -, stage, staged, _, manifest, same⟩ := done
  obtain ⟨rfl, rfl⟩ := Prod.mk.inj same
  obtain ⟨placements, rfl, wrote, entries, distinct⟩ := writeArtifacts_ok staged List.nodup_nil
  rw [List.nil_append] at entries
  rw [entries] at manifest ⊢
  exact ⟨placements, rfl, distinct, wrote.append (writeDocument_ok (by decide) manifest), rfl⟩

/-- What the writer checked of the final report. -/
structure ReportChecked (host : Host F) (writer : EvidenceWriter) (inputSha : String)
    (content : ByteArray) (report : Json F) : Prop where
  loaded : loads content = some report
  version : requireSupportedVersion report "final report" = .ok ()
  records : requireReportRecordVersions report = .ok ()
  runner : requireRunnerVersion report = .ok ()
  run : report.getD "run_id" .null = .str writer.runId
  binding : (report.getD "run_evidence_binding" (.object [])).isObject = true
  bound : (report.getD "run_evidence_binding" (.object [])).getD "input_evidence_manifest_sha256"
    .null = .str inputSha

theorem ReportChecked.isObject {inputSha : String} {content : ByteArray} {report : Json F}
    (checked : ReportChecked host writer inputSha content report) : report.isObject = true := by
  by_contra other
  have run := checked.run
  rw [Json.getD, Json.get?_of_not_isObject (Bool.eq_false_of_not_eq_true other)] at run
  cases run

theorem validatedFinalReportBytes_ok {finalReport : List (String × Json F)} {inputSha : String}
    {content : ByteArray}
    (done : validatedFinalReportBytes host finalReport writer.runId inputSha = .ok content) :
    content = canonicalBytes (Json.dict finalReport) ∧
      ∃ report, ReportChecked host writer inputSha content report := by
  simp only [validatedFinalReportBytes, bind_eq_ok, require_eq_ok, fetch_eq_ok, pure_eq_ok,
    Json.same_str_iff] at done
  obtain ⟨_, -, report, loaded, _, version, _, records, _, runner, _, run, binding, found, _,
    ⟨object, bound⟩, _, -, rfl⟩ := done
  have held : report.getD "run_evidence_binding" (.object []) = binding := by
    rw [Json.getD, found, Option.getD_some]
  exact ⟨rfl, report, loaded, version, records, runner, run, held ▸ object, held ▸ bound⟩

/-- **Stage B is the writes of the report, of its artifacts, of its manifest and of the
marker.** -/
theorem finalizeFinal_ok {request : FinalRequest F} {bundle : FinalEvidenceBundle}
    (done : finalizeFinalBundle host now writer root request = .ok (after, bundle)) :
    ∃ (placements : List (Placement host)) (entry : ManifestEntry) (report : Json F),
      placements.map Placement.artifact = request.artifacts ∧
      (finalReportName :: placements.map Placement.path).Nodup ∧
      ReportChecked host writer request.inputManifestSha256
        (canonicalBytes (Json.dict request.finalReport)) report ∧
      entry.path = finalReportName ∧
      entry.bytes = (canonicalBytes (Json.dict request.finalReport)).size ∧
      entry.sha256 = bundle.finalReportSha256 ∧
      bundle.finalReportSha256 = host.sha256Hex (canonicalBytes (Json.dict request.finalReport)) ∧
      bundle.finalEvidenceManifestSha256 = host.sha256Hex
        (manifestBytes F "final_evidence" writer (placements.map Placement.entry ++ [entry])) ∧
      ¬ Contains (canonicalBytes (Json.dict request.finalReport))
        bundle.finalEvidenceManifestSha256 ∧
      request.finalStatus ≠ "" ∧
      bundle.finalizationMarkerSha256 = host.sha256Hex (request.markerBytes now writer bundle) ∧
      root.Wrote ((host.key finalReportName, canonicalBytes (Json.dict request.finalReport)) ::
        (placements.map Placement.write ++ [(host.key finalManifestName,
          manifestBytes F "final_evidence" writer (placements.map Placement.entry ++ [entry])),
          (host.key markerName, request.markerBytes now writer bundle)])) after := by
  simp only [finalizeFinalBundle, bind_eq_ok, refuse_eq_ok, pure_eq_ok] at done
  obtain ⟨_, -, _, -, _, -, _, -, _, -, _, status, content, validated, _, reported, stage, staged,
    entry, made, _, free, _, manifest, _, marked, same⟩ := done
  obtain ⟨rfl, rfl⟩ := Prod.mk.inj same
  obtain ⟨rfl, report, checked⟩ := validatedFinalReportBytes_ok validated
  obtain ⟨placements, listed, wrote, entries, distinct⟩ :=
    writeArtifacts_ok staged (List.nodup_singleton _)
  rw [List.nil_append] at entries
  rw [entries] at free manifest marked ⊢
  obtain ⟨path, size, digest⟩ := manifestEntry_ok made
  refine ⟨placements, entry, report, listed, distinct, checked, path, size, digest, rfl, rfl, free,
    status, rfl, ?_⟩
  have last := (writeDocument_ok (by decide) manifest).append (writeDocument_ok (by decide) marked)
  exact (writeDocument_ok (by decide) reported).append (wrote.append last)

/-- A bundle that both stages finalized in a fresh root. -/
structure Finalized (host : Host F) (now : Moment → String) (writer : EvidenceWriter)
    (request : FinalRequest F) (bundle : FinalEvidenceBundle) (root : FileTree String) where
  inputs : List (Placement host)
  finals : List (Placement host)
  entry : ManifestEntry
  report : Json F
  inputs_distinct : (inputs.map Placement.path).Nodup
  finals_distinct : (finalReportName :: finals.map Placement.path).Nodup
  given : request.inputManifestSha256 = host.sha256Hex
    (manifestBytes F "input_evidence" writer (inputs.map Placement.entry))
  checked : ReportChecked host writer request.inputManifestSha256
    (canonicalBytes (Json.dict request.finalReport)) report
  entry_path : entry.path = finalReportName
  entry_bytes : entry.bytes = (canonicalBytes (Json.dict request.finalReport)).size
  entry_sha256 : entry.sha256 = bundle.finalReportSha256
  reportSha : bundle.finalReportSha256 =
    host.sha256Hex (canonicalBytes (Json.dict request.finalReport))
  finalSha : bundle.finalEvidenceManifestSha256 = host.sha256Hex
    (manifestBytes F "final_evidence" writer (finals.map Placement.entry ++ [entry]))
  notCircular : ¬ Contains (canonicalBytes (Json.dict request.finalReport))
    bundle.finalEvidenceManifestSha256
  status : request.finalStatus ≠ ""
  markerSha : bundle.finalizationMarkerSha256 =
    host.sha256Hex (request.markerBytes now writer bundle)
  wrote : FileTree.empty.Wrote
    ((inputs.map Placement.write ++ [(host.key inputManifestName,
        manifestBytes F "input_evidence" writer (inputs.map Placement.entry))]) ++
      ((host.key finalReportName, canonicalBytes (Json.dict request.finalReport)) ::
        (finals.map Placement.write ++ [(host.key finalManifestName,
          manifestBytes F "final_evidence" writer (finals.map Placement.entry ++ [entry])),
          (host.key markerName, request.markerBytes now writer bundle)]))) root

namespace Finalized

variable {request : FinalRequest F} {bundle : FinalEvidenceBundle}

/-- The documents of the bundle. -/
def documents (finalized : Finalized host now writer request bundle root) : Documents F where
  inputManifest := manifestDocument "input_evidence" writer.runId
    (finalized.inputs.map Placement.entry)
  inputBytes := manifestBytes F "input_evidence" writer (finalized.inputs.map Placement.entry)
  finalManifest := manifestDocument "final_evidence" writer.runId
    (finalized.finals.map Placement.entry ++ [finalized.entry])
  finalBytes := manifestBytes F "final_evidence" writer
    (finalized.finals.map Placement.entry ++ [finalized.entry])
  marker := markerDocument writer.runId bundle.finalEvidenceManifestSha256
    bundle.finalReportSha256 request.finalStatus (request.markerFinalizedAt now)
  markerBytes := request.markerBytes now writer bundle
  report := finalized.report
  reportBytes := canonicalBytes (Json.dict request.finalReport)

/-- The artifacts of both stages. -/
def placements (finalized : Finalized host now writer request bundle root) :
    List (Placement host) :=
  finalized.inputs ++ finalized.finals

/-- The documents with their names. -/
def files (finalized : Finalized host now writer request bundle root) :
    List (String × ByteArray) :=
  [(inputManifestName, finalized.documents.inputBytes),
    (finalReportName, finalized.documents.reportBytes),
    (finalManifestName, finalized.documents.finalBytes),
    (markerName, finalized.documents.markerBytes)]

variable (finalized : Finalized host now writer request bundle root)

theorem documents_inputBytes : finalized.documents.inputBytes =
    manifestBytes F "input_evidence" writer (finalized.inputs.map Placement.entry) := rfl

theorem documents_finalBytes : finalized.documents.finalBytes = manifestBytes F "final_evidence"
    writer (finalized.finals.map Placement.entry ++ [finalized.entry]) := rfl

theorem documents_markerBytes : finalized.documents.markerBytes =
    request.markerBytes now writer bundle := rfl

theorem documents_reportBytes : finalized.documents.reportBytes =
    canonicalBytes (Json.dict request.finalReport) := rfl

/-- What stands at a key that was written: an artifact or a document of that key. -/
theorem written {key : List String}
    (some_ : (∃ placement ∈ finalized.placements, host.key placement.path = key) ∨
      ∃ file ∈ finalized.files, host.key file.1 = key) :
    (∃ placement ∈ finalized.placements, host.key placement.path = key ∧
      root key = .file placement.artifact.content) ∨
    ∃ file ∈ finalized.files, host.key file.1 = key ∧ root key = .file file.2 := by
  have wrote := finalized.wrote
  set writes := (finalized.inputs.map Placement.write ++ [(host.key inputManifestName,
      manifestBytes F "input_evidence" writer (finalized.inputs.map Placement.entry))]) ++
    ((host.key finalReportName, canonicalBytes (Json.dict request.finalReport)) ::
      (finalized.finals.map Placement.write ++ [(host.key finalManifestName,
        manifestBytes F "final_evidence" writer
          (finalized.finals.map Placement.entry ++ [finalized.entry])),
        (host.key markerName, request.markerBytes now writer bundle)])) with named
  have members : ∀ write, write ∈ writes ↔
      (∃ placement ∈ finalized.placements, placement.write = write) ∨
        ∃ file ∈ finalized.files, (host.key file.1, file.2) = write := by
    intro write
    simp only [named, placements, files, documents, List.mem_append, List.mem_cons, List.mem_map,
      List.not_mem_nil, or_false, or_and_right, exists_or, exists_eq_left]
    constructor
    · rintro ((one | rfl) | rfl | two | rfl | rfl) <;> simp_all
    · rintro ((one | two) | rfl | rfl | rfl | rfl) <;> simp_all
  have exists_ : ∃ write ∈ writes, write.1 = key := by
    rcases some_ with ⟨placement, member, same⟩ | ⟨file, member, same⟩
    · exact ⟨placement.write, (members _).mpr (.inl ⟨placement, member, rfl⟩), same⟩
    · exact ⟨_, (members _).mpr (.inr ⟨file, member, rfl⟩), same⟩
  obtain ⟨write, member, same, stands⟩ := wrote.found exists_
  rcases (members write).mp member with ⟨placement, placed, rfl⟩ | ⟨file, filed, rfl⟩
  · exact .inl ⟨placement, placed, same, stands⟩
  · exact .inr ⟨file, filed, same, stands⟩

theorem file_name {file : String × ByteArray} (filed : file ∈ finalized.files) :
    file.1 ∈ documentNames := by
  simp only [files, List.mem_cons, List.not_mem_nil, or_false] at filed
  rcases filed with rfl | rfl | rfl | rfl <;> simp [documentNames]

omit [JsonFloat F] in
theorem not_document {placement : Placement host} {name : String} (document : name ∈ documentNames) :
    host.key placement.path ≠ host.key name := by
  apply placement.not_reserved
  have all : ∀ name ∈ documentNames, name ∈ reservedArtifactNames false := by decide
  exact all name document

/-- A document stands where it was written. -/
theorem document_stored {file : String × ByteArray} (filed : file ∈ finalized.files) :
    root (host.key file.1) = .file file.2 := by
  rcases finalized.written (.inr ⟨file, filed, rfl⟩) with
    ⟨placement, -, same, -⟩ | ⟨other, filed', same, stands⟩
  · exact absurd same (not_document (finalized.file_name filed))
  · have name : other.1 = file.1 := by
      by_contra apart
      exact key_ne (finalized.file_name filed') (finalized.file_name filed) apart same
    have names : (finalized.files.map Prod.fst).Nodup := by
      show [inputManifestName, finalReportName, finalManifestName, markerName].Nodup
      decide
    rw [stands, List.inj_on_of_nodup_map names filed' filed name]

/-- Where an artifact was written, one of the artifacts of that file stands. -/
theorem stored {placement : Placement host} (placed : placement ∈ finalized.placements) :
    ∃ last ∈ finalized.placements, host.key last.path = host.key placement.path ∧
      root (host.key placement.path) = .file last.artifact.content := by
  rcases finalized.written (.inl ⟨placement, placed, rfl⟩) with found | ⟨file, filed, same, -⟩
  · exact found
  · exact absurd same.symm (not_document (finalized.file_name filed))

/-- The documents of the bundle are found below its root. -/
theorem loaded : finalized.documents.Loaded host root := by
  have stored : ∀ name content, (name, content) ∈ finalized.files →
      (root (host.key name)).content = some content := by
    intro name content filed
    rw [finalized.document_stored filed]
    rfl
  constructor
  · exact loadJsonBytes_eq_ok.mpr ⟨stored inputManifestName _ (by simp [files]),
      loads_canonicalBytes (manifestDocument_isCanonical _ _ _), isObject_dict _⟩
  · exact loadJsonBytes_eq_ok.mpr ⟨stored finalManifestName _ (by simp [files]),
      loads_canonicalBytes (manifestDocument_isCanonical _ _ _), isObject_dict _⟩
  · exact loadJsonBytes_eq_ok.mpr ⟨stored markerName _ (by simp [files]),
      loads_canonicalBytes (markerDocument_isCanonical _ _ _ _ _), isObject_dict _⟩
  · exact loadJsonBytes_eq_ok.mpr ⟨stored finalReportName _ (by simp [files]),
      finalized.checked.loaded, finalized.checked.isObject⟩

theorem wellFormed : finalized.documents.WellFormed := by
  have manifest : ∀ kind entries,
      (manifestDocument kind writer.runId entries : Json F).getD "schema_version" .null =
          .str schemaVersion ∧
        (manifestDocument kind writer.runId entries : Json F).getD "manifest_kind" .null =
          .str kind := by
    intro kind entries
    constructor <;> simp [manifestDocument, Json.getD, Json.get?_dict, Dict.get?_cons]
  have marker : finalized.documents.marker.getD "schema_version" .null = .str schemaVersion ∧
      finalized.documents.marker.get? "final_status" = some (.str request.finalStatus) ∧
      finalized.documents.marker.getD "marker_kind" .null =
        .str "detached_finalization_marker" := by
    refine ⟨?_, ?_, ?_⟩ <;>
      simp [documents, markerDocument, Json.getD, Json.get?_dict, Dict.get?_cons]
  have version : ∀ {document : Json F} {where_ : String},
      document.getD "schema_version" .null = .str schemaVersion →
        requireSupportedVersion document where_ = .ok () := by
    intro document where_ supported
    unfold requireSupportedVersion
    rw [require_eq_ok, supported, Json.same_str_iff]
  refine ⟨version (manifest _ _).1, (manifest _ _).2, version (manifest _ _).1, (manifest _ _).2,
    version marker.1, ?_, marker.2.2, finalized.checked.version, finalized.checked.records,
    finalized.checked.runner⟩
  unfold requireFinalStatus
  rw [marker.2.1]
  exact refuse_eq_ok.mpr finalized.status

theorem sameRun : finalized.documents.SameRun := by
  have manifest : ∀ kind entries,
      (manifestDocument kind writer.runId entries : Json F).getD "run_id" .null =
        .str writer.runId := by
    intro kind entries
    simp [manifestDocument, Json.getD, Json.get?_dict, Dict.get?_cons]
  have marker : finalized.documents.marker.getD "run_id" .null = .str writer.runId := by
    simp [documents, markerDocument, Json.getD, Json.get?_dict, Dict.get?_cons]
  have runId : finalized.documents.runId = .str writer.runId := manifest _ _
  constructor
  · rw [runId]
    simpa [truthy] using writer.runId_nonempty
  · rw [runId, Json.same_str_iff]
    exact manifest _ _
  · rw [runId, Json.same_str_iff]
    exact marker
  · rw [runId, Json.same_str_iff]
    exact finalized.checked.run

theorem bound
    (free : ¬ Contains (request.markerBytes now writer bundle) bundle.finalizationMarkerSha256) :
    finalized.documents.Bound host := by
  have marker : finalized.documents.marker.getD "final_evidence_manifest_sha256" .null =
        .str bundle.finalEvidenceManifestSha256 ∧
      finalized.documents.marker.getD "final_report_sha256" .null =
        .str bundle.finalReportSha256 := by
    constructor <;> simp [documents, markerDocument, Json.getD, Json.get?_dict, Dict.get?_cons]
  constructor
  · rw [marker.1, finalized.finalSha, documents_finalBytes]
  · rw [documents_markerBytes, ← finalized.markerSha]
    exact free
  · rw [marker.2, finalized.reportSha, documents_reportBytes]
  · rw [documents_reportBytes, documents_finalBytes, ← finalized.finalSha]
    exact finalized.notCircular
  · exact finalized.checked.binding
  · rw [documents_inputBytes]
    exact finalized.checked.bound.trans (congrArg Json.str finalized.given)

omit [JsonFloat F] in
theorem valid_weaken {path normalized : String}
    (valid : validateArtifactPath host (.str path) = .ok normalized) (allowFinalReport : Bool) :
    validateArtifactPath host (.str path) allowFinalReport = .ok normalized := by
  obtain ⟨normal, free⟩ := validateArtifactPath_eq_ok.mp valid
  refine validateArtifactPath_eq_ok.mpr ⟨normal, fun reserved => free ?_⟩
  obtain ⟨name, member, same⟩ := List.mem_map.mp reserved
  have fewer : name ∈ reservedArtifactNames false := by
    cases allowFinalReport with
    | false => exact member
    | true =>
        have all : ∀ name ∈ reservedArtifactNames true, name ∈ reservedArtifactNames false := by
          decide
        exact all name member
  exact List.mem_map.mpr ⟨name, fewer, same⟩

/-- The entry of an artifact is accepted when what stands in its file agrees with it. -/
theorem entry_accepted {placement last : Placement host} (allowFinalReport : Bool)
    (stands : root (host.key placement.path) = .file last.artifact.content)
    (size : last.artifact.content.size = placement.artifact.content.size)
    (digest : host.sha256Hex last.artifact.content =
      host.sha256Hex placement.artifact.content) :
    EntryChecked host root allowFinalReport (placement.entry.toJson)
      (placement.path, last.artifact.content) := by
  refine ⟨isObject_dict _, ?_, placement.noNul, stands, ?_, ?_, last.notCircular,
    toJson_metadata placement.entry⟩
  · rw [toJson_path, placement.listed]
    exact valid_weaken placement.valid _
  · rw [toJson_bytes, placement.size, size]
    exact Json.same_self _ rfl rfl
  · rw [toJson_sha256, placement.digest, digest]

omit [JsonFloat F] in
theorem normalize_document {name : String} (document : name ∈ documentNames) :
    normalizeRelativePath host (.str name) = .ok name := by
  have parts : ∀ name ∈ documentNames, name ≠ "" ∧ name.toList.head? ≠ some '/' ∧
      ¬ (name = "" ∨ name = "." ∨ name = "..") ∧ ':' ∉ name.toList ∧
      ¬ name.toList ≠ (name.toList.rdropWhile fun c => c = ' ' || c = '.') ∧
      stem name ∉ windowsDeviceNames := by
    decide +kernel
  obtain ⟨present, relative, plain, noDrive, noTrail, noDevice⟩ := parts name document
  have checked : forM (segments name) (checkPart host (.str name)) = .ok ⟨⟩ := by
    rw [documentNames_segments name document, forM_eq_ok]
    intro part member
    obtain rfl := List.mem_singleton.mp member
    simp only [checkPart, bind_eq_ok, refuse_eq_ok]
    exact ⟨(), plain, (), noDrive, (), noTrail, noDevice⟩
  simp only [normalizeRelativePath, documentNames_normal name document]
  rw [if_neg present, if_neg relative, checked]
  rfl

/-- The entry of the final report is accepted when the report does not hold its hash. -/
theorem report_accepted (free : ¬ Contains (canonicalBytes (Json.dict request.finalReport))
      bundle.finalReportSha256) :
    EntryChecked host root true (finalized.entry.toJson)
      (finalReportName, canonicalBytes (Json.dict request.finalReport)) := by
  have document : finalReportName ∈ documentNames := by decide
  have free_ : host.key finalReportName ∉ (reservedArtifactNames true).map host.key := by
    intro reserved
    obtain ⟨name, member, same⟩ := List.mem_map.mp reserved
    have others : ∀ name ∈ reservedArtifactNames true,
        name ∈ documentNames ∧ name ≠ finalReportName := by decide
    exact key_ne (others name member).1 document (others name member).2 same
  refine ⟨isObject_dict _, ?_, ?_, ?_, ?_, ?_, ?_, toJson_metadata finalized.entry⟩
  · rw [toJson_path, finalized.entry_path]
    exact validateArtifactPath_eq_ok.mpr ⟨normalize_document document, free_⟩
  · rw [documentNames_segments _ document]
    decide
  · exact finalized.document_stored (List.mem_cons_of_mem (a := (finalReportName, _)) _
      (List.mem_cons_self ..))
  · rw [toJson_bytes, finalized.entry_bytes]
    exact Json.same_self _ rfl rfl
  · rw [toJson_sha256, finalized.entry_sha256, finalized.reportSha]
  · exact finalized.reportSha ▸ free

/-- Artifacts that the host keeps in one file agree in size and hash. -/
def Agree (host : Host F) (artifacts : List EvidenceArtifact) : Prop :=
  ∀ one ∈ artifacts, ∀ two ∈ artifacts,
    host.key (forwardSlashes one.relativePath) = host.key (forwardSlashes two.relativePath) →
      one.content.size = two.content.size ∧ host.sha256Hex one.content = host.sha256Hex two.content

/-- The documents and the artifacts of a bundle verify where artifacts in one file agree. -/
theorem verified (agree : Agree host (finalized.placements.map Placement.artifact))
    (reportFree : ¬ Contains (canonicalBytes (Json.dict request.finalReport))
      bundle.finalReportSha256)
    (markerFree : ¬ Contains (request.markerBytes now writer bundle)
      bundle.finalizationMarkerSha256) : finalized.documents.Verified host root := by
  have each : ∀ placement ∈ finalized.placements, ∀ allowFinalReport, ∃ found,
      EntryChecked host root allowFinalReport (placement.entry.toJson) found := by
    intro placement placed allowFinalReport
    obtain ⟨last, lastPlaced, same, stands⟩ := finalized.stored placed
    rw [last.path_eq, placement.path_eq] at same
    obtain ⟨size, digest⟩ := agree _ (List.mem_map.mpr ⟨last, lastPlaced, rfl⟩) _
      (List.mem_map.mpr ⟨placement, placed, rfl⟩) same
    exact ⟨_, entry_accepted allowFinalReport stands size digest⟩
  have paths : ∀ placements : List (Placement host),
      (placements.map Placement.entry).map (fun entry => forwardSlashes entry.path) =
        placements.map Placement.path := by
    intro placements
    rw [List.map_map]
    apply List.map_congr_left
    intro placement _
    rw [placement.path_eq, ← placement.listed]
    rfl
  refine ⟨finalized.loaded, finalized.wellFormed, finalized.sameRun, finalized.bound markerFree,
    ?_, ?_⟩
  · apply manifest_accepted
    · intro entry member
      obtain ⟨placement, placed, rfl⟩ := List.mem_map.mp member
      exact each placement (List.mem_append_left _ placed) false
    · rw [paths]
      exact finalized.inputs_distinct
  · apply manifest_accepted
    · intro entry member
      rcases List.mem_append.mp member with listed | last
      · obtain ⟨placement, placed, rfl⟩ := List.mem_map.mp listed
        exact each placement (List.mem_append_right _ placed) true
      · obtain rfl := List.mem_singleton.mp last
        exact ⟨_, finalized.report_accepted reportFree⟩
    · have report : forwardSlashes finalized.entry.path = finalReportName := by
        rw [finalized.entry_path]
        exact documentNames_normal _ (by decide)
      rw [List.map_append, paths, List.map_singleton, report]
      exact (List.perm_append_singleton _ _).nodup_iff.mpr finalized.finals_distinct

/-- In an accepted bundle artifacts in one file agree. -/
theorem agree_of_verified {documents : Documents F} (accepted : documents.Verified host root) :
    Agree host (finalized.placements.map Placement.artifact) ∧
      ¬ Contains (canonicalBytes (Json.dict request.finalReport)) bundle.finalReportSha256 ∧
      ¬ Contains (request.markerBytes now writer bundle) bundle.finalizationMarkerSha256 := by
  have input : documents.inputManifest = finalized.documents.inputManifest := by
    have same := accepted.loaded.input.symm.trans finalized.loaded.input
    exact (Prod.mk.inj (Except.ok.inj same)).1
  have final : documents.finalManifest = finalized.documents.finalManifest := by
    have same := accepted.loaded.final.symm.trans finalized.loaded.final
    exact (Prod.mk.inj (Except.ok.inj same)).1
  have marker : documents.markerBytes = request.markerBytes now writer bundle := by
    have same := accepted.loaded.marker.symm.trans finalized.loaded.marker
    exact (Prod.mk.inj (Except.ok.inj same)).2
  obtain ⟨_, inputArtifacts⟩ := accepted.inputArtifacts
  obtain ⟨_, finalArtifacts⟩ := accepted.finalArtifacts
  rw [input] at inputArtifacts
  rw [final] at finalArtifacts
  have checked : ∀ placement ∈ finalized.placements, ∃ content,
      root (host.key placement.path) = .file content ∧
        content.size = placement.artifact.content.size ∧
        host.sha256Hex content = host.sha256Hex placement.artifact.content := by
    intro placement placed
    have entry : ∃ allowFinalReport found,
        EntryChecked host root allowFinalReport (placement.entry.toJson) found := by
      rcases List.mem_append.mp placed with first | second
      · exact ⟨false, entries_checked inputArtifacts (List.mem_map.mpr ⟨placement, first, rfl⟩)⟩
      · exact ⟨true, entries_checked finalArtifacts
          (List.mem_append_left _ (List.mem_map.mpr ⟨placement, second, rfl⟩))⟩
    obtain ⟨_, found, entry⟩ := entry
    have path : found.1 = placement.path := by
      rw [entry.path_eq, placement.path_eq, placement.listed]
    refine ⟨found.2, path ▸ entry.stored, ?_, ?_⟩
    · have size := entry.size
      rw [toJson_bytes, placement.size] at size
      have equal : (found.2.size : Int) = placement.artifact.content.size := beq_iff_eq.mp size
      exact Int.ofNat.inj equal
    · have digest := entry.digest
      rw [toJson_sha256, placement.digest] at digest
      exact (Json.str.inj digest).symm
  refine ⟨?_, ?_, ?_⟩
  · intro one first two second same
    obtain ⟨left, leftPlaced, rfl⟩ := List.mem_map.mp first
    obtain ⟨right, rightPlaced, rfl⟩ := List.mem_map.mp second
    rw [← left.path_eq, ← right.path_eq] at same
    obtain ⟨content, stands, size, digest⟩ := checked left leftPlaced
    obtain ⟨content', stands', size', digest'⟩ := checked right rightPlaced
    rw [same, stands'] at stands
    obtain rfl := Place.file.inj stands
    exact ⟨size.symm.trans size', digest.symm.trans digest'⟩
  · obtain ⟨found, entry⟩ := entries_checked finalArtifacts
      (List.mem_append_right _ (List.mem_singleton_self _))
    have digest := entry.digest
    rw [toJson_sha256, finalized.entry_sha256] at digest
    have path : found.1 = finalReportName := by
      rw [entry.path_eq, finalized.entry_path]
      exact documentNames_normal _ (by decide)
    have stands : root (host.key finalReportName)
        = .file (canonicalBytes (Json.dict request.finalReport)) :=
      finalized.document_stored (List.mem_cons_of_mem _ (List.mem_cons_self ..))
    have content : found.2 = canonicalBytes (Json.dict request.finalReport) := by
      have held := entry.stored
      rw [path] at held
      exact Place.file.inj (held.symm.trans stands)
    rw [Json.str.inj digest, ← content]
    exact entry.notCircular
  · rw [finalized.markerSha, ← marker]
    exact accepted.bound.markerNotCircular

end Finalized

end Finalized

end Aegis.Evidence
