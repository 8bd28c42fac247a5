/-
# Evidence.MarkerBinding — the detached marker binds the whole bundle

The marker names the final manifest and the final report, the report the input
manifest, and the manifests every artifact, each by its hash. Where the hash is
injective, two accepted bundles with the same marker therefore have the same
documents (`Documents.Verified.eq_of_marker`) and the same artifacts.
-/
import Aegis.Evidence.FinalizedBundles

namespace Aegis.Evidence

open Aegis.Lib
open Aegis.Lib.Guarded

set_option autoImplicit false

section Binding

variable {F : Type} [JsonFloat F] {host : Host F} {left right : FileTree String}

theorem same_document {name : String} {one two : Json F} {bytes : ByteArray}
    (first : loadJsonBytes host left name = .ok (one, bytes))
    (second : loadJsonBytes host right name = .ok (two, bytes)) : one = two := by
  obtain ⟨-, read, -⟩ := loadJsonBytes_eq_ok.mp first
  obtain ⟨-, again, -⟩ := loadJsonBytes_eq_ok.mp second
  exact Option.some.inj (read.symm.trans again)

/-- **The chain of hashes.** From the marker to the final manifest and the report,
from the report to the input manifest. -/
theorem Documents.Verified.eq_of_marker (injective : Function.Injective host.sha256Hex)
    {one two : Documents F} (first : one.Verified host left) (second : two.Verified host right)
    (marker : one.markerBytes = two.markerBytes) : one = two := by
  have sameMarker : one.marker = two.marker :=
    same_document first.loaded.marker (marker ▸ second.loaded.marker)
  have final : one.finalBytes = two.finalBytes := by
    have named := first.bound.final
    rw [sameMarker, second.bound.final] at named
    exact injective (Json.str.inj named).symm
  have sameFinal : one.finalManifest = two.finalManifest :=
    same_document first.loaded.final (final ▸ second.loaded.final)
  have report : one.reportBytes = two.reportBytes := by
    have named := first.bound.report
    rw [sameMarker, second.bound.report] at named
    exact injective (Json.str.inj named).symm
  have sameReport : one.report = two.report :=
    same_document first.loaded.report (report ▸ second.loaded.report)
  have input : one.inputBytes = two.inputBytes := by
    have named := first.bound.input
    have same : one.boundInputSha = two.boundInputSha := by
      unfold Documents.boundInputSha
      rw [sameReport]
    rw [same, second.bound.input] at named
    exact injective (Json.str.inj named).symm
  have sameInput : one.inputManifest = two.inputManifest :=
    same_document first.loaded.input (input ▸ second.loaded.input)
  cases one
  cases two
  simp_all

/-- An entry is accepted in both bundles for the same content. -/
theorem EntryChecked.same_content (injective : Function.Injective host.sha256Hex)
    {allowFinalReport : Bool} {entry : Json F} {one two : String × ByteArray}
    (first : EntryChecked host left allowFinalReport entry one)
    (second : EntryChecked host right allowFinalReport entry two) : one = two := by
  have path : one.1 = two.1 := Except.ok.inj (first.path.symm.trans second.path)
  have content : one.2 = two.2 := injective (Json.str.inj (first.digest.symm.trans second.digest))
  exact Prod.ext path content

/-- The path of an artifact that the manifest lists. -/
def Lists (host : Host F) (root : FileTree String) (manifestName path : String) : Prop :=
  ∃ manifest bytes entries entry, loadJsonBytes host root manifestName = .ok (manifest, bytes) ∧
    manifest.get? "artifacts" = some (.array entries) ∧ entry ∈ entries ∧
    normalizeRelativePath host (entry.getD "path" (.str "")) = .ok path

/-- A document of the bundle says this of its run. -/
def RunIdIn (host : Host F) (root : FileTree String) (name : String) (runId : Json F) : Prop :=
  ∃ document bytes, loadJsonBytes host root name = .ok (document, bytes) ∧
    document.getD "run_id" .null = runId

/-- The artifacts of a manifest that both bundles have are the same. -/
theorem same_artifacts (injective : Function.Injective host.sha256Hex) {name : String}
    {allowFinalReport : Bool} {manifest : Json F} {bytes : ByteArray}
    {leftDone rightDone : List (String × String)}
    (leftLoaded : loadJsonBytes host left name = .ok (manifest, bytes))
    (rightLoaded : loadJsonBytes host right name = .ok (manifest, bytes))
    (leftChecked : verifyManifestArtifacts host left manifest allowFinalReport = .ok leftDone)
    (rightChecked : verifyManifestArtifacts host right manifest allowFinalReport = .ok rightDone)
    {path : String} (listed : Lists host left name path ∨ Lists host right name path) :
    ∃ content, left (host.key path) = .file content ∧ right (host.key path) = .file content := by
  obtain ⟨entries, found, listing, checked, -, -⟩ := verifyManifestArtifacts_eq_ok.mp leftChecked
  obtain ⟨_, found', listing', checked', -, -⟩ := verifyManifestArtifacts_eq_ok.mp rightChecked
  obtain rfl := Json.array.inj (Option.some.inj (listing.symm.trans listing'))
  have entry : ∃ entry ∈ entries,
      normalizeRelativePath host (entry.getD "path" (.str "")) = .ok path := by
    rcases listed with ⟨other, _, held, entry, loaded, holds, member, normal⟩ |
      ⟨other, _, held, entry, loaded, holds, member, normal⟩
    · rw [leftLoaded] at loaded
      obtain ⟨rfl, rfl⟩ := Prod.mk.inj (Except.ok.inj loaded)
      obtain rfl := Json.array.inj (Option.some.inj (listing.symm.trans holds))
      exact ⟨entry, member, normal⟩
    · rw [rightLoaded] at loaded
      obtain ⟨rfl, rfl⟩ := Prod.mk.inj (Except.ok.inj loaded)
      obtain rfl := Json.array.inj (Option.some.inj (listing.symm.trans holds))
      exact ⟨entry, member, normal⟩
  obtain ⟨entry, member, normal⟩ := entry
  obtain ⟨one, first⟩ := checked_of_mem checked member
  obtain ⟨two, second⟩ := checked_of_mem checked' member
  obtain rfl := first.same_content injective second
  have named : one.1 = path :=
    Except.ok.inj ((validateArtifactPath_eq_ok.mp first.path).1.symm.trans normal)
  exact ⟨one.2, named ▸ first.stored, named ▸ second.stored⟩

/-- **The marker binds the bundle.** Two accepted bundles with the same marker bytes
have the same report, the same manifests and the same bytes in every artifact that
a manifest of either lists, and one run id stands in all their documents. -/
theorem marker_binds_bundle (injective : Function.Injective host.sha256Hex)
    {one two : VerifiedBundle} (leftVerified : verifyFinalBundle host left = .ok one)
    (rightVerified : verifyFinalBundle host right = .ok two)
    (marker : (left (host.key markerName)).content = (right (host.key markerName)).content) :
    one = two ∧
    (∀ name ∈ [finalReportName, finalManifestName, inputManifestName], ∃ content,
      (left (host.key name)).content = some content ∧
        (right (host.key name)).content = some content) ∧
    (∀ name ∈ [inputManifestName, finalManifestName], ∀ path,
      Lists host left name path ∨ Lists host right name path →
        ∃ content, left (host.key path) = .file content ∧
          right (host.key path) = .file content) ∧
    ∃ runId, truthy runId = true ∧ ∀ root ∈ [left, right],
      RunIdIn host root inputManifestName runId ∧
        ∀ name ∈ [finalManifestName, markerName, finalReportName], ∃ held,
          RunIdIn host root name held ∧ held.same runId = true := by
  obtain ⟨documents, first, rfl⟩ := verifyFinalBundle_eq_ok.mp leftVerified
  obtain ⟨others, second, rfl⟩ := verifyFinalBundle_eq_ok.mp rightVerified
  have markerBytes : documents.markerBytes = others.markerBytes := by
    rw [(loadJsonBytes_eq_ok.mp first.loaded.marker).1,
      (loadJsonBytes_eq_ok.mp second.loaded.marker).1] at marker
    exact Option.some.inj marker
  obtain rfl := first.eq_of_marker injective second markerBytes
  refine ⟨rfl, ?_, ?_, documents.runId, first.sameRun.truthy, ?_⟩
  · intro name member
    simp only [List.mem_cons, List.not_mem_nil, or_false] at member
    rcases member with rfl | rfl | rfl
    · exact ⟨_, (loadJsonBytes_eq_ok.mp first.loaded.report).1,
        (loadJsonBytes_eq_ok.mp second.loaded.report).1⟩
    · exact ⟨_, (loadJsonBytes_eq_ok.mp first.loaded.final).1,
        (loadJsonBytes_eq_ok.mp second.loaded.final).1⟩
    · exact ⟨_, (loadJsonBytes_eq_ok.mp first.loaded.input).1,
        (loadJsonBytes_eq_ok.mp second.loaded.input).1⟩
  · intro name member path listed
    obtain ⟨_, leftInput⟩ := first.inputArtifacts
    obtain ⟨_, rightInput⟩ := second.inputArtifacts
    obtain ⟨_, leftFinal⟩ := first.finalArtifacts
    obtain ⟨_, rightFinal⟩ := second.finalArtifacts
    simp only [List.mem_cons, List.not_mem_nil, or_false] at member
    rcases member with rfl | rfl
    · exact same_artifacts injective first.loaded.input second.loaded.input leftInput rightInput
        listed
    · exact same_artifacts injective first.loaded.final second.loaded.final leftFinal rightFinal
        listed
  · have runs : ∀ {root : FileTree String}, documents.Verified host root →
        RunIdIn host root inputManifestName documents.runId ∧
          ∀ name ∈ [finalManifestName, markerName, finalReportName], ∃ held,
            RunIdIn host root name held ∧ held.same documents.runId = true := by
      intro root verified
      refine ⟨⟨_, _, verified.loaded.input, rfl⟩, ?_⟩
      intro name member
      simp only [List.mem_cons, List.not_mem_nil, or_false] at member
      rcases member with rfl | rfl | rfl
      · exact ⟨_, ⟨_, _, verified.loaded.final, rfl⟩, verified.sameRun.final⟩
      · exact ⟨_, ⟨_, _, verified.loaded.marker, rfl⟩, verified.sameRun.marker⟩
      · exact ⟨_, ⟨_, _, verified.loaded.report, rfl⟩, verified.sameRun.report⟩
    intro root member
    simp only [List.mem_cons, List.not_mem_nil, or_false] at member
    rcases member with rfl | rfl
    · exact runs first
    · exact runs second

end Binding

theorem marker_binds_sample : ∃ root bundle, verifyFinalBundle sampleHost root = .ok bundle ∧
    ∃ runId, truthy runId = true ∧ ∀ root' ∈ [root, root],
      RunIdIn sampleHost root' inputManifestName runId ∧
        ∀ name ∈ [finalManifestName, markerName, finalReportName], ∃ held,
          RunIdIn sampleHost root' name held ∧ held.same runId = true := by
  obtain ⟨root, bundle, accepted⟩ := sample_accepted
  exact ⟨root, bundle, accepted,
    (marker_binds_bundle markedDigest_injective accepted accepted rfl).2.2.2⟩

end Aegis.Evidence
