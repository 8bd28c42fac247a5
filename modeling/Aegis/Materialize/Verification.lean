/-
# Materialize.Verification — a destination checked against the record of its run

`verifyMaterializationManifests` binds the three manifests to the hashes of a record, compares
the listed files with the files on disk, and recomputes from the runtime manifest what the
record claims. What the destination holds is arbitrary.
-/
import Mathlib
import Aegis.Materialize.Materializer

namespace Aegis.Materialize

open Aegis.Lib
open Aegis.Lib.Guarded
open Aegis.Evidence (Host forwardSlashes segments canonicalBytes loads schemaVersion)

set_option autoImplicit false

section Verify

variable {F : Type} [JsonFloat F] (host : Host F)

/-! ## The files of an area -/

/-- One step of the walk of `_enumerate_materialized_files`. -/
def enumeratePlace (tree : FileTree String) (area : String) (found : List String)
    (rest : List String) : Except MaterializationFault (List String) :=
  match tree (area :: rest) with
  | .missing => pure found
  | .directory => pure found
  | .outside _ =>
      .error (.reparsePointError ("symlink refused in path chain: " ++ joined '/' (area :: rest)))
  | .file _ => do
      let relative ← validateRelativePath host (.str (forwardSlashes (joined '/' rest)))
      refuse (relative ∈ found)
        (.materializationError s!"duplicate on-disk materialized path {host.repr (.str relative)}")
      pure (found ++ [relative])

/-- `_enumerate_materialized_files`. -/
def enumerateMaterializedFiles (disk : Disk String) (area : String) :
    Except MaterializationFault (List String) := do
  refuse (disk.tree [area] matches .outside _)
    (.reparsePointError s!"symlink refused in path chain: {area}")
  require (disk.tree [area] matches .directory)
    (.materializationError s!"missing materialized area {host.repr (.str area)}")
  (disk.placesBelow [area]).foldlM (enumeratePlace host disk.tree area) []

/-- The bytes of a listed file. -/
def materializedContent (tree : FileTree String) (area relative : String) :
    Except MaterializationFault ByteArray :=
  match tree (area :: segments relative) with
  | .file content => pure content
  | .outside _ =>
      .error (.reparsePointError ("symlink refused in path chain: " ++ area ++ "/" ++ relative))
  | _ => .error .osError

/-! ## One manifest -/

/-- `_MANIFEST_SPECS`: the name, the kind, the area, and what a record says of the manifest. -/
structure ManifestSpec (F : Type) where
  name : String
  kind : String
  area : String
  sha256 : MaterializationRecord F → String
  document : MaterializationRecord F → Json F

def manifestSpecs : List (ManifestSpec F) :=
  [⟨controlPlaneManifestName, "authored_eval_corpus", "control_plane",
      (·.controlPlaneManifestSha256), (·.controlPlaneManifest)⟩,
    ⟨runtimeSurfaceManifestName, "sanitized_runtime_surface", "runtime_surface",
      (·.runtimeSurfaceManifestSha256), (·.runtimeSurfaceManifest)⟩,
    ⟨productFixtureManifestName, "product_fixture", "product_fixture",
      (·.productFixtureManifestSha256), (·.productFixtureManifest)⟩]

/-- 64 hexadecimal digits in lower case. -/
def IsDigest (digest : String) : Prop :=
  digest.toList.length = 64 ∧ ∀ c ∈ digest.toList, c ∈ "0123456789abcdef".toList

instance (digest : String) : Decidable (IsDigest digest) :=
  inferInstanceAs (Decidable (_ ∧ _))

/-- What a manifest says of one file. -/
structure Listed where
  path : String
  bytes : Int
  sha256 : String
  deriving DecidableEq

/-- One turn of the loop over the file entries. -/
def listEntry (name : String) (listed : List Listed) (entry : Json F) :
    Except MaterializationFault (List Listed) := do
  let malformed := MaterializationFault.materializationError
    s!"manifest {host.repr (.str name)} contains a malformed file entry"
  match entry with
  | .object fields => do
      require (fields.map Prod.fst = ["bytes", "path", "sha256"]) malformed
      let relative ← validateRelativePath host (entry.getD "path" .null)
      refuse (relative ∈ listed.map Listed.path) (.materializationError
        (s!"manifest {host.repr (.str name)} contains duplicate path " ++
          host.repr (.str relative)))
      let bytes ← fetch (nonNegative (entry.getD "bytes" .null)) (.materializationError
        (s!"manifest {host.repr (.str name)} has invalid byte count for " ++
          host.repr (.str relative)))
      let digest ← fetch (digestText (entry.getD "sha256" .null)) (.materializationError
        (s!"manifest {host.repr (.str name)} has invalid sha256 for " ++
          host.repr (.str relative)))
      pure (listed ++ [⟨relative, bytes, digest⟩])
  | _ => .error malformed
where
  nonNegative : Json F → Option Int
    | .int value => if 0 ≤ value then some value else none
    | _ => none
  digestText : Json F → Option String
    | .str digest => if IsDigest digest then some digest else none
    | _ => none

/-- The persisted manifest of a spec, bound to the record. -/
def loadManifest (disk : Disk String) (destinationRoot : String)
    (record : MaterializationRecord F) (spec : ManifestSpec F) :
    Except MaterializationFault (Json F) := do
  let name := host.repr (.str spec.name)
  refuse (disk.tree [manifestDirectory, spec.name] matches .outside _)
    (.reparsePointError s!"symlink refused in path chain: {spec.name}")
  let bytes ← fetch (disk.tree [manifestDirectory, spec.name]).content
    (.materializationError s!"missing persisted manifest {name}")
  let recordedPath ← fetch (record.manifestPaths.lookup spec.name)
    (.materializationError s!"expected record missing manifest path {name}")
  require (recordedPath = manifestPath destinationRoot spec.name)
    (.materializationError s!"manifest path mismatch for {name}")
  require (host.sha256Hex bytes = spec.sha256 record)
    (.materializationError s!"manifest {name} hash does not match MaterializationRecord")
  let document ← fetch (loads bytes) (.materializationError s!"invalid persisted manifest {name}")
  require (document.isObject = true ∧ document.finite = true ∧ canonicalBytes document = bytes)
    (.materializationError s!"manifest {name} is not canonical")
  require (document.same (spec.document record) = true)
    (.materializationError s!"manifest {name} body does not match MaterializationRecord")
  pure document

/-- The identity that a manifest shares with the record. -/
def expectedIdentity (record : MaterializationRecord F) (spec : ManifestSpec F) :
    List (String × String) :=
  [("schema_version", record.schemaVersion), ("manifest_kind", spec.kind),
    ("source_commit", record.sourceCommit), ("source_tree", record.sourceTree),
    ("materialization_profile", record.profile.value)]

/-- The files that a manifest lists, after the checks of its body. -/
def listedFiles (record : MaterializationRecord F) (spec : ManifestSpec F) (document : Json F) :
    Except MaterializationFault (List Listed) := do
  let name := host.repr (.str spec.name)
  forM (expectedIdentity record spec) fun field =>
    require ((document.getD field.1 .null).same (.str field.2) = true)
      (.materializationError (s!"manifest {name} {field.1} mismatch: expected " ++
        host.repr (.str field.2) ++ ", got " ++ host.repr (document.getD field.1 .null)))
  let entries ← fetch (arrayItems (document.getD "files" .null))
    (.materializationError s!"manifest {name} files must be a list")
  require (wholeNumber (document.getD "file_count" .null) = some (entries.length : Int))
    (.materializationError s!"manifest {name} file_count mismatch")
  entries.foldlM (listEntry host spec.name) []
where
  arrayItems : Json F → Option (List (Json F))
    | .array items => some items
    | _ => none
  wholeNumber : Json F → Option Int
    | .int value => some value
    | _ => none

/-- A listed file has the listed size and hash. -/
def checkContent (disk : Disk String) (spec : ManifestSpec F) (file : Listed) :
    Except MaterializationFault Unit := do
  let content ← materializedContent disk.tree spec.area file.path
  require ((content.size : Int) = file.bytes ∧ host.sha256Hex content = file.sha256)
    (.materializationError (s!"manifest {host.repr (.str spec.name)} file " ++
      s!"{host.repr (.str file.path)} failed byte/hash verification"))

/-- One turn of the loop over the manifests. -/
def verifyManifest (disk : Disk String) (destinationRoot : String)
    (record : MaterializationRecord F) (spec : ManifestSpec F) :
    Except MaterializationFault Unit := do
  let document ← loadManifest host disk destinationRoot record spec
  let listed ← listedFiles host record spec document
  let onDisk ← enumerateMaterializedFiles host disk spec.area
  let paths := listed.map Listed.path
  require (onDisk ⊆ paths ∧ paths ⊆ onDisk) (.materializationError
    (s!"manifest {host.repr (.str spec.name)} file-set mismatch: missing=" ++
      reprList host (sortBy id (paths.filter (· ∉ onDisk))) ++ ", extra=" ++
      reprList host (sortBy id (onDisk.filter (· ∉ paths)))))
  forM listed (checkContent host disk spec)

/-! ## The claims of the record -/

/-- The paths of the runtime manifest. -/
def runtimeFiles (record : MaterializationRecord F) : List String :=
  match record.runtimeSurfaceManifest.getD "files" (.array []) with
  | .array entries => entries.filterMap fun entry =>
      match entry.getD "path" .null with
      | .str path => some path
      | _ => none
  | _ => []

/-- The subagents of runtime files. -/
def subagentsOf (paths : List String) : List String :=
  (paths.filterMap fun path => (below agentsPrefix path).bind fun name =>
    if ['.', 'm', 'd'] <:+ path.toList then some (removeMd name) else none).dedup

/-- The counts of the record. -/
def checkCounts (record : MaterializationRecord F) : Except MaterializationFault Unit := do
  let skills := (skillsWithEntryPoint (runtimeFiles record)).length
  let subagents := (subagentsOf (runtimeFiles record)).length
  require (record.materializedSkillCount = skills)
    (.materializationError (s!"record materialized_skill_count " ++
      s!"{record.materializedSkillCount} != recomputed {skills} from the verified runtime " ++
      "surface"))
  require (record.subagentCount = subagents)
    (.materializationError (s!"record subagent_count {record.subagentCount} != recomputed " ++
      s!"{subagents} from the verified runtime surface"))

/-- The scope, the role and the shipped count of the record. -/
def checkScope (record : MaterializationRecord F) : Except MaterializationFault Unit := do
  require (record.claimScope = .partialInstall ↔ record.profile = .consumerPartialInstall)
    (.materializationError "record claim_scope and materialization profile are inconsistent")
  require (record.workspaceRole = .sourceLibrary ↔ record.profile = .sourceLibrary)
    (.materializationError "record workspace_role and materialization profile are inconsistent")
  if record.claimScope = .fullLibrary then
    require (record.shippedSkillCount = record.materializedSkillCount)
      (.materializationError (s!"full-library record shipped_skill_count must equal the " ++
        s!"materialized skill count; got {record.shippedSkillCount} != " ++
        s!"{record.materializedSkillCount}"))
  else
    refuse (record.shippedSkillCount < record.materializedSkillCount)
      (.materializationError "record shipped_skill_count is below materialized_skill_count")

/-- The eligibility of the record, and its reasons. -/
def checkEligibility (record : MaterializationRecord F) : Except MaterializationFault Unit := do
  let partialInstall : Bool := record.claimScope = .partialInstall
  let derived := !(partialInstall || !record.ambiguousExcluded.isEmpty ||
    !record.writeIntegrityBaseline)
  require (record.baselineEligible = derived)
    (.materializationError (s!"record baseline_eligible " ++
      host.str (.bool record.baselineEligible) ++ s!" != derived " ++ host.str (.bool derived) ++
      " (partial_install, ambiguity, or unproven write-integrity makes a run " ++
      "baseline-ineligible)"))
  refuse (record.baselineEligible = true ∧ record.baselineIneligibilityReasons ≠ [])
    (.materializationError "a baseline_eligible record must carry no ineligibility reasons")
  refuse (record.baselineEligible = false ∧ record.baselineIneligibilityReasons = [])
    (.materializationError "a baseline-ineligible record must state at least one reason")
  require (record.baselineIneligibilityReasons =
      ineligibilityReasons host partialInstall record.ambiguousExcluded
        record.writeIntegrityBaseline)
    (.materializationError ("record baseline_ineligibility_reasons do not match the reasons " ++
      "recomputed from claim_scope and the ambiguity inventory"))

/-- `verify_materialization_manifests`. -/
def verifyMaterializationManifests (disk : Disk String) (destinationRoot : String)
    (record : MaterializationRecord F) : Except MaterializationFault Unit := do
  require (record.schemaVersion = schemaVersion)
    (.materializationError "unsupported materialization schema_version")
  refuse (disk.tree [manifestDirectory] matches .outside _)
    (.reparsePointError s!"symlink refused in path chain: {manifestDirectory}")
  forM manifestSpecs (verifyManifest host disk destinationRoot record)
  checkCounts record
  checkScope record
  checkEligibility host record

end Verify

end Aegis.Materialize
