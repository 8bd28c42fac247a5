/-
# Materialize.Materializer — the surfaces written below a fresh destination

`materialize` routes a snapshot, writes the three areas and their manifests below the
destination and returns the record of the run. Every write goes through `writeUnderDestination`,
which creates no file through a link and replaces none. The file system compares names exactly,
and the destination is written on a host with descriptor-relative no-follow writes.
-/
import Aegis.Evidence.Writer
import Aegis.Lib.Disk
import Aegis.Lib.Joined
import Aegis.Materialize.Routing

namespace Aegis.Materialize

open Aegis.Lib
open Aegis.Lib.Guarded
open Aegis.Evidence (Host segments canonicalBytes schemaVersion)

set_option autoImplicit false

/-! ## Writes -/

section Writes

variable {F : Type} (host : Host F)

/-- The directories on the way to a file are there or are made. -/
def openParents (tree : FileTree String) (relativePath : String) :
    List String → List String → Except MaterializationFault Unit
  | _, [] => .ok ()
  | above, component :: rest => do
      refuse ('\x00' ∈ component.toList) .valueError
      require ((tree (above ++ [component])).canBeDirectory = true)
        (.reparsePointError (s!"path component {host.repr (.str component)} under " ++
          s!"{host.repr (.str relativePath)} is not a real directory (no-follow open refused)"))
      openParents tree relativePath (above ++ [component]) rest

/-- `_write_under_destination` and `_write_at_root_fd`. -/
def writeUnderDestination (disk : Disk String) (relativePath : String) (content : ByteArray) :
    Except MaterializationFault (Disk String) := do
  let target ← validateRelativePath host (.str relativePath)
  require (disk.tree [] matches .directory)
    (.reparsePointError "destination root is not a real directory (no-follow open refused)")
  let path := segments target
  openParents host disk.tree target [] path.dropLast
  refuse ('\x00' ∈ (path.getLastD "").toList) .valueError
  require (disk.tree path matches .missing)
    (.materializationError s!"refusing to overwrite an existing target {host.repr (.str target)}")
  require (host.writable path = true)
    (.reparsePointError s!"could not create {host.repr (.str target)} no-follow")
  pure (disk.write path content)

/-- `_create_empty_area`. -/
def createEmptyArea (disk : Disk String) (areaName : String) :
    Except MaterializationFault (Disk String) := do
  require (disk.tree [] matches .directory) (.reparsePointError "cannot anchor empty area")
  require ((disk.tree [areaName]).canBeDirectory = true)
    (.reparsePointError "cannot create empty area no-follow")
  pure (disk.makeDirectory [areaName])

/-- The files of one area, in path order. -/
def writeArea (disk : Disk String) (area : String × List (String × ByteArray)) :
    Except MaterializationFault (Disk String) :=
  area.2.foldlM (fun disk file => writeUnderDestination host disk (area.1 ++ "/" ++ file.1) file.2)
    disk

end Writes

/-! ## Manifests -/

section Manifests

variable {F : Type} (host : Host F)

def fileEntry (file : String × ByteArray) : Json F :=
  .dict [("path", .str file.1), ("bytes", .int file.2.size),
    ("sha256", .str (host.sha256Hex file.2))]

/-- `_manifest`; `fixture` are the fields of a product fixture. -/
def manifest (kind : String) (snapshot : SnapshotSource) (profile : MaterializationProfile)
    (entries : List (String × ByteArray)) (fixture : List (String × Json F) := []) : Json F :=
  .dict ([("schema_version", .str schemaVersion), ("manifest_kind", .str kind),
    ("source_commit", .str snapshot.sourceCommit), ("source_tree", .str snapshot.sourceTree),
    ("materialization_profile", .str profile.value), ("file_count", .int entries.length),
    ("files", .array (entries.map (fileEntry host)))] ++ fixture)

/-- The areas and their files. -/
def areasOf (request : MaterializationRequest) (surfaces : Surfaces) :
    List (String × List (String × ByteArray)) :=
  [("control_plane", surfaces.controlPlane), ("runtime_surface", surfaces.runtimeSurface),
    ("product_fixture", request.fixture.files.entries)]

def controlPlaneManifestName : String := "control_plane_manifest.json"

def runtimeSurfaceManifestName : String := "runtime_surface_manifest.json"

def productFixtureManifestName : String := "product_fixture_manifest.json"

def manifestDirectory : String := "materialization_manifests"

def controlPlaneManifest (request : MaterializationRequest) (surfaces : Surfaces) : Json F :=
  manifest host "authored_eval_corpus" request.snapshot request.profile surfaces.controlPlane

def runtimeSurfaceManifest (request : MaterializationRequest) (surfaces : Surfaces) : Json F :=
  manifest host "sanitized_runtime_surface" request.snapshot request.profile
    surfaces.runtimeSurface

def productFixtureManifest (request : MaterializationRequest) : Json F :=
  manifest host "product_fixture" request.snapshot request.profile request.fixture.files.entries
    [("fixture_id", .str request.fixture.fixtureId),
      ("fixture_version", .str request.fixture.fixtureVersion)]

/-- The manifests by their names. -/
def manifestFiles (request : MaterializationRequest) (surfaces : Surfaces) :
    List (String × Json F) :=
  [(controlPlaneManifestName, controlPlaneManifest host request surfaces),
    (runtimeSurfaceManifestName, runtimeSurfaceManifest host request surfaces),
    (productFixtureManifestName, productFixtureManifest host request)]

/-- `_safe_join` of the destination, of a manifest. -/
def manifestPath (destinationRoot name : String) : String :=
  destinationRoot ++ "/" ++ manifestDirectory ++ "/" ++ name

end Manifests

/-! ## Records -/

structure MaterializationRecord (F : Type) where
  sourceCommit : String
  sourceTree : String
  profile : MaterializationProfile
  workspaceRole : WorkspaceRole
  claimScope : ClaimScope
  shippedSkillCount : Nat
  materializedSkillCount : Nat
  subagentCount : Nat
  ambiguousExcluded : List String
  controlPlaneManifest : Json F
  runtimeSurfaceManifest : Json F
  productFixtureManifest : Json F
  controlPlaneManifestSha256 : String
  runtimeSurfaceManifestSha256 : String
  productFixtureManifestSha256 : String
  baselineEligible : Bool
  baselineIneligibilityReasons : List String
  writeIntegrityBaseline : Bool
  manifestPaths : List (String × String)
  schemaVersion : String := Evidence.schemaVersion

def writeIntegrityIneligibilityReason : String :=
  "materialization write-integrity is not proven baseline (§4/§6.A): the " ++
  "trusted-root no-follow write path is UNAVAILABLE or IMPLEMENTED_BUT_UNRUN on " ++
  "this host, so real-host materialization is NON_BASELINE under Outcome B"

def partialInstallIneligibilityReason : String :=
  "partial_install results are ineligible for baseline, stability, " ++
  "full-corpus coverage, and promotion accounting (design §5a)"

/-- `materialization_write_capability()["baseline_status"]`. -/
def platformWriteIntegrity : String := "NON_BASELINE"

/-- The integrity of the writes of a request: declared, or that of the platform. -/
def writeIntegrityBaseline (request : MaterializationRequest) : Bool :=
  (if request.writeIntegrityCapability ≠ "" then request.writeIntegrityCapability
    else platformWriteIntegrity) = "BASELINE"

/-- `_ineligibility_reasons`. -/
def ineligibilityReasons {F : Type} (host : Host F) (partialInstall : Bool)
    (ambiguousExcluded : List String) (writeIntegrity : Bool) : List String :=
  let ambiguous := sortBy id ambiguousExcluded
  (if writeIntegrity then [] else [writeIntegrityIneligibilityReason]) ++
    (if partialInstall then [partialInstallIneligibilityReason] else []) ++
    (if ambiguous = [] then []
      else ["ambiguous_needs_owner_review files were excluded from the runtime surface: " ++
        reprList host (ambiguous.take 5) ++ (if 5 < ambiguous.length then "..." else "")])

section Materialize

variable {F : Type} [JsonFloat F] (host : Host F)

def materializationRecord (request : MaterializationRequest) (shipped : List String)
    (surfaces : Surfaces) : MaterializationRecord F :=
  let reasons := ineligibilityReasons host (request.claimScope = .partialInstall)
    surfaces.ambiguousExcluded (writeIntegrityBaseline request)
  { sourceCommit := request.snapshot.sourceCommit
    sourceTree := request.snapshot.sourceTree
    profile := request.profile
    workspaceRole := request.workspaceRole
    claimScope := request.claimScope
    shippedSkillCount := shipped.length
    materializedSkillCount :=
      (skillsWithEntryPoint (surfaces.runtimeSurface.map Prod.fst)).length
    subagentCount := surfaces.subagentNames.length
    ambiguousExcluded := sortBy id surfaces.ambiguousExcluded
    controlPlaneManifest := Materialize.controlPlaneManifest host request surfaces
    runtimeSurfaceManifest := Materialize.runtimeSurfaceManifest host request surfaces
    productFixtureManifest := Materialize.productFixtureManifest host request
    controlPlaneManifestSha256 :=
      host.sha256Hex (canonicalBytes (Materialize.controlPlaneManifest host request surfaces))
    runtimeSurfaceManifestSha256 :=
      host.sha256Hex (canonicalBytes (Materialize.runtimeSurfaceManifest host request surfaces))
    productFixtureManifestSha256 :=
      host.sha256Hex (canonicalBytes (Materialize.productFixtureManifest host request))
    baselineEligible := reasons.isEmpty
    baselineIneligibilityReasons := reasons
    writeIntegrityBaseline := Materialize.writeIntegrityBaseline request
    manifestPaths := (manifestFiles host request surfaces).map fun file =>
      (file.1, manifestPath request.destinationRoot file.1) }

/-- Something is listed in the destination. -/
def occupied (disk : Disk String) : Bool :=
  disk.known.any fun path => path.length = 1 && (disk.tree path).exists_

/-- The areas, the manifests, and directories for the areas without files. -/
def writeSurfaces (request : MaterializationRequest) (surfaces : Surfaces) (disk : Disk String) :
    Except MaterializationFault (Disk String) := do
  let disk ← (areasOf request surfaces).foldlM (writeArea host) disk
  let disk ← (manifestFiles host request surfaces).foldlM (fun disk file =>
    writeUnderDestination host disk (manifestDirectory ++ "/" ++ file.1)
      (canonicalBytes file.2)) disk
  ((areasOf request surfaces).filter (·.2.isEmpty)).foldlM
    (fun disk area => createEmptyArea disk area.1) disk

/-- `materialize`. -/
def materialize (request : MaterializationRequest) (disk : Disk String) :
    Except MaterializationFault (MaterializationRecord F × Disk String) := do
  checkRoleProfile request
  request.fixture.validate host
  refuse (disk.tree [] matches .outside _)
    (.reparsePointError s!"symlink in ancestor chain: {request.destinationRoot}")
  refuse (disk.tree [] matches .file _) .osError
  refuse (occupied disk = true)
    (.materializationError (s!"destination {host.repr (.str request.destinationRoot)} is not " ++
      "empty; materialization requires a fresh destination so the written surfaces exactly " ++
      "match the returned manifests"))
  let (shipped, surfaces) ← route host request
  let disk ← writeSurfaces host request surfaces disk
  pure (materializationRecord host request shipped surfaces, disk)

end Materialize

end Aegis.Materialize
