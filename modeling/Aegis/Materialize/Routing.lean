/-
# Materialize.Routing — the surfaces of a request

`destinationOf` decides for one path of a snapshot which surface its file goes to: skills,
subagents, startup files and source landmarks each have their own branch. `surfaces` routes a
whole snapshot, with the checks that `materialize` makes before it writes anything.
-/
import Aegis.Lib.SortBy
import Aegis.Materialize.RuntimeSurface
import Mathlib.Data.String.Basic

namespace Aegis.Materialize

open Aegis.Lib
open Aegis.Lib.Guarded
open Aegis.Evidence (Host forwardSlashes segments normalizeRelativePath)

set_option autoImplicit false

/-! ## Requests -/

inductive MaterializationProfile
  | consumerSkillsOnly
  | consumerWithStartupRouting
  | consumerWithSubagents
  | sourceLibrary
  | consumerPartialInstall
  deriving DecidableEq, Repr

inductive WorkspaceRole
  | consumer
  | sourceLibrary
  deriving DecidableEq, Repr

inductive ClaimScope
  | fullLibrary
  | partialInstall
  deriving DecidableEq, Repr

namespace MaterializationProfile

def value : MaterializationProfile → String
  | .consumerSkillsOnly => "consumer_skills_only"
  | .consumerWithStartupRouting => "consumer_with_startup_routing"
  | .consumerWithSubagents => "consumer_with_subagents"
  | .sourceLibrary => "source_library"
  | .consumerPartialInstall => "consumer_partial_install"

/-- `_PROFILE_INCLUDES_STARTUP`. -/
def includesStartup : MaterializationProfile → Bool
  | .consumerSkillsOnly => false
  | .consumerWithStartupRouting => true
  | .consumerWithSubagents => true
  | .sourceLibrary => true
  | .consumerPartialInstall => false

/-- `_PROFILE_INCLUDES_SUBAGENTS`. -/
def includesSubagents : MaterializationProfile → Bool
  | .consumerSkillsOnly => false
  | .consumerWithStartupRouting => false
  | .consumerWithSubagents => true
  | .sourceLibrary => true
  | .consumerPartialInstall => false

end MaterializationProfile

/-- Files by their paths, in path order. -/
structure Files where
  entries : List (String × ByteArray)
  ordered : Dict.Ordered entries

/-- A snapshot of the repository. -/
structure SnapshotSource where
  files : Files
  sourceCommit : String
  sourceTree : String

structure FixtureDefinition where
  fixtureId : String
  fixtureVersion : String
  files : Files

structure MaterializationRequest where
  snapshot : SnapshotSource
  profile : MaterializationProfile
  workspaceRole : WorkspaceRole
  claimScope : ClaimScope
  destinationRoot : String
  fixture : FixtureDefinition
  partialSkillSubset : List String := []
  requiredSubagents : List String := []
  writeIntegrityCapability : String := ""

/-! ## Paths of a repository -/

def skillsPrefix : String := ".claude/skills/"

def agentsPrefix : String := ".claude/agents/"

def templateSkill : String := "_template"

def startupFiles : List String := ["AGENTS.md", "CLAUDE.md"]

def sourceLandmarks : List String :=
  ["README.md", "docs/skills-catalog.md", "scripts/validate-skills.py",
    "artifacts/audits/skill-contract-audit-baseline.json"]

/-- The rest of a path behind `area`, when the path starts with it. -/
def below (area path : String) : Option String :=
  if area.toList <+: path.toList then some (String.ofList (path.toList.drop area.toList.length))
  else none

/-- `text.partition("/")`, without the separator. -/
def partition (text : String) : String × String :=
  (String.ofList (text.toList.takeWhile (· ≠ '/')),
    String.ofList ((text.toList.dropWhile (· ≠ '/')).drop 1))

/-- `text.removesuffix(".md")`. -/
def removeMd (text : String) : String :=
  if ['.', 'm', 'd'] <:+ text.toList then String.ofList (text.toList.take (text.toList.length - 3))
  else text

/-- The skill whose entry point a path is. -/
def entrySkill (path : String) : Option String :=
  (below skillsPrefix path).bind fun remainder =>
    if (partition remainder).2 = "SKILL.md" then some (partition remainder).1 else none

/-- The skill that a path ships: its entry point, of a skill that is not the template. -/
def shippedSkill (path : String) : Option String :=
  (entrySkill path).filter fun skill => skill ≠ "" && skill ≠ templateSkill

/-- `discover_shipped_skills`. -/
def discoverShippedSkills (files : Files) : List String :=
  sortBy id (files.entries.filterMap fun file => shippedSkill file.1).dedup

section Host

variable {F : Type} (host : Host F)

/-- A list of texts as Python prints it. -/
def reprList (texts : List String) : String :=
  "[" ++ ", ".intercalate (texts.map fun text => host.repr (.str text)) ++ "]"

/-- `_validate_relative_path`. -/
def validateRelativePath (path : Json F) : Except MaterializationFault String :=
  (normalizeRelativePath host path).mapError .pathEscapeError

/-- `FixtureDefinition.validate`. -/
def FixtureDefinition.validate (fixture : FixtureDefinition) : Except MaterializationFault Unit := do
  refuse (fixture.fixtureId = "") (.materializationError "fixture_id required")
  forM fixture.files.entries fun file => do
    let _ ← validateRelativePath host (.str file.1)

/-- `_check_role_profile`. -/
def checkRoleProfile (request : MaterializationRequest) : Except MaterializationFault Unit := do
  if request.profile = .sourceLibrary then
    require (request.workspaceRole = .sourceLibrary)
      (.roleMismatchError "source_library profile requires workspace_role source_library")
  else
    require (request.workspaceRole = .consumer)
      (.roleMismatchError s!"profile {request.profile.value} requires workspace_role consumer")
  let partialProfile := request.profile = .consumerPartialInstall
  require (partialProfile ↔ request.claimScope = .partialInstall)
    (.partialSurfaceViolationError ("consumer_partial_install and claim_scope partial_install " ++
      "must be declared together; a reduced surface is never a full-library claim"))
  refuse (request.partialSkillSubset ≠ [] ∧ ¬ partialProfile)
    (.partialSurfaceViolationError ("a skill subset is only permitted under " ++
      "consumer_partial_install with claim_scope partial_install (design §5a binding rule)"))
  refuse (partialProfile ∧ request.partialSkillSubset = [])
    (.partialSurfaceViolationError
      "consumer_partial_install requires an explicitly declared skill subset")

/-- The skills that are materialized. -/
def selectSkills (request : MaterializationRequest) (shipped : List String) :
    Except MaterializationFault (List String) :=
  if request.profile = .consumerPartialInstall then do
    let declared := sortBy id request.partialSkillSubset.dedup
    let unknown := declared.filter (· ∉ shipped)
    require (unknown = [])
      (.materializationError s!"partial subset names unknown skills: {reprList host unknown}")
    pure declared
  else pure shipped

/-! ## One path -/

/-- Where the file of a path goes. -/
inductive Destination
  | controlPlane
  | runtime (subagent : Option String)
  | ambiguousExcluded
  | left
  deriving DecidableEq, Repr

/-- A path below the skills area. -/
def skillDestination (selected : List String) (remainder : String) :
    Except MaterializationFault Destination :=
  let (skill, inner) := partition remainder
  if inner = "" then pure .left
  else do
    let classified ← classifySkillFile host inner
    if classified.classification = .controlPlaneOnly then pure .controlPlane
    else if skill = templateSkill ∨ skill ∉ selected then pure .left
    else if classified.classification = .runtimeRequired then pure (.runtime none)
    else pure .ambiguousExcluded

/-- A path below the subagents area. -/
def agentDestination (request : MaterializationRequest) (name : String) : Destination :=
  if request.profile.includesSubagents = true then
    if request.requiredSubagents ≠ [] ∧ removeMd name ∉ request.requiredSubagents then .left
    else .runtime (some (removeMd name))
  else .left

/-- The routing of one path. -/
def destinationOf (request : MaterializationRequest) (selected : List String) (path : String) :
    Except MaterializationFault Destination :=
  match below skillsPrefix path with
  | some remainder => skillDestination host selected remainder
  | none =>
      match below agentsPrefix path with
      | some name => pure (agentDestination request name)
      | none =>
          if path ∈ startupFiles then
            pure (if request.profile.includesStartup = true then .runtime none else .left)
          else if path ∈ sourceLandmarks then
            pure (if request.profile = .sourceLibrary then .runtime none else .left)
          else pure .left

/-! ## The snapshot -/

structure Surfaces where
  controlPlane : List (String × ByteArray) := []
  runtimeSurface : List (String × ByteArray) := []
  ambiguousExcluded : List String := []
  subagentNames : List String := []

/-- The surfaces with one more file. -/
def Surfaces.add (surfaces : Surfaces) (file : String × ByteArray) : Destination → Surfaces
  | .controlPlane => { surfaces with controlPlane := surfaces.controlPlane ++ [file] }
  | .runtime none => { surfaces with runtimeSurface := surfaces.runtimeSurface ++ [file] }
  | .runtime (some name) => { surfaces with
      runtimeSurface := surfaces.runtimeSurface ++ [file]
      subagentNames := surfaces.subagentNames.insert name }
  | .ambiguousExcluded =>
      { surfaces with ambiguousExcluded := surfaces.ambiguousExcluded ++ [file.1] }
  | .left => surfaces

/-- One turn of the routing loop. -/
def routeFile (request : MaterializationRequest) (selected : List String) (surfaces : Surfaces)
    (file : String × ByteArray) : Except MaterializationFault Surfaces := do
  let destination ← destinationOf host request selected file.1
  pure (surfaces.add file destination)

/-- The checks of the subagents that the request requires. -/
def checkRequiredSubagents (request : MaterializationRequest) (found : List String) :
    Except MaterializationFault Unit :=
  if request.requiredSubagents = [] then pure ()
  else do
    require (request.profile.includesSubagents = true)
      (.materializationError (s!"required subagents " ++
        reprList host (sortBy id request.requiredSubagents) ++
        s!" but profile {request.profile.value} carries no subagents"))
    let missing := sortBy id ((request.requiredSubagents.filter (· ∉ found)).dedup)
    require (missing = [])
      (.materializationError
        s!"required subagents absent from the snapshot: {reprList host missing}")

/-- The checks that control-plane files stayed out of the runtime surface. -/
def checkLeakage (surfaces : Surfaces) : Except MaterializationFault Unit := do
  let leaked := (surfaces.runtimeSurface.map Prod.fst).filter
    (· ∈ surfaces.controlPlane.map Prod.fst)
  require (leaked = []) (.controlPlaneLeakageError
    s!"control-plane files in runtime surface: {reprList host leaked}")
  forM surfaces.runtimeSurface fun file =>
    match below skillsPrefix file.1 with
    | some remainder => do
        let classified ← classifySkillFile host (partition remainder).2
        require (classified.classification = .runtimeRequired) (.controlPlaneLeakageError
          s!"non-runtime file classified into runtime surface: {file.1}")
    | none => pure ()

/-- The skills whose entry point is in the runtime surface. -/
def skillsWithEntryPoint (paths : List String) : List String := (paths.filterMap entrySkill).dedup

/-- The check of a full-library claim. -/
def checkFullLibrary (request : MaterializationRequest) (shipped entered : List String) :
    Except MaterializationFault Unit :=
  if request.claimScope = .fullLibrary then
    let missing := shipped.filter (· ∉ entered)
    require (missing = []) (.partialSurfaceViolationError
      ("full-library claim but skill entry point(s) missing from the runtime surface: " ++
        reprList host (missing.take 5) ++ (if 5 < missing.length then "..." else "")))
  else pure ()

/-- What `materialize` computes before it writes. -/
def route (request : MaterializationRequest) :
    Except MaterializationFault (List String × Surfaces) := do
  let shipped := discoverShippedSkills request.snapshot.files
  refuse (shipped = []) (.materializationError "snapshot contains no shipped skills")
  let selected ← selectSkills host request shipped
  let surfaces ← request.snapshot.files.entries.foldlM (routeFile host request selected) {}
  checkRequiredSubagents host request surfaces.subagentNames
  checkLeakage host surfaces
  checkFullLibrary host request shipped
    (skillsWithEntryPoint (surfaces.runtimeSurface.map Prod.fst))
  pure (shipped, surfaces)

end Host

end Aegis.Materialize
