/-
# Materialize.Leakage — control-plane material in the runtime surface

The rules of `classifySkillFile` are applied to files of skills only, below the skill. A file of
the runtime surface breaks them in exactly two ways (`Exposed`): it is a subagent file, or the
name of its skill is control-plane material itself. `surface_independent_iff` says so of one
run, and of two runs whose snapshots differ in control-plane files only.
-/
import Aegis.Evidence.FinalizedBundles
import Aegis.Materialize.Routed
import Aegis.Materialize.Written

namespace Aegis.Materialize

open Aegis.Lib
open Aegis.Lib.Guarded
open Aegis.Evidence (Host)

set_option autoImplicit false

/-- The path below its top-level area. -/
def belowArea (path : String) : String :=
  match below skillsPrefix path with
  | some remainder => remainder
  | none => (below agentsPrefix path).getD path

/-- The rules make the path control-plane material. -/
def ControlPlaneFile (path : String) : Prop := ControlPlane (belowArea path)

instance (path : String) : Decidable (ControlPlaneFile path) :=
  inferInstanceAs (Decidable (ControlPlane _))

theorem belowArea_skill (remainder : String) : belowArea (skillsPrefix ++ remainder) = remainder := by
  unfold belowArea
  rw [below_eq_some.mpr rfl]

theorem belowArea_subagent (name : String) : belowArea (agentsPrefix ++ name) = name := by
  unfold belowArea
  have skills : below skillsPrefix (agentsPrefix ++ name) = none := by
    cases found : below skillsPrefix (agentsPrefix ++ name) with
    | none => rfl
    | some rest => exact absurd (below_eq_some.mp found).symm (not_both _ _)
  rw [skills, below_eq_some.mpr rfl]
  rfl

theorem listed_plain : ∀ path ∈ startupFiles ++ sourceLandmarks, ¬ ControlPlaneFile path := by
  decide +kernel

section Exposure

variable {F : Type} (host : Host F)

/-- The routing exposes a control-plane path: an included subagent file, or a runtime file of a
selected skill whose name is control-plane material. -/
inductive Exposed (request : MaterializationRequest) (path : String) : Prop
  | subagent {name : String} (path_eq : path = agentsPrefix ++ name)
      (included : Included request name) (control : ControlPlane name)
  | skill {skill inner : String} (file : SkillFile host (Selected request) path skill inner)
      (control : controlPlaneDirectory (pathParts skill))

variable {host} {request : MaterializationRequest}

variable {path : String}

theorem SkillFile.controlPlane_iff {selects : String → Prop} {skill inner : String}
    (file : SkillFile host selects path skill inner) :
    ControlPlaneFile path ↔ controlPlaneDirectory (pathParts skill) := by
  obtain ⟨classified, known, runtime⟩ := file.runtime
  have plain : ¬ ControlPlane inner := by
    rw [← classifySkillFile_controlPlane known, runtime]
    decide
  unfold ControlPlaneFile
  rw [file.path_eq, belowArea_skill, controlPlane_join _ (pathParts_of_classified known)]
  exact or_iff_left plain

/-- A runtime path is control-plane material exactly when the routing exposes it. -/
theorem runtimePath_controlPlane {subagent : Option String}
    (kind : RuntimePath host request (Selected request) path subagent) :
    ControlPlaneFile path ↔ Exposed host request path := by
  constructor
  · intro control
    cases kind with
    | skill file => exact .skill file (file.controlPlane_iff.mp control)
    | subagent path_eq included =>
        refine .subagent path_eq included ?_
        unfold ControlPlaneFile at control
        rwa [path_eq, belowArea_subagent] at control
    | listed listed =>
        exact absurd control (listed_plain path
          (List.mem_append.mpr (listed.imp And.left And.left)))
  · intro exposed
    cases exposed with
    | subagent path_eq included control =>
        unfold ControlPlaneFile
        rwa [path_eq, belowArea_subagent]
    | skill file control => exact file.controlPlane_iff.mpr control

theorem Exposed.runtimePath (exposed : Exposed host request path) :
    ControlPlaneFile path ∧
      ∃ subagent, RuntimePath host request (Selected request) path subagent := by
  cases exposed with
  | subagent path_eq included control =>
      have kind : RuntimePath host request (Selected request) path _ := .subagent path_eq included
      exact ⟨(runtimePath_controlPlane kind).mpr (.subagent path_eq included control), _, kind⟩
  | skill file control => exact ⟨file.controlPlane_iff.mpr control, _, .skill file⟩

/-! ## Two snapshots -/

/-- The content of a file of a snapshot. -/
def Files.get? (files : Files) (path : String) : Option ByteArray := Dict.get? files.entries path

theorem Files.get?_eq_some {files : Files} {content : ByteArray} :
    files.get? path = some content ↔ (path, content) ∈ files.entries := by
  unfold Files.get?
  constructor
  · intro found
    unfold Dict.get? at found
    obtain ⟨before, later, split, -⟩ := List.lookup_eq_some_iff.mp found
    rw [split]
    simp
  · exact Dict.get?_of_mem files.ordered

/-- The snapshots differ in control-plane files only. -/
def SameRuntime (left right : Files) : Prop :=
  ∀ path, ¬ ControlPlaneFile path → left.get? path = right.get? path

theorem SameRuntime.symm {left right : Files} (same : SameRuntime left right) :
    SameRuntime right left := fun path plain => (same path plain).symm

variable {other : SnapshotSource}

/-- A skill whose name is no control-plane material is selected in both runs or in neither. -/
theorem selected_congr (same : SameRuntime request.snapshot.files other.files) {skill : String}
    (plain : ¬ controlPlaneDirectory (pathParts skill)) (selected : Selected request skill) :
    Selected { request with snapshot := other } skill := by
  unfold Selected at selected ⊢
  split
  · rename_i isPartial
    rwa [if_pos isPartial] at selected
  · rename_i notPartial
    rw [if_neg notPartial, mem_discoverShippedSkills] at selected
    obtain ⟨present, ordinary, single, content, member⟩ := selected
    have entry : ¬ ControlPlaneFile (entryPath skill) := by
      unfold ControlPlaneFile entryPath
      have parts : pathParts "SKILL.md" ≠ [] := by decide +kernel
      have name : ¬ ControlPlane "SKILL.md" := by decide +kernel
      rw [belowArea_skill, controlPlane_join _ parts]
      rintro (directory | file)
      · exact plain directory
      · exact name file
    have found := Files.get?_eq_some.mpr member
    rw [same _ entry] at found
    exact mem_discoverShippedSkills.mpr
      ⟨present, ordinary, single, content, Files.get?_eq_some.mp found⟩

/-- A runtime path that is no control-plane material is one in both runs. -/
theorem runtimePath_congr (same : SameRuntime request.snapshot.files other.files)
    (plain : ¬ ControlPlaneFile path) {subagent : Option String}
    (kind : RuntimePath host request (Selected request) path subagent) :
    RuntimePath host { request with snapshot := other }
      (Selected { request with snapshot := other }) path subagent := by
  cases kind with
  | skill file =>
      have directory := fun control => plain (file.controlPlane_iff.mpr control)
      exact .skill { file with selected := selected_congr same directory file.selected }
  | subagent path_eq included => exact .subagent path_eq included
  | listed listed => exact .listed listed

end Exposure

/-! ## Runs -/

section Runs

variable {F : Type} [JsonFloat F] {host : Host F} {request : MaterializationRequest}

/-- No runtime file is control-plane material, and those of skills are needed at run time. -/
structure Sanitized (host : Host F) (record : MaterializationRecord F) : Prop where
  plain : ∀ path ∈ runtimeFiles record, ¬ ControlPlaneFile path
  skills : ∀ path ∈ runtimeFiles record, ∀ remainder, below skillsPrefix path = some remainder →
    ∃ classified, classifySkillFile host (partition remainder).2 = .ok classified ∧
      classified.classification = .runtimeRequired

/-- What an agent sees, and the manifest of it, are the same. -/
structure SameSurface (left right : MaterializationRecord F × Disk String) : Prop where
  manifest : left.1.runtimeSurfaceManifest.getD "files" .null =
    right.1.runtimeSurfaceManifest.getD "files" .null
  files : ∀ rest content, left.2.tree ("runtime_surface" :: rest) = .file content ↔
    right.2.tree ("runtime_surface" :: rest) = .file content

omit [JsonFloat F] in
/-- A runtime file of a skill is needed at run time. -/
theorem RuntimePath.classified {path remainder : String} {subagent : Option String}
    (kind : RuntimePath host request (Selected request) path subagent)
    (skills : below skillsPrefix path = some remainder) :
    ∃ classified, classifySkillFile host (partition remainder).2 = .ok classified ∧
      classified.classification = .runtimeRequired := by
  cases kind with
  | skill file =>
      have same : (some remainder : Option String) = some _ :=
        skills.symm.trans (below_eq_some.mpr file.path_eq)
      obtain rfl := Option.some.inj same
      rw [partition_join file.single]
      exact file.runtime
  | subagent path_eq included =>
      exact absurd ((below_eq_some.mp skills).symm.trans path_eq) (not_both _ _)
  | listed listed =>
      obtain ⟨none, -⟩ := listed_apart (listed.imp And.left And.left)
      rw [none] at skills
      cases skills

/-- A run keeps control-plane material out exactly when its snapshot exposes none. -/
theorem sanitized_iff {record : MaterializationRecord F} {after : Disk String}
    (done : materialize host request .empty = .ok (record, after)) :
    Sanitized host record ↔
      ∀ file ∈ request.snapshot.files.entries, ¬ Exposed host request file.1 := by
  obtain ⟨shipped, surfaces, run, rfl⟩ := materialize_ok done
  obtain ⟨selected, routed⟩ := routed run.routed
  have runtime : ∀ path, path ∈ runtimeFiles (materializationRecord host request shipped surfaces) ↔
      ∃ content, (path, content) ∈ surfaces.runtimeSurface := by
    intro path
    rw [runtimeFiles_eq]
    simp
  constructor
  · intro sanitized file member exposed
    obtain ⟨control, kind⟩ := exposed.runtimePath
    have listed := routed.mem_runtimeSurface.mpr ⟨member, kind⟩
    exact sanitized.plain file.1 ((runtime _).mpr ⟨file.2, listed⟩) control
  · intro clean
    refine ⟨?_, ?_⟩
    · intro path listed control
      obtain ⟨content, member⟩ := (runtime path).mp listed
      obtain ⟨snapshot, subagent, kind⟩ := routed.mem_runtimeSurface.mp member
      exact clean _ snapshot ((runtimePath_controlPlane kind).mp control)
    · intro path listed remainder skills
      obtain ⟨content, member⟩ := (runtime path).mp listed
      obtain ⟨-, subagent, kind⟩ := routed.mem_runtimeSurface.mp member
      exact kind.classified skills

variable {shipped : List String} {surfaces : Surfaces}

/-- What a run puts in the runtime surface. -/
theorem runtime_file {after : Disk String} (run : Materialized host request shipped surfaces after)
    {rest : List String} {content : ByteArray} :
    after.tree ("runtime_surface" :: rest) = .file content ↔
      ∃ file ∈ surfaces.runtimeSurface, rest = names file.1 ∧ content = file.2 := by
  have listed : ("runtime_surface", surfaces.runtimeSurface) ∈ areasOf request surfaces :=
    List.mem_cons_of_mem _ (List.mem_cons_self ..)
  exact run.area_file listed

omit [JsonFloat F] in
theorem runtimeSurface_ordered {selected : List String}
    (routed : Routed host request shipped surfaces selected) :
    Dict.Ordered surfaces.runtimeSurface := by
  rw [routed.adds.runtimeSurface, List.nil_append]
  exact List.Pairwise.filter _ request.snapshot.files.ordered

/-- A file that a snapshot holds and the routing exposes. -/
def ExposedFile (host : Host F) (request : MaterializationRequest) (path : String)
    (content : ByteArray) : Prop :=
  Exposed host request path ∧ request.snapshot.files.get? path = some content

omit [JsonFloat F] in
/-- The control-plane files of a runtime surface are the exposed ones. -/
theorem Routed.mem_exposed {selected : List String}
    (routed : Routed host request shipped surfaces selected) {path : String} {content : ByteArray} :
    ExposedFile host request path content ↔
      (path, content) ∈ surfaces.runtimeSurface ∧ ControlPlaneFile path := by
  rw [routed.mem_runtimeSurface]
  unfold ExposedFile
  rw [Files.get?_eq_some]
  constructor
  · rintro ⟨exposed, member⟩
    obtain ⟨control, kind⟩ := exposed.runtimePath
    exact ⟨⟨member, kind⟩, control⟩
  · rintro ⟨⟨member, subagent, kind⟩, control⟩
    exact ⟨(runtimePath_controlPlane kind).mp control, member⟩

omit [JsonFloat F] in
/-- A runtime file that is no control-plane material is in the other surface too. -/
theorem Routed.mem_other {other : SnapshotSource}
    (same : SameRuntime request.snapshot.files other.files)
    {selected otherShipped otherSelected : List String} {otherSurfaces : Surfaces}
    (routed : Routed host request shipped surfaces selected)
    (otherRouted : Routed host { request with snapshot := other } otherShipped otherSurfaces
      otherSelected) {path : String} {content : ByteArray} (plain : ¬ ControlPlaneFile path)
    (member : (path, content) ∈ surfaces.runtimeSurface) :
    (path, content) ∈ otherSurfaces.runtimeSurface := by
  obtain ⟨held, subagent, kind⟩ := routed.mem_runtimeSurface.mp member
  have found := Files.get?_eq_some.mpr held
  rw [same path plain] at found
  exact otherRouted.mem_runtimeSurface.mpr
    ⟨Files.get?_eq_some.mp found, subagent, runtimePath_congr same plain kind⟩

/-- Two runs show the same surface exactly when they route the same runtime files. -/
theorem sameSurface_iff_eq {other : SnapshotSource} {otherShipped : List String}
    {otherSurfaces : Surfaces} {after otherAfter : Disk String}
    (run : Materialized host request shipped surfaces after)
    (otherRun : Materialized host { request with snapshot := other } otherShipped otherSurfaces
      otherAfter) (ordered : Dict.Ordered surfaces.runtimeSurface)
    (otherOrdered : Dict.Ordered otherSurfaces.runtimeSurface) :
    SameSurface (materializationRecord host request shipped surfaces, after)
        (materializationRecord host { request with snapshot := other } otherShipped otherSurfaces,
          otherAfter) ↔
      surfaces.runtimeSurface = otherSurfaces.runtimeSurface := by
  have entries : ∀ (request : MaterializationRequest) (shipped : List String) (surfaces : Surfaces),
      (materializationRecord host request shipped surfaces).runtimeSurfaceManifest.getD "files"
        .null = .array (surfaces.runtimeSurface.map (fileEntry host)) := by
    intro request shipped surfaces
    show (manifest host _ _ _ surfaces.runtimeSurface []).getD "files" _ = _
    refine manifest_files ?_ _
    show manifestKeys.Nodup
    decide
  constructor
  · rintro ⟨manifest, files⟩
    simp only [entries, Json.array.injEq] at manifest
    have paths : surfaces.runtimeSurface.map Prod.fst = otherSurfaces.runtimeSurface.map Prod.fst := by
      have read := congrArg (List.map fun entry : Json F => entry.getD "path" .null) manifest
      simp only [List.map_map] at read
      have texts : (surfaces.runtimeSurface.map Prod.fst).map (Json.str (F := F)) =
          (otherSurfaces.runtimeSurface.map Prod.fst).map Json.str := by
        simpa [Function.comp_def, fileEntry_path] using read
      exact List.map_injective_iff.mpr (fun _ _ same => Json.str.inj same) texts
    have listed : ("runtime_surface", otherSurfaces.runtimeSurface) ∈
        areasOf { request with snapshot := other } otherSurfaces :=
      List.mem_cons_of_mem _ (List.mem_cons_self ..)
    have forward : ∀ file ∈ surfaces.runtimeSurface, file ∈ otherSurfaces.runtimeSurface := by
      intro file member
      have stands := (files (names file.1) file.2).mp
        ((runtime_file run).mpr ⟨file, member, rfl, rfl⟩)
      obtain ⟨found, foundMember, sameNames, content⟩ := (runtime_file otherRun).mp stands
      have path : file.1 ∈ otherSurfaces.runtimeSurface.map Prod.fst :=
        paths ▸ List.mem_map.mpr ⟨file, member, rfl⟩
      obtain ⟨named, namedMember, samePath⟩ := List.mem_map.mp path
      have same : found = named := by
        refine List.inj_on_of_nodup_map (otherRun.distinct_names listed) foundMember namedMember ?_
        show names found.1 = names named.1
        rw [← sameNames, samePath]
      subst same
      have whole : file = found := Prod.ext samePath.symm content
      exact whole ▸ foundMember
    have same : surfaces.runtimeSurface ⊆ otherSurfaces.runtimeSurface := forward
    have nodup : surfaces.runtimeSurface.Nodup :=
      ordered.imp fun below => fun same => absurd below (same ▸ String.lt_irrefl _)
    have length : otherSurfaces.runtimeSurface.length ≤ surfaces.runtimeSurface.length := by
      have lengths := congrArg List.length paths
      simp only [List.length_map] at lengths
      omega
    have perm := (List.subperm_of_subset nodup same).perm_of_length_le length
    refine perm.eq_of_pairwise ?_ ordered otherOrdered
    intro left right _ _ below above
    exact absurd (String.lt_trans below above) (String.lt_irrefl _)
  · intro same
    refine ⟨?_, ?_⟩
    · simp only [entries, same]
    · intro rest content
      rw [runtime_file run, runtime_file otherRun, same]

/-- Two runs over snapshots that differ in control-plane files show the same surface exactly when
they expose the same ones. -/
theorem sameSurface_iff {other : SnapshotSource}
    (same : SameRuntime request.snapshot.files other.files)
    {record otherRecord : MaterializationRecord F} {after otherAfter : Disk String}
    (done : materialize host request .empty = .ok (record, after))
    (otherDone : materialize host { request with snapshot := other } .empty =
      .ok (otherRecord, otherAfter)) :
    SameSurface (record, after) (otherRecord, otherAfter) ↔
      ∀ path content, ExposedFile host request path content ↔
        ExposedFile host { request with snapshot := other } path content := by
  obtain ⟨shipped, surfaces, run, rfl⟩ := materialize_ok done
  obtain ⟨otherShipped, otherSurfaces, otherRun, rfl⟩ := materialize_ok otherDone
  obtain ⟨selected, left⟩ := routed run.routed
  obtain ⟨otherSelected, right⟩ := routed otherRun.routed
  have ordered := runtimeSurface_ordered left
  have otherOrdered := runtimeSurface_ordered right
  rw [sameSurface_iff_eq run otherRun ordered otherOrdered]
  simp only [left.mem_exposed, right.mem_exposed]
  constructor
  · intro equal path content
    rw [equal]
  · intro exposed
    refine List.Pairwise.eq_of_mem_iff ordered otherOrdered fun file => ?_
    obtain ⟨path, content⟩ := file
    by_cases control : ControlPlaneFile path
    · have both := exposed path content
      simpa [control] using both
    · exact ⟨left.mem_other same right control, right.mem_other same.symm left control⟩

/-- **The agent-visible surface is independent of control-plane material, up to what the routing
exposes.** A run keeps control-plane paths out of the runtime surface exactly when its snapshot
holds no exposed path; two runs whose snapshots differ in control-plane files only show the same
surface exactly when they expose the same files. -/
theorem surface_independent_iff (host : Host F) (request : MaterializationRequest) :
    (∀ record after, materialize host request .empty = .ok (record, after) →
      (Sanitized host record ↔
        ∀ file ∈ request.snapshot.files.entries, ¬ Exposed host request file.1)) ∧
    ∀ (other : SnapshotSource) record after otherRecord otherAfter,
      SameRuntime request.snapshot.files other.files →
      materialize host request .empty = .ok (record, after) →
      materialize host { request with snapshot := other } .empty = .ok (otherRecord, otherAfter) →
      (SameSurface (record, after) (otherRecord, otherAfter) ↔
        ∀ path content, ExposedFile host request path content ↔
          ExposedFile host { request with snapshot := other } path content) :=
  ⟨fun _ _ done => sanitized_iff done,
    fun _ _ _ _ _ same done otherDone => sameSurface_iff same done otherDone⟩

end Runs

/-! ## A sample -/

def sampleFixture : FixtureDefinition := ⟨"empty-consumer", "1", ⟨[], .nil⟩⟩

/-- A request that carries subagents. -/
def sampleRequest (files : Files) : MaterializationRequest where
  snapshot := ⟨files, "c", "t"⟩
  profile := .consumerWithSubagents
  workspaceRole := .consumer
  claimScope := .fullLibrary
  destinationRoot := "/w"
  fixture := sampleFixture

/-- A skill. -/
def sampleSkill : Files := ⟨[(".claude/skills/a/SKILL.md", .empty)], by decide⟩

/-- A skill, and a rubric among the subagents. -/
def sampleRubric : Files :=
  ⟨[(".claude/agents/rubric.md", .empty), (".claude/skills/a/SKILL.md", .empty)], by decide⟩

theorem sample_materialized {files : Files}
    (done : ((materialize Evidence.sampleHost (sampleRequest files) .empty).toOption.isSome) = true) :
    ∃ record after, materialize Evidence.sampleHost (sampleRequest files) .empty =
      .ok (record, after) := by
  cases result : materialize Evidence.sampleHost (sampleRequest files) .empty with
  | ok value => exact ⟨value.1, value.2, rfl⟩
  | error fault =>
      rw [result] at done
      cases done

theorem sampleSkill_materialized :
    (materialize Evidence.sampleHost (sampleRequest sampleSkill) .empty).toOption.isSome = true := by
  decide +kernel

theorem sampleRubric_materialized :
    (materialize Evidence.sampleHost (sampleRequest sampleRubric) .empty).toOption.isSome = true := by
  decide +kernel

/-- Without subagents of control-plane names the surface is clean, whatever else a snapshot holds. -/
theorem surface_of_sample :
    ∃ record, ∃ after : Disk String,
      materialize Evidence.sampleHost (sampleRequest sampleSkill) .empty = .ok (record, after) ∧
      (Sanitized Evidence.sampleHost record ↔ ∀ file ∈ sampleSkill.entries,
        ¬ Exposed Evidence.sampleHost (sampleRequest sampleSkill) file.1) := by
  obtain ⟨record, after, done⟩ := sample_materialized sampleSkill_materialized
  exact ⟨record, after, done, (surface_independent_iff _ _).1 record after done⟩

/-- A rubric among the subagents is part of the surface. -/
theorem rubric_exposed : ¬ ∀ (request : MaterializationRequest) record after,
    materialize Evidence.sampleHost request .empty = .ok (record, after) →
      Sanitized Evidence.sampleHost record := by
  intro sanitized
  obtain ⟨record, after, done⟩ := sample_materialized sampleRubric_materialized
  have clean := (sanitized_iff done).mp (sanitized _ _ _ done)
  have name : (".claude/agents/rubric.md" : String) = agentsPrefix ++ "rubric.md" := by
    decide +kernel
  exact clean _ (List.mem_cons_self ..)
    (.subagent name ⟨rfl, .inl rfl⟩ (by decide +kernel))

end Aegis.Materialize
