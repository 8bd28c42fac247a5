/-
# Materialize.Agreement — the verifier and what `materialize` wrote

The verifier accepts what a run wrote exactly when its count of the subagents is that of the run
(`verifyMaterializationManifests_iff`). The run counts every subagent file, the verifier those
that end in `.md`. Whatever is changed afterwards in a file that a manifest lists, or in a
manifest, is found (`tamperEvident`).
-/
import Aegis.Materialize.Leakage
import Aegis.Materialize.VerifiedFiles

namespace Aegis.Materialize

open Aegis.Lib
open Aegis.Lib.Guarded
open Aegis.Evidence (Host canonicalBytes)

set_option autoImplicit false

section Agreement

variable {F : Type} [JsonFloat F] {host : Host F} {request : MaterializationRequest}
  {shipped selected : List String} {surfaces : Surfaces} {after : Disk String}

/-! ## The manifests -/

theorem Materialized.describes (run : Materialized host request shipped surfaces after)
    {spec : ManifestSpec F} {entries : List (String × ByteArray)} {fixture : List (String × Json F)}
    {document : Json F}
    (is : document = manifest host spec.kind request.snapshot request.profile entries fixture)
    (keys : (manifestKeys ++ fixture.map Prod.fst).Nodup)
    (canonical : ∀ field ∈ fixture, field.2.IsCanonical)
    (document_eq : spec.document (materializationRecord host request shipped surfaces) = document)
    (sha256_eq : spec.sha256 (materializationRecord host request shipped surfaces) =
      host.sha256Hex (canonicalBytes document))
    (path : (materializationRecord host request shipped surfaces).manifestPaths.lookup spec.name =
      some (manifestPath request.destinationRoot spec.name))
    (listed : (spec.area, entries) ∈ areasOf request surfaces) :
    Describes host (materializationRecord host request shipped surfaces) request.destinationRoot
      spec document entries where
  document_eq := document_eq
  sha256_eq := sha256_eq
  path := path
  canonical := is ▸ manifest_isCanonical canonical
  isObject := by
    rw [is]
    rfl
  identity := by
    intro field member
    rw [is]
    refine manifest_getD keys ?_ .null
    simp only [expectedIdentity, List.mem_cons, List.not_mem_nil, or_false] at member
    rcases member with rfl | rfl | rfl | rfl | rfl <;> simp [materializationRecord]
  files := by
    rw [is]
    exact manifest_files keys .null
  count := by
    rw [is]
    exact manifest_getD keys (by simp) .null
  safe _ member := run.safe_file listed member
  distinct := run.distinct_names listed

/-- **Every manifest of a run describes the files of its area.** -/
theorem Materialized.described (run : Materialized host request shipped surfaces after)
    {spec : ManifestSpec F} (known : spec ∈ manifestSpecs) :
    ∃ document entries,
      Describes host (materializationRecord host request shipped surfaces) request.destinationRoot
        spec document entries ∧
      (spec.area, entries) ∈ areasOf request surfaces ∧
      (spec.name, document) ∈ manifestFiles host request surfaces := by
  have keys : (manifestKeys ++ ([] : List (String × Json F)).map Prod.fst).Nodup := by
    show manifestKeys.Nodup
    decide
  have none : ∀ field ∈ ([] : List (String × Json F)), field.2.IsCanonical :=
    fun _ member => absurd member List.not_mem_nil
  simp only [manifestSpecs, List.mem_cons, List.not_mem_nil, or_false] at known
  rcases known with rfl | rfl | rfl
  · refine ⟨controlPlaneManifest host request surfaces, surfaces.controlPlane,
      run.describes rfl keys none rfl rfl rfl ?_, ?_, ?_⟩
    · exact List.mem_cons_self ..
    · exact List.mem_cons_self ..
    · exact List.mem_cons_self ..
  · have second : ("runtime_surface", surfaces.runtimeSurface) ∈ areasOf request surfaces :=
      List.mem_cons_of_mem _ (List.mem_cons_self ..)
    exact ⟨runtimeSurfaceManifest host request surfaces, surfaces.runtimeSurface,
      run.describes rfl keys none rfl rfl rfl second, second,
      List.mem_cons_of_mem _ (List.mem_cons_self ..)⟩
  · have third : ("product_fixture", request.fixture.files.entries) ∈ areasOf request surfaces :=
      List.mem_cons_of_mem _ (List.mem_cons_of_mem _ (List.mem_cons_self ..))
    refine ⟨productFixtureManifest host request, request.fixture.files.entries,
      run.describes rfl ?_ ?_ rfl rfl rfl third, third,
      List.mem_cons_of_mem _ (List.mem_cons_of_mem _ (List.mem_cons_self ..))⟩
    · show (manifestKeys ++ ["fixture_id", "fixture_version"]).Nodup
      decide
    · simp [Json.IsCanonical.str]

omit [JsonFloat F] in
theorem manifest_names {spec : ManifestSpec F} (known : spec ∈ manifestSpecs) :
    names spec.name = [spec.name] := by
  have all : ∀ name ∈ [controlPlaneManifestName, runtimeSurfaceManifestName,
      productFixtureManifestName], names name = [name] := by decide +kernel
  simp only [manifestSpecs, List.mem_cons, List.not_mem_nil, or_false] at known
  apply all
  rcases known with rfl | rfl | rfl <;> simp

theorem Materialized.stands (run : Materialized host request shipped surfaces after)
    {spec : ManifestSpec F} (known : spec ∈ manifestSpecs) {document : Json F}
    {entries : List (String × ByteArray)} (listed : (spec.area, entries) ∈ areasOf request surfaces)
    (manifested : (spec.name, document) ∈ manifestFiles host request surfaces) :
    Describes.Stands after spec document entries where
  manifest := by
    rw [← run.manifest_file manifested]
    simp only [manifest_names known]
  files _ _ := run.area_file listed

/-- Every manifest of a run is verified. -/
theorem Materialized.verifies (run : Materialized host request shipped surfaces after)
    (hex : ∀ content, IsDigest (host.sha256Hex content)) {spec : ManifestSpec F}
    (known : spec ∈ manifestSpecs) :
    verifyManifest host after request.destinationRoot
      (materializationRecord host request shipped surfaces) spec = .ok () := by
  obtain ⟨document, entries, describes, listed, manifested⟩ := run.described known
  have stands := run.stands known listed manifested
  refine describes.accepted hex stands (run.areas _ listed) run.holds.plain ?_
  intro rest content found
  obtain ⟨file, -, rfl, -⟩ := (stands.files rest content).mp found
  exact (run.holds.mem_placesBelow.mpr
    ⟨names_ne_nil file.1, content, (run.holds.file _ _).mp found⟩).1

/-! ## The counts -/

/-- Every included subagent file ends in `.md`, or stands beside one of the same name that does. -/
def MarkdownSubagents (request : MaterializationRequest) : Prop :=
  ∀ file ∈ request.snapshot.files.entries, ∀ name, file.1 = agentsPrefix ++ name →
    Included request name → ['.', 'm', 'd'] <:+ name.toList ∨
      ∃ content, (agentsPrefix ++ (name ++ ".md"), content) ∈ request.snapshot.files.entries

/-- The ending of a path below the subagents area is that of the name. -/
theorem suffix_below (name : String) :
    ['.', 'm', 'd'] <:+ (agentsPrefix ++ name).toList ↔ ['.', 'm', 'd'] <:+ name.toList := by
  rw [String.toList_append]
  constructor
  · intro ends
    rcases List.suffix_or_suffix_of_suffix ends (List.suffix_append _ _) with inside | short
    · exact inside
    · -- a name that is shorter would leave the dot to the slash before it
      have few : name.toList ∈ [['.', 'm', 'd'], ['m', 'd'], ['d'], []] := by
        simpa [List.suffix_cons_iff] using short
      generalize name.toList = chars at few ends ⊢
      revert ends
      revert chars
      decide +kernel
  · exact fun ends => ends.trans (List.suffix_append _ _)

/-- The subagents that the verifier counts. -/
theorem mem_subagentsOf {paths : List String} {subagent : String} :
    subagent ∈ subagentsOf paths ↔ ∃ name, agentsPrefix ++ name ∈ paths ∧
      ['.', 'm', 'd'] <:+ name.toList ∧ removeMd name = subagent := by
  unfold subagentsOf
  rw [List.mem_dedup, List.mem_filterMap]
  constructor
  · rintro ⟨path, member, found⟩
    obtain ⟨name, inside, found⟩ := Option.bind_eq_some_iff.mp found
    obtain rfl := below_eq_some.mp inside
    split at found
    · rename_i ends
      exact ⟨name, member, (suffix_below name).mp ends, Option.some.inj found⟩
    · cases found
  · rintro ⟨name, member, ends, rfl⟩
    refine ⟨_, member, Option.bind_eq_some_iff.mpr ⟨name, below_eq_some.mpr rfl, ?_⟩⟩
    rw [if_pos ((suffix_below name).mpr ends)]

theorem removeMd_append (name : String) : removeMd (name ++ ".md") = name := by
  have chars : (name ++ ".md").toList = name.toList ++ ['.', 'm', 'd'] := String.toList_append
  unfold removeMd
  rw [chars, if_pos (List.suffix_append _ _)]
  simp

theorem eq_append_md {name : String} (ends : ['.', 'm', 'd'] <:+ name.toList) :
    name = removeMd name ++ ".md" := by
  obtain ⟨front, split⟩ := ends
  have whole : name = String.ofList front ++ ".md" := by
    apply String.toList_inj.mp
    rw [String.toList_append, String.toList_ofList, ← split]
    rfl
  rw [whole, removeMd_append]

theorem removeMd_of_not {name : String} (other : ¬ ['.', 'm', 'd'] <:+ name.toList) :
    removeMd name = name := if_neg other

omit [JsonFloat F] in
/-- The subagent files of a runtime surface are the included ones of the snapshot. -/
theorem Routed.mem_subagentFiles (routed : Routed host request shipped surfaces selected)
    {name : String} : agentsPrefix ++ name ∈ surfaces.runtimeSurface.map Prod.fst ↔
      (∃ content, (agentsPrefix ++ name, content) ∈ request.snapshot.files.entries) ∧
        Included request name := by
  rw [List.mem_map]
  constructor
  · rintro ⟨⟨path, content⟩, member, rfl⟩
    obtain ⟨held, subagent, kind⟩ := routed.mem_runtimeSurface.mp member
    refine ⟨⟨content, held⟩, ?_⟩
    cases kind with
    | skill file => exact absurd file.path_eq.symm (not_both _ _)
    | subagent path_eq included =>
        have same := (below_eq_some.mpr rfl).symm.trans (below_eq_some.mpr path_eq)
        exact Option.some.inj same ▸ included
    | listed listed =>
        have none := (listed_apart (listed.imp And.left And.left)).2
        rw [below_eq_some.mpr rfl] at none
        cases none
  · rintro ⟨⟨content, held⟩, included⟩
    exact ⟨_, routed.mem_runtimeSurface.mpr ⟨held, _, .subagent rfl included⟩, rfl⟩

omit [JsonFloat F] in
/-- The subagents that a run counts. -/
theorem Routed.mem_subagentNames (routed : Routed host request shipped surfaces selected)
    {subagent : String} : subagent ∈ surfaces.subagentNames ↔
      ∃ name, agentsPrefix ++ name ∈ surfaces.runtimeSurface.map Prod.fst ∧
        removeMd name = subagent := by
  have brought : ∀ path, subagentOf host request selected path = some subagent ↔
      RuntimePath host request (· ∈ selected) path (some subagent) := by
    intro path
    rw [← destination_runtime]
    unfold subagentOf
    rcases destinationOf host request selected path with _ | (_ | _ | _ | _) <;> simp
  rw [routed.adds.subagentNames]
  simp only [List.not_mem_nil, false_or, brought]
  constructor
  · rintro ⟨file, held, kind⟩
    cases kind with
    | subagent path_eq included =>
        exact ⟨_, routed.mem_subagentFiles.mpr ⟨⟨file.2, path_eq ▸ held⟩, included⟩, rfl⟩
  · rintro ⟨name, listed, rfl⟩
    obtain ⟨⟨content, held⟩, included⟩ := routed.mem_subagentFiles.mp listed
    exact ⟨_, held, .subagent rfl included⟩

omit [JsonFloat F] in
/-- The counts of a run and of the verifier agree exactly when Markdown names every subagent. -/
theorem Routed.subagents_agree (routed : Routed host request shipped surfaces selected) :
    surfaces.subagentNames ⊆ subagentsOf (surfaces.runtimeSurface.map Prod.fst) ↔
      MarkdownSubagents request := by
  constructor
  · intro counted file held name path_eq included
    by_cases ends : ['.', 'm', 'd'] <:+ name.toList
    · exact .inl ends
    · right
      have listed := routed.mem_subagentFiles.mpr ⟨⟨file.2, path_eq ▸ held⟩, included⟩
      have member := counted (routed.mem_subagentNames.mpr ⟨name, listed, rfl⟩)
      obtain ⟨other, otherListed, otherEnds, same⟩ := mem_subagentsOf.mp member
      rw [removeMd_of_not ends] at same
      rw [← same, ← eq_append_md otherEnds]
      exact (routed.mem_subagentFiles.mp otherListed).1
  · intro markdown subagent member
    obtain ⟨name, listed, rfl⟩ := routed.mem_subagentNames.mp member
    obtain ⟨⟨content, held⟩, included⟩ := routed.mem_subagentFiles.mp listed
    by_cases ends : ['.', 'm', 'd'] <:+ name.toList
    · exact mem_subagentsOf.mpr ⟨name, listed, ends, rfl⟩
    · rcases markdown _ held name rfl included with markdown | beside
      · exact absurd markdown ends
      · have subagent := removeMd_of_not ends
        have includes : Included request (name ++ ".md") := by
          unfold Included at included ⊢
          rwa [removeMd_append, ← subagent]
        refine mem_subagentsOf.mpr ⟨name ++ ".md",
          routed.mem_subagentFiles.mpr ⟨beside, includes⟩, ?_, ?_⟩
        · rw [String.toList_append]
          exact List.suffix_append _ _
        · rw [removeMd_append, subagent]

omit [JsonFloat F] in
theorem Routed.subagentCount_iff (routed : Routed host request shipped surfaces selected) :
    surfaces.subagentNames.length =
        (subagentsOf (surfaces.runtimeSurface.map Prod.fst)).length ↔
      MarkdownSubagents request := by
  have counted : (subagentsOf (surfaces.runtimeSurface.map Prod.fst)).Nodup := List.nodup_dedup _
  have names : surfaces.subagentNames.Nodup := routed.adds.distinct List.nodup_nil
  have subset : subagentsOf (surfaces.runtimeSurface.map Prod.fst) ⊆ surfaces.subagentNames := by
    intro subagent member
    obtain ⟨name, listed, -, same⟩ := mem_subagentsOf.mp member
    exact routed.mem_subagentNames.mpr ⟨name, listed, same⟩
  rw [← routed.subagents_agree]
  constructor
  · intro lengths
    exact ((List.subperm_of_subset counted subset).perm_of_length_le lengths.le).symm.subset
  · intro agree
    exact ((List.perm_ext_iff_of_nodup names counted).mpr
      fun _ => ⟨fun member => agree member, fun member => subset member⟩).length_eq

theorem checkCounts_iff (routed : Routed host request shipped surfaces selected) :
    checkCounts (materializationRecord host request shipped surfaces) = .ok () ↔
      MarkdownSubagents request := by
  simp only [checkCounts, bind_eq_ok, require_eq_ok, runtimeFiles_eq]
  rw [← routed.subagentCount_iff]
  constructor
  · rintro ⟨_, -, same⟩
    exact same
  · exact fun same => ⟨(), rfl, same⟩

/-! ## The scope and the eligibility -/

omit [JsonFloat F] in
/-- The skills of the runtime surface are selected. -/
theorem Routed.entered_subset (routed : Routed host request shipped surfaces selected) :
    skillsWithEntryPoint (surfaces.runtimeSurface.map Prod.fst) ⊆ shipped := by
  intro skill member
  unfold skillsWithEntryPoint at member
  rw [List.mem_dedup, List.mem_filterMap] at member
  obtain ⟨path, listed, entry⟩ := member
  obtain ⟨rfl, single⟩ := entrySkill_eq_some.mp entry
  obtain ⟨⟨_, content⟩, held, rfl⟩ := List.mem_map.mp listed
  obtain ⟨-, subagent, kind⟩ := routed.mem_runtimeSurface.mp held
  apply routed.subset
  rw [routed.selects]
  have inside : below skillsPrefix (entryPath skill) = some (skill ++ "/" ++ "SKILL.md") :=
    below_eq_some.mpr rfl
  cases kind with
  | @skill other inner file =>
      have same := inside.symm.trans (below_eq_some.mpr file.path_eq)
      have parts := congrArg partition (Option.some.inj same)
      rw [partition_join single, partition_join file.single] at parts
      exact (Prod.mk.inj parts).1 ▸ file.selected
  | subagent path_eq included => exact absurd path_eq (not_both _ _)
  | listed listed =>
      rw [(listed_apart (listed.imp And.left And.left)).1] at inside
      cases inside

theorem checkRoleProfile_ok (role : checkRoleProfile request = .ok ()) :
    (request.workspaceRole = .sourceLibrary ↔ request.profile = .sourceLibrary) ∧
      (request.profile = .consumerPartialInstall ↔ request.claimScope = .partialInstall) := by
  unfold checkRoleProfile at role
  by_cases library : request.profile = .sourceLibrary
  · simp only [if_pos library, bind_eq_ok, require_eq_ok] at role
    obtain ⟨_, source, _, scope, -⟩ := role
    exact ⟨⟨fun _ => library, fun _ => source⟩, scope⟩
  · simp only [if_neg library, bind_eq_ok, require_eq_ok] at role
    obtain ⟨_, consumer, _, scope, -⟩ := role
    rw [consumer]
    exact ⟨⟨fun same => (by cases same), fun source => absurd source library⟩, scope⟩

theorem checkScope_ok (run : Materialized host request shipped surfaces after)
    (routed : Routed host request shipped surfaces selected) :
    checkScope (materializationRecord host request shipped surfaces) = .ok () := by
  obtain ⟨sourceRole, scope⟩ := checkRoleProfile_ok run.role
  have shippedNodup : shipped.Nodup := by
    rw [routed.shipped_eq]
    exact (perm_sortBy _).nodup_iff.mpr (List.nodup_dedup _)
  have enteredNodup : (skillsWithEntryPoint (surfaces.runtimeSurface.map Prod.fst)).Nodup :=
    List.nodup_dedup _
  have entered := List.subperm_of_subset enteredNodup routed.entered_subset
  simp only [checkScope, bind_eq_ok, require_eq_ok]
  refine ⟨(), scope.symm, (), sourceRole, ?_⟩
  show (if request.claimScope = .fullLibrary then _ else _ : Except MaterializationFault Unit) = _
  by_cases full : request.claimScope = .fullLibrary
  · rw [if_pos full, require_eq_ok]
    have all := routed.fullLibrary
    simp only [checkFullLibrary, if_pos full, require_eq_ok] at all
    have covers : shipped ⊆ skillsWithEntryPoint (surfaces.runtimeSurface.map Prod.fst) := by
      intro skill member
      by_contra missing
      have listed : skill ∈ shipped.filter
          (· ∉ skillsWithEntryPoint (surfaces.runtimeSurface.map Prod.fst)) :=
        List.mem_filter.mpr ⟨member, decide_eq_true missing⟩
      rw [all] at listed
      cases listed
    exact ((List.subperm_of_subset shippedNodup covers).antisymm entered).length_eq
  · rw [if_neg full, refuse_eq_ok]
    exact not_lt.mpr entered.length_le

omit [JsonFloat F] in
/-- The reasons are the same however the ambiguous files are ordered. -/
theorem ineligibilityReasons_sortBy (partialInstall writeIntegrity : Bool) (ambiguous : List String) :
    ineligibilityReasons host partialInstall (sortBy id ambiguous) writeIntegrity =
      ineligibilityReasons host partialInstall ambiguous writeIntegrity := by
  have twice : sortBy id (sortBy id ambiguous) = sortBy id ambiguous := by
    refine (perm_sortBy (sortBy id ambiguous)).eq_of_pairwise ?_
      (List.pairwise_insertionSort _ _) (List.pairwise_insertionSort _ _)
    exact fun _ _ _ _ below above => le_antisymm below above
  unfold ineligibilityReasons
  simp only [twice]

omit [JsonFloat F] in
/-- A run has reasons exactly when it is not eligible. -/
theorem ineligibilityReasons_isEmpty (partialInstall writeIntegrity : Bool)
    (ambiguous : List String) :
    (ineligibilityReasons host partialInstall ambiguous writeIntegrity).isEmpty =
      !(partialInstall || !(sortBy id ambiguous).isEmpty || !writeIntegrity) := by
  unfold ineligibilityReasons
  cases partialInstall <;> cases writeIntegrity <;> cases sortBy id ambiguous <;> simp

theorem checkEligibility_ok :
    checkEligibility host (materializationRecord host request shipped surfaces) = .ok () := by
  have empty : (ineligibilityReasons host (request.claimScope = .partialInstall)
      surfaces.ambiguousExcluded (writeIntegrityBaseline request)).isEmpty = _ :=
    ineligibilityReasons_isEmpty _ _ _
  simp only [checkEligibility, bind_eq_ok, require_eq_ok, refuse_eq_ok]
  refine ⟨(), empty, (), ?_, (), ?_, (ineligibilityReasons_sortBy ..).symm⟩
  · rintro ⟨eligible, reasons⟩
    exact reasons (List.isEmpty_iff.mp eligible)
  · rintro ⟨ineligible, none⟩
    have eligible : (materializationRecord host request shipped surfaces).baselineEligible = true :=
      List.isEmpty_iff.mpr none
    rw [eligible] at ineligible
    cases ineligible

/-! ## Acceptance -/

/-- **The verifier accepts a run exactly when the subagents agree.** -/
theorem verifyMaterializationManifests_iff (hex : ∀ content, IsDigest (host.sha256Hex content))
    (run : Materialized host request shipped surfaces after)
    (routed : Routed host request shipped surfaces selected) :
    verifyMaterializationManifests host after request.destinationRoot
        (materializationRecord host request shipped surfaces) = .ok () ↔
      MarkdownSubagents request := by
  rw [← checkCounts_iff routed]
  simp only [verifyMaterializationManifests, bind_eq_ok, require_eq_ok, refuse_eq_ok]
  constructor
  · rintro ⟨_, -, _, -, _, -, _, counts, -⟩
    exact counts
  · intro counts
    refine ⟨(), rfl, (), ?_, ⟨⟩, ?_, (), counts, (), checkScope_ok run routed,
      checkEligibility_ok⟩
    · have plain := run.holds.plain [manifestDirectory]
      cases place : after.tree [manifestDirectory] with
      | outside content => exact absurd place (plain content)
      | missing => simp
      | directory => simp
      | file content => simp
    · exact forM_eq_ok.mpr fun spec known => run.verifies hex known

/-! ## Tampering -/

/-- The places that the manifests of a run speak for, and the manifests. -/
inductive Watched : List String → Prop
  | file {area : String} (rest : List String)
      (listed : area ∈ ["control_plane", "runtime_surface", "product_fixture"]) :
      Watched (area :: rest)
  | manifest {name : String}
      (listed : name ∈ [controlPlaneManifestName, runtimeSurfaceManifestName,
        productFixtureManifestName]) :
      Watched [manifestDirectory, name]

/-- The places of a disk that are not empty stand in directories. -/
def Proper (disk : Disk String) : Prop :=
  ∀ path, disk.tree path ≠ .missing → ∀ above, above <+: path → above ≠ path →
    disk.tree above = .directory

/-- The contents of the files of two disks. -/
def contentsOf (left right : Disk String) : Set ByteArray :=
  {content | ∃ path, left.tree path = .file content ∨ right.tree path = .file content}

/-- A file that is changed, added or removed afterwards makes the verifier raise, where the hash
tells the contents apart. -/
def TamperEvident (host : Host F) (destinationRoot : String) (record : MaterializationRecord F)
    (after : Disk String) : Prop :=
  ∀ later, Proper later → Set.InjOn host.sha256Hex (contentsOf after later) →
    (∃ path, Watched path ∧
      ¬ ∀ content, after.tree path = .file content ↔ later.tree path = .file content) →
    ∃ fault, verifyMaterializationManifests host later destinationRoot record = .error fault

omit [JsonFloat F] in
theorem Watched.spec {path : List String} (watched : Watched path) :
    ∃ spec ∈ (manifestSpecs : List (ManifestSpec F)),
      path = [manifestDirectory, spec.name] ∨ ∃ rest, path = spec.area :: rest := by
  unfold manifestSpecs
  simp only [List.exists_mem_cons_iff, List.not_mem_nil, false_and, exists_false, or_false]
  cases watched with
  | file rest listed =>
      simp only [List.mem_cons, List.not_mem_nil, or_false] at listed
      rcases listed with rfl | rfl | rfl <;> simp
  | manifest listed =>
      simp only [List.mem_cons, List.not_mem_nil, or_false] at listed
      rcases listed with rfl | rfl | rfl <;> simp

/-- What the verifier accepts stands as it was written. -/
theorem Materialized.unchanged (run : Materialized host request shipped surfaces after)
    (hex : ∀ content, IsDigest (host.sha256Hex content)) {later : Disk String}
    (proper : Proper later) (injective : Set.InjOn host.sha256Hex (contentsOf after later))
    (verified : verifyMaterializationManifests host later request.destinationRoot
      (materializationRecord host request shipped surfaces) = .ok ())
    {path : List String} (watched : Watched path) (content : ByteArray) :
    after.tree path = .file content ↔ later.tree path = .file content := by
  simp only [verifyMaterializationManifests, bind_eq_ok, forM_eq_ok] at verified
  obtain ⟨_, -, _, -, _, each, -⟩ := verified
  obtain ⟨spec, known, place⟩ := watched.spec (F := F)
  obtain ⟨document, entries, describes, listed, manifested⟩ := run.described known
  have written := run.stands known listed manifested
  have own : canonicalBytes document ∈ contentsOf after later ∧
      ∀ file ∈ entries, file.2 ∈ contentsOf after later :=
    ⟨⟨_, .inl written.manifest⟩,
      fun file member => ⟨_, .inl ((written.files _ _).mpr ⟨file, member, rfl, rfl⟩)⟩⟩
  have found : ∀ path content, later.tree path = .file content →
      content ∈ contentsOf after later := fun path _ there => ⟨path, .inr there⟩
  have stands := describes.stands hex proper injective found own (each spec known)
  rcases place with rfl | ⟨rest, rfl⟩
  · rw [written.manifest, stands.manifest]
  · rw [written.files, stands.files]

theorem Materialized.tamperEvident (run : Materialized host request shipped surfaces after)
    (hex : ∀ content, IsDigest (host.sha256Hex content)) :
    TamperEvident host request.destinationRoot
      (materializationRecord host request shipped surfaces) after := by
  rintro later proper injective ⟨path, watched, changed⟩
  cases result : verifyMaterializationManifests host later request.destinationRoot
      (materializationRecord host request shipped surfaces) with
  | error fault => exact ⟨fault, rfl⟩
  | ok value => exact absurd (run.unchanged hex proper injective result watched) changed

end Agreement

/-! ## A sample -/

/-- 64 digits: the binary digits of the size of a content. -/
def sizeDigest (content : ByteArray) : String :=
  String.ofList ((List.range 64).map fun place => if content.size.testBit place then '1' else '0')

theorem sizeDigest_isDigest (content : ByteArray) : IsDigest (sizeDigest content) := by
  unfold IsDigest sizeDigest
  rw [String.toList_ofList, List.length_map, List.length_range]
  refine ⟨rfl, fun c member => ?_⟩
  obtain ⟨place, -, rfl⟩ := List.mem_map.mp member
  split
  · decide
  · decide

theorem sizeDigest_ne (content : ByteArray) : sizeDigest content ≠ "" := by
  intro none
  have long := (sizeDigest_isDigest content).1
  rw [none] at long
  cases long

def digestHost : Host Budget.ZeroFloat :=
  { Evidence.sampleHost with sha256Hex := sizeDigest, sha256Hex_nonempty := sizeDigest_ne }

theorem digestHost_isDigest (content : ByteArray) : IsDigest (digestHost.sha256Hex content) := by
  show IsDigest (sizeDigest content)
  exact sizeDigest_isDigest content

/-- A skill, and a subagent whose file is no Markdown file. -/
def sampleNotes : Files :=
  ⟨[(".claude/agents/notes.txt", .empty), (".claude/skills/a/SKILL.md", .empty)], by decide⟩

theorem digest_materialized {files : Files}
    (done : ((materialize digestHost (sampleRequest files) .empty).toOption.isSome) = true) :
    ∃ record after, materialize digestHost (sampleRequest files) .empty = .ok (record, after) := by
  cases result : materialize digestHost (sampleRequest files) .empty with
  | ok value => exact ⟨value.1, value.2, rfl⟩
  | error fault =>
      rw [result] at done
      cases done

theorem sampleSkill_digested :
    (materialize digestHost (sampleRequest sampleSkill) .empty).toOption.isSome = true := by
  decide +kernel

theorem sampleNotes_digested :
    (materialize digestHost (sampleRequest sampleNotes) .empty).toOption.isSome = true := by
  decide +kernel

end Aegis.Materialize
