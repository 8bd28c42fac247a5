/-
# Materialize.Written — what a run leaves below the destination

A path stands on the disk at its `names`: its parts, with backslashes read as slashes. A
sequence of writes below a fresh destination holds exactly the written files, each at its own
place and each of them safe (`writeAll_ok`); `Materialized` is all of it for a run of
`materialize`.
-/
import Aegis.Evidence.WrittenFiles
import Aegis.Materialize.Verification

namespace Aegis.Materialize

open Aegis.Lib
open Aegis.Lib.Guarded
open Aegis.Evidence (Host forwardSlashes segments normalizeRelativePath checkPart stem
  windowsDeviceNames canonicalBytes forwardSlashes_idem prefix_dropLast)

set_option autoImplicit false

/-! ## Safe paths -/

/-- The names on the disk that a path leads through. -/
def names (path : String) : List String := segments (forwardSlashes path)

/-- What `normalize_relative_path` asks of every part. -/
structure SafePart (part : String) : Prop where
  plain : ¬ (part = "" ∨ part = "." ∨ part = "..")
  noDrive : ':' ∉ part.toList
  noTrail : part.toList = part.toList.rdropWhile fun c => c = ' ' || c = '.'
  noDevice : stem part ∉ windowsDeviceNames

def SafePath (path : String) : Prop := ∀ part ∈ names path, SafePart part

section Paths

variable {F : Type} {host : Host F}

theorem checkPart_eq_ok {relativePath : Json F} {part : String} :
    checkPart host relativePath part = .ok () ↔ SafePart part := by
  simp only [checkPart, bind_eq_ok, refuse_eq_ok, not_not]
  constructor
  · rintro ⟨_, plain, _, noDrive, _, noTrail, noDevice⟩
    exact ⟨plain, noDrive, noTrail, noDevice⟩
  · rintro ⟨plain, noDrive, noTrail, noDevice⟩
    exact ⟨(), plain, (), noDrive, (), noTrail, noDevice⟩

/-- The first name of a path that is empty or starts with a slash is empty. -/
theorem empty_mem_names {path : String}
    (odd : path = "" ∨ (forwardSlashes path).toList.head? = some '/') : "" ∈ names path := by
  unfold names segments
  rcases odd with rfl | slash
  · exact List.mem_map.mpr ⟨[], by simp [forwardSlashes], rfl⟩
  · obtain ⟨rest, chars⟩ := List.head?_eq_some_iff.mp slash
    refine List.mem_map.mpr ⟨[], ?_, rfl⟩
    rw [chars]
    have cut := List.splitOn_append_cons_self (a := '/') [] rest
    rw [List.nil_append] at cut
    rw [cut]
    simp

/-- A path is accepted exactly when its parts are safe. -/
theorem normalizeRelativePath_eq_ok {path normalized : String} :
    normalizeRelativePath host (.str path) = .ok normalized ↔
      SafePath path ∧ normalized = forwardSlashes path := by
  have odd : (path = "" ∨ (forwardSlashes path).toList.head? = some '/') → ¬ SafePath path :=
    fun odd safe => (safe "" (empty_mem_names odd)).plain (.inl rfl)
  unfold normalizeRelativePath
  simp only
  split
  · rename_i none
    exact ⟨fun done => (by cases done), fun safe => absurd safe.1 (odd (.inl none))⟩
  split
  · rename_i slash
    exact ⟨fun done => (by cases done), fun safe => absurd safe.1 (odd (.inr slash))⟩
  simp only [bind_eq_ok, pure_eq_ok, forM_eq_ok]
  constructor
  · rintro ⟨_, checked, rfl⟩
    exact ⟨fun part member => checkPart_eq_ok.mp (checked part member), rfl⟩
  · rintro ⟨safe, rfl⟩
    exact ⟨(), fun part member => checkPart_eq_ok.mpr (safe part member), rfl⟩

theorem validateRelativePath_eq_ok {path normalized : String} :
    validateRelativePath host (.str path) = .ok normalized ↔
      SafePath path ∧ normalized = forwardSlashes path := by
  unfold validateRelativePath
  rw [mapError_eq_ok, normalizeRelativePath_eq_ok]

@[simp] theorem names_forwardSlashes (path : String) : names (forwardSlashes path) = names path := by
  unfold names
  rw [forwardSlashes_idem]

/-- The names of a path below an area. -/
theorem names_join {area : String} (single : names area = [area]) (path : String) :
    names (area ++ "/" ++ path) = area :: names path := by
  have chars : (forwardSlashes (area ++ "/" ++ path)).toList =
      (forwardSlashes area).toList ++ '/' :: (forwardSlashes path).toList := by
    simp [forwardSlashes, backslash]
  unfold names segments at single ⊢
  rw [chars, List.splitOn_append_cons_self, List.map_append, single]
  rfl

theorem names_ne_nil (path : String) : names path ≠ [] := by
  unfold names segments
  exact fun none => List.splitOn_ne_nil _ _ (List.map_eq_nil_iff.mp none)

/-- Names without slashes are the names of the text that joins them. -/
theorem joined_names (path : String) : joined '/' (names path) = forwardSlashes path := by
  unfold joined names segments
  rw [List.map_map]
  have same : ((forwardSlashes path).toList.splitOn '/').map (String.toList ∘ String.ofList) =
      (forwardSlashes path).toList.splitOn '/' := by
    have each : String.toList ∘ String.ofList = id := by
      funext chars
      exact String.toList_ofList
    rw [each, List.map_id]
  rw [same]
  have back : ['/'].intercalate ((forwardSlashes path).toList.splitOn '/') =
      (forwardSlashes path).toList := List.intercalate_splitOn '/'
  rw [back, String.ofList_toList]

end Paths

/-! ## Writes -/

section Writes

variable {F : Type} {host : Host F} {disk after : Disk String}
  {files : List (List String × ByteArray)}

/-- Directories stand, or can be made, on the whole way. -/
theorem openParents_ok {tree : FileTree String} {relativePath : String}
    {above components : List String}
    (done : openParents host tree relativePath above components = .ok ()) {parent : List String}
    (isParent : parent <+: components) (proper : parent ≠ []) :
    (tree (above ++ parent)).canBeDirectory = true := by
  induction components generalizing above parent with
  | nil => exact absurd (List.prefix_nil.mp isParent) proper
  | cons component rest ih =>
      simp only [openParents, bind_eq_ok, require_eq_ok] at done
      obtain ⟨_, -, _, kind, later⟩ := done
      obtain ⟨first, others, rfl⟩ := List.exists_cons_of_ne_nil proper
      obtain ⟨rfl, further⟩ := List.cons_prefix_cons.mp isParent
      by_cases last : others = []
      · subst last
        exact kind
      · have deeper := ih later further last
        rwa [List.append_assoc] at deeper

/-- A write that succeeds puts a safe path to a free place. -/
theorem writeUnderDestination_ok {relativePath : String} {content : ByteArray}
    (done : writeUnderDestination host disk relativePath content = .ok after) :
    SafePath relativePath ∧ disk.Free (names relativePath) ∧
      after = disk.write (names relativePath) content := by
  simp only [writeUnderDestination, bind_eq_ok, require_eq_ok, refuse_eq_ok, pure_eq_ok,
    validateRelativePath_eq_ok] at done
  obtain ⟨target, ⟨safe, rfl⟩, _, top, _, opened, _, -, _, missing, _, -, rfl⟩ := done
  refine ⟨safe, ⟨?_, ?_⟩, rfl⟩
  · show disk.tree (segments (forwardSlashes relativePath)) = .missing
    cases place : disk.tree (segments (forwardSlashes relativePath)) <;> simp_all
  · intro parent isParent proper
    by_cases start : parent = []
    · subst start
      cases place : disk.tree [] <;> simp_all [Place.canBeDirectory]
    · exact openParents_ok opened (prefix_dropLast isParent proper) start

/-- A sequence of writes. -/
def writeAll (host : Host F) (disk : Disk String) (writes : List (String × ByteArray)) :
    Except MaterializationFault (Disk String) :=
  writes.foldlM (fun disk write => writeUnderDestination host disk write.1 write.2) disk

/-- Where the writes put their contents. -/
def stored (writes : List (String × ByteArray)) : List (List String × ByteArray) :=
  writes.map fun write => (names write.1, write.2)

/-- **What is written is held, every file at its own place.** -/
theorem writeAll_ok {writes : List (String × ByteArray)} (holds : disk.Holds files)
    (distinct : (files.map Prod.fst).Nodup) (done : writeAll host disk writes = .ok after) :
    after.Holds (stored writes ++ files) ∧ ((stored writes ++ files).map Prod.fst).Nodup ∧
      ∀ write ∈ writes, SafePath write.1 := by
  induction writes generalizing disk files with
  | nil =>
      obtain rfl := Except.ok.inj done
      exact ⟨holds, distinct, fun _ member => absurd member List.not_mem_nil⟩
  | cons write rest ih =>
      rw [writeAll, List.foldlM_cons, bind_eq_ok] at done
      obtain ⟨middle, first, later⟩ := done
      obtain ⟨safe, free, rfl⟩ := writeUnderDestination_ok first
      have new : names write.1 ∉ files.map Prod.fst := by
        intro member
        obtain ⟨⟨path, content⟩, held, same⟩ := List.mem_map.mp member
        have found := (holds.file path content).mpr held
        simp only at same
        rw [same, free.missing] at found
        cases found
      obtain ⟨holdsAll, distinctAll, safeAll⟩ :=
        ih (holds.write free write.2) (List.nodup_cons.mpr ⟨new, distinct⟩) later
      have order : (stored rest ++ (names write.1, write.2) :: files).Perm
          (stored (write :: rest) ++ files) := List.perm_middle
      exact ⟨holdsAll.perm order, (order.map Prod.fst).nodup_iff.mp distinctAll,
        List.forall_mem_cons.mpr ⟨safe, safeAll⟩⟩

theorem writeAll_append (first second : List (String × ByteArray)) :
    writeAll host disk (first ++ second) =
      writeAll host disk first >>= fun middle => writeAll host middle second :=
  List.foldlM_append

theorem writeArea_eq (area : String × List (String × ByteArray)) :
    writeArea host disk area =
      writeAll host disk (area.2.map fun file => (area.1 ++ "/" ++ file.1, file.2)) := by
  unfold writeArea writeAll
  rw [List.foldlM_map]

/-- A directory for an area without files. -/
theorem createEmptyArea_ok {areaName : String} (holds : disk.Holds files)
    (done : createEmptyArea disk areaName = .ok after) :
    after.Holds files ∧ after.tree [areaName] = .directory ∧
      ∀ path, disk.tree path = .directory → after.tree path = .directory := by
  simp only [createEmptyArea, bind_eq_ok, require_eq_ok, pure_eq_ok] at done
  obtain ⟨_, -, _, can, rfl⟩ := done
  refine ⟨holds.makeDirectory ?_, ?_, ?_⟩
  · intro above isAbove
    rcases List.prefix_cons_iff.mp isAbove with rfl | ⟨rest, rfl, short⟩
    · rw [holds.root]
      rfl
    · rw [List.prefix_nil.mp short]
      exact can
  · rw [Disk.makeDirectory_tree, if_pos List.prefix_rfl]
  · intro path there
    rw [Disk.makeDirectory_tree, there]
    split <;> rfl

/-- Directories for all areas without files. -/
theorem createEmptyAreas_ok {areas : List (String × List (String × ByteArray))}
    (holds : disk.Holds files)
    (done : areas.foldlM (fun disk area => createEmptyArea disk area.1) disk = .ok after) :
    after.Holds files ∧ (∀ area ∈ areas, after.tree [area.1] = .directory) ∧
      ∀ path, disk.tree path = .directory → after.tree path = .directory := by
  induction areas generalizing disk with
  | nil =>
      obtain rfl := Except.ok.inj done
      exact ⟨holds, fun _ member => absurd member List.not_mem_nil, fun _ there => there⟩
  | cons area rest ih =>
      rw [List.foldlM_cons, bind_eq_ok] at done
      obtain ⟨middle, first, later⟩ := done
      obtain ⟨holdsMiddle, made, kept⟩ := createEmptyArea_ok holds first
      obtain ⟨holdsAfter, others, keptLater⟩ := ih holdsMiddle later
      exact ⟨holdsAfter, List.forall_mem_cons.mpr ⟨keptLater _ made, others⟩,
        fun path there => keptLater path (kept path there)⟩

end Writes

/-! ## A run -/

section Run

variable {F : Type} [JsonFloat F] (host : Host F)

/-- The files of the areas, by their paths below the destination. -/
def areaWrites (request : MaterializationRequest) (surfaces : Surfaces) :
    List (String × ByteArray) :=
  (areasOf request surfaces).flatMap fun area =>
    area.2.map fun file => (area.1 ++ "/" ++ file.1, file.2)

def manifestWrites (request : MaterializationRequest) (surfaces : Surfaces) :
    List (String × ByteArray) :=
  (manifestFiles host request surfaces).map fun file =>
    (manifestDirectory ++ "/" ++ file.1, canonicalBytes file.2)

/-- What a run of `materialize` below a fresh destination leaves there. -/
structure Materialized (request : MaterializationRequest) (shipped : List String)
    (surfaces : Surfaces) (after : Disk String) : Prop where
  role : checkRoleProfile request = .ok ()
  routed : route host request = .ok (shipped, surfaces)
  holds : after.Holds (stored (areaWrites request surfaces ++ manifestWrites host request surfaces))
  distinct : ((stored (areaWrites request surfaces ++ manifestWrites host request surfaces)).map
    Prod.fst).Nodup
  safe : ∀ write ∈ areaWrites request surfaces ++ manifestWrites host request surfaces,
    SafePath write.1
  areas : ∀ area ∈ areasOf request surfaces, after.tree [area.1] = .directory

variable {host} {request : MaterializationRequest} {shipped : List String} {surfaces : Surfaces}
  {after : Disk String}

theorem areas_single : ∀ area ∈ areasOf request surfaces,
    names area.1 = [area.1] ∧ area.1 ≠ manifestDirectory := by
  unfold areasOf
  simp only [List.mem_cons, List.not_mem_nil, or_false, forall_eq_or_imp, forall_eq]
  decide +kernel

/-- The stored files of the areas and of the manifests. -/
theorem mem_stored {path : List String} {content : ByteArray} :
    (path, content) ∈ stored (areaWrites request surfaces ++ manifestWrites host request surfaces) ↔
      (∃ area ∈ areasOf request surfaces, ∃ file ∈ area.2,
        path = area.1 :: names file.1 ∧ content = file.2) ∨
      ∃ file ∈ manifestFiles host request surfaces,
        path = manifestDirectory :: names file.1 ∧ content = canonicalBytes file.2 := by
  have directory : names manifestDirectory = [manifestDirectory] := by decide +kernel
  unfold stored areaWrites manifestWrites
  simp only [List.map_append, List.mem_append, List.mem_map, List.mem_flatMap]
  constructor
  · rintro (⟨write, ⟨area, listed, file, member, rfl⟩, same⟩ | ⟨write, ⟨file, member, rfl⟩, same⟩)
    · obtain ⟨rfl, rfl⟩ := Prod.mk.inj same
      exact .inl ⟨area, listed, file, member, names_join (areas_single area listed).1 _, rfl⟩
    · obtain ⟨rfl, rfl⟩ := Prod.mk.inj same
      exact .inr ⟨file, member, names_join directory _, rfl⟩
  · rintro (⟨area, listed, file, member, rfl, rfl⟩ | ⟨file, member, rfl, rfl⟩)
    · refine .inl ⟨_, ⟨area, listed, file, member, rfl⟩, ?_⟩
      rw [names_join (areas_single area listed).1]
    · refine .inr ⟨_, ⟨file, member, rfl⟩, ?_⟩
      rw [names_join directory]

theorem writeSurfaces_ok (done : writeSurfaces host request surfaces .empty = .ok after) :
    after.Holds (stored (areaWrites request surfaces ++ manifestWrites host request surfaces)) ∧
    ((stored (areaWrites request surfaces ++ manifestWrites host request surfaces)).map
      Prod.fst).Nodup ∧
    (∀ write ∈ areaWrites request surfaces ++ manifestWrites host request surfaces,
      SafePath write.1) ∧
    ∀ area ∈ areasOf request surfaces, after.tree [area.1] = .directory := by
  unfold writeSurfaces at done
  simp only [bind_eq_ok] at done
  obtain ⟨middle, areas, full, manifests, made⟩ := done
  have written : writeAll host .empty
      (areaWrites request surfaces ++ manifestWrites host request surfaces) = .ok full := by
    rw [writeAll_append, bind_eq_ok]
    refine ⟨middle, ?_, ?_⟩
    · rw [← areas]
      unfold areaWrites areasOf
      simp only [List.flatMap_cons, List.flatMap_nil, List.append_nil, writeAll_append,
        List.foldlM_cons, List.foldlM_nil, writeArea_eq, bind_pure]
    · rw [← manifests]
      unfold writeAll manifestWrites
      rw [List.foldlM_map]
  obtain ⟨holds, distinct, safe⟩ := writeAll_ok Disk.holds_empty List.nodup_nil written
  rw [List.append_nil] at holds distinct
  obtain ⟨holdsAfter, emptied, kept⟩ := createEmptyAreas_ok holds made
  refine ⟨holdsAfter, distinct, safe, ?_⟩
  intro area listed
  cases entries : area.2 with
  | nil =>
      refine emptied area (List.mem_filter.mpr ⟨listed, ?_⟩)
      rw [entries]
      rfl
  | cons file rest =>
      have member : (area.1 :: names file.1, file.2) ∈
          stored (areaWrites request surfaces ++ manifestWrites host request surfaces) :=
        mem_stored.mpr (.inl ⟨area, listed, file, by rw [entries]; exact List.mem_cons_self ..,
          rfl, rfl⟩)
      have found := (holds.file _ _).mpr member
      refine kept _ (holds.parents _ (by rw [found]; exact fun none => by cases none) _ ?_ ?_)
      · exact List.cons_prefix_cons.mpr ⟨rfl, List.nil_prefix⟩
      · exact fun same => names_ne_nil file.1 (List.cons.inj same).2.symm

theorem materialize_ok {record : MaterializationRecord F}
    (done : materialize host request .empty = .ok (record, after)) :
    ∃ shipped surfaces, Materialized host request shipped surfaces after ∧
      record = materializationRecord host request shipped surfaces := by
  unfold materialize at done
  simp only [bind_eq_ok, refuse_eq_ok, pure_eq_ok] at done
  obtain ⟨_, role, _, -, _, -, _, -, _, -, ⟨shipped, surfaces⟩, routed, disk, written, same⟩ := done
  obtain ⟨rfl, rfl⟩ := Prod.mk.inj same
  obtain ⟨holds, distinct, safe, areas⟩ := writeSurfaces_ok written
  exact ⟨shipped, surfaces, ⟨role, routed, holds, distinct, safe, areas⟩, rfl⟩

/-- The keys of every manifest. -/
def manifestKeys : List String :=
  ["schema_version", "manifest_kind", "source_commit", "source_tree", "materialization_profile",
    "file_count", "files"]

section Fields

variable {kind : String} {snapshot : SnapshotSource} {profile : MaterializationProfile}
  {entries : List (String × ByteArray)} {fixture : List (String × Json F)}

omit [JsonFloat F] in
/-- A field of a manifest. -/
theorem manifest_getD (distinct : (manifestKeys ++ fixture.map Prod.fst).Nodup) {key : String}
    {value : Json F} (member : (key, value) ∈
      [("schema_version", .str Evidence.schemaVersion), ("manifest_kind", .str kind),
        ("source_commit", .str snapshot.sourceCommit), ("source_tree", .str snapshot.sourceTree),
        ("materialization_profile", .str profile.value), ("file_count", .int entries.length),
        ("files", Json.array (entries.map (fileEntry host)))] ++ fixture) (default : Json F) :
    (manifest host kind snapshot profile entries fixture).getD key default = value :=
  Json.getD_dict (by rw [List.map_append]; exact distinct) member default

omit [JsonFloat F] in
theorem manifest_files (distinct : (manifestKeys ++ fixture.map Prod.fst).Nodup)
    (default : Json F) :
    (manifest host kind snapshot profile entries fixture).getD "files" default =
      .array (entries.map (fileEntry host)) :=
  manifest_getD distinct (by simp) default

end Fields

omit [JsonFloat F] in
theorem fileEntry_path (file : String × ByteArray) (default : Json F) :
    (fileEntry host file).getD "path" default = .str file.1 := by
  refine Json.getD_dict ?_ (List.mem_cons_self ..) default
  show ["path", "bytes", "sha256"].Nodup
  decide

/-- The paths of the runtime manifest are those of the runtime surface. -/
theorem runtimeFiles_eq : runtimeFiles (materializationRecord host request shipped surfaces) =
    surfaces.runtimeSurface.map Prod.fst := by
  have files : (materializationRecord host request shipped surfaces).runtimeSurfaceManifest.getD
      "files" (.array []) = .array (surfaces.runtimeSurface.map (fileEntry host)) := by
    show (manifest host _ _ _ surfaces.runtimeSurface []).getD "files" _ = _
    refine manifest_files ?_ _
    show manifestKeys.Nodup
    decide
  unfold runtimeFiles
  rw [files]
  simp [fileEntry_path]

namespace Materialized

variable (run : Materialized host request shipped surfaces after)

include run

/-- The files on the disk below an area are the files of the area. -/
theorem area_file {area : String × List (String × ByteArray)}
    (listed : area ∈ areasOf request surfaces) {rest : List String} {content : ByteArray} :
    after.tree (area.1 :: rest) = .file content ↔
      ∃ file ∈ area.2, rest = names file.1 ∧ content = file.2 := by
  rw [run.holds.file, mem_stored]
  constructor
  · rintro (⟨other, otherListed, file, member, same, rfl⟩ | ⟨file, -, same, -⟩)
    · obtain ⟨sameArea, rfl⟩ := List.cons.inj same
      have areas : ((areasOf request surfaces).map Prod.fst).Nodup := by
        show ["control_plane", "runtime_surface", "product_fixture"].Nodup
        decide
      obtain rfl := List.inj_on_of_nodup_map areas listed otherListed sameArea
      exact ⟨file, member, rfl, rfl⟩
    · exact absurd (List.cons.inj same).1 (areas_single area listed).2
  · rintro ⟨file, member, rfl, rfl⟩
    exact .inl ⟨area, listed, file, member, rfl, rfl⟩

theorem manifest_file {file : String × Json F} (listed : file ∈ manifestFiles host request surfaces) :
    after.tree (manifestDirectory :: names file.1) = .file (canonicalBytes file.2) := by
  rw [run.holds.file, mem_stored]
  exact .inr ⟨file, listed, rfl, rfl⟩

theorem safe_file {area : String × List (String × ByteArray)}
    (listed : area ∈ areasOf request surfaces) {file : String × ByteArray} (member : file ∈ area.2) :
    SafePath file.1 := by
  have write : (area.1 ++ "/" ++ file.1, file.2) ∈
      areaWrites request surfaces ++ manifestWrites host request surfaces :=
    List.mem_append_left _ (List.mem_flatMap.mpr ⟨area, listed, List.mem_map.mpr
      ⟨file, member, rfl⟩⟩)
  intro part inside
  refine run.safe _ write part ?_
  rw [names_join (areas_single area listed).1]
  exact List.mem_cons_of_mem _ inside

/-- The files of an area stand at different places. -/
theorem distinct_names {area : String × List (String × ByteArray)}
    (listed : area ∈ areasOf request surfaces) :
    (area.2.map fun file => names file.1).Nodup := by
  have parts : (((areasOf request surfaces).flatMap fun area =>
      area.2.map fun file => (area.1 ++ "/" ++ file.1, file.2)).map
        fun write => names write.1).Nodup := by
    have distinct := run.distinct
    unfold stored areaWrites at distinct
    rw [List.map_append, List.map_append] at distinct
    have left := (List.nodup_append.mp distinct).1
    rwa [List.map_map] at left
  have sub : ((area.2.map fun file => (area.1 ++ "/" ++ file.1, file.2)).map
      fun write => names write.1).Nodup := by
    refine parts.sublist (List.Sublist.map _ ?_)
    obtain ⟨before, later, split⟩ := List.append_of_mem listed
    rw [split, List.flatMap_append, List.flatMap_cons]
    exact (List.sublist_append_left _ _).trans (List.sublist_append_right _ _)
  rw [List.map_map] at sub
  have same : (fun write : String × ByteArray => names write.1) ∘
      (fun file : String × ByteArray => (area.1 ++ "/" ++ file.1, file.2)) =
      fun file => area.1 :: names file.1 := by
    funext file
    exact names_join (areas_single area listed).1 _
  rw [same] at sub
  have through : (fun file : String × ByteArray => area.1 :: names file.1) =
      (area.1 :: ·) ∘ fun file => names file.1 := rfl
  rw [through, ← List.map_map] at sub
  exact List.Nodup.of_map _ sub

end Materialized

end Run

end Aegis.Materialize
