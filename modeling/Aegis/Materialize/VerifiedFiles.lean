/-
# Materialize.VerifiedFiles — what the checks of one manifest accept

A walk succeeds exactly when it meets no link, every file has a safe path and no two files have
one path text (`enumeratePlaces_eq_ok`). A manifest that `manifest` made is read back entry by
entry (`listedFiles_manifest`), and `ManifestVerified` is what the turn of the verifier checks.
-/
import Aegis.Evidence.Acceptance
import Aegis.Materialize.Written

namespace Aegis.Materialize

open Aegis.Lib
open Aegis.Lib.Guarded
open Aegis.Evidence (Host forwardSlashes segments canonicalBytes loads loads_canonicalBytes
  forwardSlashes_idem schemaVersion)

set_option autoImplicit false

/-! ## Walks -/

section Walks

variable {F : Type} {host : Host F} {tree : FileTree String} {area : String}

/-- The path text of a place below an area. -/
def placeText (rest : List String) : String := forwardSlashes (joined '/' rest)

theorem placeText_names (path : String) : placeText (names path) = forwardSlashes path := by
  unfold placeText
  rw [joined_names, forwardSlashes_idem]

def isFile (tree : FileTree String) (path : List String) : Bool := tree path matches .file _

theorem isFile_iff {path : List String} :
    isFile tree path = true ↔ ∃ content, tree path = .file content := by
  unfold isFile
  cases tree path <;> simp

/-- The texts of the files among places. -/
def fileTexts (tree : FileTree String) (area : String) (rests : List (List String)) : List String :=
  (rests.filter fun rest => isFile tree (area :: rest)).map placeText

theorem enumeratePlace_eq_ok {found result : List String} {rest : List String} :
    enumeratePlace host tree area found rest = .ok result ↔
      (∀ content, tree (area :: rest) ≠ .outside content) ∧
        (if isFile tree (area :: rest) = true then
          SafePath (placeText rest) ∧ placeText rest ∉ found ∧ result = found ++ [placeText rest]
        else result = found) := by
  unfold enumeratePlace isFile
  cases place : tree (area :: rest) with
  | missing =>
      simp only [pure_eq_ok, ne_eq, reduceCtorEq, not_false_eq_true, implies_true,
        Bool.false_eq_true, if_false, true_and]
      exact eq_comm
  | directory =>
      simp only [pure_eq_ok, ne_eq, reduceCtorEq, not_false_eq_true, implies_true,
        Bool.false_eq_true, if_false, true_and]
      exact eq_comm
  | outside content => simp
  | file content =>
      simp only [bind_eq_ok, refuse_eq_ok, pure_eq_ok, validateRelativePath_eq_ok]
      have text : forwardSlashes (forwardSlashes (joined '/' rest)) = placeText rest :=
        forwardSlashes_idem _
      constructor
      · rintro ⟨relative, ⟨safe, rfl⟩, _, new, rfl⟩
        rw [text] at new ⊢
        simp only [ne_eq, reduceCtorEq, not_false_eq_true, implies_true, if_true, true_and]
        exact ⟨safe, new, trivial⟩
      · rintro ⟨-, safe, new, rfl⟩
        refine ⟨_, ⟨safe, rfl⟩, (), ?_, ?_⟩
        · rw [text]
          exact new
        · rw [text]

/-- **A walk succeeds when it meets no link, and files with safe and distinct texts.** -/
theorem enumeratePlaces_eq_ok {rests : List (List String)} {found result : List String}
    (distinct : found.Nodup) :
    rests.foldlM (enumeratePlace host tree area) found = .ok result ↔
      (∀ rest ∈ rests, ∀ content, tree (area :: rest) ≠ .outside content) ∧
      (∀ rest ∈ rests, isFile tree (area :: rest) = true → SafePath (placeText rest)) ∧
      (found ++ fileTexts tree area rests).Nodup ∧ result = found ++ fileTexts tree area rests := by
  induction rests generalizing found with
  | nil =>
      simp only [List.foldlM_nil, pure_eq_ok, fileTexts, List.filter_nil, List.map_nil,
        List.append_nil, List.not_mem_nil, false_implies, implies_true, distinct, true_and]
      exact eq_comm
  | cons rest later ih =>
      rw [List.foldlM_cons, bind_eq_ok]
      simp only [enumeratePlace_eq_ok, List.forall_mem_cons]
      by_cases file : isFile tree (area :: rest) = true
      · have texts : fileTexts tree area (rest :: later) =
            placeText rest :: fileTexts tree area later := by
          unfold fileTexts
          rw [List.filter_cons_of_pos (p := fun rest => isFile tree (area :: rest)) file, List.map_cons]
        have split : found ++ placeText rest :: fileTexts tree area later =
            (found ++ [placeText rest]) ++ fileTexts tree area later := by simp
        simp only [file, if_true, texts, split]
        constructor
        · rintro ⟨_, ⟨noLink, safe, new, rfl⟩, run⟩
          have grown : (found ++ [placeText rest]).Nodup :=
            List.nodup_append_comm.mp (List.nodup_cons.mpr ⟨new, distinct⟩)
          obtain ⟨noLinks, safes, nodup, rfl⟩ := (ih grown).mp run
          exact ⟨⟨noLink, noLinks⟩, ⟨fun _ => safe, safes⟩, nodup, rfl⟩
        · rintro ⟨⟨noLink, noLinks⟩, ⟨safe, safes⟩, nodup, rfl⟩
          have grown := (List.nodup_append.mp nodup).1
          have new : placeText rest ∉ found :=
            (List.nodup_cons.mp (List.nodup_append_comm.mp grown)).1
          exact ⟨_, ⟨noLink, safe trivial, new, rfl⟩,
            (ih grown).mpr ⟨noLinks, safes, nodup, rfl⟩⟩
      · have texts : fileTexts tree area (rest :: later) = fileTexts tree area later := by
          unfold fileTexts
          rw [List.filter_cons_of_neg (p := fun rest => isFile tree (area :: rest)) file]
        simp only [file, if_false, texts, Bool.false_eq_true, false_implies, true_and]
        constructor
        · rintro ⟨_, ⟨noLink, rfl⟩, run⟩
          obtain ⟨noLinks, safes, nodup, rfl⟩ := (ih distinct).mp run
          exact ⟨⟨noLink, noLinks⟩, safes, nodup, rfl⟩
        · rintro ⟨⟨noLink, noLinks⟩, safes, nodup, rfl⟩
          exact ⟨_, ⟨noLink, rfl⟩, (ih distinct).mpr ⟨noLinks, safes, nodup, rfl⟩⟩

end Walks

/-! ## Manifests -/

section Manifests

variable {F : Type} [JsonFloat F] {host : Host F}

/-- What a manifest lists of a file. -/
def listedOf (host : Host F) (file : String × ByteArray) : Listed :=
  ⟨forwardSlashes file.1, file.2.size, host.sha256Hex file.2⟩

omit [JsonFloat F] in
theorem fileEntry_eq (file : String × ByteArray) : fileEntry host file =
    .object [("bytes", .int file.2.size), ("path", .str file.1),
      ("sha256", .str (host.sha256Hex file.2))] := by
  have bytesPath : ("bytes" : String) < "path" := by decide
  have pathBytes : ¬ ("path" : String) < "bytes" := by decide
  have pathSha : ("path" : String) < "sha256" := by decide
  have bytesSha : ("bytes" : String) < "sha256" := by decide
  simp [fileEntry, Json.dict, Dict.ofFields, Dict.assign, pathBytes, pathSha, bytesSha]

theorem fileEntry_isCanonical (file : String × ByteArray) :
    (fileEntry host file).IsCanonical := by
  unfold fileEntry
  apply Json.IsCanonical.dict
  simp [Json.IsCanonical.str, Json.IsCanonical.int]

theorem manifest_isCanonical {kind : String} {snapshot : SnapshotSource}
    {profile : MaterializationProfile} {entries : List (String × ByteArray)}
    {fixture : List (String × Json F)} (canonical : ∀ field ∈ fixture, field.2.IsCanonical) :
    (manifest host kind snapshot profile entries fixture).IsCanonical := by
  have listed : (Json.array (entries.map (fileEntry host))).IsCanonical := by
    apply Json.IsCanonical.array
    rintro _ member
    obtain ⟨file, -, rfl⟩ := List.mem_map.mp member
    exact fileEntry_isCanonical file
  unfold manifest
  apply Json.IsCanonical.dict
  intro field member
  rcases List.mem_append.mp member with base | extra
  · simp only [List.mem_cons, List.not_mem_nil, or_false] at base
    rcases base with rfl | rfl | rfl | rfl | rfl | rfl | rfl
    · exact .str _
    · exact .str _
    · exact .str _
    · exact .str _
    · exact .str _
    · exact .int _
    · exact listed
  · exact canonical field extra

omit [JsonFloat F] in
/-- The entries of files with safe and different paths are listed. -/
theorem listEntries_ok (hex : ∀ content, IsDigest (host.sha256Hex content)) (name : String)
    {entries : List (String × ByteArray)} {listed : List Listed}
    (safe : ∀ file ∈ entries, SafePath file.1)
    (distinct : (listed.map Listed.path ++ entries.map fun file => forwardSlashes file.1).Nodup) :
    (entries.map (fileEntry host)).foldlM (listEntry host name) listed =
      .ok (listed ++ entries.map (listedOf host)) := by
  induction entries generalizing listed with
  | nil => simp [pure, Except.pure]
  | cons file rest ih =>
      obtain ⟨first, others⟩ := List.forall_mem_cons.mp safe
      rw [List.map_cons] at distinct
      have new : forwardSlashes file.1 ∉ listed.map Listed.path := by
        intro member
        have parts := List.nodup_append.mp distinct
        exact parts.2.2 _ member _ (List.mem_cons_self ..) rfl
      have one : listEntry host name listed (fileEntry host file) =
          .ok (listed ++ [listedOf host file]) := by
        have path : validateRelativePath host ((fileEntry host file).getD "path" .null) =
            .ok (forwardSlashes file.1) := by
          rw [fileEntry_path]
          exact validateRelativePath_eq_ok.mpr ⟨first, rfl⟩
        have bytes : (fileEntry host file).getD "bytes" .null = .int file.2.size := by
          rw [fileEntry_eq]
          rfl
        have digest : (fileEntry host file).getD "sha256" .null =
            .str (host.sha256Hex file.2) := by
          rw [fileEntry_eq]
          rfl
        unfold listEntry
        rw [fileEntry_eq] at path bytes digest ⊢
        simp only [bind_eq_ok, require_eq_ok, refuse_eq_ok, fetch_eq_ok, pure_eq_ok]
        refine ⟨(), rfl, _, path, (), new, (file.2.size : Int), ?_, host.sha256Hex file.2, ?_, rfl⟩
        · rw [bytes]
          show (if (0 : Int) ≤ file.2.size then some _ else none) = some _
          exact if_pos (Int.natCast_nonneg _)
        · rw [digest]
          show (if IsDigest _ then some _ else none) = some _
          exact if_pos (hex _)
      have split : listed.map Listed.path ++
          (forwardSlashes file.1 :: rest.map fun file => forwardSlashes file.1) =
          (listed ++ [listedOf host file]).map Listed.path ++
            rest.map fun file => forwardSlashes file.1 := by
        simp [listedOf]
      rw [split] at distinct
      rw [List.map_cons, List.foldlM_cons, one]
      show ((rest.map (fileEntry host)).foldlM (listEntry host name) _ = _)
      rw [ih others distinct]
      simp

/-! ## One manifest -/

/-- The record describes the files of an area in the manifest of a spec. -/
structure Describes (host : Host F) (record : MaterializationRecord F) (destinationRoot : String)
    (spec : ManifestSpec F) (document : Json F) (entries : List (String × ByteArray)) : Prop where
  document_eq : spec.document record = document
  sha256_eq : spec.sha256 record = host.sha256Hex (canonicalBytes document)
  path : record.manifestPaths.lookup spec.name = some (manifestPath destinationRoot spec.name)
  canonical : document.IsCanonical
  isObject : document.isObject = true
  identity : ∀ field ∈ expectedIdentity record spec,
    document.getD field.1 .null = .str field.2
  files : document.getD "files" .null = .array (entries.map (fileEntry host))
  count : document.getD "file_count" .null = .int entries.length
  safe : ∀ file ∈ entries, SafePath file.1
  distinct : (entries.map fun file => names file.1).Nodup

namespace Describes

variable {record : MaterializationRecord F} {destinationRoot : String} {spec : ManifestSpec F}
  {document : Json F} {entries : List (String × ByteArray)} {disk : Disk String}

theorem distinct_paths
    (describes : Describes host record destinationRoot spec document entries) :
    (entries.map fun file => forwardSlashes file.1).Nodup := by
  have through : (entries.map fun file => names file.1) =
      (entries.map fun file => forwardSlashes file.1).map names := by
    rw [List.map_map]
    apply List.map_congr_left
    intro file _
    rw [Function.comp_apply, names_forwardSlashes]
  have distinct := describes.distinct
  rw [through] at distinct
  exact List.Nodup.of_map names distinct

theorem loadManifest_ok (describes : Describes host record destinationRoot spec document entries)
    (stands : disk.tree [manifestDirectory, spec.name] = .file (canonicalBytes document)) :
    loadManifest host disk destinationRoot record spec = .ok document := by
  simp only [loadManifest, bind_eq_ok, require_eq_ok, refuse_eq_ok, fetch_eq_ok, pure_eq_ok, stands]
  refine ⟨(), by simp, _, rfl, _, describes.path, (), rfl, (), describes.sha256_eq.symm, _,
    loads_canonicalBytes describes.canonical, (), ⟨describes.isObject, describes.canonical.finite, rfl⟩,
    (), ?_, rfl⟩
  rw [describes.document_eq]
  exact describes.canonical.same

theorem listedFiles_ok (describes : Describes host record destinationRoot spec document entries)
    (hex : ∀ content, IsDigest (host.sha256Hex content)) :
    listedFiles host record spec document = .ok (entries.map (listedOf host)) := by
  have distinct : (([] : List Listed).map Listed.path ++
      entries.map fun file => forwardSlashes file.1).Nodup := describes.distinct_paths
  have listed := listEntries_ok hex spec.name describes.safe distinct
  rw [List.nil_append] at listed
  simp only [listedFiles, bind_eq_ok, require_eq_ok, fetch_eq_ok, forM_eq_ok]
  refine ⟨⟨⟩, ?_, entries.map (fileEntry host), ?_, (), ?_, listed⟩
  · intro field member
    rw [describes.identity field member]
    exact Json.same_self _ rfl rfl
  · rw [describes.files]
    rfl
  · rw [describes.count, List.length_map]
    rfl

/-- The disk holds the files of an area, as a record of them says. -/
structure Stands (disk : Disk String) (spec : ManifestSpec F) (document : Json F)
    (entries : List (String × ByteArray)) : Prop where
  manifest : disk.tree [manifestDirectory, spec.name] = .file (canonicalBytes document)
  files : ∀ rest content, disk.tree (spec.area :: rest) = .file content ↔
    ∃ file ∈ entries, rest = names file.1 ∧ content = file.2

omit [JsonFloat F] in
/-- Files with different texts are at different places. -/
theorem distinct_texts {rests : List (List String)} (nodup : rests.Nodup)
    (named : ∀ rest ∈ rests, isFile disk.tree (spec.area :: rest) = true →
      ∃ path, rest = names path) : (fileTexts disk.tree spec.area rests).Nodup := by
  refine List.Nodup.map_on ?_ (nodup.filter _)
  intro left isLeft right isRight same
  obtain ⟨leftMember, leftFile⟩ := List.mem_filter.mp isLeft
  obtain ⟨rightMember, rightFile⟩ := List.mem_filter.mp isRight
  obtain ⟨leftPath, rfl⟩ := named left leftMember leftFile
  obtain ⟨rightPath, rfl⟩ := named right rightMember rightFile
  rw [placeText_names, placeText_names] at same
  rw [← names_forwardSlashes leftPath, same, names_forwardSlashes]

/-- **A described area that stands on the disk is accepted.** -/
theorem accepted (describes : Describes host record destinationRoot spec document entries)
    (hex : ∀ content, IsDigest (host.sha256Hex content))
    (stands : Stands disk spec document entries) (area : disk.tree [spec.area] = .directory)
    (noLinks : ∀ path content, disk.tree path ≠ .outside content)
    (reached : ∀ rest content, disk.tree (spec.area :: rest) = .file content →
      rest ∈ disk.placesBelow [spec.area]) :
    verifyManifest host disk destinationRoot record spec = .ok () := by
  have named : ∀ rest, isFile disk.tree (spec.area :: rest) = true →
      ∃ file ∈ entries, rest = names file.1 := by
    intro rest held
    obtain ⟨content, found⟩ := isFile_iff.mp held
    obtain ⟨file, member, rfl, -⟩ := (stands.files rest content).mp found
    exact ⟨file, member, rfl⟩
  have stored : ∀ file ∈ entries,
      disk.tree (spec.area :: names file.1) = .file file.2 :=
    fun file member => (stands.files _ _).mpr ⟨file, member, rfl, rfl⟩
  have texts : ∀ text, text ∈ fileTexts disk.tree spec.area (disk.placesBelow [spec.area]) ↔
      text ∈ (entries.map (listedOf host)).map Listed.path := by
    intro text
    unfold fileTexts
    simp only [List.mem_map, List.mem_filter]
    constructor
    · rintro ⟨rest, ⟨-, held⟩, rfl⟩
      obtain ⟨file, member, rfl⟩ := named rest held
      exact ⟨_, ⟨file, member, rfl⟩, (placeText_names file.1).symm⟩
    · rintro ⟨_, ⟨file, member, rfl⟩, rfl⟩
      exact ⟨names file.1, ⟨reached _ _ (stored file member), isFile_iff.mpr ⟨_, stored file member⟩⟩,
        placeText_names file.1⟩
  have walked : (disk.placesBelow [spec.area]).foldlM (enumeratePlace host disk.tree spec.area) [] =
      .ok (fileTexts disk.tree spec.area (disk.placesBelow [spec.area])) := by
    refine (enumeratePlaces_eq_ok List.nodup_nil).mpr ⟨fun _ _ => noLinks _, ?_, ?_, rfl⟩
    · intro rest _ held
      obtain ⟨file, member, rfl⟩ := named rest held
      unfold SafePath
      rw [placeText_names, names_forwardSlashes]
      exact describes.safe file member
    · refine distinct_texts ((List.nodup_dedup _).filter _) ?_
      intro rest _ held
      obtain ⟨file, -, rfl⟩ := named rest held
      exact ⟨file.1, rfl⟩
  have enumerated : enumerateMaterializedFiles host disk spec.area =
      .ok (fileTexts disk.tree spec.area (disk.placesBelow [spec.area])) := by
    simp only [enumerateMaterializedFiles, bind_eq_ok, require_eq_ok, refuse_eq_ok, area]
    exact ⟨(), by simp, (), trivial, walked⟩
  simp only [verifyManifest, bind_eq_ok, require_eq_ok, forM_eq_ok]
  refine ⟨_, describes.loadManifest_ok stands.manifest, _, describes.listedFiles_ok hex, _,
    enumerated, (), ⟨fun text member => (texts text).mp member,
      fun text member => (texts text).mpr member⟩, ?_⟩
  intro listed member
  obtain ⟨file, fileMember, rfl⟩ := List.mem_map.mp member
  have place : disk.tree (spec.area :: segments (listedOf host file).path) = .file file.2 :=
    stored file fileMember
  simp only [checkContent, bind_eq_ok, require_eq_ok]
  refine ⟨file.2, ?_, rfl, rfl⟩
  unfold materializedContent
  rw [place]
  rfl

/-- **What is accepted stands on the disk as it was described.** -/
theorem stands (describes : Describes host record destinationRoot spec document entries)
    (hex : ∀ content, IsDigest (host.sha256Hex content))
    (proper : ∀ path, disk.tree path ≠ .missing → ∀ above, above <+: path → above ≠ path →
      disk.tree above = .directory)
    {contents : Set ByteArray} (injective : Set.InjOn host.sha256Hex contents)
    (known : ∀ path content, disk.tree path = .file content → content ∈ contents)
    (own : canonicalBytes document ∈ contents ∧ ∀ file ∈ entries, file.2 ∈ contents)
    (verified : verifyManifest host disk destinationRoot record spec = .ok ()) :
    Stands disk spec document entries := by
  simp only [verifyManifest, bind_eq_ok, require_eq_ok, forM_eq_ok] at verified
  obtain ⟨found, loaded, listed, listing, onDisk, enumerated, _, ⟨onlyListed, allListed⟩, checked⟩ :=
    verified
  simp only [loadManifest, bind_eq_ok, require_eq_ok, refuse_eq_ok, fetch_eq_ok, pure_eq_ok]
    at loaded
  obtain ⟨_, noLink, bytes, read, _, -, _, -, _, digest, value, parsed, _, -, _, -, rfl⟩ := loaded
  have place : disk.tree [manifestDirectory, spec.name] = .file bytes := by
    cases there : disk.tree [manifestDirectory, spec.name] with
    | file content =>
        rw [there] at read
        exact congrArg Place.file (Option.some.inj read)
    | outside content =>
        rw [there] at noLink
        simp at noLink
    | missing =>
        rw [there] at read
        cases read
    | directory =>
        rw [there] at read
        cases read
  rw [describes.sha256_eq] at digest
  obtain rfl := injective (known _ _ place) own.1 digest
  rw [loads_canonicalBytes describes.canonical] at parsed
  obtain rfl := Option.some.inj parsed
  rw [describes.listedFiles_ok hex] at listing
  obtain rfl := Except.ok.inj listing
  have stored : ∀ file ∈ entries, disk.tree (spec.area :: names file.1) = .file file.2 := by
    intro file member
    have content := checked _ (List.mem_map.mpr ⟨file, member, rfl⟩)
    simp only [checkContent, bind_eq_ok, require_eq_ok] at content
    obtain ⟨content, read, -, digest⟩ := content
    have there : disk.tree (spec.area :: names file.1) = .file content := by
      change materializedContent disk.tree spec.area (forwardSlashes file.1) = .ok content at read
      unfold materializedContent at read
      cases there : disk.tree (spec.area :: segments (forwardSlashes file.1)) with
      | file held =>
          rw [there] at read
          obtain rfl := Except.ok.inj read
          exact there
      | outside held =>
          rw [there] at read
          cases read
      | missing =>
          rw [there] at read
          cases read
      | directory =>
          rw [there] at read
          cases read
    rw [there, injective (known _ _ there) (own.2 file member) digest]
  refine ⟨place, fun rest content => ⟨fun there => ?_, ?_⟩⟩
  · simp only [enumerateMaterializedFiles, bind_eq_ok, require_eq_ok, refuse_eq_ok] at enumerated
    obtain ⟨_, -, _, area, walked⟩ := enumerated
    obtain ⟨-, -, distinct, rfl⟩ := (enumeratePlaces_eq_ok List.nodup_nil).mp walked
    rw [List.nil_append] at distinct onlyListed
    have walkedTo : ∀ rest content, disk.tree (spec.area :: rest) = .file content →
        rest ∈ (disk.placesBelow [spec.area]).filter fun rest =>
          isFile disk.tree (spec.area :: rest) := by
      intro rest content there
      have some : disk.tree (spec.area :: rest) ≠ .missing := by
        rw [there]
        exact fun none => by cases none
      refine List.mem_filter.mpr ⟨Disk.mem_placesBelow.mpr ⟨disk.covers _ some, ?_, ?_⟩,
        isFile_iff.mpr ⟨content, there⟩⟩
      · rintro rfl
        rw [there] at area
        simp at area
      · intro above member other
        have isAbove : spec.area :: above <+: spec.area :: rest :=
          List.cons_prefix_cons.mpr ⟨rfl, (List.mem_inits _ _).mp member⟩
        have parent : disk.tree ([spec.area] ++ above) = .directory :=
          proper _ some _ isAbove fun same => other (List.cons.inj same).2
        rw [parent]
    have text := onlyListed (List.mem_map.mpr ⟨rest, walkedTo rest content there, rfl⟩)
    simp only [List.map_map, List.mem_map] at text
    obtain ⟨file, member, same⟩ := text
    have same : placeText (names file.1) = placeText rest := by
      rw [placeText_names]
      exact same
    have place := stored file member
    have whole : names file.1 = rest :=
      List.inj_on_of_nodup_map distinct (walkedTo _ _ place) (walkedTo rest content there) same
    refine ⟨file, member, whole.symm, ?_⟩
    rw [whole, there] at place
    exact Place.file.inj place
  · rintro ⟨file, member, rfl, rfl⟩
    exact stored file member

end Describes

end Manifests

end Aegis.Materialize
