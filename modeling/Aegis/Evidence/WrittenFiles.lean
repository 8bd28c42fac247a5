/-
# Evidence.WrittenFiles — what the writer leaves below the root

Every write of the writer is a write of the tree at the normalized path of the
artifact (`atomicWrite_ok`). A stage is the writes of its artifacts in their order,
with one entry and one path for each (`writeArtifacts_ok`).
-/
import Aegis.Evidence.Verified

namespace Aegis.Evidence

open Aegis.Lib
open Aegis.Lib.Guarded

set_option autoImplicit false

section Paths

variable {F : Type} {host : Host F}

theorem forwardSlashes_idem (path : String) :
    forwardSlashes (forwardSlashes path) = forwardSlashes path := by
  unfold forwardSlashes
  rw [String.toList_ofList, List.map_map]
  congr 1
  apply List.map_congr_left
  intro c _
  by_cases back : c = backslash
  · have slash : ¬ '/' = backslash := by decide
    simp [back, slash]
  · simp [back]

theorem normalizeRelativePath_ok {path normalized : String}
    (done : normalizeRelativePath host (.str path) = .ok normalized) :
    normalized = forwardSlashes path := by
  unfold normalizeRelativePath at done
  simp only at done
  split at done
  · cases done
  split at done
  · cases done
  simp only [bind_eq_ok, pure_eq_ok] at done
  obtain ⟨_, _, rfl⟩ := done
  rfl

theorem targetOf_ok {path target : String} (normal : forwardSlashes path = path)
    (done : targetOf host path = .ok target) : target = path := by
  unfold targetOf at done
  split at done
  · rw [mapError_eq_ok] at done
    exact (normalizeRelativePath_ok done).trans normal
  · exact (Except.ok.inj done).symm

/-- No file stands at a directory on the way. -/
theorem openParents_ok {root : FileTree String} {above components : List String}
    (done : openParents host root above components = .ok ()) {parent : List String}
    (prefix_ : parent <+: components.map host.normcase) (proper : parent ≠ [])
    (content : ByteArray) : root (above ++ parent) ≠ .file content := by
  induction components generalizing above parent with
  | nil => exact absurd (List.prefix_nil.mp prefix_) proper
  | cons component rest ih =>
      simp only [openParents, bind_eq_ok, require_eq_ok] at done
      obtain ⟨_, -, _, kind, later⟩ := done
      obtain ⟨first, others, rfl⟩ := List.exists_cons_of_ne_nil proper
      obtain ⟨rfl, further⟩ := List.cons_prefix_cons.mp prefix_
      by_cases last : others = []
      · subst last
        intro file
        rw [file] at kind
        cases kind
      · have deeper := ih later further last
        rwa [List.append_assoc] at deeper

theorem prefix_dropLast {parent names : List String} (prefix_ : parent <+: names)
    (proper : parent ≠ names) : parent <+: names.dropLast := by
  have short : parent.length ≤ names.dropLast.length := by
    have le := prefix_.length_le
    have ne : parent.length ≠ names.length := fun same => proper (prefix_.eq_of_length same)
    rw [List.length_dropLast]
    omega
  exact List.prefix_of_prefix_length_le prefix_ names.dropLast_prefix short

/-- A write that succeeds is a write of the tree. -/
theorem atomicWrite_ok {root after : FileTree String} {path : String} {content : ByteArray}
    (normal : forwardSlashes path = path)
    (done : atomicWrite host root path content = .ok after) :
    root.Open (host.key path) ∧ after = root.write (host.key path) content := by
  simp only [atomicWrite, bind_eq_ok, pure_eq_ok, require_eq_ok, refuse_eq_ok] at done
  obtain ⟨target, targeted, _, top, _, opened, _, -, _, -, _, -, rfl⟩ := done
  obtain rfl := targetOf_ok normal targeted
  refine ⟨?_, rfl⟩
  intro parent prefix_ proper held file
  have above : parent <+: ((segments target).dropLast).map host.normcase := by
    unfold Host.key at prefix_ proper
    rw [List.map_dropLast]
    exact prefix_dropLast prefix_ proper
  by_cases start : parent = []
  · subst start
    rw [file] at top
    simp at top
  · exact openParents_ok opened above start held file

theorem openParents_noNul {root : FileTree String} {above components : List String}
    (done : openParents host root above components = .ok ()) :
    ∀ component ∈ components, '\x00' ∉ component.toList := by
  induction components generalizing above with
  | nil => exact fun _ member => absurd member List.not_mem_nil
  | cons component rest ih =>
      simp only [openParents, bind_eq_ok, refuse_eq_ok] at done
      obtain ⟨_, free, _, -, later⟩ := done
      exact List.forall_mem_cons.mpr ⟨free, ih later⟩

/-- No name on a written path holds a zero character. -/
theorem atomicWrite_noNul {root after : FileTree String} {path : String} {content : ByteArray}
    (normal : forwardSlashes path = path)
    (done : atomicWrite host root path content = .ok after) :
    ¬ ∃ part ∈ segments path, '\x00' ∈ part.toList := by
  simp only [atomicWrite, createTemp, bind_eq_ok, refuse_eq_ok] at done
  obtain ⟨target, targeted, _, -, _, opened, _, ⟨_, free, -⟩, -⟩ := done
  obtain rfl := targetOf_ok normal targeted
  rintro ⟨part, member, nul⟩
  by_cases empty : segments target = []
  · rw [empty] at member
    cases member
  · rw [← List.dropLast_append_getLast empty] at member
    rcases List.mem_append.mp member with directory | leaf
    · exact openParents_noNul opened part directory nul
    · have last : (segments target).getLastD "" = (segments target).getLast empty := by
        rw [List.getLastD_eq_getLast?, List.getLast?_eq_some_getLast empty, Option.getD_some]
      rw [List.mem_singleton.mp leaf, ← last] at nul
      exact free nul

end Paths

/-! ## Stages -/

/-- An artifact that a stage wrote: its entry and its path. -/
structure Placement {F : Type} (host : Host F) where
  artifact : EvidenceArtifact
  entry : ManifestEntry
  path : String
  valid : validateArtifactPath host (.str artifact.relativePath) = .ok path
  noNul : ¬ ∃ part ∈ segments path, '\x00' ∈ part.toList
  listed : entry.path = artifact.relativePath
  size : entry.bytes = artifact.content.size
  digest : entry.sha256 = host.sha256Hex artifact.content
  notCircular : ¬ Contains artifact.content (host.sha256Hex artifact.content)

namespace Placement

variable {F : Type} {host : Host F}

/-- The write of the artifact. -/
def write (placement : Placement host) : List String × ByteArray :=
  (host.key placement.path, placement.artifact.content)

theorem path_eq (placement : Placement host) :
    placement.path = forwardSlashes placement.artifact.relativePath :=
  normalizeRelativePath_ok (validateArtifactPath_eq_ok.mp placement.valid).1

/-- No artifact is written over a document. -/
theorem not_reserved (placement : Placement host) {name : String}
    (reserved : name ∈ reservedArtifactNames false) : host.key placement.path ≠ host.key name :=
  fun same => (validateArtifactPath_eq_ok.mp placement.valid).2
    (List.mem_map.mpr ⟨name, reserved, same.symm⟩)

end Placement

section Stages

variable {F : Type} {host : Host F} {now : Moment → String}

theorem manifestEntry_ok {created : String} {artifact : EvidenceArtifact} {entry : ManifestEntry}
    (done : manifestEntry host created artifact = .ok entry) :
    entry.path = artifact.relativePath ∧ entry.bytes = artifact.content.size ∧
      entry.sha256 = host.sha256Hex artifact.content := by
  simp only [manifestEntry, bind_eq_ok, pure_eq_ok] at done
  obtain ⟨_, -, rfl⟩ := done
  exact ⟨rfl, rfl, rfl⟩

theorem writeArtifact_ok {stage later : Stage} {artifact : EvidenceArtifact}
    (done : writeArtifact host now stage artifact = .ok later) :
    ∃ placement : Placement host, placement.artifact = artifact ∧
      placement.path ∉ stage.seen ∧ stage.root.Open (host.key placement.path) ∧
      later = ⟨stage.root.write (host.key placement.path) artifact.content,
        stage.entries ++ [placement.entry], stage.seen ++ [placement.path]⟩ := by
  simp only [writeArtifact, bind_eq_ok, pure_eq_ok, refuse_eq_ok, checkNoSelfHash_eq_ok] at done
  obtain ⟨path, valid, _, new, entry, made, _, free, root, written, rfl⟩ := done
  obtain ⟨listed, size, digest⟩ := manifestEntry_ok made
  have normal : forwardSlashes path = path := by
    rw [normalizeRelativePath_ok (validateArtifactPath_eq_ok.mp valid).1, forwardSlashes_idem]
  obtain ⟨open_, rfl⟩ := atomicWrite_ok normal written
  exact ⟨⟨artifact, entry, path, valid, atomicWrite_noNul normal written, listed, size, digest,
    digest ▸ free⟩, rfl, new, open_, rfl⟩

/-- **A stage is the writes of its artifacts.** -/
theorem writeArtifacts_ok {stage later : Stage} {artifacts : List EvidenceArtifact}
    (done : writeArtifacts host now stage artifacts = .ok later) (distinct : stage.seen.Nodup) :
    ∃ placements : List (Placement host), placements.map Placement.artifact = artifacts ∧
      FileTree.Wrote stage.root (placements.map Placement.write) later.root ∧
      later.entries = stage.entries ++ placements.map Placement.entry ∧
      (stage.seen ++ placements.map Placement.path).Nodup := by
  induction artifacts generalizing stage with
  | nil =>
      obtain rfl := pure_eq_ok.mp done
      exact ⟨[], rfl, .nil _, (List.append_nil _).symm, by simpa using distinct⟩
  | cons artifact artifacts ih =>
      simp only [writeArtifacts, List.foldlM_cons, bind_eq_ok] at done
      obtain ⟨next, first, rest⟩ := done
      obtain ⟨placement, rfl, new, open_, rfl⟩ := writeArtifact_ok first
      have more : (stage.seen ++ [placement.path]).Nodup := by
        refine List.nodup_append.mpr ⟨distinct, List.nodup_singleton _, ?_⟩
        rintro path member _ single rfl
        exact new (List.mem_singleton.mp single ▸ member)
      obtain ⟨placements, rfl, wrote, entries, nodup⟩ := ih rest more
      refine ⟨placement :: placements, rfl, .cons open_ wrote, ?_, ?_⟩
      · rw [entries, List.append_assoc]
        rfl
      · rwa [List.append_assoc] at nodup

end Stages

end Aegis.Evidence
