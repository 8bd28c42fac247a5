/-
# Lib.Disk — a file tree that can be walked

A `Disk` is a file tree of which finitely many places are not empty. `write` and
`makeDirectory` fill it, `placesBelow` lists what a walk below a directory reaches. `Holds`
says which files a disk without links holds, and what is written keeps it.
-/
import Aegis.Lib.FileTree
import Mathlib.Data.List.Dedup

namespace Aegis.Lib

set_option autoImplicit false

universe u

structure Disk (Name : Type u) where
  tree : FileTree Name
  /-- The places that may not be empty. -/
  known : List (List Name)
  covers : ∀ path, tree path ≠ .missing → path ∈ known

namespace Disk

variable {Name : Type u}

/-- An empty directory. -/
def empty : Disk Name where
  tree := .empty
  known := [[]]
  covers := by
    intro path there
    cases path with
    | nil => exact List.mem_singleton_self _
    | cons first rest => exact absurd rfl there

variable [DecidableEq Name]

def write (disk : Disk Name) (path : List Name) (content : ByteArray) : Disk Name where
  tree := disk.tree.write path content
  known := path.inits ++ disk.known
  covers := by
    intro asked there
    rw [List.mem_append, List.mem_inits]
    by_cases above : asked <+: path
    · exact .inl above
    · have other : asked ≠ path := fun same => above (same ▸ List.prefix_rfl)
      unfold FileTree.write at there
      rw [if_neg other, if_neg above] at there
      exact .inr (disk.covers asked there)

/-- A directory at `path`, and on the way to it. -/
def makeDirectory (disk : Disk Name) (path : List Name) : Disk Name where
  tree asked := if asked <+: path then .directory else disk.tree asked
  known := path.inits ++ disk.known
  covers := by
    intro asked there
    rw [List.mem_append, List.mem_inits]
    by_cases above : asked <+: path
    · exact .inl above
    · rw [if_neg above] at there
      exact .inr (disk.covers asked there)

theorem makeDirectory_tree (disk : Disk Name) (path asked : List Name) :
    (disk.makeDirectory path).tree asked =
      if asked <+: path then .directory else disk.tree asked := rfl

/-- A walk that starts at `area` comes to `area ++ rest`: there are directories up to there. -/
def Reached (tree : FileTree Name) (area rest : List Name) : Prop :=
  ∀ above ∈ rest.inits, above ≠ rest → tree (area ++ above) matches .directory

instance (tree : FileTree Name) (area rest : List Name) : Decidable (Reached tree area rest) :=
  inferInstanceAs (Decidable (∀ above ∈ rest.inits, _))

/-- What a walk below `area` reaches, by the path from there. -/
def placesBelow (disk : Disk Name) (area : List Name) : List (List Name) :=
  ((disk.known.filter (area <+: ·)).map (·.drop area.length)).dedup.filter fun rest =>
    rest ≠ [] ∧ Reached disk.tree area rest

theorem mem_placesBelow {disk : Disk Name} {area rest : List Name} :
    rest ∈ disk.placesBelow area ↔
      area ++ rest ∈ disk.known ∧ rest ≠ [] ∧ Reached disk.tree area rest := by
  have listed : rest ∈ (disk.known.filter (area <+: ·)).map (·.drop area.length) ↔
      area ++ rest ∈ disk.known := by
    rw [List.mem_map]
    constructor
    · rintro ⟨path, member, rfl⟩
      obtain ⟨known, inside⟩ := List.mem_filter.mp member
      obtain ⟨rest, rfl⟩ := of_decide_eq_true inside
      simpa using known
    · intro known
      refine ⟨area ++ rest, List.mem_filter.mpr ⟨known, ?_⟩, by simp⟩
      exact decide_eq_true (List.prefix_append area rest)
  unfold placesBelow
  rw [List.mem_filter, List.mem_dedup, listed, decide_eq_true_iff]

/-- The disk holds exactly these files, in directories and without links. -/
structure Holds (disk : Disk Name) (files : List (List Name × ByteArray)) : Prop where
  root : disk.tree [] = .directory
  file : ∀ path content, disk.tree path = .file content ↔ (path, content) ∈ files
  plain : ∀ path content, disk.tree path ≠ .outside content
  parents : ∀ path, disk.tree path ≠ .missing → ∀ above, above <+: path → above ≠ path →
    disk.tree above = .directory

/-- Nothing is at the path, and directories can be made up to there. -/
structure Free (disk : Disk Name) (path : List Name) : Prop where
  missing : disk.tree path = .missing
  parents : ∀ above, above <+: path → above ≠ path → (disk.tree above).canBeDirectory = true

omit [DecidableEq Name] in
theorem holds_empty : (empty : Disk Name).Holds [] where
  root := rfl
  file path content := by
    cases path <;> simp [empty, FileTree.empty]
  plain path content := by
    cases path <;> simp [empty, FileTree.empty]
  parents path there above isAbove other := by
    cases path with
    | nil => exact absurd (List.prefix_nil.mp isAbove) other
    | cons first rest => exact absurd rfl there

namespace Holds

variable {disk : Disk Name} {files : List (List Name × ByteArray)}

omit [DecidableEq Name] in
/-- The files come in no order. -/
theorem perm (holds : disk.Holds files) {others : List (List Name × ByteArray)}
    (same : files.Perm others) : disk.Holds others :=
  { holds with file := fun path content => (holds.file path content).trans same.mem_iff }

/-- A file that is written to a free place is held with the others. -/
theorem write (holds : disk.Holds files) {path : List Name} (free : disk.Free path)
    (content : ByteArray) : (disk.write path content).Holds ((path, content) :: files) where
  root := by
    show disk.tree.write path content [] = _
    unfold FileTree.write
    by_cases top : [] = path
    · subst top
      have root := free.missing
      rw [holds.root] at root
      cases root
    · rw [if_neg top, if_pos (List.nil_prefix)]
  file := by
    intro asked held
    show disk.tree.write path content asked = _ ↔ _
    unfold FileTree.write
    rw [List.mem_cons, Prod.mk.injEq]
    by_cases same : asked = path
    · subst same
      rw [if_pos rfl]
      constructor
      · intro found
        injection found with found
        exact .inl ⟨rfl, found.symm⟩
      · rintro (⟨-, rfl⟩ | earlier)
        · rfl
        · have found := (holds.file asked held).mpr earlier
          rw [free.missing] at found
          cases found
    · rw [if_neg same]
      by_cases above : asked <+: path
      · rw [if_pos above]
        constructor
        · intro found
          cases found
        · rintro (⟨known, -⟩ | earlier)
          · exact absurd known same
          · have found := (holds.file asked held).mpr earlier
            have place := free.parents asked above same
            rw [found] at place
            cases place
      · rw [if_neg above, holds.file]
        constructor
        · exact .inr
        · rintro (⟨known, -⟩ | earlier)
          · exact absurd known same
          · exact earlier
  plain := by
    intro asked held
    show disk.tree.write path content asked ≠ _
    unfold FileTree.write
    split
    · exact fun found => by cases found
    · split
      · exact fun found => by cases found
      · exact holds.plain asked held
  parents := by
    intro asked there above isAbove other
    show disk.tree.write path content above = _
    change disk.tree.write path content asked ≠ _ at there
    unfold FileTree.write at there ⊢
    by_cases inside : asked <+: path
    · have below : above <+: path := isAbove.trans inside
      have proper : above ≠ path := by
        rintro rfl
        exact other (isAbove.eq_of_length (le_antisymm isAbove.length_le inside.length_le))
      rw [if_neg proper, if_pos below]
    · have outside : asked ≠ path := fun same => inside (same ▸ List.prefix_rfl)
      rw [if_neg outside, if_neg inside] at there
      have place := holds.parents asked there above isAbove other
      have proper : above ≠ path := by
        rintro rfl
        rw [free.missing] at place
        cases place
      rw [if_neg proper, place]
      split <;> rfl

/-- A directory at a place where none stands in the way. -/
theorem makeDirectory (holds : disk.Holds files) {path : List Name}
    (can : ∀ above, above <+: path → (disk.tree above).canBeDirectory = true) :
    (disk.makeDirectory path).Holds files where
  root := by
    rw [makeDirectory_tree, if_pos List.nil_prefix]
  file := by
    intro asked held
    rw [makeDirectory_tree]
    by_cases above : asked <+: path
    · rw [if_pos above]
      constructor
      · intro found
        cases found
      · intro earlier
        have place := can asked above
        rw [(holds.file asked held).mpr earlier] at place
        cases place
    · rw [if_neg above, holds.file]
  plain := by
    intro asked held
    rw [makeDirectory_tree]
    split
    · exact fun found => by cases found
    · exact holds.plain asked held
  parents := by
    intro asked there above isAbove other
    rw [makeDirectory_tree] at there ⊢
    by_cases inside : asked <+: path
    · rw [if_pos (isAbove.trans inside)]
    · rw [if_neg inside] at there
      rw [holds.parents asked there above isAbove other]
      split <;> rfl

/-- What a walk below an area comes to. -/
theorem mem_placesBelow (holds : disk.Holds files) {area rest : List Name} :
    rest ∈ disk.placesBelow area ∧ (∃ content, disk.tree (area ++ rest) = .file content) ↔
      rest ≠ [] ∧ ∃ content, (area ++ rest, content) ∈ files := by
  rw [Disk.mem_placesBelow]
  constructor
  · rintro ⟨⟨-, nonempty, -⟩, content, found⟩
    exact ⟨nonempty, content, (holds.file _ _).mp found⟩
  · rintro ⟨nonempty, content, member⟩
    have found := (holds.file _ _).mpr member
    have there : disk.tree (area ++ rest) ≠ .missing := by
      rw [found]
      exact fun none => by cases none
    refine ⟨⟨disk.covers _ there, nonempty, ?_⟩, content, found⟩
    intro above member other
    have isAbove : area ++ above <+: area ++ rest :=
      (List.prefix_append_right_inj area).mpr (List.mem_inits _ _ |>.mp member)
    have place := holds.parents _ there (area ++ above) isAbove
      (fun same => other (List.append_cancel_left same))
    rw [place]

end Holds

end Disk

end Aegis.Lib
