/-
# Lib.FileTree — what the paths below a directory lead to

A path is the list of its names, a tree tells where each path leads. `write` puts
a file at a path and directories on the way to it. A write to a path that leads
through no file keeps every other file (`write_kept`). `Wrote` is a sequence of such
writes: of a file that was written at all, the last content is found
(`Wrote.found`).
-/
import Mathlib.Data.List.Infix

namespace Aegis.Lib

set_option autoImplicit false

universe u

/-- Where a path leads; a link may lead out of the tree, to content or to nothing. -/
inductive Place
  | missing
  | outside (content : Option ByteArray)
  | directory
  | file (content : ByteArray)

namespace Place

def exists_ : Place → Bool
  | .missing => false
  | .outside none => false
  | _ => true

/-- A directory is there or can be made. -/
def canBeDirectory : Place → Bool
  | .missing => true
  | .directory => true
  | _ => false

/-- What a reader who follows links reads. -/
def content : Place → Option ByteArray
  | .outside content => content
  | .file content => some content
  | _ => none

end Place

/-- What every path leads to. -/
def FileTree (Name : Type u) : Type u := List Name → Place

namespace FileTree

variable {Name : Type u}

/-- A tree without files. -/
def empty : FileTree Name
  | [] => .directory
  | _ :: _ => .missing

/-- A file at `path`, and directories on the way to it. -/
def write [DecidableEq Name] (tree : FileTree Name) (path : List Name) (content : ByteArray) :
    FileTree Name := fun asked =>
  if asked = path then .file content
  else if asked <+: path then .directory
  else tree asked

/-- A file can be put at the path: no file stands on the way to it. -/
def Open (tree : FileTree Name) (path : List Name) : Prop :=
  ∀ parent, parent <+: path → parent ≠ path → ∀ content, tree parent ≠ .file content

variable [DecidableEq Name]

@[simp] theorem write_same (tree : FileTree Name) (path : List Name) (content : ByteArray) :
    tree.write path content path = .file content := by
  unfold write
  rw [if_pos rfl]

/-- A file elsewhere is kept. -/
theorem write_kept {tree : FileTree Name} {path : List Name} (open_ : tree.Open path)
    (content : ByteArray) {asked : List Name} (other : asked ≠ path) {held : ByteArray}
    (found : tree asked = .file held) : tree.write path content asked = .file held := by
  unfold write
  rw [if_neg other]
  by_cases above : asked <+: path
  · exact absurd found (open_ asked above other held)
  · rw [if_neg above, found]

/-- The writes lead from one tree to the other, none of them through a file. -/
inductive Wrote : FileTree Name → List (List Name × ByteArray) → FileTree Name → Prop
  | nil (tree : FileTree Name) : Wrote tree [] tree
  | cons {tree after : FileTree Name} {path : List Name} {content : ByteArray}
      {writes : List (List Name × ByteArray)} (open_ : tree.Open path)
      (rest : Wrote (tree.write path content) writes after) :
      Wrote tree ((path, content) :: writes) after

namespace Wrote

variable {tree middle after : FileTree Name} {writes later : List (List Name × ByteArray)}

theorem single {path : List Name} (open_ : tree.Open path) (content : ByteArray) :
    Wrote tree [(path, content)] (tree.write path content) :=
  .cons open_ (.nil _)

theorem append (first : Wrote tree writes middle) (second : Wrote middle later after) :
    Wrote tree (writes ++ later) after := by
  induction first with
  | nil => exact second
  | cons open_ _ ih => exact .cons open_ (ih second)

/-- A file that no write replaces is kept. -/
theorem kept (wrote : Wrote tree writes after) {asked : List Name} {held : ByteArray}
    (found : tree asked = .file held) (other : ∀ write ∈ writes, write.1 ≠ asked) :
    after asked = .file held := by
  induction wrote with
  | nil => exact found
  | cons open_ _ ih =>
      obtain ⟨first, rest⟩ := List.forall_mem_cons.mp other
      exact ih (write_kept open_ _ (Ne.symm first) found) rest

/-- Where something was written, the content of one of the writes is found. -/
theorem found (wrote : Wrote tree writes after) {asked : List Name}
    (written : ∃ write ∈ writes, write.1 = asked) :
    ∃ write ∈ writes, write.1 = asked ∧ after asked = .file write.2 := by
  induction wrote with
  | nil =>
      obtain ⟨_, member, -⟩ := written
      cases member
  | @cons tree after path content writes open_ rest ih =>
      by_cases again : ∃ write ∈ writes, write.1 = asked
      · obtain ⟨write, member, same, at_⟩ := ih again
        exact ⟨write, List.mem_cons_of_mem _ member, same, at_⟩
      · have last : ∀ write ∈ writes, write.1 ≠ asked := fun write member same =>
          again ⟨write, member, same⟩
        obtain ⟨write, member, same⟩ := written
        rcases List.mem_cons.mp member with rfl | later
        · subst same
          exact ⟨_, List.mem_cons_self .., rfl, rest.kept (write_same ..) last⟩
        · exact absurd same (last write later)

end Wrote

end FileTree

end Aegis.Lib
