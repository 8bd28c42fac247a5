/-
# Materialize.RuntimeSurface — which files of a skill an agent may see

`classifySkillFile` gives every file of a skill package one classification from its path inside
the package: the rules for control-plane material come first (`controlPlaneRule`), then the
entry point and the runtime directories, and everything else is left to a review.
-/
import Aegis.Evidence.Artifacts

namespace Aegis.Materialize

open Aegis.Lib
open Aegis.Lib.Guarded
open Aegis.Evidence (Host forwardSlashes segments)

set_option autoImplicit false

/-- What the materializer and its verifier raise. -/
inductive MaterializationFault
  | materializationError (text : String)
  | pathEscapeError (text : String)
  | reparsePointError (text : String)
  | roleMismatchError (text : String)
  | partialSurfaceViolationError (text : String)
  | controlPlaneLeakageError (text : String)
  | classificationError (text : String)
  | osError
  | valueError
  deriving DecidableEq, Repr

inductive RuntimeClassification
  | runtimeRequired
  | controlPlaneOnly
  | ambiguousNeedsOwnerReview
  deriving DecidableEq, Repr

/-- `_RUNTIME_DIRS`. -/
def runtimeDirs : List String := ["references", "assets", "scripts"]

/-- `_CONTROL_PLANE_FILENAMES`. -/
def controlPlaneFilenames : List String := ["evals.json", "trigger-evals.json"]

/-- `_CONTROL_PLANE_NAME_FRAGMENTS`. -/
def controlPlaneNameFragments : List String :=
  ["expected-answer", "expected_answers", "answer-bank", "answer_bank", "rubric",
    "case-manifest", "case_manifest", "selection-manifest", "selection_manifest",
    "result-expectation", "result_expectations", "grading-key", "grading_key"]

/-- `_RUNTIME_SUFFIXES`. -/
def runtimeSuffixes : List String :=
  [".md", ".txt", ".json", ".yaml", ".yml", ".csv", ".py", ".ps1", ".sh", ".sql", ".html",
    ".css", ".js", ".ts", ".svg", ".png", ".template"]

structure ClassifiedFile where
  relativePath : String
  classification : RuntimeClassification
  rule : String
  deriving DecidableEq, Repr

/-- The lower case of a character, as far as it has ASCII letters: the Kelvin sign and the dotted
capital I have one too. -/
def lowerChar (c : Char) : List Char :=
  if c = '\u212a' then ['k'] else if c = '\u0130' then ['i', '\u0307'] else [c.toLower]

/-- `part.lower()`. -/
def lower (part : String) : String := String.ofList (part.toList.flatMap lowerChar)

/-- The parts of a path that are not empty. -/
def pathParts (relativePath : String) : List String :=
  (segments (forwardSlashes relativePath)).filter (· ≠ "")

/-- The first fragment that a segment contains. -/
def segmentFragment (segment : String) : Option String :=
  controlPlaneNameFragments.find? fun fragment => fragment.toList <:+: segment.toList

/-- The rule by which a path is control-plane material, from its parts in lower case. -/
def controlPlaneRule (lowerParts : List String) : Option String :=
  if "evals" ∈ lowerParts.dropLast then some "evals-directory-content"
  else if lowerParts.getLastD "" ∈ controlPlaneFilenames then some "eval-file-name"
  else (lowerParts.findSome? segmentFragment).map ("control-plane-path-fragment:" ++ ·)

section Host

variable {F : Type} (host : Host F)

/-- `_normalize`. -/
def normalize (relativePath : String) : Except MaterializationFault (List String) := do
  refuse (relativePath = "")
    (.classificationError s!"invalid path: {host.repr (.str relativePath)}")
  let parts := pathParts relativePath
  refuse (parts = []) (.classificationError s!"empty path: {host.repr (.str relativePath)}")
  refuse (∃ part ∈ parts, part = "." ∨ part = "..")
    (.classificationError s!"path traversal segment in {host.repr (.str relativePath)}")
  pure parts

/-- `classify_skill_file`. -/
def classifySkillFile (relativePath : String) : Except MaterializationFault ClassifiedFile := do
  let parts ← normalize host relativePath
  let lowerParts := parts.map lower
  match controlPlaneRule lowerParts with
  | some rule => pure ⟨relativePath, .controlPlaneOnly, rule⟩
  | none => pure (outsideControlPlane parts lowerParts)
where
  /-- Rules 4 and 5, and what no rule recognizes. -/
  outsideControlPlane (parts lowerParts : List String) : ClassifiedFile :=
    if parts = ["SKILL.md"] then ⟨relativePath, .runtimeRequired, "skill-entry-point"⟩
    else if lowerParts.headD "" ∈ runtimeDirs ∧ 2 ≤ parts.length then
      if ∃ suffix_ ∈ runtimeSuffixes, suffix_.toList <:+ (lowerParts.getLastD "").toList then
        ⟨relativePath, .runtimeRequired, "runtime-directory:" ++ lowerParts.headD ""⟩
      else
        ⟨relativePath, .ambiguousNeedsOwnerReview, "unrecognized-shape-in-runtime-directory"⟩
    else ⟨relativePath, .ambiguousNeedsOwnerReview, "unrecognized-supporting-file"⟩

end Host

/-! ## The rules over a path in two parts -/

/-- The rules that look at directories: an `evals` directory, or a fragment in any name. -/
def controlPlaneDirectory (parts : List String) : Prop :=
  ∃ part ∈ parts, lower part = "evals" ∨ (segmentFragment (lower part)).isSome = true

instance (parts : List String) : Decidable (controlPlaneDirectory parts) :=
  inferInstanceAs (Decidable (∃ part ∈ parts, _))

/-- A path is control-plane material by the rules. -/
def ControlPlane (relativePath : String) : Prop :=
  (controlPlaneRule ((pathParts relativePath).map lower)).isSome = true

instance (relativePath : String) : Decidable (ControlPlane relativePath) :=
  inferInstanceAs (Decidable (_ = true))

theorem controlPlaneRule_isSome (lowerParts : List String) :
    (controlPlaneRule lowerParts).isSome = true ↔
      "evals" ∈ lowerParts.dropLast ∨ lowerParts.getLastD "" ∈ controlPlaneFilenames ∨
        ∃ part ∈ lowerParts, (segmentFragment part).isSome = true := by
  unfold controlPlaneRule
  split
  · rename_i evals
    exact ⟨fun _ => .inl evals, fun _ => rfl⟩
  · rename_i evals
    split
    · rename_i name
      exact ⟨fun _ => .inr (.inl name), fun _ => rfl⟩
    · rename_i name
      rw [Option.isSome_map, List.isSome_findSome?, List.any_eq_true]
      constructor
      · exact fun found => .inr (.inr found)
      · rintro (known | known | found)
        · exact absurd known evals
        · exact absurd known name
        · exact found

/-- The rules below a directory: they apply to the directory, or to what is below it. -/
theorem controlPlaneRule_append (above : List String) {below : List String} (nonempty : below ≠ []) :
    (controlPlaneRule ((above ++ below).map lower)).isSome = true ↔
      controlPlaneDirectory above ∨ (controlPlaneRule (below.map lower)).isSome = true := by
  have mapped : below.map lower ≠ [] := fun none => nonempty (List.map_eq_nil_iff.mp none)
  have last : (above.map lower ++ below.map lower).getLastD "" = (below.map lower).getLastD "" := by
    rw [List.getLastD_eq_getLast?, List.getLastD_eq_getLast?, List.getLast?_append]
    cases found : (below.map lower).getLast? with
    | none => exact absurd (List.getLast?_eq_none_iff.mp found) mapped
    | some _ => rfl
  rw [controlPlaneRule_isSome, controlPlaneRule_isSome, List.map_append,
    List.dropLast_append_of_ne_nil mapped, last]
  unfold controlPlaneDirectory
  simp only [List.mem_append, List.mem_map]
  constructor
  · rintro ((⟨part, member, evals⟩ | evals) | name | ⟨_, ⟨part, member, rfl⟩ | below, found⟩)
    · exact .inl ⟨part, member, .inl evals⟩
    · exact .inr (.inl evals)
    · exact .inr (.inr (.inl name))
    · exact .inl ⟨part, member, .inr found⟩
    · exact .inr (.inr (.inr ⟨_, below, found⟩))
  · rintro (⟨part, member, evals | found⟩ | evals | name | ⟨_, below, found⟩)
    · exact .inl (.inl ⟨part, member, evals⟩)
    · exact .inr (.inr ⟨_, .inl ⟨part, member, rfl⟩, found⟩)
    · exact .inl (.inr evals)
    · exact .inr (.inl name)
    · exact .inr (.inr ⟨_, .inr below, found⟩)

/-- The parts of two paths that are joined. -/
theorem pathParts_join (above below : String) :
    pathParts (above ++ "/" ++ below) = pathParts above ++ pathParts below := by
  have chars : (forwardSlashes (above ++ "/" ++ below)).toList =
      (forwardSlashes above).toList ++ '/' :: (forwardSlashes below).toList := by
    simp [forwardSlashes, backslash]
  unfold pathParts segments
  rw [chars, List.splitOn_append_cons_self, List.map_append, List.filter_append]

/-- A joined path is control-plane material when its directory or the path below is. -/
theorem controlPlane_join (above : String) {below : String} (nonempty : pathParts below ≠ []) :
    ControlPlane (above ++ "/" ++ below) ↔
      controlPlaneDirectory (pathParts above) ∨ ControlPlane below := by
  unfold ControlPlane
  rw [pathParts_join, controlPlaneRule_append _ nonempty]

section Classification

variable {F : Type} {host : Host F}

theorem normalize_eq_ok {relativePath : String} {parts : List String} :
    normalize host relativePath = .ok parts ↔
      relativePath ≠ "" ∧ pathParts relativePath ≠ [] ∧
        (∀ part ∈ pathParts relativePath, part ≠ "." ∧ part ≠ "..") ∧
        pathParts relativePath = parts := by
  unfold normalize
  simp only [bind_eq_ok, refuse_eq_ok, pure_eq_ok, not_exists, not_and, not_or]
  constructor
  · rintro ⟨_, present, _, nonempty, _, plain, rfl⟩
    exact ⟨present, nonempty, plain, rfl⟩
  · rintro ⟨present, nonempty, plain, rfl⟩
    exact ⟨(), present, (), nonempty, (), plain, rfl⟩

/-- A file is classified as control-plane material exactly by the rules. -/
theorem classifySkillFile_controlPlane {relativePath : String} {classified : ClassifiedFile}
    (known : classifySkillFile host relativePath = .ok classified) :
    classified.classification = .controlPlaneOnly ↔ ControlPlane relativePath := by
  unfold classifySkillFile at known
  rw [bind_eq_ok] at known
  obtain ⟨parts, normal, known⟩ := known
  obtain ⟨-, -, -, rfl⟩ := normalize_eq_ok.mp normal
  unfold ControlPlane
  cases rule : controlPlaneRule ((pathParts relativePath).map lower) with
  | some rule =>
      simp only [rule, pure_eq_ok] at known
      subst known
      exact ⟨fun _ => rfl, fun _ => rfl⟩
  | none =>
      simp only [rule, pure_eq_ok] at known
      subst known
      unfold classifySkillFile.outsideControlPlane
      split
      · simp
      · split
        · split <;> simp
        · simp

theorem pathParts_of_classified {relativePath : String} {classified : ClassifiedFile}
    (known : classifySkillFile host relativePath = .ok classified) : pathParts relativePath ≠ [] := by
  unfold classifySkillFile at known
  rw [bind_eq_ok] at known
  obtain ⟨parts, normal, -⟩ := known
  exact (normalize_eq_ok.mp normal).2.1

end Classification

end Aegis.Materialize
