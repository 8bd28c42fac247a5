/-
# Materialize.Routed — the surfaces of a request, path by path

`routed` reads a successful routing back: every surface is the files of the snapshot that
`destinationOf` sends there. The paths of the runtime surface fall into three kinds
(`RuntimePath`): files of a selected skill, included subagents, and startup files or landmarks.
-/
import Aegis.Materialize.Routing
import Mathlib.Data.List.Dedup

namespace Aegis.Materialize

open Aegis.Lib
open Aegis.Lib.Guarded
open Aegis.Evidence (Host)

set_option autoImplicit false

/-! ## Paths -/

theorem below_eq_some {area path rest : String} :
    below area path = some rest ↔ path = area ++ rest := by
  unfold below
  constructor
  · intro found
    split at found
    · rename_i inside
      obtain ⟨chars, split⟩ := inside
      have rest_eq := Option.some.inj found
      rw [← split, List.drop_left] at rest_eq
      apply String.toList_inj.mp
      rw [String.toList_append, ← rest_eq, String.toList_ofList, split]
    · cases found
  · rintro rfl
    have inside : area.toList <+: (area ++ rest).toList := by
      rw [String.toList_append]
      exact List.prefix_append _ _
    rw [if_pos inside, String.toList_append, List.drop_left, String.ofList_toList]

/-- A text is what stands before its first slash, or has a part behind it. -/
theorem partition_eq {text : String} (behind : (partition text).2 ≠ "") :
    text = (partition text).1 ++ "/" ++ (partition text).2 := by
  apply String.toList_inj.mp
  unfold partition at behind ⊢
  cases tail : text.toList.dropWhile (· ≠ '/') with
  | nil =>
      rw [tail] at behind
      exact absurd rfl behind
  | cons first rest =>
      have slash : first = '/' := by
        have head := List.head_dropWhile_not (fun c : Char => decide (c ≠ '/'))
          (l := text.toList) (by rw [tail]; exact List.cons_ne_nil _ _)
        simp only [tail, List.head_cons] at head
        simpa using head
      subst slash
      have whole := List.takeWhile_append_dropWhile (p := fun c : Char => decide (c ≠ '/'))
        (l := text.toList)
      rw [tail] at whole
      refine whole.symm.trans ?_
      simp

theorem partition_join {skill inner : String} (plain : '/' ∉ skill.toList) :
    partition (skill ++ "/" ++ inner) = (skill, inner) := by
  have all : ∀ c ∈ skill.toList, decide (c ≠ '/') = true := by
    intro c member
    exact decide_eq_true fun same => plain (same ▸ member)
  have chars : (skill ++ "/" ++ inner).toList = skill.toList ++ '/' :: inner.toList := by simp
  unfold partition
  rw [chars, List.takeWhile_append_of_pos all, List.dropWhile_append_of_pos all]
  simp

theorem not_mem_partition (text : String) : '/' ∉ (partition text).1.toList := by
  intro member
  unfold partition at member
  rw [String.toList_ofList] at member
  have kept := List.mem_takeWhile_imp member
  simp at kept

/-- The path of an entry point. -/
def entryPath (skill : String) : String := skillsPrefix ++ (skill ++ "/" ++ "SKILL.md")

theorem entrySkill_eq_some {path skill : String} :
    entrySkill path = some skill ↔ path = entryPath skill ∧ '/' ∉ skill.toList := by
  unfold entrySkill
  rw [Option.bind_eq_some_iff]
  constructor
  · rintro ⟨remainder, found, entry⟩
    split at entry
    · rename_i inner
      obtain rfl := Option.some.inj entry
      refine ⟨?_, not_mem_partition _⟩
      have behind : (partition remainder).2 ≠ "" := by
        rw [inner]
        decide
      rw [below_eq_some.mp found, entryPath, ← inner, ← partition_eq behind]
    · cases entry
  · rintro ⟨rfl, plain⟩
    refine ⟨skill ++ "/" ++ "SKILL.md", below_eq_some.mpr rfl, ?_⟩
    rw [partition_join plain, if_pos rfl]

theorem mem_discoverShippedSkills {files : Files} {skill : String} :
    skill ∈ discoverShippedSkills files ↔
      skill ≠ "" ∧ skill ≠ templateSkill ∧ '/' ∉ skill.toList ∧
        ∃ content, (entryPath skill, content) ∈ files.entries := by
  unfold discoverShippedSkills shippedSkill
  rw [mem_sortBy, List.mem_dedup, List.mem_filterMap]
  simp only [Option.filter_eq_some_iff, Bool.and_eq_true, decide_eq_true_eq, Prod.exists,
    entrySkill_eq_some]
  constructor
  · rintro ⟨path, content, member, ⟨rfl, plain⟩, present, ordinary⟩
    exact ⟨present, ordinary, plain, content, member⟩
  · rintro ⟨present, ordinary, plain, content, member⟩
    exact ⟨_, content, member, ⟨rfl, plain⟩, present, ordinary⟩

/-! ## The routing of a snapshot -/

def Destination.isRuntime : Destination → Bool
  | .runtime _ => true
  | _ => false

section Routing

variable {F : Type} {host : Host F} {request : MaterializationRequest} {selected : List String}

/-- A path that is sent to a destination. -/
def Sent (host : Host F) (request : MaterializationRequest) (selected : List String)
    (kind : Destination → Bool) (path : String) : Bool :=
  match destinationOf host request selected path with
  | .ok destination => kind destination
  | .error _ => false

theorem sent_iff {kind : Destination → Bool} {path : String} :
    Sent host request selected kind path = true ↔
      ∃ destination, destinationOf host request selected path = .ok destination ∧
        kind destination = true := by
  unfold Sent
  cases destinationOf host request selected path <;> simp

/-- The subagent that a path brings in. -/
def subagentOf (host : Host F) (request : MaterializationRequest) (selected : List String)
    (path : String) : Option String :=
  match destinationOf host request selected path with
  | .ok (.runtime subagent) => subagent
  | _ => none

/-- The surfaces that the loop adds to. -/
structure Adds (host : Host F) (request : MaterializationRequest) (selected : List String)
    (files : List (String × ByteArray)) (start surfaces : Surfaces) : Prop where
  known : ∀ file ∈ files, ∃ destination,
    destinationOf host request selected file.1 = .ok destination
  controlPlane : surfaces.controlPlane = start.controlPlane ++
    files.filter fun file => Sent host request selected (· = .controlPlane) file.1
  runtimeSurface : surfaces.runtimeSurface = start.runtimeSurface ++
    files.filter fun file => Sent host request selected Destination.isRuntime file.1
  ambiguousExcluded : surfaces.ambiguousExcluded = start.ambiguousExcluded ++
    (files.filter fun file =>
      Sent host request selected (· = .ambiguousExcluded) file.1).map Prod.fst
  subagentNames : ∀ name, name ∈ surfaces.subagentNames ↔
    name ∈ start.subagentNames ∨
      ∃ file ∈ files, subagentOf host request selected file.1 = some name
  distinct : start.subagentNames.Nodup → surfaces.subagentNames.Nodup

theorem routeFiles_ok {files : List (String × ByteArray)} {start surfaces : Surfaces}
    (done : files.foldlM (routeFile host request selected) start = .ok surfaces) :
    Adds host request selected files start surfaces := by
  induction files generalizing start with
  | nil =>
      obtain rfl := Except.ok.inj done
      exact ⟨by simp, by simp, by simp, by simp, by simp, fun nodup => nodup⟩
  | cons file rest ih =>
      rw [List.foldlM_cons, bind_eq_ok] at done
      obtain ⟨middle, first, later⟩ := done
      simp only [routeFile, bind_eq_ok, pure_eq_ok] at first
      obtain ⟨destination, sent, rfl⟩ := first
      have adds := ih later
      have kinds : ∀ kind : Destination → Bool,
          Sent host request selected kind file.1 = kind destination := by
        intro kind
        unfold Sent
        rw [sent]
      have brought : ∀ name, subagentOf host request selected file.1 = some name ↔
          destination = .runtime (some name) := by
        intro name
        unfold subagentOf
        rw [sent]
        cases destination <;> simp
      refine ⟨List.forall_mem_cons.mpr ⟨⟨_, sent⟩, adds.known⟩, ?_, ?_, ?_, ?_, ?_⟩
      · rw [adds.controlPlane, List.filter_cons, kinds]
        rcases destination with _ | (_ | _) | _ | _ <;> simp [Surfaces.add]
      · rw [adds.runtimeSurface, List.filter_cons, kinds]
        rcases destination with _ | (_ | _) | _ | _ <;>
          simp [Surfaces.add, Destination.isRuntime]
      · rw [adds.ambiguousExcluded, List.filter_cons, kinds]
        rcases destination with _ | (_ | _) | _ | _ <;> simp [Surfaces.add]
      · intro name
        rw [adds.subagentNames, List.exists_mem_cons_iff, brought]
        rcases destination with _ | (_ | held) | _ | _ <;>
          simp [Surfaces.add, List.mem_insert_iff, eq_comm, or_assoc, or_left_comm]
      · intro nodup
        apply adds.distinct
        rcases destination with _ | (_ | held) | _ | _ <;>
          simp [Surfaces.add, nodup, List.Nodup.insert]

/-- The skills that a request materializes. -/
def Selected (request : MaterializationRequest) (skill : String) : Prop :=
  if request.profile = .consumerPartialInstall then skill ∈ request.partialSkillSubset
  else skill ∈ discoverShippedSkills request.snapshot.files

/-- What a successful routing has checked. -/
structure Routed (host : Host F) (request : MaterializationRequest) (shipped : List String)
    (surfaces : Surfaces) (selected : List String) : Prop where
  shipped_eq : shipped = discoverShippedSkills request.snapshot.files
  selects : ∀ skill, skill ∈ selected ↔ Selected request skill
  subset : selected ⊆ shipped
  adds : Adds host request selected request.snapshot.files.entries {} surfaces
  leakage : checkLeakage host surfaces = .ok ()
  fullLibrary : checkFullLibrary host request shipped
    (skillsWithEntryPoint (surfaces.runtimeSurface.map Prod.fst)) = .ok ()

theorem routed {shipped : List String} {surfaces : Surfaces}
    (done : route host request = .ok (shipped, surfaces)) :
    ∃ selected, Routed host request shipped surfaces selected := by
  unfold route at done
  simp only [bind_eq_ok, refuse_eq_ok, pure_eq_ok] at done
  obtain ⟨_, -, selected, chosen, found, run, _, -, _, leakage, _, full, same⟩ := done
  obtain ⟨rfl, rfl⟩ := Prod.mk.inj same
  refine ⟨selected, rfl, ?_, ?_, routeFiles_ok run, leakage, full⟩
  · intro skill
    unfold selectSkills at chosen
    unfold Selected
    split at chosen
    · rename_i isPartial
      simp only [bind_eq_ok, require_eq_ok, pure_eq_ok] at chosen
      obtain ⟨_, -, rfl⟩ := chosen
      rw [if_pos isPartial, mem_sortBy, List.mem_dedup]
    · rename_i notPartial
      obtain rfl := Except.ok.inj chosen
      rw [if_neg notPartial]
  · unfold selectSkills at chosen
    split at chosen
    · simp only [bind_eq_ok, require_eq_ok, pure_eq_ok] at chosen
      obtain ⟨_, none, rfl⟩ := chosen
      intro skill member
      by_contra unknown
      have listed : skill ∈ (sortBy id request.partialSkillSubset.dedup).filter
          (· ∉ discoverShippedSkills request.snapshot.files) :=
        List.mem_filter.mpr ⟨member, decide_eq_true unknown⟩
      rw [none] at listed
      cases listed
    · obtain rfl := Except.ok.inj chosen
      exact fun _ member => member

/-- A subagent that the request takes. -/
def Included (request : MaterializationRequest) (name : String) : Prop :=
  request.profile.includesSubagents = true ∧
    (request.requiredSubagents = [] ∨ removeMd name ∈ request.requiredSubagents)

instance (request : MaterializationRequest) (name : String) : Decidable (Included request name) :=
  inferInstanceAs (Decidable (_ ∧ _))

theorem agentDestination_eq (name : String) : agentDestination request name =
    if Included request name then .runtime (some (removeMd name)) else .left := by
  unfold agentDestination Included
  by_cases carries : request.profile.includesSubagents = true
  · by_cases all : request.requiredSubagents = []
    · simp [carries, all]
    · by_cases known : removeMd name ∈ request.requiredSubagents <;> simp [carries, all, known]
  · simp [carries]

/-- A file of the package of a selected skill that the package needs at run time. -/
structure SkillFile (host : Host F) (selects : String → Prop) (path skill inner : String) :
    Prop where
  path_eq : path = skillsPrefix ++ (skill ++ "/" ++ inner)
  single : '/' ∉ skill.toList
  ordinary : skill ≠ templateSkill
  selected : selects skill
  runtime : ∃ classified, classifySkillFile host inner = .ok classified ∧
    classified.classification = .runtimeRequired

/-- The paths of a runtime surface. -/
inductive RuntimePath (host : Host F) (request : MaterializationRequest)
    (selects : String → Prop) (path : String) : Option String → Prop
  | skill {skill inner : String} (file : SkillFile host selects path skill inner) :
      RuntimePath host request selects path none
  | subagent {name : String} (path_eq : path = agentsPrefix ++ name)
      (included : Included request name) :
      RuntimePath host request selects path (some (removeMd name))
  | listed (listed : (path ∈ startupFiles ∧ request.profile.includesStartup = true) ∨
        (path ∈ sourceLandmarks ∧ request.profile = .sourceLibrary)) :
      RuntimePath host request selects path none

theorem not_both (left right : String) : skillsPrefix ++ left ≠ agentsPrefix ++ right := by
  intro same
  have chars := congrArg (fun text : String => text.toList.take 9) same
  simp [skillsPrefix, agentsPrefix] at chars

theorem listed_apart {path : String} (listed : path ∈ startupFiles ∨ path ∈ sourceLandmarks) :
    below skillsPrefix path = none ∧ below agentsPrefix path = none := by
  have all : ∀ path ∈ startupFiles ++ sourceLandmarks,
      below skillsPrefix path = none ∧ below agentsPrefix path = none := by decide +kernel
  exact all path (List.mem_append.mpr listed)

theorem startup_not_landmark : ∀ path ∈ sourceLandmarks, path ∉ startupFiles := by decide

/-- **A path is sent to the runtime surface in three ways.** -/
theorem destination_runtime {path : String} {subagent : Option String} :
    destinationOf host request selected path = .ok (.runtime subagent) ↔
      RuntimePath host request (· ∈ selected) path subagent := by
  constructor
  · intro sent
    unfold destinationOf at sent
    cases skills : below skillsPrefix path with
    | some remainder =>
        rw [skills] at sent
        simp only [skillDestination] at sent
        split at sent
        · cases sent
        · rename_i behind
          rw [bind_eq_ok] at sent
          obtain ⟨classified, known, sent⟩ := sent
          split at sent
          · cases sent
          split at sent
          · cases sent
          rename_i ordinary
          split at sent
          · rename_i runtime
            obtain rfl : (none : Option String) = subagent := by
              injection sent with sent
              injection sent
            have file : SkillFile host (· ∈ selected) path (partition remainder).1
                (partition remainder).2 := by
              refine ⟨?_, not_mem_partition _, ?_, ?_, classified, known, runtime⟩
              · rw [← partition_eq behind]
                exact below_eq_some.mp skills
              · exact fun same => ordinary (.inl same)
              · by_contra other
                exact ordinary (.inr other)
            exact .skill file
          · cases sent
    | none =>
        rw [skills] at sent
        cases agents : below agentsPrefix path with
        | some name =>
            rw [agents] at sent
            simp only [agentDestination_eq] at sent
            split at sent
            · rename_i included
              obtain rfl : some (removeMd name) = subagent := by
                injection sent with sent
                injection sent
              exact .subagent (below_eq_some.mp agents) included
            · cases sent
        | none =>
            rw [agents] at sent
            simp only at sent
            split at sent
            · rename_i startup
              split at sent
              · rename_i includes
                obtain rfl : (none : Option String) = subagent := by
                  injection sent with sent
                  injection sent
                exact .listed (.inl ⟨startup, includes⟩)
              · cases sent
            · split at sent
              · rename_i landmark
                split at sent
                · rename_i library
                  obtain rfl : (none : Option String) = subagent := by
                    injection sent with sent
                    injection sent
                  exact .listed (.inr ⟨landmark, library⟩)
                · cases sent
              · cases sent
  · intro kind
    unfold destinationOf
    cases kind with
    | @skill skill inner file =>
        obtain ⟨classified, known, runtime⟩ := file.runtime
        have behind : inner ≠ "" := by
          rintro rfl
          exact pathParts_of_classified known (by decide)
        rw [below_eq_some.mpr file.path_eq]
        simp only [skillDestination, partition_join file.single, if_neg behind]
        rw [known]
        have ordinary : ¬ (skill = templateSkill ∨ skill ∉ selected) := by
          rintro (same | other)
          · exact file.ordinary same
          · exact other file.selected
        have notControl : classified.classification ≠ .controlPlaneOnly := by
          rw [runtime]
          decide
        show (if _ then _ else _ : Except MaterializationFault Destination) = _
        rw [if_neg notControl, if_neg ordinary, if_pos runtime]
        rfl
    | @subagent name path_eq included =>
        have skills : below skillsPrefix path = none := by
          cases found : below skillsPrefix path with
          | none => rfl
          | some rest => exact absurd ((below_eq_some.mp found).symm.trans path_eq) (not_both _ _)
        rw [skills, below_eq_some.mpr path_eq]
        simp only [agentDestination_eq, if_pos included]
        rfl
    | listed listed =>
        have either : path ∈ startupFiles ∨ path ∈ sourceLandmarks := listed.imp And.left And.left
        obtain ⟨skills, agents⟩ := listed_apart either
        rw [skills, agents]
        simp only
        rcases listed with ⟨startup, includes⟩ | ⟨landmark, library⟩
        · rw [if_pos startup, if_pos includes]
          rfl
        · rw [if_neg (startup_not_landmark path landmark), if_pos landmark, if_pos library]
          rfl

/-- The files of the runtime surface. -/
theorem Routed.mem_runtimeSurface {shipped : List String} {surfaces : Surfaces}
    (routed : Routed host request shipped surfaces selected) {file : String × ByteArray} :
    file ∈ surfaces.runtimeSurface ↔ file ∈ request.snapshot.files.entries ∧
      ∃ subagent, RuntimePath host request (Selected request) file.1 subagent := by
  have selects : (· ∈ selected) = Selected request := by
    funext skill
    exact propext (routed.selects skill)
  rw [routed.adds.runtimeSurface, List.nil_append, List.mem_filter, sent_iff]
  constructor
  · rintro ⟨member, destination, sent, runtime⟩
    refine ⟨member, ?_⟩
    cases destination with
    | runtime subagent => exact ⟨subagent, selects ▸ destination_runtime.mp sent⟩
    | _ => cases runtime
  · rintro ⟨member, subagent, kind⟩
    exact ⟨member, _, destination_runtime.mpr (selects ▸ kind), rfl⟩

end Routing

end Aegis.Materialize
