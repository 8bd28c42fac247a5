/-
# DeliveryControl.AdoptionGraph — the dependencies of adopted effects

A run adopts the effect of another run: one that executed it, or one that adopted it. The adoption
transaction of `storage.py` writes a row of `adoption_dependencies` for the run it adopts from and
for every run that one depends on, so that the table holds the transitive dependencies
(`dependencies_iff`).
-/
import Aegis.DeliveryControl.StoreWrites
import Aegis.Lib.Runs

namespace Aegis.DeliveryControl

open Aegis.Lib
open Aegis.Lib.Guarded
open Aegis.Lib.Runs

set_option autoImplicit false

/-- An adoption: the run that adopts, and the run whose execution or adoption it adopts. -/
structure AdoptionEdge where
  repositoryId : String
  runId : String
  immediateRunId : String
  kind : OriginKind
  deriving DecidableEq, Repr

/-- What the adoption transactions read and write: the runs of `operation_origins`, the adoptions
and the dependencies. -/
structure AdoptionGraph where
  origins : List String
  edges : List AdoptionEdge
  dependencies : Table AdoptionDependency

namespace AdoptionGraph

def initial : AdoptionGraph := ⟨[], [], .empty⟩

end AdoptionGraph

/-- The row holds that `dependent` depends on `ancestor`. -/
def AdoptionDependency.Links (row : AdoptionDependency) (repositoryId ancestor dependent : String) :
    Prop :=
  row.repositoryId = repositoryId ∧ row.ancestorRunId = ancestor ∧ row.dependentRunId = dependent

instance (row : AdoptionDependency) (repositoryId ancestor dependent : String) :
    Decidable (row.Links repositoryId ancestor dependent) :=
  inferInstanceAs (Decidable (_ ∧ _))

namespace AdoptionEdge

variable (edge : AdoptionEdge)

/-- `dependencies`: the ancestors and their depths. No two rows of a dependent have one ancestor,
and none has the dependent as its ancestor, so the dictionary keeps every entry. -/
def ancestors (dependencies : Table AdoptionDependency) : List (String × Nat) :=
  (edge.immediateRunId, 1) ::
    if edge.kind = .effectAdoption then
      (dependencies.rows.filter fun row => row.repositoryId = edge.repositoryId &&
        row.dependentRunId = edge.immediateRunId).map fun row => (row.ancestorRunId, row.depth + 1)
    else []

/-- One row of the `executemany`. -/
def insertDependency (dependencies : Table AdoptionDependency) (ancestor : String × Nat) :
    Except ControlError (Table AdoptionDependency) :=
  if distinct : ancestor.1 ≠ edge.runId then
    dependencies.insert ⟨edge.repositoryId, ancestor.1, edge.runId, ancestor.2, distinct⟩
      (uniqueError "adoption_dependencies")
  else .error (.integrityError "CHECK constraint failed: adoption_dependencies")

/-- `INSERT INTO adoption_dependencies`, by depth. -/
def recordDependencies (dependencies : Table AdoptionDependency) :
    Except ControlError (Table AdoptionDependency) :=
  ((edge.ancestors dependencies).mergeSort fun left right => left.2 ≤ right.2).foldlM
    edge.insertDependency dependencies

end AdoptionEdge

/-- The transactions that write the graph. `commit_intent` records the origin of a run; an adoption
needs the origin of the run it adopts from. -/
inductive AdoptionAct
  | commitIntent (runId : String)
  | adopt (edge : AdoptionEdge)
  deriving DecidableEq, Repr

def AdoptionGraph.act (graph : AdoptionGraph) : AdoptionAct → Except ControlError AdoptionGraph
  | .commitIntent runId => .ok { graph with origins := runId :: graph.origins }
  | .adopt edge => do
      require (edge.immediateRunId ∈ graph.origins)
        (.dispatchDenied "adoption root intent is unavailable")
      refuse (edge.runId ∈ graph.origins) (uniqueError "operation_origins")
      let dependencies ← edge.recordDependencies graph.dependencies
      pure ⟨edge.runId :: graph.origins, edge :: graph.edges, dependencies⟩

/-- A graph that transactions wrote. -/
def AdoptionGraph.Reached (graph : AdoptionGraph) : Prop :=
  ∃ acts, Run (fun before act after => AdoptionGraph.act before act = .ok after) .initial acts graph

/-- The run depends on the effect of its ancestor: it adopted from it, or it adopted an adoption of a
run that depends on it. -/
inductive DependsOn (edges : List AdoptionEdge) (repositoryId ancestor : String) : String → Prop
  | direct {edge : AdoptionEdge} : edge ∈ edges → edge.repositoryId = repositoryId →
      edge.immediateRunId = ancestor → DependsOn edges repositoryId ancestor edge.runId
  | through {edge : AdoptionEdge} : edge ∈ edges → edge.repositoryId = repositoryId →
      edge.kind = .effectAdoption → DependsOn edges repositoryId ancestor edge.immediateRunId →
      DependsOn edges repositoryId ancestor edge.runId

/-! ## The table holds the transitive dependencies -/

theorem AdoptionEdge.mem_ancestors {edge : AdoptionEdge} {dependencies : Table AdoptionDependency}
    {ancestor : String} :
    ancestor ∈ (edge.ancestors dependencies).map Prod.fst ↔
      ancestor = edge.immediateRunId ∨ edge.kind = .effectAdoption ∧
        ∃ row ∈ dependencies, row.Links edge.repositoryId ancestor edge.immediateRunId := by
  unfold AdoptionEdge.ancestors AdoptionDependency.Links
  rw [List.map_cons, List.mem_cons]
  refine or_congr_right ?_
  split
  · rename_i adopted
    simp only [adopted, true_and, List.map_map, List.mem_map, List.mem_filter, Function.comp,
      Bool.and_eq_true, decide_eq_true_eq, Table.mem_rows]
    constructor
    · rintro ⟨row, ⟨member, repository, dependent⟩, rfl⟩
      exact ⟨row, member, repository, rfl, dependent⟩
    · rintro ⟨row, member, repository, rfl, dependent⟩
      exact ⟨row, ⟨member, repository, dependent⟩, rfl⟩
  · rename_i executed
    simp [executed]

/-- The rows that inserting ancestors adds. -/
theorem AdoptionEdge.mem_insertDependencies {edge : AdoptionEdge} {ancestors : List (String × Nat)}
    {dependencies next : Table AdoptionDependency}
    (inserted : ancestors.foldlM edge.insertDependency dependencies = .ok next)
    (repositoryId ancestor dependent : String) :
    (∃ row ∈ next, row.Links repositoryId ancestor dependent) ↔
      (∃ row ∈ dependencies, row.Links repositoryId ancestor dependent) ∨
        repositoryId = edge.repositoryId ∧ dependent = edge.runId ∧
          ancestor ∈ ancestors.map Prod.fst := by
  induction ancestors generalizing dependencies with
  | nil =>
      obtain rfl := pure_eq_ok.mp inserted
      simp
  | cons first rest ih =>
      obtain ⟨middle, here, later⟩ := bind_eq_ok.mp (List.foldlM_cons.symm.trans inserted)
      unfold AdoptionEdge.insertDependency at here
      split at here
      · have added : (∃ row ∈ middle, row.Links repositoryId ancestor dependent) ↔
            (∃ row ∈ dependencies, row.Links repositoryId ancestor dependent) ∨
              repositoryId = edge.repositoryId ∧ dependent = edge.runId ∧ ancestor = first.1 := by
          constructor
          · rintro ⟨row, member, links⟩
            rcases (Table.mem_of_insert here row).mp member with stored | rfl
            · exact .inl ⟨row, stored, links⟩
            · exact .inr ⟨links.1.symm, links.2.2.symm, links.2.1.symm⟩
          · rintro (⟨row, member, links⟩ | ⟨rfl, rfl, rfl⟩)
            · exact ⟨row, (Table.mem_of_insert here row).mpr (.inl member), links⟩
            · exact ⟨_, (Table.mem_of_insert here _).mpr (.inr rfl), rfl, rfl, rfl⟩
        rw [ih later, added, List.map_cons, List.mem_cons, or_assoc, ← and_or_left, ← and_or_left]
      · cases here

namespace AdoptionGraph

/-- What every transaction keeps. -/
structure Tabled (graph : AdoptionGraph) : Prop where
  origins : ∀ edge ∈ graph.edges, edge.runId ∈ graph.origins ∧ edge.immediateRunId ∈ graph.origins
  rows : ∀ repositoryId ancestor dependent,
    (∃ row ∈ graph.dependencies, row.Links repositoryId ancestor dependent) ↔
      DependsOn graph.edges repositoryId ancestor dependent

theorem dependsOn_nil {repositoryId ancestor dependent : String} :
    ¬ DependsOn [] repositoryId ancestor dependent := by
  intro depends
  cases depends with
  | direct member => cases member
  | through member => cases member

theorem dependsOn_mono {edges more : List AdoptionEdge} {repositoryId ancestor dependent : String}
    (subset : edges ⊆ more) (depends : DependsOn edges repositoryId ancestor dependent) :
    DependsOn more repositoryId ancestor dependent := by
  induction depends with
  | direct member repository immediate => exact .direct (subset member) repository immediate
  | through member repository adopted _ ih =>
      exact .through (subset member) repository adopted ih

/-- The dependencies that an adoption by a run without an origin adds. -/
theorem dependsOn_cons {graph : AdoptionGraph} (tabled : graph.Tabled) {edge : AdoptionEdge}
    (immediate : edge.immediateRunId ∈ graph.origins) (fresh : edge.runId ∉ graph.origins)
    (repositoryId ancestor dependent : String) :
    DependsOn (edge :: graph.edges) repositoryId ancestor dependent ↔
      DependsOn graph.edges repositoryId ancestor dependent ∨
        repositoryId = edge.repositoryId ∧ dependent = edge.runId ∧
          (ancestor = edge.immediateRunId ∨ edge.kind = .effectAdoption ∧
            DependsOn graph.edges repositoryId ancestor edge.immediateRunId) := by
  constructor
  · intro depends
    induction depends with
    | @direct found member repository isAncestor =>
        rcases List.mem_cons.mp member with rfl | old
        · exact .inr ⟨repository.symm, rfl, .inl isAncestor.symm⟩
        · exact .inl (.direct old repository isAncestor)
    | @through found member repository adopted _ ih =>
        have origin : found.immediateRunId ∈ graph.origins := by
          rcases List.mem_cons.mp member with rfl | old
          · exact immediate
          · exact (tabled.origins found old).2
        rcases ih with earlier | ⟨-, same, -⟩
        · rcases List.mem_cons.mp member with rfl | old
          · exact .inr ⟨repository.symm, rfl, .inr ⟨adopted, earlier⟩⟩
          · exact .inl (.through old repository adopted earlier)
        · rw [same] at origin
          exact absurd origin fresh
  · have grows : graph.edges ⊆ edge :: graph.edges := List.subset_cons_self _ _
    rintro (earlier | ⟨rfl, rfl, rfl | ⟨adopted, earlier⟩⟩)
    · exact dependsOn_mono grows earlier
    · exact .direct List.mem_cons_self rfl rfl
    · exact .through List.mem_cons_self rfl adopted (dependsOn_mono grows earlier)

/-- One transaction keeps the table. -/
theorem Tabled.act {graph next : AdoptionGraph} {act : AdoptionAct} (tabled : graph.Tabled)
    (acted : graph.act act = .ok next) : next.Tabled := by
  cases act with
  | commitIntent runId =>
      obtain rfl := Except.ok.inj acted
      refine ⟨fun found member => ?_, tabled.rows⟩
      obtain ⟨own, immediate⟩ := tabled.origins found member
      exact ⟨List.mem_cons_of_mem _ own, List.mem_cons_of_mem _ immediate⟩
  | adopt edge =>
      simp only [AdoptionGraph.act, bind_eq_ok, require_eq_ok, refuse_eq_ok, pure_eq_ok] at acted
      obtain ⟨_, immediate, _, fresh, dependencies, recorded, rfl⟩ := acted
      constructor
      · intro found member
        rcases List.mem_cons.mp member with rfl | old
        · exact ⟨List.mem_cons_self, List.mem_cons_of_mem _ immediate⟩
        · obtain ⟨own, origin⟩ := tabled.origins found old
          exact ⟨List.mem_cons_of_mem _ own, List.mem_cons_of_mem _ origin⟩
      · intro repositoryId ancestor dependent
        have keys : ∀ key, key ∈ ((edge.ancestors graph.dependencies).mergeSort
              fun left right => left.2 ≤ right.2).map Prod.fst ↔
            key ∈ (edge.ancestors graph.dependencies).map Prod.fst := by
          intro key
          simp only [List.mem_map, List.mem_mergeSort]
        rw [dependsOn_cons tabled immediate fresh,
          AdoptionEdge.mem_insertDependencies recorded, keys, AdoptionEdge.mem_ancestors,
          tabled.rows]
        refine or_congr_right (and_congr_right fun same => ?_)
        rw [same, tabled.rows]

/-- **The table of a written graph holds the transitive dependencies.** -/
theorem dependencies_iff {graph : AdoptionGraph} (reached : graph.Reached)
    (repositoryId ancestor dependent : String) :
    (∃ row ∈ graph.dependencies, row.Links repositoryId ancestor dependent) ↔
      DependsOn graph.edges repositoryId ancestor dependent := by
  obtain ⟨acts, run⟩ := reached
  have start : Tabled .initial := by
    refine ⟨fun _ member => absurd member List.not_mem_nil, fun repositoryId ancestor dependent => ?_⟩
    refine iff_of_false ?_ dependsOn_nil
    rintro ⟨row, member, -⟩
    exact Table.not_mem_empty member
  have tabled : graph.Tabled :=
    run.invariant (I := Tabled) (fun _ _ _ held acted => held.act acted) start
  exact tabled.rows repositoryId ancestor dependent

end AdoptionGraph

end Aegis.DeliveryControl
