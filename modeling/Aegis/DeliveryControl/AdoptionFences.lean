/-
# DeliveryControl.AdoptionFences — fencing the adoptions of a contradicted effect

`_fence_dependent_adoptions` with the columns that the store model leaves out: the writer epochs and
the fence rows of their own table. The dependent runs are read once, in the order of their depth, and
every one without a fence for the originating event gets an event, a fence and a state.

`fenceDependentAdoptions_exact`: on a sound state the call succeeds and fences exactly the runs that
depend on the source; a second call changes nothing. Revoked authority routes a dependent run as it
routes any run, so that only a contradicted effect always leads to reconciliation
(`authority_keeps_paused`).
-/
import Aegis.Budget.Conservation
import Aegis.DeliveryControl.AdoptionGraph

namespace Aegis.DeliveryControl

open Aegis.Lib
open Aegis.Lib.Guarded

set_option autoImplicit false

/-- The body of a `DEPENDENT_ADOPTION_FENCED` event. -/
structure AdoptionFenceBody where
  commandId : String
  correctionOwnerId : String
  dependentRunId : String
  eventId : String
  fenceId : String
  itemId : String
  lifecycleFrom : LifecycleState
  lifecycleTo : LifecycleState
  logicalEffectId : String
  originatingEventHash : String
  originatingEventId : String
  provenanceKind : ProvenanceKind
  previousEventHash : String
  repositoryId : String
  sequence : Nat
  sourceRunId : String
  writerEpoch : Nat
  deriving DecidableEq, Repr

/-- The columns of a row of `events`; `bodyJson` is the stored text. -/
structure StoredEventRow where
  eventId : String
  repositoryId : String
  runId : String
  itemId : String
  sequence : Nat
  commandId : String
  writerEpoch : Nat
  eventKind : String
  previousEventHash : String
  eventHash : String
  bodyJson : String
  deriving DecidableEq, Repr

instance : Constrained StoredEventRow where
  Conflict a b := a.eventId = b.eventId ∨ (a.runId = b.runId ∧ a.sequence = b.sequence) ∨
    a.eventHash = b.eventHash
  decidable _ _ := inferInstance
  symm _ _ := by simp only [eq_comm, imp_self]

/-- A row of `dispatch_fences`. -/
structure DispatchFenceRow where
  fenceId : String
  repositoryId : String
  itemId : Option String
  logicalEffectId : Option String
  reasonCode : String
  originatingEventId : String
  deriving DecidableEq, Repr

instance : Constrained DispatchFenceRow where
  Conflict a b := a.fenceId = b.fenceId
  decidable _ _ := inferInstance
  symm _ _ := Eq.symm

/-- A row of `dependent_adoption_fences`. -/
structure AdoptionFenceRow where
  fenceId : String
  repositoryId : String
  sourceRunId : String
  dependentRunId : String
  originatingEventId : String
  originatingEventHash : String
  correctionOwnerId : String
  bodyJson : String
  deriving DecidableEq, Repr

instance : Constrained AdoptionFenceRow where
  Conflict a b := a.fenceId = b.fenceId ∨ (a.repositoryId = b.repositoryId ∧
    a.sourceRunId = b.sourceRunId ∧ a.dependentRunId = b.dependentRunId ∧
    a.originatingEventId = b.originatingEventId)
  decidable _ _ := inferInstance
  symm _ _ := by simp only [eq_comm, imp_self]

/-- The tables that the function reads and writes. -/
structure FenceTables where
  dependencies : Table AdoptionDependency
  runs : Table RunRow
  events : Table StoredEventRow
  dispatchFences : Table DispatchFenceRow
  adoptionFences : Table AdoptionFenceRow

/-- `_event_hash` of the domain record of a fence and of an event body, and the stored text of a
body. -/
structure FenceDigests where
  fence : String → String → String → String → String
  event : AdoptionFenceBody → String
  bodyJson : AdoptionFenceBody → String

/-- The originating event and what the caller says about it. -/
structure FenceOrigin where
  repositoryId : String
  sourceRunId : String
  originatingEventId : String
  originatingEventHash : String
  writerEpochFloor : Nat
  correctionOwnerId : String
  provenanceKind : ProvenanceKind
  deriving DecidableEq, Repr

/-- The reason code of a dependent fence. -/
def ProvenanceKind.reasonCode : ProvenanceKind → String
  | .contraryReceipt => "DEPENDENT_ADOPTION_CONTRARY_RECEIPT"
  | .authority => "DEPENDENT_ADOPTION_AUTHORITY_DISPUTED"
  | .nonexecution => "DEPENDENT_ADOPTION_CONTRARY_NONEXECUTION"
  | .terminalPolicy => "DEPENDENT_ADOPTION_TERMINAL_POLICY"

namespace FenceTables

variable (digests : FenceDigests) (origin : FenceOrigin)

/-- `ORDER BY dependency.depth, dependency.dependent_run_id`. -/
def byDepth (left right : AdoptionDependency) : Bool :=
  left.depth < right.depth ||
    (left.depth = right.depth && left.dependentRunId ≤ right.dependentRunId)

def sourceRows (tables : FenceTables) (origin : FenceOrigin) : List AdoptionDependency :=
  tables.dependencies.rows.filter fun row => row.repositoryId = origin.repositoryId &&
    row.ancestorRunId = origin.sourceRunId

/-- `dependent_rows`: the dependencies joined with their runs. -/
def dependentRows (tables : FenceTables) : List RunRow :=
  ((tables.sourceRows origin).mergeSort byDepth).filterMap fun row =>
    tables.runs.find? fun run => run.runId = row.dependentRunId

def fenceDigest (dependentRunId : String) : String :=
  digests.fence origin.repositoryId origin.sourceRunId dependentRunId origin.originatingEventId

def fenceId (dependentRunId : String) : String :=
  "dependent-adoption:" ++ fenceDigest digests origin dependentRunId

def fenceEventId (dependentRunId : String) : String :=
  "dependent-adoption-event:" ++ fenceDigest digests origin dependentRunId

/-- The body of the event of a dependent run. -/
def fenceBody (offset : Nat) (dependent : RunRow) : AdoptionFenceBody where
  commandId := "dependent-adoption-command:" ++ fenceDigest digests origin dependent.runId
  correctionOwnerId := origin.correctionOwnerId
  dependentRunId := dependent.runId
  eventId := fenceEventId digests origin dependent.runId
  fenceId := fenceId digests origin dependent.runId
  itemId := dependent.itemId
  lifecycleFrom := dependent.lifecycleState
  lifecycleTo := dependentAdoptionState dependent.lifecycleState origin.provenanceKind
  logicalEffectId := dependent.logicalEffectId
  originatingEventHash := origin.originatingEventHash
  originatingEventId := origin.originatingEventId
  provenanceKind := origin.provenanceKind
  previousEventHash := dependent.headHash
  repositoryId := origin.repositoryId
  sequence := dependent.headSequence + 1
  sourceRunId := origin.sourceRunId
  writerEpoch := origin.writerEpochFloor + offset

variable {digests origin}

def eventRow (digests : FenceDigests) (body : AdoptionFenceBody) : StoredEventRow where
  eventId := body.eventId
  repositoryId := body.repositoryId
  runId := body.dependentRunId
  itemId := body.itemId
  sequence := body.sequence
  commandId := body.commandId
  writerEpoch := body.writerEpoch
  eventKind := "DEPENDENT_ADOPTION_FENCED"
  previousEventHash := body.previousEventHash
  eventHash := digests.event body
  bodyJson := digests.bodyJson body

def dispatchFence (body : AdoptionFenceBody) : DispatchFenceRow where
  fenceId := body.fenceId
  repositoryId := body.repositoryId
  itemId := some body.itemId
  logicalEffectId := some body.logicalEffectId
  reasonCode := body.provenanceKind.reasonCode
  originatingEventId := body.eventId

def adoptionFence (digests : FenceDigests) (body : AdoptionFenceBody) : AdoptionFenceRow where
  fenceId := body.fenceId
  repositoryId := body.repositoryId
  sourceRunId := body.sourceRunId
  dependentRunId := body.dependentRunId
  originatingEventId := body.originatingEventId
  originatingEventHash := body.originatingEventHash
  correctionOwnerId := body.correctionOwnerId
  bodyJson := digests.bodyJson body

/-- The columns of `runs` that the event rewrites. -/
def advance (digests : FenceDigests) (body : AdoptionFenceBody) (run : RunRow) : RunRow :=
  { run with
    lifecycleState := body.lifecycleTo
    headSequence := body.sequence
    headHash := digests.event body }

/-- The writes of one dependent run. -/
def writeFence (digests : FenceDigests) (body : AdoptionFenceBody) (tables : FenceTables) :
    Except ControlError FenceTables := do
  let events ← tables.events.insert (eventRow digests body) (uniqueError "events")
  let dispatchFences ← tables.dispatchFences.insert (dispatchFence body)
    (uniqueError "dispatch_fences")
  let adoptionFences ← tables.adoptionFences.insert (adoptionFence digests body)
    (uniqueError "dependent_adoption_fences")
  let runs := tables.runs.update (fun run => run.runId = body.dependentRunId)
    (advance digests body) fun _ _ => Iff.rfl
  pure { tables with events, dispatchFences, adoptionFences, runs }

variable (digests origin)

/-- The turns of the loop from an offset on. -/
def fenceRows (offset : Nat) : List RunRow → FenceTables → Option String →
    Except ControlError (Option String × FenceTables)
  | [], tables, last => .ok (last, tables)
  | dependent :: rest, tables, last =>
      if tables.adoptionFences.any fun row => row.fenceId = fenceId digests origin dependent.runId
      then fenceRows (offset + 1) rest tables last
      else do
        let body := fenceBody digests origin offset dependent
        let tables ← writeFence digests body tables
        fenceRows (offset + 1) rest tables (some (digests.event body))

/-- `_fence_dependent_adoptions`. -/
def fenceDependentAdoptions (tables : FenceTables) :
    Except ControlError (Option String × FenceTables) :=
  fenceRows digests origin 1 (tables.dependentRows origin) tables none

/-! ## Sound tables -/

variable {digests origin}

/-- The run depends on the source of the contradiction. -/
def Dependent (tables : FenceTables) (origin : FenceOrigin) (runId : String) : Prop :=
  ∃ row ∈ tables.dependencies, row.Links origin.repositoryId origin.sourceRunId runId

/-- The run has a fence for the originating event. -/
def Fenced (digests : FenceDigests) (origin : FenceOrigin) (tables : FenceTables) (runId : String) :
    Prop :=
  ∃ row ∈ tables.adoptionFences, row.fenceId = fenceId digests origin runId

end FenceTables

/-- The hashes of different fences and of different events differ. -/
structure FenceDigests.CollisionFree (digests : FenceDigests) : Prop where
  fence : ∀ {repositoryId sourceRunId dependentRunId eventId repositoryId' sourceRunId'
      dependentRunId' eventId'},
    digests.fence repositoryId sourceRunId dependentRunId eventId =
      digests.fence repositoryId' sourceRunId' dependentRunId' eventId' →
    repositoryId = repositoryId' ∧ sourceRunId = sourceRunId' ∧ dependentRunId = dependentRunId' ∧
      eventId = eventId'
  event : ∀ {body other}, digests.event body = digests.event other → body.eventId = other.eventId

/-- The row is the fence of a run for the originating event. -/
def AdoptionFenceRow.IsFor (row : AdoptionFenceRow) (origin : FenceOrigin) (runId : String) : Prop :=
  row.repositoryId = origin.repositoryId ∧ row.sourceRunId = origin.sourceRunId ∧
    row.dependentRunId = runId ∧ row.originatingEventId = origin.originatingEventId

namespace FenceTables

variable {digests : FenceDigests} {origin : FenceOrigin} {tables next : FenceTables}

/-- What the tables of a store satisfy: the references of the schema, heads that are the last
events of their runs, identifiers of fences and their events that this function gave them, and
hashes of events that no event of another identifier has. -/
structure Sound (digests : FenceDigests) (origin : FenceOrigin) (tables : FenceTables) : Prop where
  joined : ∀ row ∈ tables.dependencies, ∃ run ∈ tables.runs, run.runId = row.dependentRunId
  referenced : ∀ row ∈ tables.adoptionFences,
    ∃ fence ∈ tables.dispatchFences, fence.fenceId = row.fenceId
  sequences : ∀ event ∈ tables.events, ∀ run ∈ tables.runs, event.runId = run.runId →
    event.sequence ≤ run.headSequence
  fenceIds : ∀ row ∈ tables.adoptionFences, row.fenceId = "dependent-adoption:" ++
    digests.fence row.repositoryId row.sourceRunId row.dependentRunId row.originatingEventId
  dispatchIds : ∀ fence ∈ tables.dispatchFences, ∀ runId,
    fence.fenceId = fenceId digests origin runId → Fenced digests origin tables runId
  eventIds : ∀ event ∈ tables.events, ∀ runId,
    event.eventId = fenceEventId digests origin runId → Fenced digests origin tables runId
  hashes : ∀ event ∈ tables.events, ∀ body, digests.event body = event.eventHash →
    body.eventId = event.eventId

theorem append_left_cancel {front left right : String} (same : front ++ left = front ++ right) :
    left = right := by
  have chars := congrArg String.toList same
  rw [String.toList_append, String.toList_append] at chars
  exact String.toList_inj.mp (List.append_cancel_left chars)

theorem fenceId_injective (free : digests.CollisionFree) {left right : String}
    (same : fenceId digests origin left = fenceId digests origin right) : left = right :=
  (free.fence (append_left_cancel same)).2.2.1

theorem fenceEventId_injective (free : digests.CollisionFree) {left right : String}
    (same : fenceEventId digests origin left = fenceEventId digests origin right) : left = right :=
  (free.fence (append_left_cancel same)).2.2.1

/-- A fence with the identifier of a run is the fence for it. -/
theorem Sound.isFor (free : digests.CollisionFree) (sound : Sound digests origin tables)
    {row : AdoptionFenceRow} (member : row ∈ tables.adoptionFences) {runId : String} :
    row.fenceId = fenceId digests origin runId ↔ row.IsFor origin runId := by
  rw [sound.fenceIds row member]
  constructor
  · intro same
    exact free.fence (append_left_cancel same)
  · rintro ⟨repository, source, dependent, originating⟩
    rw [repository, source, dependent, originating]
    rfl

/-- What the writes of one dependent run add and change. -/
structure Written (digests : FenceDigests) (body : AdoptionFenceBody) (before after : FenceTables) :
    Prop where
  dependencies : after.dependencies = before.dependencies
  events : after.events.rows = before.events.rows ++ [eventRow digests body]
  dispatchFences : after.dispatchFences.rows = before.dispatchFences.rows ++ [dispatchFence body]
  adoptionFences : after.adoptionFences.rows =
    before.adoptionFences.rows ++ [adoptionFence digests body]
  runs : after.runs.rows = before.runs.rows.map fun run =>
    if run.runId = body.dependentRunId then advance digests body run else run

/-- The writes of a run without a fence succeed. -/
theorem Sound.writeFence_ok (free : digests.CollisionFree) (sound : Sound digests origin tables)
    {run : RunRow} (stored : run ∈ tables.runs)
    (unfenced : ¬ Fenced digests origin tables run.runId) (offset : Nat) :
    ∃ next, writeFence digests (fenceBody digests origin offset run) tables = .ok next ∧
      Written digests (fenceBody digests origin offset run) tables next := by
  have freshEvent : ∀ event ∈ tables.events,
      ¬ Conflict event (eventRow digests (fenceBody digests origin offset run)) := by
    rintro event member (sameId | ⟨sameRun, sameSequence⟩ | sameHash)
    · exact unfenced (sound.eventIds event member run.runId sameId)
    · have bound := sound.sequences event member run stored sameRun
      have next : event.sequence = run.headSequence + 1 := sameSequence
      omega
    · have sameId := sound.hashes event member _ sameHash.symm
      exact unfenced (sound.eventIds event member run.runId sameId.symm)
  have freshDispatch : ∀ fence ∈ tables.dispatchFences,
      ¬ Conflict fence (dispatchFence (fenceBody digests origin offset run)) :=
    fun fence member same => unfenced (sound.dispatchIds fence member run.runId same)
  have freshFence : ∀ row ∈ tables.adoptionFences,
      ¬ Conflict row (adoptionFence digests (fenceBody digests origin offset run)) := by
    rintro row member (sameId | sameKey)
    · exact unfenced ⟨row, member, sameId⟩
    · exact unfenced ⟨row, member, (sound.isFor free member).mpr sameKey⟩
  obtain ⟨events, eventsInserted, eventRows⟩ :=
    Table.exists_insert (uniqueError "events") freshEvent
  obtain ⟨dispatchFences, dispatchInserted, dispatchRows⟩ :=
    Table.exists_insert (uniqueError "dispatch_fences") freshDispatch
  obtain ⟨adoptionFences, fencesInserted, fenceRows⟩ :=
    Table.exists_insert (uniqueError "dependent_adoption_fences") freshFence
  let runs := tables.runs.update
    (fun other => other.runId = (fenceBody digests origin offset run).dependentRunId)
    (advance digests (fenceBody digests origin offset run)) fun _ _ => Iff.rfl
  refine ⟨{ tables with events, dispatchFences, adoptionFences, runs }, ?_,
    ⟨rfl, eventRows, dispatchRows, fenceRows, ?_⟩⟩
  · unfold writeFence
    rw [eventsInserted, dispatchInserted, fencesInserted]
    rfl
  · simp only [runs, Table.update, decide_eq_true_eq]

variable {body : AdoptionFenceBody} {offset : Nat}

/-- The runs after the writes. -/
theorem Written.mem_runs (written : Written digests body tables next) {run : RunRow} :
    run ∈ next.runs ↔ ∃ old ∈ tables.runs,
      (if old.runId = body.dependentRunId then advance digests body old else old) = run := by
  rw [← Table.mem_rows, written.runs, List.mem_map]
  rfl

theorem Written.mem_adoptionFences (written : Written digests body tables next)
    {row : AdoptionFenceRow} :
    row ∈ next.adoptionFences ↔ row ∈ tables.adoptionFences ∨ row = adoptionFence digests body := by
  rw [← Table.mem_rows, written.adoptionFences, List.mem_append, List.mem_singleton]
  rfl

theorem Written.mem_dispatchFences (written : Written digests body tables next)
    {fence : DispatchFenceRow} :
    fence ∈ next.dispatchFences ↔ fence ∈ tables.dispatchFences ∨ fence = dispatchFence body := by
  rw [← Table.mem_rows, written.dispatchFences, List.mem_append, List.mem_singleton]
  rfl

theorem Written.mem_events (written : Written digests body tables next) {event : StoredEventRow} :
    event ∈ next.events ↔ event ∈ tables.events ∨ event = eventRow digests body := by
  rw [← Table.mem_rows, written.events, List.mem_append, List.mem_singleton]
  rfl

/-- The fenced runs after the writes of one. -/
theorem Written.fenced (free : digests.CollisionFree) {run : RunRow}
    (written : Written digests (fenceBody digests origin offset run) tables next) {runId : String} :
    Fenced digests origin next runId ↔ Fenced digests origin tables runId ∨ runId = run.runId := by
  constructor
  · rintro ⟨row, member, same⟩
    rcases written.mem_adoptionFences.mp member with stored | rfl
    · exact .inl ⟨row, stored, same⟩
    · exact .inr (fenceId_injective free same).symm
  · rintro (⟨row, member, same⟩ | rfl)
    · exact ⟨row, written.mem_adoptionFences.mpr (.inl member), same⟩
    · exact ⟨_, written.mem_adoptionFences.mpr (.inr rfl), rfl⟩

/-- The writes keep the tables sound. -/
theorem Sound.written (free : digests.CollisionFree) (sound : Sound digests origin tables)
    {run : RunRow} (stored : run ∈ tables.runs)
    (written : Written digests (fenceBody digests origin offset run) tables next) :
    Sound digests origin next := by
  have runOf : ∀ old ∈ tables.runs, ∃ new ∈ next.runs, new.runId = old.runId := by
    intro old member
    refine ⟨_, written.mem_runs.mpr ⟨old, member, rfl⟩, ?_⟩
    split <;> rfl
  constructor
  · intro row member
    rw [written.dependencies] at member
    obtain ⟨old, oldStored, same⟩ := sound.joined row member
    obtain ⟨new, newStored, sameRun⟩ := runOf old oldStored
    exact ⟨new, newStored, sameRun.trans same⟩
  · intro row member
    rcases written.mem_adoptionFences.mp member with old | rfl
    · obtain ⟨fence, fenceStored, same⟩ := sound.referenced row old
      exact ⟨fence, written.mem_dispatchFences.mpr (.inl fenceStored), same⟩
    · exact ⟨_, written.mem_dispatchFences.mpr (.inr rfl), rfl⟩
  · intro event eventMember new newMember sameRun
    obtain ⟨old, oldMember, rfl⟩ := written.mem_runs.mp newMember
    rcases written.mem_events.mp eventMember with oldEvent | rfl
    · split at sameRun
      · rename_i isRun
        rw [if_pos isRun]
        have own : old = run := Table.eq_of_conflict oldMember stored isRun
        have bound := sound.sequences event oldEvent old oldMember sameRun
        rw [own] at bound
        exact Nat.le_succ_of_le bound
      · rename_i otherRun
        rw [if_neg otherRun]
        exact sound.sequences event oldEvent old oldMember sameRun
    · have isRun : old.runId = (fenceBody digests origin offset run).dependentRunId := by
        split at sameRun
        · exact sameRun.symm
        · exact sameRun.symm
      rw [if_pos isRun]
      exact Nat.le_refl _
  · intro row member
    rcases written.mem_adoptionFences.mp member with old | rfl
    · exact sound.fenceIds row old
    · rfl
  · intro fence member runId same
    rw [written.fenced free]
    rcases written.mem_dispatchFences.mp member with old | rfl
    · exact .inl (sound.dispatchIds fence old runId same)
    · exact .inr (fenceId_injective free same).symm
  · intro event member runId same
    rw [written.fenced free]
    rcases written.mem_events.mp member with old | rfl
    · exact .inl (sound.eventIds event old runId same)
    · exact .inr (fenceEventId_injective free same).symm
  · intro event member body same
    rcases written.mem_events.mp member with old | rfl
    · exact sound.hashes event old body same
    · exact free.event same

/-! ## The loop -/

/-- What the turns from an offset on do for the dependent runs they still have. -/
structure Looped (digests : FenceDigests) (origin : FenceOrigin) (offset : Nat) (rest : List RunRow)
    (before after : FenceTables) : Prop where
  dependencies : after.dependencies = before.dependencies
  sound : Sound digests origin after
  fenced : ∀ runId, Fenced digests origin after runId ↔
    Fenced digests origin before runId ∨ runId ∈ rest.map (·.runId)
  kept : ∀ row ∈ before.adoptionFences, row ∈ after.adoptionFences
  only : ∀ row ∈ after.adoptionFences, row ∈ before.adoptionFences ∨
    ∃ run ∈ rest, row.IsFor origin run.runId
  events : ∃ added, after.events.rows = before.events.rows ++ added ∧
    (added.Pairwise fun earlier later => earlier.writerEpoch < later.writerEpoch) ∧
    ∀ event ∈ added, origin.writerEpochFloor + offset ≤ event.writerEpoch
  moved : ∀ run ∈ rest, ¬ Fenced digests origin before run.runId → ∃ new ∈ after.runs,
    new.runId = run.runId ∧
      new.lifecycleState = dependentAdoptionState run.lifecycleState origin.provenanceKind
  same : ∀ run ∈ before.runs,
    run.runId ∉ rest.map (·.runId) ∨ Fenced digests origin before run.runId → run ∈ after.runs

theorem any_eq_true_iff (tables : FenceTables) (runId : String) :
    (tables.adoptionFences.any fun row => row.fenceId = fenceId digests origin runId) = true ↔
      Fenced digests origin tables runId := by
  rw [Table.any_eq_true]
  simp only [decide_eq_true_eq, Fenced]

/-- A turn over a fenced run does nothing. -/
theorem Looped.skip {run : RunRow} {rest : List RunRow}
    (fenced : Fenced digests origin tables run.runId)
    (later : Looped digests origin (offset + 1) rest tables next) :
    Looped digests origin offset (run :: rest) tables next := by
  constructor
  · exact later.dependencies
  · exact later.sound
  · intro runId
    rw [later.fenced, List.map_cons, List.mem_cons]
    constructor
    · rintro (before | among)
      · exact .inl before
      · exact .inr (.inr among)
    · rintro (before | rfl | among)
      · exact .inl before
      · exact .inl fenced
      · exact .inr among
  · exact later.kept
  · intro row member
    rcases later.only row member with before | ⟨other, among, isFor⟩
    · exact .inl before
    · exact .inr ⟨other, List.mem_cons_of_mem _ among, isFor⟩
  · obtain ⟨added, rows, increasing, above⟩ := later.events
    refine ⟨added, rows, increasing, fun event member => ?_⟩
    have bound := above event member
    omega
  · intro other member unfenced
    rcases List.mem_cons.mp member with rfl | among
    · exact absurd fenced unfenced
    · exact later.moved other among unfenced
  · intro other stored untouched
    apply later.same other stored
    rcases untouched with outside | before
    · exact .inl fun among => outside (List.mem_cons_of_mem _ among)
    · exact .inr before

/-- A turn over a run without a fence writes its fence. -/
theorem Looped.write (free : digests.CollisionFree) {middle : FenceTables} {run : RunRow}
    {rest : List RunRow} (stored : run ∈ tables.runs)
    (unfenced : ¬ Fenced digests origin tables run.runId) (apart : run.runId ∉ rest.map (·.runId))
    (written : Written digests (fenceBody digests origin offset run) tables middle)
    (later : Looped digests origin (offset + 1) rest middle next) :
    Looped digests origin offset (run :: rest) tables next := by
  have fencedMiddle : ∀ runId, Fenced digests origin middle runId ↔
      Fenced digests origin tables runId ∨ runId = run.runId := fun _ => written.fenced free
  constructor
  · exact later.dependencies.trans written.dependencies
  · exact later.sound
  · intro runId
    rw [later.fenced, fencedMiddle, List.map_cons, List.mem_cons, or_assoc]
  · intro row member
    exact later.kept row (written.mem_adoptionFences.mpr (.inl member))
  · intro row member
    rcases later.only row member with middleRow | ⟨other, among, isFor⟩
    · rcases written.mem_adoptionFences.mp middleRow with before | rfl
      · exact .inl before
      · exact .inr ⟨run, List.mem_cons_self, rfl, rfl, rfl, rfl⟩
    · exact .inr ⟨other, List.mem_cons_of_mem _ among, isFor⟩
  · obtain ⟨added, rows, increasing, above⟩ := later.events
    refine ⟨eventRow digests (fenceBody digests origin offset run) :: added, ?_, ?_, ?_⟩
    · rw [rows, written.events, List.append_assoc]
      rfl
    · refine List.pairwise_cons.mpr ⟨fun event member => ?_, increasing⟩
      have bound := above event member
      show origin.writerEpochFloor + offset < event.writerEpoch
      omega
    · intro event member
      rcases List.mem_cons.mp member with rfl | among
      · exact Nat.le_refl _
      · have bound := above event among
        omega
  · intro other member open_
    rcases List.mem_cons.mp member with rfl | among
    · have advanced : advance digests (fenceBody digests origin offset other) other ∈ middle.runs :=
        written.mem_runs.mpr ⟨other, stored, if_pos rfl⟩
      exact ⟨_, later.same _ advanced (.inl apart), rfl, rfl⟩
    · apply later.moved other among
      rw [fencedMiddle]
      rintro (before | same)
      · exact open_ before
      · exact apart (same ▸ List.mem_map_of_mem among)
  · intro other otherStored untouched
    have different : other.runId ≠ run.runId := by
      intro same
      rcases untouched with outside | before
      · exact outside (by rw [List.map_cons, same]; exact List.mem_cons_self)
      · exact unfenced (same ▸ before)
    have kept : other ∈ middle.runs :=
      written.mem_runs.mpr ⟨other, otherStored, if_neg different⟩
    apply later.same other kept
    rcases untouched with outside | before
    · exact .inl fun among => outside (List.mem_cons_of_mem _ among)
    · exact .inr ((fencedMiddle _).mpr (.inl before))

/-- The loop succeeds on dependent runs of sound tables. -/
theorem fenceRows_ok (free : digests.CollisionFree) (rest : List RunRow) :
    ∀ (offset : Nat) (tables : FenceTables) (last : Option String), Sound digests origin tables →
      (rest.map (·.runId)).Nodup → (∀ run ∈ rest, run ∈ tables.runs) →
      ∃ head after, fenceRows digests origin offset rest tables last = .ok (head, after) ∧
        Looped digests origin offset rest tables after := by
  induction rest with
  | nil =>
      intro offset tables last sound _ _
      refine ⟨last, tables, rfl, rfl, sound, fun runId => ?_, fun _ => id, fun _ => .inl, ?_, ?_, ?_⟩
      · exact (or_iff_left List.not_mem_nil).symm
      · exact ⟨[], (List.append_nil _).symm, List.Pairwise.nil,
          fun _ member => absurd member List.not_mem_nil⟩
      · exact fun _ member => absurd member List.not_mem_nil
      · exact fun _ member _ => member
  | cons run rest ih =>
      intro offset tables last sound distinct stored
      obtain ⟨apart, restDistinct⟩ := List.nodup_cons.mp distinct
      have own : run ∈ tables.runs := stored run List.mem_cons_self
      by_cases fenced : Fenced digests origin tables run.runId
      · obtain ⟨head, after, looped, later⟩ := ih (offset + 1) tables last sound restDistinct
          fun other member => stored other (List.mem_cons_of_mem _ member)
        refine ⟨head, after, ?_, later.skip fenced⟩
        rw [fenceRows, if_pos ((any_eq_true_iff tables run.runId).mpr fenced)]
        exact looped
      · obtain ⟨middle, wrote, written⟩ := sound.writeFence_ok free own fenced offset
        have others : ∀ other ∈ rest, other ∈ middle.runs := by
          intro other member
          have different : other.runId ≠ run.runId := fun same =>
            apart (List.mem_map.mpr ⟨other, member, same⟩)
          exact written.mem_runs.mpr
            ⟨other, stored other (List.mem_cons_of_mem _ member), if_neg different⟩
        obtain ⟨head, after, looped, later⟩ := ih (offset + 1) middle
          (some (digests.event (fenceBody digests origin offset run)))
          (sound.written free own written) restDistinct others
        refine ⟨head, after, ?_, later.write free own fenced apart written⟩
        rw [fenceRows, if_neg fun any => fenced ((any_eq_true_iff tables run.runId).mp any)]
        show (writeFence digests (fenceBody digests origin offset run) tables >>= _) = _
        rw [wrote]
        exact looped

/-- The loop does nothing for fenced runs. -/
theorem fenceRows_fenced (rest : List RunRow) (offset : Nat) (last : Option String)
    (fenced : ∀ run ∈ rest, Fenced digests origin tables run.runId) :
    fenceRows digests origin offset rest tables last = .ok (last, tables) := by
  induction rest generalizing offset with
  | nil => rfl
  | cons run rest ih =>
      rw [fenceRows, if_pos ((any_eq_true_iff tables run.runId).mpr (fenced run List.mem_cons_self))]
      exact ih (offset + 1) fun other member => fenced other (List.mem_cons_of_mem _ member)

/-! ## The dependent runs -/

theorem mem_sourceRows {row : AdoptionDependency} :
    row ∈ tables.sourceRows origin ↔ row ∈ tables.dependencies ∧
      row.Links origin.repositoryId origin.sourceRunId row.dependentRunId := by
  simp [sourceRows, AdoptionDependency.Links]

/-- A run stands once among the dependents of a source. -/
theorem sourceRows_nodup : ((tables.sourceRows origin).map (·.dependentRunId)).Nodup := by
  have apart := tables.dependencies.unique.filter
    (fun row => row.repositoryId = origin.repositoryId && row.ancestorRunId = origin.sourceRunId)
  refine List.pairwise_map.mpr (apart.imp_of_mem ?_)
  intro left right leftMember rightMember distinct same
  simp only [List.mem_filter, Bool.and_eq_true, decide_eq_true_eq] at leftMember rightMember
  exact distinct ⟨leftMember.2.1.trans rightMember.2.1.symm,
    leftMember.2.2.trans rightMember.2.2.symm, same⟩

theorem find_run {tables : FenceTables} {runId : String} {run : RunRow} :
    tables.runs.find? (fun other => other.runId = runId) = some run ↔
      run ∈ tables.runs ∧ run.runId = runId := by
  constructor
  · intro found
    obtain ⟨member, same⟩ := Table.mem_of_find? found
    exact ⟨member, of_decide_eq_true same⟩
  · rintro ⟨member, rfl⟩
    exact Table.find?_eq_some member (decide_eq_true rfl) fun _ _ same => of_decide_eq_true same

theorem mem_dependentRows {run : RunRow} :
    run ∈ tables.dependentRows origin ↔ run ∈ tables.runs ∧ Dependent tables origin run.runId := by
  unfold dependentRows
  rw [List.mem_filterMap]
  simp only [List.mem_mergeSort, find_run]
  constructor
  · rintro ⟨row, member, stored, same⟩
    obtain ⟨inTable, links⟩ := mem_sourceRows.mp member
    exact ⟨stored, row, inTable, links.1, links.2.1, same.symm⟩
  · rintro ⟨stored, row, inTable, links⟩
    exact ⟨row, mem_sourceRows.mpr ⟨inTable, links.1, links.2.1, rfl⟩, stored, links.2.2.symm⟩

theorem dependentRows_nodup : ((tables.dependentRows origin).map (·.runId)).Nodup := by
  have sorted : (((tables.sourceRows origin).mergeSort byDepth).map (·.dependentRunId)).Nodup :=
    ((List.mergeSort_perm _ _).map _).nodup_iff.mpr sourceRows_nodup
  have kept : ∀ rows : List AdoptionDependency,
      ((rows.filterMap fun row => tables.runs.find? fun run =>
        run.runId = row.dependentRunId).map (·.runId)).Sublist (rows.map (·.dependentRunId)) := by
    intro rows
    induction rows with
    | nil => exact List.Sublist.slnil
    | cons row rows ih =>
        rw [List.filterMap_cons, List.map_cons]
        split
        · exact ih.cons _
        · rename_i run found
          rw [List.map_cons, (find_run.mp found).2]
          exact ih.cons_cons _
  exact sorted.sublist (kept _)

/-! ## Fencing -/

/-- What fencing the dependents of a graph does. -/
structure FencesDependents (digests : FenceDigests) (origin : FenceOrigin)
    (depends : String → Prop) (before after : FenceTables) : Prop where
  /-- Exactly one fence for every dependent run, with its dispatch fence. -/
  fenced : ∀ runId, depends runId → (∃! row, row ∈ after.adoptionFences ∧ row.IsFor origin runId) ∧
    ∃ fence ∈ after.dispatchFences, fence.fenceId = fenceId digests origin runId
  /-- No other fences. -/
  only : ∀ row ∈ after.adoptionFences, row ∈ before.adoptionFences ∨
    ∃ runId, depends runId ∧ row.IsFor origin runId
  /-- The states of the dependents that had no fence. -/
  moved : ∀ run ∈ before.runs, depends run.runId → ¬ Fenced digests origin before run.runId →
    ∃ new ∈ after.runs, new.runId = run.runId ∧ new.lifecycleState =
      if run.lifecycleState.terminal then run.lifecycleState
      else if origin.provenanceKind = .authority then
        authorityFactRoute run.lifecycleState .revoked .before
      else .reconciliationRequired
  /-- The other runs are as they were. -/
  unchanged : ∀ run ∈ before.runs, ¬ depends run.runId → run ∈ after.runs
  /-- The writer epochs of the events increase. -/
  epochs : ∃ added, after.events.rows = before.events.rows ++ added ∧
    (added.Pairwise fun earlier later => earlier.writerEpoch < later.writerEpoch) ∧
    ∀ event ∈ added, origin.writerEpochFloor < event.writerEpoch
  /-- A call for the same originating event changes nothing. -/
  again : ∀ other : FenceOrigin, other.repositoryId = origin.repositoryId →
    other.sourceRunId = origin.sourceRunId →
    other.originatingEventId = origin.originatingEventId →
    fenceDependentAdoptions digests other after = .ok (none, after)

theorem dependentAdoptionState_eq (current : LifecycleState) (provenance : ProvenanceKind) :
    dependentAdoptionState current provenance =
      if current.terminal then current
      else if provenance = .authority then authorityFactRoute current .revoked .before
      else .reconciliationRequired := by
  cases current <;> cases provenance <;> rfl

theorem fenceDependentAdoptions_looped (free : digests.CollisionFree)
    (sound : Sound digests origin tables) :
    ∃ head after, fenceDependentAdoptions digests origin tables = .ok (head, after) ∧
      Looped digests origin 1 (tables.dependentRows origin) tables after :=
  fenceRows_ok free (tables.dependentRows origin) 1 tables none sound dependentRows_nodup
    fun _ member => (mem_dependentRows.mp member).1

/-- **The runs that depend on the source, and no others, are fenced for the originating event.** -/
theorem fenceDependentAdoptions_exact {graph : AdoptionGraph} (reached : graph.Reached)
    (table : tables.dependencies = graph.dependencies) (free : digests.CollisionFree)
    (sound : Sound digests origin tables) :
    ∃ head after, fenceDependentAdoptions digests origin tables = .ok (head, after) ∧
      FencesDependents digests origin
        (DependsOn graph.edges origin.repositoryId origin.sourceRunId) tables after := by
  have depends : ∀ runId, Dependent tables origin runId ↔
      DependsOn graph.edges origin.repositoryId origin.sourceRunId runId := by
    intro runId
    rw [← AdoptionGraph.dependencies_iff reached, ← table]
    rfl
  have among : ∀ runId, runId ∈ (tables.dependentRows origin).map (·.runId) ↔
      Dependent tables origin runId := by
    intro runId
    rw [List.mem_map]
    constructor
    · rintro ⟨run, member, rfl⟩
      exact (mem_dependentRows.mp member).2
    · rintro ⟨row, member, links⟩
      obtain ⟨run, stored, same⟩ := sound.joined row member
      have isRun : run.runId = runId := same.trans links.2.2
      exact ⟨run, mem_dependentRows.mpr ⟨stored, row, member, isRun ▸ links⟩, isRun⟩
  obtain ⟨head, after, looped, spec⟩ := fenceDependentAdoptions_looped free sound
  have fencedAfter : ∀ runId, Dependent tables origin runId → Fenced digests origin after runId :=
    fun runId dependent => (spec.fenced runId).mpr (.inr ((among runId).mpr dependent))
  refine ⟨head, after, looped, ?_⟩
  constructor
  · intro runId dependent
    obtain ⟨row, member, same⟩ := fencedAfter runId ((depends runId).mpr dependent)
    have isFor : row.IsFor origin runId := (spec.sound.isFor free member).mp same
    refine ⟨⟨row, ⟨member, isFor⟩, ?_⟩, ?_⟩
    · rintro other ⟨otherMember, otherFor⟩
      refine Table.eq_of_conflict otherMember member (.inl ?_)
      rw [same]
      exact (spec.sound.isFor free otherMember).mpr otherFor
    · obtain ⟨fence, stored, sameId⟩ := spec.sound.referenced row member
      exact ⟨fence, stored, sameId.trans same⟩
  · intro row member
    rcases spec.only row member with before | ⟨run, isDependent, isFor⟩
    · exact .inl before
    · exact .inr ⟨run.runId, (depends _).mp (mem_dependentRows.mp isDependent).2, isFor⟩
  · intro run stored dependent unfenced
    rw [← dependentAdoptionState_eq]
    exact spec.moved run (mem_dependentRows.mpr ⟨stored, (depends _).mpr dependent⟩) unfenced
  · intro run stored independent
    apply spec.same run stored
    left
    intro isDependent
    exact independent ((depends _).mp ((among _).mp isDependent))
  · obtain ⟨added, rows, increasing, above⟩ := spec.events
    exact ⟨added, rows, increasing, fun event member => above event member⟩
  · intro other repository source originating
    refine fenceRows_fenced _ 1 none fun run member => ?_
    obtain ⟨_, row, inTable, links⟩ := mem_dependentRows.mp member
    rw [spec.dependencies] at inTable
    rw [repository, source] at links
    obtain ⟨fence, stored, same⟩ := fencedAfter run.runId ⟨row, inTable, links⟩
    refine ⟨fence, stored, same.trans ?_⟩
    unfold fenceId fenceDigest
    rw [repository, source, originating]

end FenceTables

/-! ## One adopted effect -/

section Sample

open Aegis.Budget (ZeroFloat)
open FenceTables

/-- The texts of the hashed values. -/
def sampleFenceDigests : FenceDigests where
  fence repositoryId sourceRunId dependentRunId eventId :=
    String.ofList (Json.array [.str repositoryId, .str sourceRunId, .str dependentRunId,
      .str eventId] : Json ZeroFloat).canonical
  event body := "event:" ++ body.eventId
  bodyJson body := body.eventId

theorem sampleFenceDigests_free : sampleFenceDigests.CollisionFree where
  fence same := by
    have texts := Json.canonical_injective rfl rfl (String.ofList_injective same)
    simpa [Json.ordered, Json.orderedItems] using texts
  event same := append_left_cancel same

def sampleEdge : AdoptionEdge := ⟨"repo", "adopted", "executed", .executionIntent⟩

def sampleDependencies : Table AdoptionDependency :=
  ⟨[⟨"repo", "executed", "adopted", 1, by decide⟩], List.pairwise_singleton _ _⟩

/-- A run executed the effect, and another one adopted it. -/
def sampleGraph : AdoptionGraph :=
  ⟨["adopted", "executed"], [sampleEdge], sampleDependencies⟩

theorem sampleGraph_reached : sampleGraph.Reached := by
  have executed : AdoptionGraph.initial.act (.commitIntent "executed") =
      .ok ⟨["executed"], [], .empty⟩ := rfl
  have recorded : sampleEdge.recordDependencies .empty = .ok sampleDependencies := by
    have single : sampleEdge.ancestors .empty = [("executed", 1)] := rfl
    unfold AdoptionEdge.recordDependencies
    rw [single, List.mergeSort_singleton]
    rfl
  have adopted : AdoptionGraph.act ⟨["executed"], [], .empty⟩ (.adopt sampleEdge) =
      .ok sampleGraph := by
    simp only [AdoptionGraph.act, recorded]
    rfl
  exact ⟨_, (Runs.Run.nil.snoc executed).snoc adopted⟩

/-- The adopter of the effect is paused, the other run is done. -/
def sampleTables : FenceTables where
  dependencies := sampleDependencies
  runs := ⟨[⟨"executed", "repo", "item-1", "effect", .completed, none, 1, "event:done"⟩,
    ⟨"adopted", "repo", "item-2", "effect", .paused, none, 0, ""⟩], by decide⟩
  events := ⟨[⟨"done", "repo", "executed", "item-1", 1, "command", 1, "COMPLETED", "", "event:done",
    "done"⟩], List.pairwise_singleton _ _⟩
  dispatchFences := .empty
  adoptionFences := .empty

def sampleOrigin (provenance : ProvenanceKind) : FenceOrigin :=
  ⟨"repo", "executed", "contradiction", "hash", 2, "owner", provenance⟩

theorem sampleTables_sound (provenance : ProvenanceKind) :
    Sound sampleFenceDigests (sampleOrigin provenance) sampleTables where
  joined := by
    intro row member
    obtain rfl := List.mem_singleton.mp member
    exact ⟨_, List.mem_cons_of_mem _ List.mem_cons_self, rfl⟩
  referenced _ member := absurd member Table.not_mem_empty
  sequences := by
    intro event member run stored same
    obtain rfl := List.mem_singleton.mp member
    rcases List.mem_cons.mp stored with rfl | other
    · exact Nat.le_refl _
    · obtain rfl := List.mem_singleton.mp other
      exact absurd same (by decide)
  fenceIds _ member := absurd member Table.not_mem_empty
  dispatchIds _ member := absurd member Table.not_mem_empty
  eventIds := by
    intro event member runId same
    obtain rfl := List.mem_singleton.mp member
    have chars : "done".toList = "dependent-adoption-event:".toList ++
        (fenceDigest sampleFenceDigests (sampleOrigin provenance) runId).toList := by
      rw [← String.toList_append]
      exact congrArg String.toList same
    have second := congrArg (fun text : List Char => text[1]?) chars
    exact absurd second (by simp)
  hashes := by
    intro event member body same
    obtain rfl := List.mem_singleton.mp member
    exact append_left_cancel same

theorem fences_of_sample :
    ∃ head after, fenceDependentAdoptions sampleFenceDigests (sampleOrigin .contraryReceipt)
        sampleTables = .ok (head, after) ∧
      FencesDependents sampleFenceDigests (sampleOrigin .contraryReceipt)
        (DependsOn sampleGraph.edges "repo" "executed") sampleTables after :=
  fenceDependentAdoptions_exact sampleGraph_reached rfl sampleFenceDigests_free
    (sampleTables_sound _)

/-- Revoked authority leaves the paused run that adopted the effect paused. -/
theorem authority_keeps_paused :
    DependsOn sampleGraph.edges "repo" "executed" "adopted" ∧
      ∃ head after, fenceDependentAdoptions sampleFenceDigests (sampleOrigin .authority)
          sampleTables = .ok (head, after) ∧
        ∃ run ∈ after.runs, run.runId = "adopted" ∧ run.lifecycleState = .paused := by
  have adopts : DependsOn sampleGraph.edges "repo" "executed" "adopted" :=
    .direct (show sampleEdge ∈ sampleGraph.edges from List.mem_cons_self) rfl rfl
  have paused : (⟨"adopted", "repo", "item-2", "effect", .paused, none, 0, ""⟩ : RunRow) ∈
      sampleTables.dependentRows (sampleOrigin .authority) :=
    mem_dependentRows.mpr ⟨List.mem_cons_of_mem _ List.mem_cons_self,
      _, List.mem_cons_self, rfl, rfl, rfl⟩
  obtain ⟨head, after, fenced, spec⟩ :=
    fenceDependentAdoptions_looped sampleFenceDigests_free (sampleTables_sound .authority)
  obtain ⟨run, stored, same, state⟩ := spec.moved _ paused
    fun ⟨_, member, _⟩ => Table.not_mem_empty member
  exact ⟨adopts, head, after, fenced, run, stored, same, state⟩

end Sample

end Aegis.DeliveryControl
