/-
# DeliveryControl.Control — the other operations that write events

Every further operation of the store that moves the head of a run: plan
acceptance, pauses, resumes, stops, reconciliations, blockers, authority facts.
None of them touches the outstanding slot, an authorization or an observation.

They have one shape. A `ControlRoute` says what distinguishes one from another:
its error texts, the states it starts from, the events it records and the states
it may lead to. A route carries the proof that it keeps terminal states, so an
operation that reopens a run cannot be built. `control` runs a route.
-/
import Aegis.DeliveryControl.Dispatch
import Aegis.DeliveryControl.BudgetSettlement

namespace Aegis.DeliveryControl

open Aegis.Lib
open Aegis.Lib.Guarded

set_option autoImplicit false

/-! ## `accept_plan` -/

/-- The members of `PlanAcceptanceRequest` that the store reads back. -/
structure PlanAcceptanceRequest where
  commandId : String
  eventId : String
  repositoryId : String
  runId : String
  itemId : String
  logicalEffectId : String
  checkIds : List String
  deriving DecidableEq, Repr

/-- The run of a plan before its first event. -/
def PlanAcceptanceRequest.run (request : PlanAcceptanceRequest) : RunRow where
  runId := request.runId
  repositoryId := request.repositoryId
  itemId := request.itemId
  logicalEffectId := request.logicalEffectId
  lifecycleState := .planned
  continuationCursor := none
  headSequence := 0
  headHash := ""

/-- The first event of a run. -/
def PlanAcceptanceRequest.body (request : PlanAcceptanceRequest) : EventBody :=
  request.run.nextBody request.eventId request.commandId (some ⟨none, .planned⟩) none
    (.recorded .planAccepted)

/-- `accept_plan`, less its receipt. -/
def acceptPlan (digests : StoreDigests) (repositoryId : String) (checks : Checks)
    (request : PlanAcceptanceRequest) (store : Store) : Except ControlError Store := do
  require (request.repositoryId = repositoryId)
    (ControlError.dispatchDenied "plan targets a different repository")
  checks.require .evidence
    (ControlError.dispatchDenied "plan acceptance requires trusted operator-role evidence")
  verifyProjections checks store
  match store.outcome? request.commandId with
  | some _ => do
      checks.require .samePayload
        (ControlError.storageIntegrityError "command ID was reused with a different payload")
      return store
  | none => do
      checks.require .freshness
        (ControlError.dispatchDenied "independent recovery freshness proof failed")
      refuse ((store.run? request.runId).isSome = true)
        (ControlError.dispatchDenied "T01 requires a new run")
      checks.require .expectedHead
        (ControlError.dispatchDenied "expected repository head does not match")
      checks.require .effectGraph
        (ControlError.dispatchDenied "effect relationship history is incomplete or changed")
      checks.require .writerEpoch
        (ControlError.dispatchDenied "stale writer epoch")
      let runs ← store.runs.insert request.run (uniqueError "runs")
      let requirements ← request.checkIds.foldlM
        (fun table checkId => table.insert ⟨request.runId, checkId⟩
          (uniqueError "validation_requirements"))
        store.requirements
      let store ← { store with
        runs := runs
        requirements := requirements }.append digests request.body .planned none
      store.recordOutcome digests request.body

/-! ## Routes -/

/-- A fence that a control operation raises or clears; never one a settlement keeps. -/
inductive ControlFence
  | pause (fenceId : String)
  | dependentAdoption (digest : String)
  | other (text : String)
  deriving DecidableEq, Repr

def ControlFence.fenceId : ControlFence → FenceId
  | pause fenceId => .pause fenceId
  | dependentAdoption digest => .dependentAdoption digest
  | other text => .other text

/-- What a control operation writes besides events and charges. -/
inductive ControlWrite
  | nothing
  | pause (action : PauseAction) (reasonCode : String)
  | fence (raised : ControlFence) (reasonCode : String)
  | clear (cleared : List ControlFence)
  | resume (pauseFenceId sourceEventId : String)
  | settlePause (validatorIntentId : String) (resultCessation : Bool)
  deriving DecidableEq, Repr

/-- The kinds of writes, which a route chooses from. -/
inductive WriteKind
  | nothing
  | pause
  | fence
  | clear
  | resume
  | settlePause
  deriving DecidableEq, Repr

def ControlWrite.kind : ControlWrite → WriteKind
  | nothing => .nothing
  | pause _ _ => .pause
  | fence _ _ => .fence
  | clear _ => .clear
  | resume _ _ => .resume
  | settlePause _ _ => .settlePause

/-- What distinguishes one control operation from another. All its events but the
last keep the state; the last leads to the resulting one. `resumes` are the kinds
of the pause events whose fence it clears. -/
structure ControlRoute where
  foreign : String
  unbound : String
  denied : String
  sources : List LifecycleState
  earlier : List EventKind
  kind : EventKind
  transition : LifecycleState → Option (String × Option EventKind)
  targets : LifecycleState → List LifecycleState
  charges : Bool
  writes : List WriteKind
  resumes : List EventKind := []
  keepsTerminal : ∀ source ∈ sources, ∀ target ∈ targets source, source.terminal →
    target = source

/-- A reservation that a control operation charges, and how its settlement is named. -/
structure Obligation where
  reservationId : String
  settlementEventId : String
  evidenceDigest : String
  reasonCode : String
  deriving DecidableEq, Repr

/-- The members the control requests share. -/
structure ControlRequest where
  commandId : String
  eventId : String
  earlierEventIds : List String
  scope : AttemptScope
  target : LifecycleState
  continuationCursor : Option String
  obligations : List Obligation
  write : ControlWrite
  deriving DecidableEq, Repr

/-! ## Running a route -/

/-- The worst case of a contacted reservation whose outcome the operation leaves open. -/
def chargeObligation (digests : StoreDigests) (runId : String) (store : Store)
    (obligation : Obligation) : Except ControlError Store := do
  let lost := ControlError.dispatchDenied "operation lost the exact budget reservation"
  let reservation ← fetch (store.reservation? obligation.reservationId) lost
  require (reservation.scope.runId = runId) lost
  chargeWorstCase digests store reservation obligation.settlementEventId
    obligation.evidenceDigest obligation.reasonCode

/-- An event of the run that keeps its state. -/
def recordKept (digests : StoreDigests) (request : ControlRequest) (store : Store)
    (event : String × EventKind) : Except ControlError Store := do
  let run ← fetch (store.run? request.scope.runId)
    (ControlError.storageIntegrityError "control operation lost its run")
  store.append digests
    (run.nextBody event.1 request.commandId (some (run.change run.lifecycleState))
      (some run.continuationCursor) (.recorded event.2))
    run.lifecycleState run.continuationCursor

/-- The detail of the last event. -/
def ControlWrite.detail (kind : EventKind) : ControlWrite → EventDetail
  | resume pauseFenceId _ => .resumed kind pauseFenceId
  | settlePause validatorIntentId resultCessation =>
      if kind = .pauseSettled then .validationPauseSettled validatorIntentId resultCessation
      else .recorded kind
  | _ => .recorded kind

/-- A fence over the item and the effect of a control request. -/
def ControlRequest.fence (request : ControlRequest) (fenceId : FenceId) (reasonCode : String) :
    Fence where
  fenceId := fenceId
  repositoryId := request.scope.repositoryId
  itemId := some request.scope.itemId
  logicalEffectId := some request.scope.logicalEffectId
  reasonCode := .other reasonCode
  originatingEventId := request.eventId

/-- The writes of a route besides its events and charges. A settled validation
pause settles its validator, unless it ended with a result. -/
def writeControl (route : ControlRoute) (request : ControlRequest) (store : Store) : Except ControlError Store :=
  match request.write with
  | .nothing => .ok store
  | .pause action reasonCode => do
      let pauses ← store.pauses.insert action (uniqueError "pause_actions")
      { store with pauses := pauses }.raiseFences
        [request.fence (.pause action.fenceId) reasonCode]
  | .fence raised reasonCode => store.raiseFences [request.fence raised.fenceId reasonCode]
  | .clear cleared =>
      .ok (cleared.foldl (fun store fence => store.clearFence fence.fenceId) store)
  | .resume pauseFenceId sourceEventId => do
      require (store.fences.any (fun fence => fence.fenceId = .pause pauseFenceId &&
          fence.repositoryId = request.scope.repositoryId &&
          fence.originatingEventId = sourceEventId) = true)
        (ControlError.dispatchDenied "resume pause fence is not active")
      require (store.events.any (fun row => row.body.eventId = sourceEventId &&
          row.body.runId = request.scope.runId &&
          row.body.detail.kind ∈ route.resumes) = true)
        (ControlError.dispatchDenied "resume does not bind the exact active pause source")
      return store.clearFence (.pause pauseFenceId)
  | .settlePause validatorIntentId resultCessation =>
      .ok (if resultCessation then store
        else { store with
          validatorIntents := store.validatorIntents.update
            (fun row => row.validatorIntentId = validatorIntentId)
            (fun row => { row with active := false }) ValidatorIntent.conflict_inactive })

/-- The guards of the variant of a transition that records another event. -/
def variantGuards (transitionId : String) (eventKind : Option EventKind) : List String :=
  ((transitionSpec? transitionId).bind (fun spec =>
    eventKind.bind (fun kind => spec.eventVariants.lookup kind.value))).getD []

/-- The checks of a control operation, and the run it moves. -/
def checkControl (route : ControlRoute) (checks : Checks) (store : Store)
    (request : ControlRequest) : Except ControlError RunRow := do
  checks.require .operatorAction (ControlError.dispatchDenied route.unbound)
  checks.require .expectedHead (ControlError.dispatchDenied route.unbound)
  let run ← fetch (store.runOf? request.scope) (ControlError.dispatchDenied route.unbound)
  require (run.itemId = request.scope.itemId) (ControlError.dispatchDenied route.unbound)
  require (run.lifecycleState ∈ route.sources) (ControlError.dispatchDenied route.denied)
  checks.require .evidence (ControlError.dispatchDenied route.unbound)
  require (request.target ∈ route.targets run.lifecycleState ∧
      request.write.kind ∈ route.writes ∧ (request.obligations = [] ∨ route.charges = true) ∧
      request.earlierEventIds.length = route.earlier.length)
    (ControlError.dispatchDenied route.denied)
  match route.transition run.lifecycleState with
  | some (transitionId, eventKind) => do
      let _ ← authorize transitionId (some run.lifecycleState) request.target
        (requiredGuards transitionId ++ variantGuards transitionId eventKind)
        (eventKind.map EventKind.value)
      return run
  | none => .ok run

/-- A control operation. -/
def control (route : ControlRoute) (digests : StoreDigests) (repositoryId : String)
    (checks : Checks) (request : ControlRequest) (store : Store) : Except ControlError Store := do
  require (request.scope.repositoryId = repositoryId)
    (ControlError.dispatchDenied route.foreign)
  verifyProjections checks store
  match store.outcome? request.commandId with
  | some _ => do
      checks.require .samePayload
        (ControlError.storageIntegrityError "command ID was reused with a different payload")
      return store
  | none => do
      checks.require .freshness
        (ControlError.dispatchDenied "independent recovery freshness proof failed")
      let _ ← checkControl route checks store request
      let store ← request.obligations.foldlM (chargeObligation digests request.scope.runId) store
      let store ← (request.earlierEventIds.zip route.earlier).foldlM (recordKept digests request)
        store
      let run ← fetch (store.run? request.scope.runId)
        (ControlError.storageIntegrityError "control operation lost its run")
      let body := run.nextBody request.eventId request.commandId (some (run.change request.target))
        (some request.continuationCursor) (request.write.detail route.kind)
      let store ← writeControl route request store
      let store ← store.recordOutcome digests body
      store.append digests body request.target request.continuationCursor

/-! ## The routes of the source -/

namespace ControlRoute

/-- `evaluate_readiness`. -/
def evaluateReadiness : ControlRoute where
  foreign := "readiness evaluation targets another repository"
  unbound := "readiness evaluation does not bind the accepted plan"
  denied := "T02 requires durable PLANNED or BLOCKED state"
  sources := [.planned, .blocked]
  earlier := []
  kind := .readinessEvaluated
  transition _ := some ("T02", none)
  targets _ := [.planned, .blocked]
  charges := false
  writes := [.nothing]
  keepsTerminal := by decide

/-- `pause_local_execution`. -/
def pauseLocalExecution : ControlRoute where
  foreign := "local pause command targets another repository"
  unbound := "local pause does not bind the recorded run"
  denied := "T05 requires durable RUNNING; reconciliation uses T09"
  sources := [.running]
  earlier := []
  kind := .pauseRequested
  transition _ := some ("T05", none)
  targets _ := [.pausing]
  charges := false
  writes := [.fence]
  keepsTerminal := by decide

/-- `pause_external_mutation`. -/
def pauseExternalMutation : ControlRoute where
  foreign := "external pause command targets another repository"
  unbound := "external pause does not bind the recorded run"
  denied := "T06/T09 effect pause requires durable RUNNING or reconciliation state"
  sources := [.running, .reconciliationRequired]
  earlier := []
  kind := .pauseRequested
  transition source :=
    some (if source = .reconciliationRequired then "T09" else "T06", some .pauseRequested)
  targets _ := [.reconciliationRequired]
  charges := true
  writes := [.pause]
  keepsTerminal := by decide

/-- `settle_activity_pause`. -/
def settleActivityPause : ControlRoute where
  foreign := "activity pause settlement targets another repository"
  unbound := "activity settlement does not bind the recorded run"
  denied := "T07 requires durable PAUSING state"
  sources := [.pausing]
  earlier := []
  kind := .pauseSettled
  transition _ := some ("T07", none)
  targets _ := [.paused]
  charges := false
  writes := [.nothing]
  keepsTerminal := by decide

/-- `pause_before_dispatch`. -/
def pauseBeforeDispatch : ControlRoute where
  foreign := "pause command targets another repository"
  unbound := "pause command does not bind the run"
  denied := "T04 requires durable PLANNED or BLOCKED state"
  sources := [.planned, .blocked]
  earlier := [.pauseRequested]
  kind := .pauseSettled
  transition _ := none
  targets _ := [.paused]
  charges := false
  writes := [.fence]
  keepsTerminal := by decide

/-- `pause_validation`. -/
def pauseValidation : ControlRoute where
  foreign := "validation pause targets another repository"
  unbound := "validation pause does not bind the accepted run and plan"
  denied := "T08/T09 validator pause requires durable VALIDATING or validator reconciliation state"
  sources := [.validating, .reconciliationRequired]
  earlier := [.validationPauseRequested]
  kind := .validationPauseCheckpointed
  transition source :=
    some (if source = .reconciliationRequired then "T09" else "T08",
      some .validationPauseRequested)
  targets source :=
    if source = .reconciliationRequired then [.reconciliationRequired]
    else [.paused, .reconciliationRequired]
  charges := true
  writes := [.pause]
  keepsTerminal := by decide

/-- `pause_active_validation`. -/
def pauseActiveValidation : ControlRoute where
  foreign := "active validation pause targets another repository"
  unbound := "active validation pause lost its plan"
  denied := "active validation pause requires current VALIDATING cursor"
  sources := [.validating]
  earlier := [.validationPauseRequested]
  kind := .validationPauseCheckpointed
  transition _ := some ("T08", none)
  targets _ := [.pausing]
  charges := false
  writes := [.fence]
  keepsTerminal := by decide

/-- `settle_validation_pause`; the engine is asked for T07 from PAUSING in both cases. -/
def settleValidationPause : ControlRoute where
  foreign := "validation pause settlement targets another repository"
  unbound := "validation pause settlement lost its plan"
  denied := "nonlaunch settlement requires unresolved validation pause"
  sources := [.pausing, .paused]
  earlier := []
  kind := .pauseSettled
  transition _ := none
  targets _ := [.paused]
  charges := false
  writes := [.settlePause]
  keepsTerminal := by decide

/-- `resume_settled_validation_pause`. -/
def resumeSettledValidationPause : ControlRoute where
  foreign := "settled validation resume targets another repository"
  unbound := "settled validation resume lost its plan or source"
  denied := "settled validation resume does not bind exact pause"
  sources := [.paused]
  earlier := []
  kind := .resumeAccepted
  transition _ := some ("T14", none)
  targets _ := [.paused, .blocked, .validating]
  charges := false
  writes := [.resume]
  resumes := [.validationPauseRequested]
  keepsTerminal := by decide

/-- `recover_settled_validation_pause`. -/
def recoverSettledValidationPause : ControlRoute where
  foreign := "settled validation pause recovery targets another repository"
  unbound := "settled validation pause recovery lost its source"
  denied := "settled validation pause recovery attestation does not bind current state"
  sources := [.blocked]
  earlier := []
  kind := .blockerResolved
  transition _ := some ("T16", none)
  targets _ := [.validating]
  charges := false
  writes := [.nothing]
  keepsTerminal := by decide

/-- `pause_reconciliation`. -/
def pauseReconciliation : ControlRoute where
  foreign := "reconciliation pause command targets another repository"
  unbound := "reconciliation pause does not bind the recorded run"
  denied := "T09 requires durable RECONCILIATION_REQUIRED state"
  sources := [.reconciliationRequired]
  earlier := []
  kind := .pauseFenceRecorded
  transition _ := some ("T09", none)
  targets _ := [.reconciliationRequired]
  charges := false
  writes := [.fence]
  keepsTerminal := by decide

/-- `reconcile_verified_receipt`. -/
def reconcileVerifiedReceipt : ControlRoute where
  foreign := "verified-receipt reconciliation targets another repository"
  unbound := "verified receipt does not bind the run"
  denied := "T17 requires durable RECONCILIATION_REQUIRED state"
  sources := [.reconciliationRequired]
  earlier := []
  kind := .reconciliationRecorded
  transition _ := some ("T17", none)
  targets _ := [.reconciliationRequired, .paused, .blocked, .validating]
  charges := false
  writes := [.clear]
  keepsTerminal := by decide

/-- `reconcile_validator_result`. -/
def reconcileValidatorResult : ControlRoute :=
  { reconcileVerifiedReceipt with
    foreign := "validator reconciliation targets another repository"
    unbound := "validator reconciliation does not bind the run" }

/-- `record_proof_free_disposition`. -/
def recordProofFreeDisposition : ControlRoute where
  foreign := "proof-free disposition targets another repository"
  unbound := "proof-free disposition does not bind the run"
  denied := "proof-free T17 disposition requires RECONCILIATION_REQUIRED"
  sources := [.reconciliationRequired]
  earlier := []
  kind := .reconciliationRecorded
  transition _ := some ("T17", none)
  targets _ := [.reconciliationRequired, .stopped, .failedFinal]
  charges := false
  writes := [.nothing, .fence]
  keepsTerminal := by decide

/-- `resume`. -/
def resume : ControlRoute where
  foreign := "resume command targets another repository"
  unbound := "resume does not bind the accepted run and plan"
  denied := "T14 requires durable PAUSED state"
  sources := [.paused]
  earlier := []
  kind := .resumeAccepted
  transition _ := some ("T14", none)
  targets _ := [.planned, .validating, .paused, .blocked]
  charges := false
  writes := [.resume]
  resumes := [.pauseRequested, .validationPauseRequested]
  keepsTerminal := by decide

/-- `resume_reconciliation_pause`. -/
def resumeReconciliationPause : ControlRoute where
  foreign := "reconciliation resume authority does not bind the request"
  unbound := "reconciliation resume does not bind the paused run"
  denied := "reconciliation resume does not bind the paused run"
  sources := [.paused]
  earlier := []
  kind := .reconciliationPauseResumed
  transition _ := some ("T14", none)
  targets _ := [.validating, .paused, .blocked]
  charges := false
  writes := [.resume]
  resumes := [.pauseFenceRecorded]
  keepsTerminal := by decide

/-- `resume_operation_nonexecution`. -/
def resumeOperationNonexecution : ControlRoute where
  foreign := "operation-nonexecution resume targets another repository"
  unbound := "operation-nonexecution resume does not bind the paused run"
  denied := "operation-nonexecution resume does not bind the paused run"
  sources := [.paused]
  earlier := []
  kind := .resumeAccepted
  transition _ := some ("T14", none)
  targets _ := [.paused, .blocked]
  charges := false
  writes := [.resume]
  resumes := [.pauseRequested]
  keepsTerminal := by decide

/-- `resume_activity_settlement`. -/
def resumeActivitySettlement : ControlRoute where
  foreign := "activity-settlement resume targets another repository"
  unbound := "activity resume does not bind the accepted run and plan"
  denied := "activity resume requires its durable PAUSED cursor"
  sources := [.paused]
  earlier := []
  kind := .resumeAccepted
  transition _ := some ("T14", none)
  targets _ := [.blocked]
  charges := false
  writes := [.resume]
  resumes := [.pauseRequested]
  keepsTerminal := by decide

/-- `StopMode`. -/
inductive StopMode
  | graceful
  | immediate
  deriving DecidableEq, Repr

/-- `stop`. -/
def stop (mode : StopMode) : ControlRoute where
  foreign := "stop command targets another repository"
  unbound := "stop command does not bind a recorded run"
  denied := "stop command does not bind a recorded run"
  sources := nonterminalStates
  earlier := []
  kind := .stopRecorded
  transition _ := some (if mode = .graceful then "T18" else "T19", none)
  targets _ := [.stopped]
  charges := true
  writes := [.fence]
  keepsTerminal := by decide

/-- `escalate_stop`. -/
def escalateStop : ControlRoute where
  foreign := "stop escalation targets another repository"
  unbound := "T20 requires the stopped source run"
  denied := "T20 requires the stopped source run"
  sources := [.stopped]
  earlier := []
  kind := .stopEscalated
  transition _ := some ("T20", none)
  targets _ := [.stopped]
  charges := true
  writes := [.nothing]
  keepsTerminal := by decide

/-- An operation that records an event and leaves the state as it is. -/
def preserving (foreign unbound : String) (kind : EventKind) : ControlRoute where
  foreign := foreign
  unbound := unbound
  denied := unbound
  sources := allStates
  earlier := []
  kind := kind
  transition _ := none
  targets source := [source]
  charges := false
  writes := [.nothing]
  keepsTerminal := by simp

/-- `record_validation_gate_fact`. -/
def recordValidationGateFact : ControlRoute :=
  preserving "validation gate fact targets another repository"
    "validation gate fact does not bind the accepted plan" .validationGateFactRecorded

/-- `_record_validation_application_denial`, after which `_apply_validator_observation` raises. -/
def recordValidationApplicationDenial : ControlRoute :=
  preserving "validation application targets another repository"
    "validation application does not bind the run" .validationApplicationDenied

/-- `record_validator_cessation`. -/
def recordValidatorCessation : ControlRoute :=
  { preserving "validator cessation targets another repository"
      "validator cessation run is unavailable" .validatorCessationRecorded with
    transition := fun _ => some ("T24", none) }

/-- `prepare_validation_launch`: a launch that is not ready is also blocked. -/
def prepareValidationLaunch (ready : Bool) : ControlRoute where
  foreign := "validation launch targets another repository"
  unbound := "validation launch does not bind a VALIDATING plan; active reconciliation or recovery is not current or already consumed"
  denied := "validation launch does not bind a VALIDATING plan; active reconciliation or recovery is not current or already consumed"
  sources := [.validating]
  earlier := if ready then [] else [.validationLaunchEvaluated]
  kind := if ready then .validationLaunchEvaluated else .validationLaunchBlocked
  transition _ := none
  targets _ := if ready then [.validating] else [.blocked]
  charges := false
  writes := [.nothing]
  keepsTerminal := by cases ready <;> decide

/-- `resolve_validation_blocker`. -/
def resolveValidationBlocker : ControlRoute :=
  { recoverSettledValidationPause with
    foreign := "validation recovery targets another repository"
    unbound := "validation recovery does not bind the run"
    denied := "T16 validation recovery requires BLOCKED/VALIDATING state" }

/-- `resolve_validation_launch_blocker`. -/
def resolveValidationLaunchBlocker : ControlRoute :=
  { recoverSettledValidationPause with
    foreign := "validation launch resolution targets another repository"
    unbound := "validation launch resolution does not bind the blocker"
    denied := "validation launch resolution does not bind the blocker"
    transition := fun _ => none }

/-- `_binding_mismatch_route`. -/
def bindingMismatchRoute (current : LifecycleState) (activeOrUncertain : Bool) :
    LifecycleState :=
  if current = .paused then .paused
  else if activeOrUncertain = true ∨ current ∈ [.running, .pausing, .validating,
      LifecycleState.reconciliationRequired] then .reconciliationRequired
  else .blocked

/-- `record_binding_mismatch`. -/
def recordBindingMismatch (activeOrUncertain : Bool) : ControlRoute where
  foreign := "binding mismatch targets another repository"
  unbound := "binding mismatch does not bind the accepted plan"
  denied := "T15 requires a nonterminal run"
  sources := nonterminalStates
  earlier := []
  kind := .bindingMismatch
  transition _ := none
  targets source := [bindingMismatchRoute source activeOrUncertain]
  charges := false
  writes := [.fence]
  keepsTerminal := by cases activeOrUncertain <;> decide

/-- `record_authority_fact`, less the dependent adoptions it fences. -/
def recordAuthorityFact (factKind : AuthorityFactKind) (governedOrder : GovernedOrder) :
    ControlRoute where
  foreign := "authority fact targets another repository"
  unbound := "authority fact does not bind the run"
  denied := "authority fact does not bind the accepted plan"
  sources := allStates
  earlier := []
  kind := .authorityEvaluated
  transition _ := none
  targets source := [authorityFactRoute source factKind governedOrder]
  charges := false
  writes := [.nothing, .fence, .clear]
  keepsTerminal := by cases factKind <;> cases governedOrder <;> decide

end ControlRoute

/-- The control operations of the source. -/
inductive ControlOperation
  | evaluateReadiness
  | pauseLocalExecution
  | pauseExternalMutation
  | settleActivityPause
  | pauseBeforeDispatch
  | pauseValidation
  | pauseActiveValidation
  | settleValidationPause
  | resumeSettledValidationPause
  | recoverSettledValidationPause
  | pauseReconciliation
  | reconcileVerifiedReceipt
  | reconcileValidatorResult
  | recordProofFreeDisposition
  | resume
  | resumeReconciliationPause
  | resumeOperationNonexecution
  | resumeActivitySettlement
  | stop (mode : ControlRoute.StopMode)
  | escalateStop
  | recordValidationGateFact
  | recordValidationApplicationDenial
  | recordValidatorCessation
  | prepareValidationLaunch (ready : Bool)
  | resolveValidationBlocker
  | resolveValidationLaunchBlocker
  | recordBindingMismatch (activeOrUncertain : Bool)
  deriving DecidableEq, Repr

/-- The route of a control operation. -/
def ControlOperation.route : ControlOperation → ControlRoute
  | evaluateReadiness => .evaluateReadiness
  | pauseLocalExecution => .pauseLocalExecution
  | pauseExternalMutation => .pauseExternalMutation
  | settleActivityPause => .settleActivityPause
  | pauseBeforeDispatch => .pauseBeforeDispatch
  | pauseValidation => .pauseValidation
  | pauseActiveValidation => .pauseActiveValidation
  | settleValidationPause => .settleValidationPause
  | resumeSettledValidationPause => .resumeSettledValidationPause
  | recoverSettledValidationPause => .recoverSettledValidationPause
  | pauseReconciliation => .pauseReconciliation
  | reconcileVerifiedReceipt => .reconcileVerifiedReceipt
  | reconcileValidatorResult => .reconcileValidatorResult
  | recordProofFreeDisposition => .recordProofFreeDisposition
  | resume => .resume
  | resumeReconciliationPause => .resumeReconciliationPause
  | resumeOperationNonexecution => .resumeOperationNonexecution
  | resumeActivitySettlement => .resumeActivitySettlement
  | stop mode => .stop mode
  | escalateStop => .escalateStop
  | recordValidationGateFact => .recordValidationGateFact
  | recordValidationApplicationDenial => .recordValidationApplicationDenial
  | recordValidatorCessation => .recordValidatorCessation
  | prepareValidationLaunch ready => .prepareValidationLaunch ready
  | resolveValidationBlocker => .resolveValidationBlocker
  | resolveValidationLaunchBlocker => .resolveValidationLaunchBlocker
  | recordBindingMismatch activeOrUncertain => .recordBindingMismatch activeOrUncertain

/-- `record_authority_fact`: a fact about an operation, a validator, an adoption or a
relationship that is neither a consumption nor a correction also fences the
adoptions that depend on its run. -/
def recordAuthorityFact (factKind : AuthorityFactKind) (governedOrder : GovernedOrder)
    (sourceRunId : Option String) (digests : StoreDigests) (repositoryId : String)
    (checks : Checks) (request : ControlRequest) (store : Store) : Except ControlError Store := do
  let after ← control (.recordAuthorityFact factKind governedOrder) digests repositoryId checks
    request store
  match sourceRunId with
  | some runId =>
      if factKind ≠ .ownConsumed && factKind ≠ .correction && governedOrder ≠ .after &&
          (store.outcome? request.commandId).isNone then
        fenceDependentAdoptions digests repositoryId runId request.eventId .authority after
      else return after
  | none => return after

end Aegis.DeliveryControl
