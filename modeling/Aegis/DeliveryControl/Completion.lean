/-
# DeliveryControl.Completion — finalization, adoption and recovery of an effect

What ends or restarts the life of one operation: `_finalize_operation` completes
the run and releases its slot, `adopt_verified_effect` takes an empty slot for a
run that adopts a completed effect of another, and the two recovery operations
record the authorization that lets a successor attempt take the slot over.
-/
import Aegis.DeliveryControl.Validation

namespace Aegis.DeliveryControl

open Aegis.Lib
open Aegis.Lib.Guarded

set_option autoImplicit false

/-! ## `_finalize_operation` -/

/-- The members of `FinalizeOperationRequest` that the store reads back; the attempt
of the scope is the expected occupant of the slot. -/
structure FinalizeOperationRequest where
  commandId : String
  eventId : String
  scope : AttemptScope
  expectedSlotGeneration : Nat
  deriving DecidableEq, Repr

/-- Every declared check of the run has a passing latest application. -/
def Store.checksPassed (store : Store) (runId : String) : Bool :=
  store.requirements.rows.all (fun row => row.runId ≠ runId || store.checkPassed runId row.checkId)

/-- `_finalize_operation`, less its receipt. `replayed` is the answer of the lookup
for an earlier finalization under the same key. -/
def finalizeOperation (digests : StoreDigests) (repositoryId : String) (checks : Checks)
    (request : FinalizeOperationRequest) (replayed : Bool) (store : Store) :
    Except ControlError Store := do
  let scope := request.scope
  require (scope.repositoryId = repositoryId)
    (ControlError.dispatchDenied "operation finalization targets another repository")
  checks.require .evidence
    (ControlError.dispatchDenied "aggregate gate finalization attestation is unavailable")
  verifyStore checks store
  if replayed then return store
  else
    refuse ((store.outcome? request.commandId).isSome = true)
      (ControlError.storageIntegrityError
        "operation finalization command lost its projection")
    let unbound := ControlError.dispatchDenied "operation finalization does not bind the run"
    let run ← fetch (store.runOf? scope) unbound
    require (run.itemId = scope.itemId) unbound
    require (run.lifecycleState = .blocked ∧ run.continuationCursor = some "FINALIZING")
      (ControlError.dispatchDenied
        "operation finalization requires durable BLOCKED/FINALIZING state")
    require (run.logicalEffectId = scope.logicalEffectId)
      (ControlError.dispatchDenied "operation finalization does not bind the accepted plan")
    require (store.checksPassed scope.runId = true)
      (ControlError.dispatchDenied "declared validation checks are not satisfied")
    refuse (store.activeValidator scope.repositoryId scope.runId = true)
      (ControlError.dispatchDenied "validator activity remains unsettled")
    let adopted := store.adoptions.any (fun row => row.repositoryId = scope.repositoryId &&
      row.runId = scope.runId && row.slotAttemptId = scope.attemptId)
    require (accountingClosed checks store scope false none adopted = true)
      (ControlError.dispatchDenied "operation accounting remains unsettled")
    require (store.activeFences scope = [])
      (ControlError.dispatchDenied "operation finalization has an active dispatch fence")
    let ownsNot := ControlError.dispatchDenied "operation finalization does not own the slot"
    let slot ← fetch (store.slot? scope.repositoryId) ownsNot
    require (slotBinds slot scope scope.attemptId request.expectedSlotGeneration) ownsNot
    checks.require .finalization
      (ControlError.dispatchDenied
        "finalization attestation does not bind current durable state")
    let _ ← authorize "T16" (some .blocked) .completed (requiredGuards "T16")
    let body := run.nextBody request.eventId request.commandId (some ⟨some .blocked, .completed⟩)
      (some none)
      (.operationFinalized
        { logicalEffectId := scope.logicalEffectId
          slotAttemptId := scope.attemptId
          slotGeneration := request.expectedSlotGeneration
          slotReleased := true })
    let store ← { store with
      slot := store.slot.delete (fun row => row.repositoryId = scope.repositoryId &&
        row.runId = scope.runId && row.attemptId = scope.attemptId &&
        row.generation = request.expectedSlotGeneration) }.recordOutcome digests body
    store.append digests body .completed none

/-! ## `adopt_verified_effect` -/

/-- The members of `EffectAdoptionRequest` that the store reads back; `adoptionKey`
is `adoption_key` of the request, and `ancestors` the runs it comes to depend on. -/
structure EffectAdoptionRequest where
  adoptionId : String
  adoptionKey : String
  commandId : String
  eventId : String
  repositoryId : String
  runId : String
  itemId : String
  logicalEffectId : String
  rootRunId : String
  rootAttemptId : String
  expectedLifecycle : LifecycleState
  ancestors : List (String × Nat)
  deriving DecidableEq, Repr

/-- The attempt an adoption holds the slot as. -/
def EffectAdoptionRequest.slotAttemptId (request : EffectAdoptionRequest) : String :=
  "adoption:" ++ request.adoptionKey

/-- The attempt scope of the adopting run. -/
def EffectAdoptionRequest.scope (request : EffectAdoptionRequest) : AttemptScope where
  repositoryId := request.repositoryId
  runId := request.runId
  itemId := request.itemId
  logicalEffectId := request.logicalEffectId
  attemptId := request.slotAttemptId

/-- The checks of an adoption that was not recorded before. -/
def checkAdoption (checks : Checks) (store : Store) (request : EffectAdoptionRequest) :
    Except ControlError RunRow := do
  checks.require .freshness
    (ControlError.dispatchDenied "independent recovery freshness proof failed")
  checks.require .expectedHead (ControlError.dispatchDenied "adoption freshness binding is stale")
  let unbound := ControlError.dispatchDenied "effect adoption does not bind the accepted plan"
  let run ← fetch (store.runOf? request.scope) unbound
  require (run.itemId = request.itemId ∧ run.logicalEffectId = request.logicalEffectId) unbound
  require (run.lifecycleState = request.expectedLifecycle)
    (ControlError.dispatchDenied "effect adoption expected state is stale")
  let _ ← authorize "T28" (some run.lifecycleState) .validating (requiredGuards "T28")
  checks.require .adoptionReadiness
    (ControlError.dispatchDenied
      "adoption readiness does not bind current accepted inputs")
  require (store.slot.rows = [])
    (ControlError.dispatchDenied "effect adoption requires the repository slot to be free")
  require (store.activeFences request.scope = [])
    (ControlError.dispatchDenied "effect adoption has an active fence")
  checks.require .evidence
    (ControlError.dispatchDenied "adoption root is not an exact completed final effect")
  require (accountingClosed checks store
      { request.scope with runId := request.rootRunId, attemptId := request.rootAttemptId }
      false none false = true)
    (ControlError.dispatchDenied "adoption root accounting is not fully settled")
  checks.require .effectiveAuthority
    (ControlError.dispatchDenied "synthetic authority is not currently effective")
  return run

/-- A dependency of the adopting run; the CHECK constraint refuses one on itself. -/
def adoptionDependency (request : EffectAdoptionRequest) (ancestor : String × Nat) :
    Except ControlError AdoptionDependency :=
  if distinct : ancestor.1 ≠ request.runId then
    .ok {
      repositoryId := request.repositoryId
      ancestorRunId := ancestor.1
      dependentRunId := request.runId
      depth := ancestor.2
      distinct := distinct }
  else .error (.integrityError "CHECK constraint failed: adoption_dependencies")

/-- `adopt_verified_effect`, less its receipt. -/
def adoptVerifiedEffect (digests : StoreDigests) (repositoryId : String) (checks : Checks)
    (request : EffectAdoptionRequest) (replayed : Bool) (store : Store) :
    Except ControlError Store := do
  require (request.repositoryId = repositoryId)
    (ControlError.dispatchDenied "effect adoption targets another repository")
  verifyProjections checks store
  if replayed then return store
  else
    let run ← checkAdoption checks store request
    let cursor := some LifecycleState.validating.value
    let body := run.nextBody request.eventId request.commandId (some (run.change .validating))
      (some cursor) (.effectAdopted request.logicalEffectId request.slotAttemptId 1)
    let adoptions ← store.adoptions.insert
      { adoptionId := request.adoptionId
        eventId := request.eventId
        repositoryId := request.repositoryId
        runId := request.runId
        logicalEffectId := request.logicalEffectId
        slotAttemptId := request.slotAttemptId
        slotGeneration := 1 }
      (uniqueError "effect_adoptions")
    let origins ← store.origins.insert
      ⟨request.repositoryId, request.runId, request.logicalEffectId, .effectAdoption,
        request.adoptionId⟩
      (uniqueError "operation_origins")
    let dependencies ← request.ancestors.foldlM
      (fun table ancestor => do
        let dependency ← adoptionDependency request ancestor
        table.insert dependency (uniqueError "adoption_dependencies"))
      store.dependencies
    let slot ← store.slot.insert
      { repositoryId := request.repositoryId
        runId := request.runId
        logicalEffectId := request.logicalEffectId
        attemptId := request.slotAttemptId
        generation := 1
        originKind := .effectAdoption
        originId := request.adoptionId }
      (uniqueError "outstanding_slot")
    let store ← { store with
      adoptions := adoptions
      origins := origins
      dependencies := dependencies
      slot := slot }.recordOutcome digests body
    store.append digests body .validating cursor

/-! ## The recovery of an operation -/

/-- The members the two recovery requests share; the attempt of the scope is the
prior attempt. -/
structure RecoveryRequest where
  recoveryId : String
  authorizationId : String
  commandId : String
  eventId : String
  scope : AttemptScope
  successorAttemptId : String
  expectedSlotGeneration : Nat
  targetSlotGeneration : Nat
  effectDescriptorDigest : String
  continuationCursor : Option String
  outcomeFenceId : String
  coveredActivityUncertaintyIds : List String
  sourceControlFenceId : String
  retainedPauseFenceId : String
  deriving DecidableEq, Repr

/-- The available authorization of a recovery. -/
def RecoveryRequest.authorization (request : RecoveryRequest) (kind : RetryKind) :
    RetryAuthorization where
  kind := kind
  authorizationId := request.authorizationId
  recoveryId := request.recoveryId
  scope := request.scope
  successorAttemptId := request.successorAttemptId
  sourceGeneration := request.expectedSlotGeneration
  targetGeneration := request.targetSlotGeneration
  effectDescriptorDigest := request.effectDescriptorDigest
  outcomeFenceId := request.outcomeFenceId
  coveredActivityUncertaintyIds := request.coveredActivityUncertaintyIds
  status := .available
  consumingEventId := none
  disablingEventId := none

/-- The checks the two recoveries share: the run waits at the cursor, the prior
attempt holds the slot, and no receipt contradicts. -/
def checkRecovery (checks : Checks) (store : Store) (request : RecoveryRequest)
    (source : LifecycleState) : Except ControlError RunRow := do
  checks.require .planIssuer
    (ControlError.dispatchDenied "authority does not match the accepted plan")
  checks.require .operatorAction
    (ControlError.dispatchDenied "operator capability does not bind operation recovery")
  checks.require .expectedHead (ControlError.dispatchDenied "operation recovery head is stale")
  let unbound := ControlError.dispatchDenied "operation recovery does not bind the blocked run"
  let run ← fetch (store.runOf? request.scope) unbound
  require (run.itemId = request.scope.itemId ∧ run.lifecycleState = source ∧
    run.continuationCursor = request.continuationCursor ∧
    run.logicalEffectId = request.scope.logicalEffectId) unbound
  checks.require .evidence
    (ControlError.dispatchDenied "operation recovery source proof is invalid")
  let retained := ControlError.dispatchDenied
    "operation recovery does not bind the retained slot"
  let slot ← fetch (store.slot? request.scope.repositoryId) retained
  require (slotBinds slot request.scope request.scope.attemptId request.expectedSlotGeneration ∧
    request.targetSlotGeneration = request.expectedSlotGeneration + 1) retained
  refuse (store.observations.any (fun row =>
      row.scope.repositoryId = request.scope.repositoryId &&
        row.scope.runId = request.scope.runId &&
        row.scope.logicalEffectId = request.scope.logicalEffectId &&
        row.scope.attemptId = request.scope.attemptId) = true)
    (ControlError.dispatchDenied "operation recovery is contradicted by a receipt")
  return run

/-- The writes the two recoveries share. -/
def writeRecovery (digests : StoreDigests) (store : Store) (request : RecoveryRequest)
    (kind : RetryKind) (eventKind : EventKind) (run : RunRow) (resulting : LifecycleState) :
    Except ControlError Store := do
  let body := run.nextBody request.eventId request.commandId (some (run.change resulting))
    (some none) (.recorded eventKind)
  let authorizations ← store.authorizations.insert (request.authorization kind)
    (uniqueError "operation_retry_authorizations")
  let store ← { store with authorizations := authorizations }.recordOutcome digests body
  store.append digests body resulting none

/-- `recover_proven_nonexecution`, less its receipt. -/
def recoverProvenNonexecution (digests : StoreDigests) (repositoryId : String) (checks : Checks)
    (request : RecoveryRequest) (store : Store) : Except ControlError Store := do
  require (request.scope.repositoryId = repositoryId)
    (ControlError.dispatchDenied "proven-nonexecution recovery targets another repository")
  verifyProjections checks store
  match store.outcome? request.commandId with
  | some _ => do
      checks.require .samePayload
        (ControlError.storageIntegrityError "operation recovery identity was reused")
      return store
  | none => do
      checks.require .freshness
        (ControlError.dispatchDenied "independent operation recovery freshness proof failed")
      let run ← checkRecovery checks store request .blocked
      checks.require .activityUncertainty
        (ControlError.dispatchDenied "operation recovery has unresolved uncertainty")
      require (store.activeFences request.scope = [])
        (ControlError.dispatchDenied "operation recovery has an active fence")
      let _ ← authorize "T16" (some .blocked) .planned (requiredGuards "T16")
      writeRecovery digests store request .provenNonexecution .blockerResolved run .planned

/-- The prior attempt's billing is settled. -/
def billingSettled (store : Store) (scope : AttemptScope) : Bool :=
  store.reservations.any (fun row => row.scope.repositoryId = scope.repositoryId &&
    row.scope.runId = scope.runId && row.scope.logicalEffectId = scope.logicalEffectId &&
    row.scope.attemptId = scope.attemptId && !row.uncertainty &&
    (row.disposition.knownUsage || row.disposition = .released))

/-- The fences a safe retry may be authorized over. -/
def RecoveryRequest.allowedFences (request : RecoveryRequest) : List FenceId :=
  .other request.outcomeFenceId :: .other request.sourceControlFenceId ::
    .pause request.retainedPauseFenceId ::
    request.coveredActivityUncertaintyIds.map FenceId.other

/-- `authorize_safe_same_effect_retry`, less its receipt. -/
def authorizeSafeSameEffectRetry (digests : StoreDigests) (repositoryId : String)
    (checks : Checks) (request : RecoveryRequest) (store : Store) :
    Except ControlError Store := do
  require (request.scope.repositoryId = repositoryId)
    (ControlError.dispatchDenied "safe retry targets another repository")
  verifyProjections checks store
  match store.outcome? request.commandId with
  | some _ => do
      checks.require .samePayload
        (ControlError.storageIntegrityError "safe-retry command identity was reused")
      return store
  | none => do
      checks.require .freshness
        (ControlError.dispatchDenied "independent safe-retry freshness failed")
      checks.require .effectiveAuthority
        (ControlError.dispatchDenied "synthetic authority is not currently effective")
      checks.require .retryProtection
        (ControlError.dispatchDenied "safe-retry protection is expired")
      let run ← checkRecovery checks store request .reconciliationRequired
      require (billingSettled store request.scope = true)
        (ControlError.dispatchDenied "safe retry requires settled billing")
      checks.require .activityUncertainty
        (ControlError.dispatchDenied
          "safe retry contract does not cover the exact activity set")
      require (store.pauses.any (fun pause => pause.fenceId = request.retainedPauseFenceId &&
          pause.validatorIntentId = none && pause.scope = request.scope &&
          store.pauseStands pause) = true)
        (ControlError.dispatchDenied "safe retry pause settlement source is invalid")
      require (sameFences (store.activeFences request.scope) request.allowedFences)
        (ControlError.dispatchDenied "safe retry has another active fence")
      let _ ← authorize "T17" (some .reconciliationRequired) .paused (requiredGuards "T17")
      writeRecovery digests (store.clearFence (.other request.sourceControlFenceId)) request
        .safeSameEffect .reconciliationRecorded run .paused

end Aegis.DeliveryControl
