/-
# DeliveryControl.StoreTables — the tables of the controller store

The rows of `storage.py` that commitment, dispatch, settlement and slot release
read and write, with the uniqueness constraints of their `CREATE TABLE`, and the
queries that more than one operation makes.

An event is stored with its body parsed; the columns of an `events` row are the
members its body repeats, so they are read from there. Columns that no modelled
operation reads (writer epochs, schema versions, payload digests) are left out.
-/
import Aegis.DeliveryControl.LifecycleRoutes
import Aegis.DeliveryControl.TargetLedger

namespace Aegis.DeliveryControl

open Aegis.Lib
open Aegis.Lib.Guarded
open Aegis.DeliveryControl.TargetLedger (ContactKind)

set_option autoImplicit false

/-! ## Requests -/

/-- The binding of one attempt: what reservations, launches, contacts and receipts repeat. -/
structure AttemptScope where
  repositoryId : String
  runId : String
  itemId : String
  logicalEffectId : String
  attemptId : String
  deriving DecidableEq, Repr

/-- The two requests that continue a recovered effect. -/
inductive RetryKind
  | provenNonexecution
  | safeSameEffect
  deriving DecidableEq, Repr

/-- What `ProvenNonexecutionIntentRequest` and `SafeSameEffectRetryIntentRequest`
add to an `IntentRequest`. -/
structure RetryBinding where
  kind : RetryKind
  recoveryAuthorizationId : String
  priorAttemptId : String
  expectedSourceGeneration : Nat
  expectedTargetGeneration : Nat
  deriving DecidableEq, Repr

/-- An `IntentRequest` of one of the three classes. -/
structure OperationIntent where
  request : IntentRequest
  retry : Option RetryBinding
  deriving DecidableEq, Repr

namespace OperationIntent

def scope (intent : OperationIntent) : AttemptScope where
  repositoryId := intent.request.repositoryId
  runId := intent.request.runId
  itemId := intent.request.itemId
  logicalEffectId := intent.request.logicalEffectId
  attemptId := intent.request.attemptId

/-- `expected_slot_generation`: the target generation of a retry, else 1. -/
def slotGeneration (intent : OperationIntent) : Nat :=
  (intent.retry.map (·.expectedTargetGeneration)).getD 1

end OperationIntent

/-- `BudgetSettlementRequest`. -/
structure BudgetSettlementRequest where
  settlementEventId : String
  reservationId : String
  expectedPreviousHash : String
  disposition : BudgetDisposition
  actualUnits : Option Nat
  evidenceDigest : String
  reasonCode : String
  nonDispatchProven : Bool
  zeroLiabilityProven : Bool
  releaseSlot : Bool
  allObligationsSettled : Bool
  additionalLiability : Bool
  scope : AttemptScope
  nonexecutionSealId : Option String
  deriving DecidableEq, Repr

/-- The members of `ValidatorIntentRequest` that the store reads back. -/
structure ValidatorIntentRequest where
  validatorIntentId : String
  commandId : String
  eventId : String
  scope : AttemptScope
  parentAttemptId : String
  checkId : String
  permissionUseId : String
  reservationId : String
  reservedUnits : Nat
  worstCaseUnits : Nat
  capUnits : Nat
  deriving DecidableEq, Repr

/-! ## Event bodies -/

/-- `lifecycle_from` and `lifecycle_to`, which a body has both or neither. -/
structure LifecycleChange where
  source : Option LifecycleState
  target : LifecycleState
  deriving DecidableEq, Repr

/-- The body of a settlement: its request and the accounting derived from it. -/
structure SettlementBody where
  request : BudgetSettlementRequest
  heldUnits : Nat
  chargedUnits : Nat
  uncertainty : Bool
  contradiction : Bool
  deriving DecidableEq, Repr

/-- The members of a receipt body that later operations read. -/
structure ReceiptBody where
  observationId : String
  logicalEffectId : String
  attemptId : String
  usageUnits : Option Nat
  classification : SourceControlClassification
  settlementEventId : String
  settlementHash : String
  slotAttemptId : String
  slotGeneration : Option Nat
  slotReleased : Bool
  reconcilesDispatch : Bool
  invalidatedRetryAuthorizationId : Option String
  deriving DecidableEq, Repr

/-- The members of an application, a terminal settlement or a finalization that name the slot. -/
structure SlotClosure where
  logicalEffectId : String
  slotAttemptId : String
  slotGeneration : Nat
  slotReleased : Bool
  deriving DecidableEq, Repr

/-- The members of an application body that later operations read. -/
structure ApplicationBody where
  applicationId : String
  observationId : String
  checkId : String
  validatorAttemptId : String
  verdict : Verdict
  classification : Option FailureClassification
  deriving DecidableEq, Repr

/-- A body by event kind; `recorded` stands for the kinds no modelled function looks into. -/
inductive EventDetail
  | intentCommitted (intent : OperationIntent) (capabilityClaimId : String)
  | operationLaunchClaimed (launchId capabilityClaimId intentEventId intentEventHash : String)
  | adapterContactClaimed (contactKind : ContactKind) (sourceId logicalEffectId attemptId : String)
  | budgetSettled (settlement : SettlementBody)
  | nondispatchProven (settlement : SettlementBody)
  | receipt (kind : ReceiptKind) (receipt : ReceiptBody)
  | validationApplied (application : ApplicationBody) (closure : SlotClosure)
  | terminalValidationSettled (validatorIntentId : Option String) (closure : SlotClosure)
  | operationFinalized (closure : SlotClosure)
  | effectAdopted (logicalEffectId slotAttemptId : String) (slotGeneration : Nat)
  | validatorIntentCommitted (request : ValidatorIntentRequest) (capabilityClaimId : String)
  | dependentAdoptionFenced (provenance : ProvenanceKind) (fenceId : String)
  | resumed (kind : EventKind) (pauseFenceId : String)
  | validationPauseSettled (validatorIntentId : String) (resultCessation : Bool)
  | recorded (kind : EventKind)
  deriving DecidableEq, Repr

/-- `event_kind`. -/
def EventDetail.kind : EventDetail → EventKind
  | intentCommitted _ _ => .intentCommitted
  | operationLaunchClaimed _ _ _ _ => .operationLaunchClaimed
  | adapterContactClaimed _ _ _ _ => .adapterContactClaimed
  | budgetSettled _ => .budgetSettled
  | nondispatchProven _ => .nondispatchProven
  | receipt kind _ => kind.eventKind
  | validationApplied application _ => application.verdict.eventKind
  | terminalValidationSettled _ _ => .terminalValidationSettled
  | operationFinalized _ => .operationFinalized
  | effectAdopted _ _ _ => .effectAdopted
  | validatorIntentCommitted _ _ => .validatorIntentCommitted
  | dependentAdoptionFenced _ _ => .dependentAdoptionFenced
  | resumed kind _ => kind
  | validationPauseSettled _ _ => .pauseSettled
  | recorded kind => kind

/-- The body of an event: the members every body has, and its detail. -/
structure EventBody where
  eventId : String
  commandId : String
  repositoryId : String
  runId : String
  itemId : String
  sequence : Nat
  previousEventHash : String
  lifecycle : Option LifecycleChange
  continuationCursor : Option (Option String)
  detail : EventDetail
  deriving DecidableEq, Repr

/-- `_event_hash` of a body and the digests of a contact id and of a dependent
adoption's fence. A hex digest is never empty. -/
structure StoreDigests where
  event : EventBody → String
  event_ne_empty : ∀ body, event body ≠ ""
  contactId : ContactKind → String → String
  adoptionFence : String → String → String → String → String

/-! ## Rows -/

/-- A row of `runs`, with the logical effect of the plan it was accepted with. -/
structure RunRow where
  runId : String
  repositoryId : String
  itemId : String
  logicalEffectId : String
  lifecycleState : LifecycleState
  continuationCursor : Option String
  headSequence : Nat
  headHash : String
  deriving DecidableEq, Repr

instance : Constrained RunRow where
  Conflict a b := a.runId = b.runId
  decidable _ _ := inferInstance
  symm _ _ := Eq.symm

/-- A row of `events`. -/
structure EventRow where
  eventHash : String
  body : EventBody
  deriving DecidableEq, Repr

instance : Constrained EventRow where
  Conflict a b := a.body.eventId = b.body.eventId ∨
    (a.body.runId = b.body.runId ∧ a.body.sequence = b.body.sequence) ∨ a.eventHash = b.eventHash
  decidable _ _ := inferInstance
  symm _ _ := by simp only [eq_comm, imp_self]

/-- A row of `command_outcomes`. -/
structure CommandOutcome where
  commandId : String
  eventId : String
  sequence : Nat
  eventHash : String
  deriving DecidableEq, Repr

instance : Constrained CommandOutcome where
  Conflict a b := a.commandId = b.commandId
  decidable _ _ := inferInstance
  symm _ _ := Eq.symm

/-- A row of `effects`. -/
structure DurableEffect where
  repositoryId : String
  logicalEffectId : String
  descriptorDigest : String
  deriving DecidableEq, Repr

instance : Constrained DurableEffect where
  Conflict a b := a.repositoryId = b.repositoryId ∧ a.logicalEffectId = b.logicalEffectId
  decidable _ _ := inferInstance
  symm _ _ := by simp only [eq_comm, imp_self]

/-- A row of `permission_uses`. -/
structure PermissionUse where
  permissionUseId : String
  repositoryId : String
  logicalEffectId : String
  attemptId : String
  deriving DecidableEq, Repr

instance : Constrained PermissionUse where
  Conflict a b := a.permissionUseId = b.permissionUseId ∨ (a.repositoryId = b.repositoryId ∧
    a.logicalEffectId = b.logicalEffectId ∧ a.attemptId = b.attemptId)
  decidable _ _ := inferInstance
  symm _ _ := by simp only [eq_comm, imp_self]

/-- A row of `capability_redemptions`. -/
structure Redemption where
  claimId : String
  repositoryId : String
  grantId : String
  commandId : String
  logicalEffectId : String
  attemptId : String
  scopeDigest : String
  deriving DecidableEq, Repr

instance : Constrained Redemption where
  Conflict a b := a.claimId = b.claimId ∨ a.commandId = b.commandId
  decidable _ _ := inferInstance
  symm _ _ := by simp only [eq_comm, imp_self]

/-- A row of `budget_reservations`, with the bounds its CHECK constraints enforce. -/
structure Reservation where
  reservationId : String
  scope : AttemptScope
  reservedUnits : Nat
  worstCaseUnits : Nat
  capUnits : Nat
  heldUnits : Nat
  chargedUnits : Nat
  uncertainty : Bool
  disposition : BudgetDisposition
  settlementHeadHash : String
  reserved_le_worst : reservedUnits ≤ worstCaseUnits
  worst_le_cap : worstCaseUnits ≤ capUnits
  deriving DecidableEq

instance : Constrained Reservation where
  Conflict a b := a.reservationId = b.reservationId ∨
    (a.scope.repositoryId = b.scope.repositoryId ∧
      a.scope.logicalEffectId = b.scope.logicalEffectId ∧ a.scope.attemptId = b.scope.attemptId)
  decidable _ _ := inferInstance
  symm _ _ := by simp only [eq_comm, imp_self]

/-- A row of `budget_settlements`; its columns are members of its body. -/
structure SettlementRow where
  settlementHash : String
  nondispatch : Bool
  body : SettlementBody
  deriving DecidableEq, Repr

namespace SettlementRow

def settlementEventId (row : SettlementRow) : String := row.body.request.settlementEventId

def reservationId (row : SettlementRow) : String := row.body.request.reservationId

def previousHash (row : SettlementRow) : String := row.body.request.expectedPreviousHash

end SettlementRow

instance : Constrained SettlementRow where
  Conflict a b := a.settlementEventId = b.settlementEventId ∨ a.settlementHash = b.settlementHash
  decidable _ _ := inferInstance
  symm _ _ := by simp only [eq_comm, imp_self]

/-- The identities of fences, by what raised them; `other` is any further text. -/
inductive FenceId
  | budgetBreach (settlementEventId : String)
  | lateAccounting (settlementEventId : String)
  | additionalLiability (settlementEventId : String)
  | nonexecutionContradiction (settlementEventId : String)
  | retryInitiationDisabled (authorizationId : String)
  | failedFinal (applicationId : String)
  | dependentAdoption (digest : String)
  | validatorInitiationDisabled (validatorIntentId : String)
  | pause (fenceId : String)
  | other (text : String)
  deriving DecidableEq, Repr

/-- The reason codes the modelled operations write; `other` is any further code. -/
inductive FenceReason
  | budgetCapExceeded
  | lateAccountingAfterRelease
  | additionalLiabilityUnresolved
  | nonexecutionContradiction
  | recoveryInitiationDisabled
  | failedFinalApplication
  | dependentAdoption (provenance : ProvenanceKind)
  | validationLaunchPrerequisiteChanged
  | other (code : String)
  deriving DecidableEq, Repr

/-- A row of `dispatch_fences`. -/
structure Fence where
  fenceId : FenceId
  repositoryId : String
  itemId : Option String
  logicalEffectId : Option String
  reasonCode : FenceReason
  originatingEventId : String
  deriving DecidableEq, Repr

instance : Constrained Fence where
  Conflict a b := a.fenceId = b.fenceId
  decidable _ _ := inferInstance
  symm _ _ := Eq.symm

/-- A fence over the whole repository, over the item or over the effect. -/
def Fence.applies (fence : Fence) (scope : AttemptScope) : Bool :=
  fence.repositoryId = scope.repositoryId &&
    ((fence.itemId = none && fence.logicalEffectId = none) || fence.itemId = some scope.itemId ||
      fence.logicalEffectId = some scope.logicalEffectId)

/-- `origin_kind` of a slot or an operation. -/
inductive OriginKind
  | executionIntent
  | effectAdoption
  deriving DecidableEq, Repr

/-- The row of `outstanding_slot`; `singleton` is its primary key. -/
structure SlotRow where
  repositoryId : String
  runId : String
  logicalEffectId : String
  attemptId : String
  generation : Nat
  originKind : OriginKind
  originId : String
  deriving DecidableEq, Repr

instance : Constrained SlotRow where
  Conflict _ _ := True
  decidable _ _ := inferInstance
  symm _ _ := id

/-- A row of `operation_origins`. -/
structure OperationOrigin where
  repositoryId : String
  runId : String
  logicalEffectId : String
  originKind : OriginKind
  originId : String
  deriving DecidableEq, Repr

instance : Constrained OperationOrigin where
  Conflict a b := a.runId = b.runId
  decidable _ _ := inferInstance
  symm _ _ := Eq.symm

/-- A row of `operation_launches`. -/
structure Launch where
  launchId : String
  eventId : String
  scope : AttemptScope
  capabilityClaimId : String
  intentEventId : String
  intentEventHash : String
  eventHash : String
  deriving DecidableEq, Repr

instance : Constrained Launch where
  Conflict a b := a.launchId = b.launchId ∨ a.eventId = b.eventId ∨
    a.capabilityClaimId = b.capabilityClaimId ∨ a.eventHash = b.eventHash ∨
    (a.scope.repositoryId = b.scope.repositoryId ∧
      a.scope.logicalEffectId = b.scope.logicalEffectId ∧ a.scope.attemptId = b.scope.attemptId)
  decidable _ _ := inferInstance
  symm _ _ := by simp only [eq_comm, imp_self]

/-- A row of `adapter_contacts`. -/
structure Contact where
  contactId : String
  eventId : String
  scope : AttemptScope
  contactKind : ContactKind
  sourceId : String
  targetDigest : String
  eventHash : String
  deriving DecidableEq, Repr

instance : Constrained Contact where
  Conflict a b := a.contactId = b.contactId ∨ a.eventId = b.eventId ∨ a.sourceId = b.sourceId ∨
    a.eventHash = b.eventHash
  decidable _ _ := inferInstance
  symm _ _ := by simp only [eq_comm, imp_self]

/-- `status` of a retry authorization. -/
inductive AuthorizationStatus
  | available
  | consumed
  | disabled
  deriving DecidableEq, Repr

/-- A row of `operation_retry_authorizations` or of
`safe_same_effect_retry_authorizations`, by `kind`, with the columns of the
recovery action it joins. -/
structure RetryAuthorization where
  kind : RetryKind
  authorizationId : String
  recoveryId : String
  scope : AttemptScope
  successorAttemptId : String
  sourceGeneration : Nat
  targetGeneration : Nat
  effectDescriptorDigest : String
  outcomeFenceId : String
  coveredActivityUncertaintyIds : List String
  status : AuthorizationStatus
  consumingEventId : Option String
  disablingEventId : Option String
  deriving DecidableEq, Repr

instance : Constrained RetryAuthorization where
  Conflict a b := a.kind = b.kind ∧
    (a.authorizationId = b.authorizationId ∨ a.recoveryId = b.recoveryId)
  decidable _ _ := inferInstance
  symm _ _ := by simp only [eq_comm, imp_self]

/-- A row of `effect_observations`, with the sequence its body names. -/
structure Observation where
  observationId : String
  sourceReceiptId : String
  commandId : String
  eventId : String
  scope : AttemptScope
  sourceClaimId : String
  usageUnits : Option Nat
  settlementEventId : String
  settlementHash : String
  eventHash : String
  sequence : Nat
  resultingState : LifecycleState
  deriving DecidableEq, Repr

instance : Constrained Observation where
  Conflict a b := a.observationId = b.observationId ∨ a.sourceReceiptId = b.sourceReceiptId ∨
    a.commandId = b.commandId ∨ a.eventId = b.eventId ∨ a.eventHash = b.eventHash
  decidable _ _ := inferInstance
  symm _ _ := by simp only [eq_comm, imp_self]

/-- A row of `validator_intents`; `active` is its status, and the attempt of its
scope is the validator's. -/
structure ValidatorIntent where
  validatorIntentId : String
  eventId : String
  scope : AttemptScope
  checkId : String
  parentAttemptId : String
  reservationId : String
  capabilityClaimId : String
  active : Bool
  deriving DecidableEq, Repr

instance : Constrained ValidatorIntent where
  Conflict a b := a.validatorIntentId = b.validatorIntentId ∨ a.eventId = b.eventId ∨
    a.reservationId = b.reservationId ∨ a.capabilityClaimId = b.capabilityClaimId
  decidable _ _ := inferInstance
  symm _ _ := by simp only [eq_comm, imp_self]

/-- No key of an intent tells whether it is active. -/
theorem ValidatorIntent.conflict_inactive (intent other : ValidatorIntent) :
    Conflict { intent with active := false } other ↔ Conflict intent other := Iff.rfl

/-- A row of `validator_observations`. -/
structure ValidatorObservation where
  observationId : String
  sourceResultId : String
  commandId : String
  eventId : String
  scope : AttemptScope
  validatorIntentId : String
  checkId : String
  verdict : Verdict
  usageUnits : Option Nat
  settlementEventId : String
  settlementHash : String
  applied : Bool
  deriving DecidableEq, Repr

instance : Constrained ValidatorObservation where
  Conflict a b := a.observationId = b.observationId ∨ a.sourceResultId = b.sourceResultId ∨
    a.commandId = b.commandId ∨ a.eventId = b.eventId
  decidable _ _ := inferInstance
  symm _ _ := by simp only [eq_comm, imp_self]

/-- A row of `validation_requirements`, by the run of its plan. -/
structure Requirement where
  runId : String
  checkId : String
  deriving DecidableEq, Repr

instance : Constrained Requirement where
  Conflict a b := a = b
  decidable _ _ := inferInstance
  symm _ _ := Eq.symm

/-- A row of `validation_applications`, with the sequence of its event. -/
structure Application where
  applicationId : String
  commandId : String
  eventId : String
  runId : String
  checkId : String
  observationId : String
  verdict : Verdict
  classification : Option FailureClassification
  sequence : Nat
  deriving DecidableEq, Repr

instance : Constrained Application where
  Conflict a b := a.applicationId = b.applicationId ∨ a.commandId = b.commandId ∨
    a.eventId = b.eventId ∨ a.observationId = b.observationId
  decidable _ _ := inferInstance
  symm _ _ := by simp only [eq_comm, imp_self]

/-- The columns of an `effect_adoptions` row that the slot checks read. -/
structure Adoption where
  adoptionId : String
  eventId : String
  repositoryId : String
  runId : String
  logicalEffectId : String
  slotAttemptId : String
  slotGeneration : Nat
  deriving DecidableEq, Repr

instance : Constrained Adoption where
  Conflict a b := a.adoptionId = b.adoptionId ∨ a.eventId = b.eventId ∨ a.runId = b.runId
  decidable _ _ := inferInstance
  symm _ _ := by simp only [eq_comm, imp_self]

/-- A row of `adoption_dependencies`, less the adoption it records. -/
structure AdoptionDependency where
  repositoryId : String
  ancestorRunId : String
  dependentRunId : String
  depth : Nat
  distinct : ancestorRunId ≠ dependentRunId
  deriving DecidableEq

instance : Constrained AdoptionDependency where
  Conflict a b := a.repositoryId = b.repositoryId ∧ a.ancestorRunId = b.ancestorRunId ∧
    a.dependentRunId = b.dependentRunId
  decidable _ _ := inferInstance
  symm _ _ := by simp only [eq_comm, imp_self]

/-- A row of `external_pause_actions`, or of `validation_pause_actions` with the
validator intent it pauses. -/
structure PauseAction where
  eventId : String
  fenceId : String
  scope : AttemptScope
  validatorIntentId : Option String
  deriving DecidableEq, Repr

instance : Constrained PauseAction where
  Conflict a b := a.eventId = b.eventId ∨ a.fenceId = b.fenceId
  decidable _ _ := inferInstance
  symm _ _ := by simp only [eq_comm, imp_self]

/-- The tables of the controller store. -/
structure Store where
  runs : Table RunRow
  events : Table EventRow
  commandOutcomes : Table CommandOutcome
  effects : Table DurableEffect
  permissionUses : Table PermissionUse
  redemptions : Table Redemption
  reservations : Table Reservation
  settlements : Table SettlementRow
  fences : Table Fence
  slot : Table SlotRow
  origins : Table OperationOrigin
  launches : Table Launch
  contacts : Table Contact
  authorizations : Table RetryAuthorization
  observations : Table Observation
  validatorIntents : Table ValidatorIntent
  validatorObservations : Table ValidatorObservation
  requirements : Table Requirement
  applications : Table Application
  adoptions : Table Adoption
  dependencies : Table AdoptionDependency
  pauses : Table PauseAction
  deriving DecidableEq

namespace Store

/-- A database right after `initialize`. -/
def empty : Store where
  runs := .empty
  events := .empty
  commandOutcomes := .empty
  effects := .empty
  permissionUses := .empty
  redemptions := .empty
  reservations := .empty
  settlements := .empty
  fences := .empty
  slot := .empty
  origins := .empty
  launches := .empty
  contacts := .empty
  authorizations := .empty
  observations := .empty
  validatorIntents := .empty
  validatorObservations := .empty
  requirements := .empty
  applications := .empty
  adoptions := .empty
  dependencies := .empty
  pauses := .empty

/-! ## Queries -/

/-- `SELECT * FROM runs WHERE run_id = ?`. -/
def run? (store : Store) (runId : String) : Option RunRow :=
  store.runs.find? (fun row => row.runId = runId)

/-- `SELECT * FROM outstanding_slot WHERE repository_id = ?`. -/
def slot? (store : Store) (repositoryId : String) : Option SlotRow :=
  store.slot.find? (fun row => row.repositoryId = repositoryId)

/-- `SELECT * FROM budget_reservations WHERE reservation_id = ?`. -/
def reservation? (store : Store) (reservationId : String) : Option Reservation :=
  store.reservations.find? (fun row => row.reservationId = reservationId)

end Store

end Aegis.DeliveryControl
