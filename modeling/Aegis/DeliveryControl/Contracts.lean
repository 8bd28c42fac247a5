/-
# DeliveryControl.Contracts — the enumerations and errors of the kernel

The closed vocabularies of `contracts.py` that the store, the settlement rules
and the lifecycle table share, and the exceptions its operations raise. An
enumeration's `value` is the text the source stores and prints.
-/
import Mathlib.Tactic.Common

namespace Aegis.DeliveryControl

set_option autoImplicit false

/-- `LifecycleState`, the state of one run. -/
inductive LifecycleState
  | planned
  | running
  | pausing
  | paused
  | validating
  | reconciliationRequired
  | blocked
  | failedFinal
  | completed
  | stopped
  deriving DecidableEq, Repr

namespace LifecycleState

def value : LifecycleState → String
  | planned => "PLANNED"
  | running => "RUNNING"
  | pausing => "PAUSING"
  | paused => "PAUSED"
  | validating => "VALIDATING"
  | reconciliationRequired => "RECONCILIATION_REQUIRED"
  | blocked => "BLOCKED"
  | failedFinal => "FAILED_FINAL"
  | completed => "COMPLETED"
  | stopped => "STOPPED"

/-- `TERMINAL_STATES`. -/
def terminal : LifecycleState → Bool
  | completed | failedFinal | stopped => true
  | _ => false

end LifecycleState

/-- `BudgetDisposition`, the latest accounting of one reservation. -/
inductive BudgetDisposition
  | reserved
  | consumed
  | adjusted
  | released
  | unknownWorstCaseCharged
  deriving DecidableEq, Repr

def BudgetDisposition.value : BudgetDisposition → String
  | reserved => "RESERVED"
  | consumed => "CONSUMED"
  | adjusted => "ADJUSTED"
  | released => "RELEASED"
  | unknownWorstCaseCharged => "UNKNOWN_WORST_CASE_CHARGED"

/-- `FailureClassification`: retryable versus permanently terminal. -/
inductive FailureClassification
  | recoverable
  | final
  deriving DecidableEq, Repr

/-- `SourceControlClassification` of a receipt. -/
inductive SourceControlClassification
  | known
  | unknown
  deriving DecidableEq, Repr

/-- The event kinds of `_EVENT_KINDS`. -/
inductive EventKind
  | adapterContactClaimed
  | authorityEvaluated
  | bindingMismatch
  | blockerResolved
  | budgetSettled
  | dependentAdoptionFenced
  | effectAdopted
  | intentCommitted
  | lateReceiptRecorded
  | nondispatchProven
  | operationFinalized
  | operationLaunchClaimed
  | pauseRequested
  | pauseFenceRecorded
  | pauseSettled
  | planAccepted
  | readinessEvaluated
  | reconciliationRecorded
  | reconciliationPauseResumed
  | receiptRecorded
  | resumeAccepted
  | stopRecorded
  | stopEscalated
  | terminalValidationSettled
  | validationFailed
  | validationCheckRouted
  | validationApplicationDenied
  | validationGateFactRecorded
  | validationLaunchBlocked
  | validationLaunchEvaluated
  | validationPauseCheckpointed
  | validationPauseRequested
  | validationPassed
  | validatorCessationRecorded
  | validatorInitiationDisabled
  | validatorIntentCommitted
  | validatorObservationRecorded
  deriving DecidableEq, Repr

namespace EventKind

def value : EventKind → String
  | adapterContactClaimed => "ADAPTER_CONTACT_CLAIMED"
  | authorityEvaluated => "AUTHORITY_EVALUATED"
  | bindingMismatch => "BINDING_MISMATCH"
  | blockerResolved => "BLOCKER_RESOLVED"
  | budgetSettled => "BUDGET_SETTLED"
  | dependentAdoptionFenced => "DEPENDENT_ADOPTION_FENCED"
  | effectAdopted => "EFFECT_ADOPTED"
  | intentCommitted => "INTENT_COMMITTED"
  | lateReceiptRecorded => "LATE_RECEIPT_RECORDED"
  | nondispatchProven => "NONDISPATCH_PROVEN"
  | operationFinalized => "OPERATION_FINALIZED"
  | operationLaunchClaimed => "OPERATION_LAUNCH_CLAIMED"
  | pauseRequested => "PAUSE_REQUESTED"
  | pauseFenceRecorded => "PAUSE_FENCE_RECORDED"
  | pauseSettled => "PAUSE_SETTLED"
  | planAccepted => "PLAN_ACCEPTED"
  | readinessEvaluated => "READINESS_EVALUATED"
  | reconciliationRecorded => "RECONCILIATION_RECORDED"
  | reconciliationPauseResumed => "RECONCILIATION_PAUSE_RESUMED"
  | receiptRecorded => "RECEIPT_RECORDED"
  | resumeAccepted => "RESUME_ACCEPTED"
  | stopRecorded => "STOP_RECORDED"
  | stopEscalated => "STOP_ESCALATED"
  | terminalValidationSettled => "TERMINAL_VALIDATION_SETTLED"
  | validationFailed => "VALIDATION_FAILED"
  | validationCheckRouted => "VALIDATION_CHECK_ROUTED"
  | validationApplicationDenied => "VALIDATION_APPLICATION_DENIED"
  | validationGateFactRecorded => "VALIDATION_GATE_FACT_RECORDED"
  | validationLaunchBlocked => "VALIDATION_LAUNCH_BLOCKED"
  | validationLaunchEvaluated => "VALIDATION_LAUNCH_EVALUATED"
  | validationPauseCheckpointed => "VALIDATION_PAUSE_CHECKPOINTED"
  | validationPauseRequested => "VALIDATION_PAUSE_REQUESTED"
  | validationPassed => "VALIDATION_PASSED"
  | validatorCessationRecorded => "VALIDATOR_CESSATION_RECORDED"
  | validatorInitiationDisabled => "VALIDATOR_INITIATION_DISABLED"
  | validatorIntentCommitted => "VALIDATOR_INTENT_COMMITTED"
  | validatorObservationRecorded => "VALIDATOR_OBSERVATION_RECORDED"

/-- `_EVENT_KINDS`. -/
def all : List EventKind :=
  [.adapterContactClaimed, .authorityEvaluated, .bindingMismatch, .blockerResolved,
    .budgetSettled, .dependentAdoptionFenced, .effectAdopted, .intentCommitted,
    .lateReceiptRecorded, .nondispatchProven, .operationFinalized, .operationLaunchClaimed,
    .pauseRequested, .pauseFenceRecorded, .pauseSettled, .planAccepted, .readinessEvaluated,
    .reconciliationRecorded, .reconciliationPauseResumed, .receiptRecorded, .resumeAccepted,
    .stopRecorded, .stopEscalated, .terminalValidationSettled, .validationFailed,
    .validationCheckRouted, .validationApplicationDenied, .validationGateFactRecorded,
    .validationLaunchBlocked, .validationLaunchEvaluated, .validationPauseCheckpointed,
    .validationPauseRequested, .validationPassed, .validatorCessationRecorded,
    .validatorInitiationDisabled, .validatorIntentCommitted, .validatorObservationRecorded]

end EventKind

/-- What an operation of the kernel raises, with its message. -/
inductive ControlError
  | valueError (message : String)
  | dispatchDenied (message : String)
  | storageIntegrityError (message : String)
  /-- A uniqueness or key constraint of the database refused a row. -/
  | integrityError (message : String)
  deriving DecidableEq, Repr

/-- The characters that `str.strip` removes. -/
def pythonSpace (c : Char) : Bool :=
  let n := c.toNat
  (9 ≤ n && n ≤ 13) || (28 ≤ n && n ≤ 32) || n = 0x85 || n = 0xa0 || n = 0x1680 ||
    (0x2000 ≤ n && n ≤ 0x200a) || n = 0x2028 || n = 0x2029 || n = 0x202f || n = 0x205f ||
    n = 0x3000

/-- `value.strip()` is non-empty. -/
def nonBlank (value : String) : Bool :=
  value.toList.any (fun c => !pythonSpace c)

/-! ## Capabilities and requests -/

/-- `SyntheticCapability`, the claimed right to one effect attempt. -/
structure SyntheticCapability where
  claimId : String
  grantId : String
  repositoryId : String
  logicalEffectId : String
  attemptId : String
  scopeDigest : String
  issuerMac : String
  deriving DecidableEq, Repr

/-- `SyntheticValidatorCapability`, the claimed right to one validator attempt. -/
structure SyntheticValidatorCapability where
  claimId : String
  grantId : String
  repositoryId : String
  logicalEffectId : String
  revisionDigest : String
  checkId : String
  inputDigest : String
  validatorAttemptId : String
  scopeDigest : String
  containmentDigest : String
  issuerMac : String
  deriving DecidableEq, Repr

/-- `IntentRequest`. -/
structure IntentRequest where
  repositoryId : String
  runId : String
  itemId : String
  commandId : String
  eventId : String
  logicalEffectId : String
  effectDescriptorDigest : String
  attemptId : String
  permissionUseId : String
  reservationId : String
  budgetPolicyDigest : String
  reservedUnits : Nat
  worstCaseUnits : Nat
  capUnits : Nat
  deriving DecidableEq, Repr

/-- `SyntheticEffectRequest`. -/
structure SyntheticEffectRequest where
  repositoryId : String
  logicalEffectId : String
  attemptId : String
  scopeDigest : String
  payloadDigest : String
  deriving DecidableEq, Repr

/-- `SyntheticValidatorRequest`, without the containment members that only the
containment check reads. -/
structure SyntheticValidatorRequest where
  repositoryId : String
  logicalEffectId : String
  revisionDigest : String
  checkId : String
  inputDigest : String
  validatorAttemptId : String
  resultDigest : String
  verdict : String
  deriving DecidableEq, Repr

end Aegis.DeliveryControl
