/-
# DeliveryControl.TargetLedger — the ledgers of the two synthetic targets

`adapters.py`: the effect target keeps `synthetic_effects` and the non-execution
seals, the validator target keeps `synthetic_validator_results`, its
non-execution seals and the cessation seals. Every transaction checks inside
the ledger, so whatever order the callers come in:

* a claim never has both a non-execution seal and an execution row;
* a ceased validator claim never gets a result row any more;
* a byte-identical seal is answered as a replay, any other use of its identity
  is refused, and neither writes.

`D` is the type of digests; the digest functions are parameters.
-/
import Aegis.DeliveryControl.Contracts
import Aegis.Lib.Runs
import Aegis.Lib.Table

namespace Aegis.DeliveryControl.TargetLedger

open Aegis.Lib
open Aegis.Lib.Guarded
open Aegis.Lib.Runs

set_option autoImplicit false

/-! ## Rows -/

/-- The kind of contact a seal closes. -/
inductive ContactKind
  | effect
  | validator
  deriving DecidableEq, Repr

/-- `SyntheticNonexecutionAttestation`. -/
structure NonexecutionAttestation (D : Type) where
  attestationId : String
  sealId : String
  contactKind : ContactKind
  targetDigest : D
  claimId : String
  sourceId : String
  sourceEventHash : String
  reservationId : String
  repositoryId : String
  runId : String
  itemId : String
  logicalEffectId : String
  attemptId : String
  action : String
  policyId : String
  policyVersion : String
  issuerMac : String
  deriving DecidableEq, Repr

/-- `SyntheticValidatorCessationAttestation`. -/
structure CessationAttestation (D : Type) where
  attestationId : String
  cessationId : String
  targetDigest : D
  claimId : String
  sourceId : String
  sourceEventHash : String
  repositoryId : String
  runId : String
  itemId : String
  logicalEffectId : String
  revisionDigest : String
  checkId : String
  validatorAttemptId : String
  action : String
  policyId : String
  policyVersion : String
  issuerMac : String
  deriving DecidableEq, Repr

/-- The body of a non-execution seal: the attestation with its digest. Its
`body_json` is the canonical text of this record. -/
structure SealBody (D : Type) where
  attestation : NonexecutionAttestation D
  attestationDigest : D
  sealVersion : Nat
  deriving DecidableEq, Repr

/-- A row of `synthetic_nonexecution_seals`. -/
structure SealRow (D : Type) where
  sealId : String
  contactKind : ContactKind
  targetDigest : D
  claimId : String
  sourceId : String
  sourceEventHash : String
  reservationId : String
  repositoryId : String
  runId : String
  itemId : String
  logicalEffectId : String
  attemptId : String
  attestationId : String
  attestationDigest : D
  sealHash : D
  bodyJson : SealBody D
  deriving DecidableEq, Repr

/-- The body of a cessation seal. -/
structure CessationBody (D : Type) where
  attestation : CessationAttestation D
  allDescendantsCeased : Bool
  attestationDigest : D
  cessationVersion : Nat
  resultAvailable : Bool
  resultId : Option D
  resultDigest : Option String
  deriving DecidableEq, Repr

/-- A row of `synthetic_validator_cessations`. -/
structure CessationRow (D : Type) where
  cessationId : String
  targetDigest : D
  claimId : String
  sourceId : String
  sourceEventHash : String
  repositoryId : String
  runId : String
  itemId : String
  logicalEffectId : String
  revisionDigest : String
  checkId : String
  validatorAttemptId : String
  resultId : Option D
  resultDigest : Option String
  resultAvailable : Bool
  attestationId : String
  attestationDigest : D
  cessationHash : D
  bodyJson : CessationBody D
  deriving DecidableEq, Repr

/-- A row of `synthetic_effects`; `accepted` is always 1. -/
structure EffectRow (D : Type) where
  claimId : String
  receiptId : D
  repositoryId : String
  runId : String
  itemId : String
  logicalEffectId : String
  attemptId : String
  payloadDigest : String
  usageUnits : Option Nat
  deriving DecidableEq, Repr

/-- A row of `synthetic_validator_results`; `final` is always 1. -/
structure ResultRow (D : Type) where
  claimId : String
  resultId : D
  repositoryId : String
  logicalEffectId : String
  revisionDigest : String
  checkId : String
  inputDigest : String
  validatorAttemptId : String
  resultDigest : String
  verdict : String
  usageUnits : Option Nat
  containmentVersion : Nat
  containmentDigest : String
  deriving DecidableEq, Repr

section Constraints

variable {D : Type} [DecidableEq D]

instance : Constrained (SealRow D) where
  Conflict a b := a.sealId = b.sealId ∨ a.claimId = b.claimId ∨ a.sourceId = b.sourceId ∨
    a.reservationId = b.reservationId ∨ a.attestationId = b.attestationId ∨
    a.sealHash = b.sealHash
  decidable _ _ := inferInstance
  symm _ _ := by simp only [eq_comm, imp_self]

instance : Constrained (CessationRow D) where
  Conflict a b := a.cessationId = b.cessationId ∨ a.claimId = b.claimId ∨
    a.sourceId = b.sourceId ∨ a.attestationId = b.attestationId ∨
    a.cessationHash = b.cessationHash
  decidable _ _ := inferInstance
  symm _ _ := by simp only [eq_comm, imp_self]

instance : Constrained (EffectRow D) where
  Conflict a b := a.claimId = b.claimId ∨ a.receiptId = b.receiptId
  decidable _ _ := inferInstance
  symm _ _ := by simp only [eq_comm, imp_self]

instance : Constrained (ResultRow D) where
  Conflict a b := a.claimId = b.claimId ∨ a.resultId = b.resultId
  decidable _ _ := inferInstance
  symm _ _ := by simp only [eq_comm, imp_self]

end Constraints

/-! ## Authority, digests and the target's identity -/

/-- The digests the adapters compute, each over the canonical text of its payload. -/
structure LedgerDigests (D : Type) where
  target : ContactKind → String → String → D
  nonexecutionAttestation : NonexecutionAttestation D → D
  nonexecutionSeal : SealBody D → D
  cessationAttestation : CessationAttestation D → D
  cessation : CessationBody D → D
  receiptId : String → String → String → String → D
  resultId : String → String → String → D
  support : D

/-- An authority as the ledgers see it: its MACs over the members of an
attestation other than `issuer_mac`. -/
structure AttestationIssuer (D : Type) where
  nonexecutionMac : NonexecutionAttestation D → String
  cessationMac : CessationAttestation D → String

/-- One adapter object: the ledger file it opened and the repository it is canonical for. -/
structure TargetAdapter where
  canonicalRepositoryId : Option String
  ledgerAtCanonicalPath : Bool
  canonicalPath : String

section Operations

variable {D : Type} [DecidableEq D]

/-- `verify_nonexecution_attestation`. -/
def AttestationIssuer.verifyNonexecutionAttestation (issuer : AttestationIssuer D)
    (attestation : NonexecutionAttestation D) : Except ControlError Unit := do
  require (issuer.nonexecutionMac { attestation with issuerMac := "" } = attestation.issuerMac)
    (ControlError.dispatchDenied "synthetic nonexecution attestation was not issued here")
  require (attestation.action = "SEAL_NONEXECUTION" ∧
      attestation.policyId = "nonexecution-policy" ∧ attestation.policyVersion = "1")
    (ControlError.dispatchDenied "synthetic nonexecution attestation has an unsupported policy")

/-- `verify_validator_cessation_attestation`. -/
def AttestationIssuer.verifyValidatorCessationAttestation (issuer : AttestationIssuer D)
    (attestation : CessationAttestation D) : Except ControlError Unit := do
  require (issuer.cessationMac { attestation with issuerMac := "" } = attestation.issuerMac)
    (ControlError.dispatchDenied "synthetic validator cessation attestation was not issued here")
  require (attestation.action = "CEASE_VALIDATOR" ∧
      attestation.policyId = "validator-cessation-policy" ∧ attestation.policyVersion = "1")
    (ControlError.dispatchDenied
      "synthetic validator cessation attestation has an unsupported policy")

def notCanonicalMessage : ContactKind → String
  | .effect => "synthetic target is not the canonical repository root"
  | .validator => "synthetic validator is not the canonical repository root"

/-- `_target_digest`: the identity of the ledger, for its canonical repository only. -/
def TargetAdapter.targetDigest (digests : LedgerDigests D) (adapter : TargetAdapter)
    (kind : ContactKind) (repositoryId : String) : Except ControlError D := do
  require (adapter.canonicalRepositoryId = some repositoryId ∧ adapter.ledgerAtCanonicalPath)
    (ControlError.dispatchDenied (notCanonicalMessage kind))
  return digests.target kind repositoryId adapter.canonicalPath

/-! ## The non-execution seal -/

/-- The body a non-execution attestation is sealed with. -/
def sealBody (digests : LedgerDigests D) (attestation : NonexecutionAttestation D) : SealBody D :=
  ⟨attestation, digests.nonexecutionAttestation attestation, 1⟩

/-- The row a non-execution attestation is sealed with. -/
def sealRow (digests : LedgerDigests D) (attestation : NonexecutionAttestation D) : SealRow D where
  sealId := attestation.sealId
  contactKind := attestation.contactKind
  targetDigest := attestation.targetDigest
  claimId := attestation.claimId
  sourceId := attestation.sourceId
  sourceEventHash := attestation.sourceEventHash
  reservationId := attestation.reservationId
  repositoryId := attestation.repositoryId
  runId := attestation.runId
  itemId := attestation.itemId
  logicalEffectId := attestation.logicalEffectId
  attemptId := attestation.attemptId
  attestationId := attestation.attestationId
  attestationDigest := digests.nonexecutionAttestation attestation
  sealHash := digests.nonexecutionSeal (sealBody digests attestation)
  bodyJson := sealBody digests attestation

/-- `NonexecutionSealReceipt`. -/
structure NonexecutionSealReceipt (D : Type) where
  sealId : String
  contactKind : ContactKind
  targetDigest : D
  claimId : String
  sourceId : String
  reservationId : String
  sealHash : D
  replayed : Bool
  deriving DecidableEq, Repr

/-- The receipt for an attestation on this ledger. -/
def sealReceipt (digests : LedgerDigests D) (attestation : NonexecutionAttestation D)
    (replayed : Bool) : NonexecutionSealReceipt D where
  sealId := attestation.sealId
  contactKind := attestation.contactKind
  targetDigest := attestation.targetDigest
  claimId := attestation.claimId
  sourceId := attestation.sourceId
  reservationId := attestation.reservationId
  sealHash := digests.nonexecutionSeal (sealBody digests attestation)
  replayed := replayed

/-- The stored seal uses one of the attestation's identities. -/
def SealRow.sharesIdentity (row : SealRow D) (attestation : NonexecutionAttestation D) : Bool :=
  row.sealId = attestation.sealId || row.claimId = attestation.claimId ||
    row.sourceId = attestation.sourceId || row.reservationId = attestation.reservationId ||
    row.attestationId = attestation.attestationId

/-- `_record_nonexecution_seal`; `executed` asks the target's execution table. -/
def recordNonexecutionSeal (digests : LedgerDigests D) (seals : Table (SealRow D))
    (attestation : NonexecutionAttestation D) (expectedKind : ContactKind) (targetDigest : D)
    (executed : String → Bool) :
    Except ControlError (NonexecutionSealReceipt D × Table (SealRow D)) := do
  require (attestation.contactKind = expectedKind ∧ attestation.targetDigest = targetDigest)
    (ControlError.dispatchDenied "synthetic nonexecution attestation does not bind this target")
  let body := sealBody digests attestation
  let sealHash := digests.nonexecutionSeal body
  match seals.find? (fun row => row.sharesIdentity attestation) with
  | some prior => do
      require (prior.sealHash = sealHash ∧ prior.bodyJson = body)
        (ControlError.dispatchDenied "synthetic nonexecution seal identity was rebound")
      return (sealReceipt digests attestation true, seals)
  | none => do
      refuse (executed attestation.claimId)
        (ControlError.dispatchDenied "synthetic nonexecution seal contradicts target execution")
      let seals ← seals.insert (sealRow digests attestation)
        (ControlError.integrityError "UNIQUE constraint failed: synthetic_nonexecution_seals")
      return (sealReceipt digests attestation false, seals)

/-! ## The effect target -/

/-- The tables of the effect target. -/
structure EffectLedger (D : Type) [DecidableEq D] where
  effects : Table (EffectRow D)
  seals : Table (SealRow D)

def EffectLedger.executed (ledger : EffectLedger D) (claimId : String) : Bool :=
  ledger.effects.any (fun row => row.claimId = claimId)

/-- `SyntheticExecutionAdapter.seal_nonexecution`. -/
def EffectLedger.sealNonexecution (digests : LedgerDigests D) (adapter : TargetAdapter)
    (ledger : EffectLedger D) (attestation : NonexecutionAttestation D)
    (issuer : AttestationIssuer D) :
    Except ControlError (NonexecutionSealReceipt D × EffectLedger D) := do
  issuer.verifyNonexecutionAttestation attestation
  let targetDigest ← adapter.targetDigest digests .effect attestation.repositoryId
  let (receipt, seals) ← recordNonexecutionSeal digests ledger.seals attestation .effect
    targetDigest ledger.executed
  return (receipt, { ledger with seals := seals })

/-- What `_execute_committed` hands to its target transaction. -/
structure EffectCall where
  capability : SyntheticCapability
  request : SyntheticEffectRequest
  intent : IntentRequest
  usageUnits : Option Nat
  loseReceipt : Bool
  deriving DecidableEq, Repr

/-- The row the target transaction inserts. -/
def EffectCall.row (digests : LedgerDigests D) (call : EffectCall) : EffectRow D where
  claimId := call.capability.claimId
  receiptId := digests.receiptId call.capability.claimId call.request.logicalEffectId
    call.request.attemptId call.request.payloadDigest
  repositoryId := call.intent.repositoryId
  runId := call.intent.runId
  itemId := call.intent.itemId
  logicalEffectId := call.request.logicalEffectId
  attemptId := call.request.attemptId
  payloadDigest := call.request.payloadDigest
  usageUnits := call.usageUnits

/-- `contact` of `SyntheticExecutionAdapter._execute_committed`: the target
transaction and the receipt, which may be lost. -/
def EffectLedger.contact (digests : LedgerDigests D) (ledger : EffectLedger D)
    (call : EffectCall) : Except ControlError (Option (EffectRow D) × EffectLedger D) := do
  refuse (ledger.seals.any (fun row => row.claimId = call.capability.claimId))
    (ControlError.dispatchDenied "synthetic capability was sealed as nonexecuted")
  refuse (ledger.executed call.capability.claimId)
    (ControlError.dispatchDenied "synthetic capability was already redeemed")
  let effects ← ledger.effects.insert (call.row digests)
    (ControlError.integrityError "UNIQUE constraint failed: synthetic_effects")
  return (if call.loseReceipt then none else some (call.row digests),
    { ledger with effects := effects })

/-! ## The validator target -/

/-- `synthetic_validator_metadata`: the support identity the ledger was opened with. -/
structure SupportMetadata (D : Type) where
  semanticVersion : Nat
  supportId : String
  supportDigest : D
  deriving DecidableEq, Repr

/-- The tables of the validator target. -/
structure ValidatorLedger (D : Type) [DecidableEq D] where
  metadata : Option (SupportMetadata D)
  results : Table (ResultRow D)
  seals : Table (SealRow D)
  cessations : Table (CessationRow D)

def ValidatorLedger.executed (ledger : ValidatorLedger D) (claimId : String) : Bool :=
  ledger.results.any (fun row => row.claimId = claimId)

/-- `SyntheticValidatorAdapter.seal_nonexecution`. -/
def ValidatorLedger.sealNonexecution (digests : LedgerDigests D) (adapter : TargetAdapter)
    (ledger : ValidatorLedger D) (attestation : NonexecutionAttestation D)
    (issuer : AttestationIssuer D) :
    Except ControlError (NonexecutionSealReceipt D × ValidatorLedger D) := do
  issuer.verifyNonexecutionAttestation attestation
  let targetDigest ← adapter.targetDigest digests .validator attestation.repositoryId
  let (receipt, seals) ← recordNonexecutionSeal digests ledger.seals attestation .validator
    targetDigest ledger.executed
  return (receipt, { ledger with seals := seals })

/-- The body of a cessation seal, with the result the ledger holds at that moment. -/
def cessationBody (digests : LedgerDigests D) (attestation : CessationAttestation D)
    (result : Option (ResultRow D)) : CessationBody D where
  attestation := attestation
  allDescendantsCeased := true
  attestationDigest := digests.cessationAttestation attestation
  cessationVersion := 1
  resultAvailable := result.isSome
  resultId := result.map (·.resultId)
  resultDigest := result.map (·.resultDigest)

/-- The row of a cessation seal. -/
def cessationRow (digests : LedgerDigests D) (attestation : CessationAttestation D)
    (targetDigest : D) (result : Option (ResultRow D)) : CessationRow D where
  cessationId := attestation.cessationId
  targetDigest := targetDigest
  claimId := attestation.claimId
  sourceId := attestation.sourceId
  sourceEventHash := attestation.sourceEventHash
  repositoryId := attestation.repositoryId
  runId := attestation.runId
  itemId := attestation.itemId
  logicalEffectId := attestation.logicalEffectId
  revisionDigest := attestation.revisionDigest
  checkId := attestation.checkId
  validatorAttemptId := attestation.validatorAttemptId
  resultId := result.map (·.resultId)
  resultDigest := result.map (·.resultDigest)
  resultAvailable := result.isSome
  attestationId := attestation.attestationId
  attestationDigest := digests.cessationAttestation attestation
  cessationHash := digests.cessation (cessationBody digests attestation result)
  bodyJson := cessationBody digests attestation result

/-- `ValidatorCessationSealReceipt`. -/
structure CessationSealReceipt (D : Type) where
  cessationId : String
  targetDigest : D
  claimId : String
  sourceId : String
  repositoryId : String
  runId : String
  itemId : String
  logicalEffectId : String
  revisionDigest : String
  checkId : String
  validatorAttemptId : String
  resultId : Option D
  resultDigest : Option String
  resultAvailable : Bool
  cessationHash : D
  replayed : Bool
  deriving DecidableEq, Repr

/-- `_cessation_receipt`. -/
def cessationReceipt (row : CessationRow D) (replayed : Bool) : CessationSealReceipt D where
  cessationId := row.cessationId
  targetDigest := row.targetDigest
  claimId := row.claimId
  sourceId := row.sourceId
  repositoryId := row.repositoryId
  runId := row.runId
  itemId := row.itemId
  logicalEffectId := row.logicalEffectId
  revisionDigest := row.revisionDigest
  checkId := row.checkId
  validatorAttemptId := row.validatorAttemptId
  resultId := row.resultId
  resultDigest := row.resultDigest
  resultAvailable := row.resultAvailable
  cessationHash := row.cessationHash
  replayed := replayed

/-- The stored cessation uses one of the attestation's identities. -/
def CessationRow.sharesIdentity (row : CessationRow D) (attestation : CessationAttestation D) :
    Bool :=
  row.cessationId = attestation.cessationId || row.claimId = attestation.claimId ||
    row.sourceId = attestation.sourceId || row.attestationId = attestation.attestationId

/-- `seal_cessation`. -/
def ValidatorLedger.sealCessation (digests : LedgerDigests D) (adapter : TargetAdapter)
    (ledger : ValidatorLedger D) (attestation : CessationAttestation D)
    (issuer : AttestationIssuer D) :
    Except ControlError (CessationSealReceipt D × ValidatorLedger D) := do
  issuer.verifyValidatorCessationAttestation attestation
  let targetDigest ← adapter.targetDigest digests .validator attestation.repositoryId
  require (attestation.targetDigest = targetDigest)
    (ControlError.dispatchDenied "synthetic validator cessation targets another ledger")
  match ledger.cessations.find? (fun row => row.sharesIdentity attestation) with
  | some prior => do
      require (prior.cessationId = attestation.cessationId ∧ prior.claimId = attestation.claimId ∧
          prior.sourceId = attestation.sourceId ∧
          prior.attestationId = attestation.attestationId ∧
          prior.attestationDigest = digests.cessationAttestation attestation)
        (ControlError.dispatchDenied "synthetic validator cessation identity was rebound")
      return (cessationReceipt prior true, ledger)
  | none => do
      let result := ledger.results.find? (fun row => row.claimId = attestation.claimId)
      let row := cessationRow digests attestation targetDigest result
      let cessations ← ledger.cessations.insert row
        (ControlError.integrityError "UNIQUE constraint failed: synthetic_validator_cessations")
      return (cessationReceipt row false, { ledger with cessations := cessations })

/-- What the validator's `_execute_committed` hands to its target transaction.
`containment` is the answer of the closed containment check on the same
arguments: the containment digest, or its refusal. -/
structure ValidatorCall where
  capability : SyntheticValidatorCapability
  request : SyntheticValidatorRequest
  containment : Except ControlError String
  usageUnits : Option Nat
  loseResult : Bool

/-- The row the validator's target transaction inserts. -/
def ValidatorCall.row (digests : LedgerDigests D) (call : ValidatorCall)
    (containmentDigest : String) : ResultRow D where
  claimId := call.capability.claimId
  resultId := digests.resultId call.capability.claimId call.request.resultDigest
    call.request.verdict
  repositoryId := call.request.repositoryId
  logicalEffectId := call.request.logicalEffectId
  revisionDigest := call.request.revisionDigest
  checkId := call.request.checkId
  inputDigest := call.request.inputDigest
  validatorAttemptId := call.request.validatorAttemptId
  resultDigest := call.request.resultDigest
  verdict := call.request.verdict
  usageUnits := call.usageUnits
  containmentVersion := 1
  containmentDigest := containmentDigest

/-- `contact` of `SyntheticValidatorAdapter._execute_committed`. -/
def ValidatorLedger.contact (digests : LedgerDigests D) (ledger : ValidatorLedger D)
    (call : ValidatorCall) : Except ControlError (Option (ResultRow D) × ValidatorLedger D) := do
  require (ledger.metadata =
      some ⟨1, "aegis.synthetic.validator.in-process.v1", digests.support⟩)
    (ControlError.dispatchDenied "synthetic validator containment support changed")
  let containmentDigest ← call.containment
  refuse (ledger.cessations.any (fun row => row.claimId = call.capability.claimId))
    (ControlError.dispatchDenied "synthetic validator was sealed as ceased")
  refuse (ledger.seals.any (fun row => row.claimId = call.capability.claimId))
    (ControlError.dispatchDenied "synthetic validator was sealed as nonexecuted")
  refuse (ledger.executed call.capability.claimId)
    (ControlError.dispatchDenied "synthetic validator capability was already used")
  let results ← ledger.results.insert (call.row digests containmentDigest)
    (ControlError.integrityError "UNIQUE constraint failed: synthetic_validator_results")
  return (if call.loseResult then none else some (call.row digests containmentDigest),
    { ledger with results := results })

end Operations

end Aegis.DeliveryControl.TargetLedger
