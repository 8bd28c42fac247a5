/-
# DeliveryControl.AuthorityClaims — grants, claims and intent marks of an authority

`authority.py`: instances of `SyntheticAuthority` that share one durable claim
store. An instance caches grants, claims and commit marks; the store keeps one
grant row and one claim row per grant, for effects and for validators. The two
families run the same transactions on their own tables, so the durable part is
written once over a `ClaimSource`; where a method differs, each family keeps
its own body.

Canonical JSON texts of a dataclass of strings are modelled by the record. The
instances of this model all have a claim store, so the in-memory branches for
an absent store are left out.
-/
import Aegis.DeliveryControl.Contracts
import Aegis.Lib.Runs
import Aegis.Lib.Table

namespace Aegis.DeliveryControl.AuthorityClaims

open Aegis.Lib
open Aegis.Lib.Guarded

set_option autoImplicit false

/-! ## Grants and rows -/

/-- `SyntheticGrant`. -/
structure SyntheticGrant where
  grantId : String
  repositoryId : String
  logicalEffectId : String
  attemptId : String
  scopeDigest : String
  deriving DecidableEq, Repr

/-- `SyntheticValidatorGrant`. -/
structure SyntheticValidatorGrant where
  grantId : String
  repositoryId : String
  logicalEffectId : String
  revisionDigest : String
  checkId : String
  inputDigest : String
  validatorAttemptId : String
  scopeDigest : String
  containmentDigest : String
  deriving DecidableEq, Repr

/-- The `state` column with the intent columns its CHECK ties to it. -/
inductive ClaimState
  | claimed
  | intentCommitted (intentEventId intentEventHash : String)
  deriving DecidableEq, Repr

/-- A row of `effect_source_grants` or `validator_source_grants`. -/
structure GrantRow (G : Type) where
  grantId : String
  grantJson : G
  deriving DecidableEq, Repr

/-- A row of `effect_source_claims` or `validator_source_claims`. -/
structure ClaimRow (C : Type) where
  grantId : String
  claimId : String
  capabilityJson : C
  state : ClaimState
  deriving DecidableEq, Repr

instance {G : Type} [DecidableEq G] : Constrained (GrantRow G) where
  Conflict a b := a.grantId = b.grantId ∨ a.grantJson = b.grantJson
  decidable _ _ := inferInstance
  symm _ _ := by simp only [eq_comm, imp_self]

instance {C : Type} : Constrained (ClaimRow C) where
  Conflict a b := a.grantId = b.grantId ∨ a.claimId = b.claimId
  decidable _ _ := inferInstance
  symm _ _ := by simp only [eq_comm, imp_self]

/-- The texts in which the two families differ. -/
structure ClaimTexts where
  grantFields : String
  grantExists : String
  grantUnavailable : String
  grantMismatch : String
  alreadyClaimed : String
  durableMismatch : String
  otherBinding : String
  notIssued : String
  alreadyCommitted : String
  markIncomplete : String
  claimUnavailable : String
  otherIntent : String

/-- One family of grants under an issuer key: how a grant becomes a capability. -/
structure ClaimSource (G C : Type) where
  grantId : G → String
  complete : G → Bool
  capabilityGrant : C → String
  capabilityClaim : C → String
  issue : G → C
  authentic : C → Bool
  texts : ClaimTexts
  issue_grant : ∀ grant, capabilityGrant (issue grant) = grantId grant
  issue_authentic : ∀ grant, authentic (issue grant) = true

/-- What the issuer key computes: the SHA-256 of the joined claim parts and the
MACs over every member of a capability but `issuer_mac`. -/
structure IssuerKey where
  claimId : List String → String
  effectMac : SyntheticCapability → String
  validatorMac : SyntheticValidatorCapability → String

/-- The effect family of `claim` and its siblings. -/
def effectSource (key : IssuerKey) : ClaimSource SyntheticGrant SyntheticCapability where
  grantId := SyntheticGrant.grantId
  complete grant :=
    grant.grantId ≠ "" && grant.repositoryId ≠ "" && grant.logicalEffectId ≠ "" &&
      grant.attemptId ≠ "" && grant.scopeDigest ≠ ""
  capabilityGrant := SyntheticCapability.grantId
  capabilityClaim := SyntheticCapability.claimId
  issue grant :=
    let unsigned : SyntheticCapability :=
      { claimId := key.claimId [grant.grantId, grant.repositoryId, grant.logicalEffectId,
          grant.attemptId, grant.scopeDigest]
        grantId := grant.grantId
        repositoryId := grant.repositoryId
        logicalEffectId := grant.logicalEffectId
        attemptId := grant.attemptId
        scopeDigest := grant.scopeDigest
        issuerMac := "" }
    { unsigned with issuerMac := key.effectMac unsigned }
  authentic capability :=
    key.effectMac { capability with issuerMac := "" } = capability.issuerMac
  texts :=
    { grantFields := "synthetic grant fields must be non-empty"
      grantExists := "synthetic grant ID already exists"
      grantUnavailable := "synthetic grant is unavailable"
      grantMismatch := "synthetic grant binding mismatch"
      alreadyClaimed := "synthetic grant was already claimed"
      durableMismatch := "synthetic effect grant durable binding mismatch"
      otherBinding := "synthetic grant was claimed with another binding"
      notIssued := "synthetic capability was not issued here"
      alreadyCommitted := "synthetic capability already committed an intent"
      markIncomplete := "durable effect intent marker binding is incomplete"
      claimUnavailable := "durable effect claim binding is unavailable"
      otherIntent := "effect claim committed another durable intent" }
  issue_grant _ := rfl
  issue_authentic _ := by simp

/-- The validator family of `claim_validator` and its siblings. -/
def validatorSource (key : IssuerKey) :
    ClaimSource SyntheticValidatorGrant SyntheticValidatorCapability where
  grantId := SyntheticValidatorGrant.grantId
  complete grant :=
    grant.grantId ≠ "" && grant.repositoryId ≠ "" && grant.logicalEffectId ≠ "" &&
      grant.revisionDigest ≠ "" && grant.checkId ≠ "" && grant.inputDigest ≠ "" &&
      grant.validatorAttemptId ≠ "" && grant.scopeDigest ≠ "" && grant.containmentDigest ≠ ""
  capabilityGrant := SyntheticValidatorCapability.grantId
  capabilityClaim := SyntheticValidatorCapability.claimId
  issue grant :=
    let unsigned : SyntheticValidatorCapability :=
      { claimId := key.claimId ["VALIDATOR", grant.grantId, grant.repositoryId,
          grant.logicalEffectId, grant.revisionDigest, grant.checkId, grant.inputDigest,
          grant.validatorAttemptId, grant.scopeDigest, grant.containmentDigest]
        grantId := grant.grantId
        repositoryId := grant.repositoryId
        logicalEffectId := grant.logicalEffectId
        revisionDigest := grant.revisionDigest
        checkId := grant.checkId
        inputDigest := grant.inputDigest
        validatorAttemptId := grant.validatorAttemptId
        scopeDigest := grant.scopeDigest
        containmentDigest := grant.containmentDigest
        issuerMac := "" }
    { unsigned with issuerMac := key.validatorMac unsigned }
  authentic capability :=
    key.validatorMac { capability with issuerMac := "" } = capability.issuerMac
  texts :=
    { grantFields := "synthetic validator grant fields must be non-empty"
      grantExists := "synthetic validator grant ID already exists"
      grantUnavailable := "synthetic validator grant is unavailable"
      grantMismatch := "synthetic validator grant binding mismatch"
      alreadyClaimed := "synthetic validator grant was already claimed"
      durableMismatch := "synthetic validator grant durable binding mismatch"
      otherBinding := "synthetic validator grant was claimed with another binding"
      notIssued := "synthetic validator capability was not issued here"
      alreadyCommitted := "synthetic validator capability already committed an intent"
      markIncomplete := "validator intent marker binding is incomplete"
      claimUnavailable := "durable validator claim binding is unavailable"
      otherIntent := "validator claim committed another durable intent" }
  issue_grant _ := rfl
  issue_authentic _ := by simp

/-! ## One family: its durable tables and its memory in an instance -/

/-- The durable grant and claim tables of one family. -/
structure SourceTables (G C : Type) [DecidableEq G] where
  grants : Table (GrantRow G)
  claims : Table (ClaimRow C)

/-- The dictionaries an instance keeps for one family. -/
structure SourceMemory (G C : Type) where
  grants : String → Option G
  claims : String → Option C
  commitBindings : String → Option (String × String)

def SourceMemory.empty {G C : Type} : SourceMemory G C :=
  ⟨fun _ => none, fun _ => none, fun _ => none⟩

section Family

variable {G C : Type} [DecidableEq G] [DecidableEq C] (source : ClaimSource G C)

/-- The claim row a grant is claimed with. -/
def claimedRow (grant : G) : ClaimRow C where
  grantId := source.grantId grant
  claimId := source.capabilityClaim (source.issue grant)
  capabilityJson := source.issue grant
  state := .claimed

/-- The transaction of `register`: the grant row, once, always with the same grant. -/
def registerDurable (tables : SourceTables G C) (grant : G) :
    Except ControlError (SourceTables G C) :=
  match tables.grants.find? (fun row => row.grantId = source.grantId grant) with
  | none => do
      let grants ← tables.grants.insert ⟨source.grantId grant, grant⟩
        (ControlError.integrityError "UNIQUE constraint failed: source_grants")
      return { tables with grants := grants }
  | some prior => do
      require (prior.grantJson = grant) (ControlError.dispatchDenied source.texts.grantExists)
      return tables

/-- The cached grant that the arguments of a claim have to repeat. -/
def requestedGrant (memory : SourceMemory G C) (requested : G) : Except ControlError G := do
  let grant ← fetch (memory.grants (source.grantId requested))
    (ControlError.dispatchDenied source.texts.grantUnavailable)
  require (requested = grant) (ControlError.dispatchDenied source.texts.grantMismatch)
  return grant

/-- The durable grant row repeats the cached grant. -/
def checkDurableGrant (tables : SourceTables G C) (grant : G) : Except ControlError Unit :=
  require ((tables.grants.find? (fun row => row.grantId = source.grantId grant)).map
      (·.grantJson) = some grant)
    (ControlError.dispatchDenied source.texts.durableMismatch)

def SourceMemory.withClaim (memory : SourceMemory G C) (grant : G) : SourceMemory G C :=
  { memory with
    claims := Function.update memory.claims (source.grantId grant) (some (source.issue grant)) }

/-- `claim_or_recover`: claim once, or recover the exact durable claim. -/
def claimOrRecover (memory : SourceMemory G C) (tables : SourceTables G C) (requested : G) :
    Except ControlError (SourceMemory G C × SourceTables G C) := do
  let grant ← requestedGrant source memory requested
  checkDurableGrant source tables grant
  match tables.claims.find? (fun row => row.grantId = source.grantId grant) with
  | none => do
      let claims ← tables.claims.insert (claimedRow source grant)
        (ControlError.integrityError "UNIQUE constraint failed: source_claims.claim_id")
      return (memory.withClaim source grant, { tables with claims := claims })
  | some prior => do
      require (prior.claimId = source.capabilityClaim (source.issue grant) ∧
          prior.capabilityJson = source.issue grant)
        (ControlError.dispatchDenied source.texts.otherBinding)
      return (memory.withClaim source grant, tables)

/-- `verify_issued`: this instance holds exactly this capability, under its own MAC. -/
def verifyIssued (memory : SourceMemory G C) (capability : C) : Except ControlError Unit :=
  require (memory.claims (source.capabilityGrant capability) = some capability ∧
      source.authentic capability)
    (ControlError.dispatchDenied source.texts.notIssued)

/-- The claim row that belongs to a capability: same grant, claim id and capability. -/
def claimRowOf (tables : SourceTables G C) (capability : C) : Option (ClaimRow C) :=
  (tables.claims.find? (fun row => row.grantId = source.capabilityGrant capability)).filter
    (fun row => row.claimId = source.capabilityClaim capability &&
      row.capabilityJson = capability)

/-- `_verify_durable_claim_uncommitted`. -/
def verifyDurableClaimUncommitted (tables : SourceTables G C) (capability : C) :
    Except ControlError Unit := do
  let row ← fetch (claimRowOf source tables capability)
    (ControlError.dispatchDenied "durable source claim binding is unavailable")
  require (row.state = .claimed)
    (ControlError.dispatchDenied "synthetic capability already committed an intent")

/-- `verify_for_intent` after its issue check: the locked section. -/
def verifyForIntent (committedClaims : List String) (tables : SourceTables G C)
    (capability : C) : Except ControlError Unit := do
  refuse (source.capabilityClaim capability ∈ committedClaims)
    (ControlError.dispatchDenied source.texts.alreadyCommitted)
  verifyDurableClaimUncommitted source tables capability

/-- The row of `capability` becomes committed to the pair. -/
def markRow (tables : SourceTables G C) (capability : C) (intentEventId intentEventHash : String) :
    SourceTables G C :=
  { tables with
    claims := tables.claims.update (fun row => row.grantId = source.capabilityGrant capability)
      (fun row => { row with state := .intentCommitted intentEventId intentEventHash })
      (fun _ _ => Iff.rfl) }

/-- The transaction that binds a claim to its intent, or finds it bound so already. -/
def markDurable (tables : SourceTables G C) (capability : C)
    (intentEventId intentEventHash : String) : Except ControlError (SourceTables G C) := do
  let row ← fetch (claimRowOf source tables capability)
    (ControlError.dispatchDenied source.texts.claimUnavailable)
  match row.state with
  | .claimed => return markRow source tables capability intentEventId intentEventHash
  | .intentCommitted priorId priorHash => do
      require (priorId = intentEventId ∧ priorHash = intentEventHash)
        (ControlError.dispatchDenied source.texts.otherIntent)
      return tables

def SourceMemory.withBinding (memory : SourceMemory G C) (claimId : String)
    (binding : String × String) : SourceMemory G C :=
  { memory with commitBindings := Function.update memory.commitBindings claimId (some binding) }

/-- `_verify_durable_claim_committed`. -/
def verifyDurableClaimCommitted (tables : SourceTables G C) (capability : C)
    (intentEventId intentEventHash : String) : Except ControlError Unit := do
  let row ← fetch (claimRowOf source tables capability)
    (ControlError.dispatchDenied "source claim is not bound to the durable intent")
  require (row.state = .intentCommitted intentEventId intentEventHash)
    (ControlError.dispatchDenied "source claim is not bound to the durable intent")

/-- `verify_intent_committed`. -/
def verifyIntentCommitted (memory : SourceMemory G C) (tables : SourceTables G C)
    (capability : C) (intentEventId intentEventHash : String) : Except ControlError Unit := do
  verifyIssued source memory capability
  verifyDurableClaimCommitted source tables capability intentEventId intentEventHash

end Family

/-! ## An instance and the shared store -/

/-- The shared durable claim store. -/
structure ClaimStore where
  effect : SourceTables SyntheticGrant SyntheticCapability
  validator : SourceTables SyntheticValidatorGrant SyntheticValidatorCapability

/-- The store as the first instance creates it. -/
def ClaimStore.created : ClaimStore := ⟨⟨.empty, .empty⟩, ⟨.empty, .empty⟩⟩

/-- The memory of one `SyntheticAuthority`. `issuedEffects` and `issuedValidators`
are the capabilities that calls in flight have passed the issue check with; the
locked section of such a call runs later, after any other call. -/
structure Authority where
  effect : SourceMemory SyntheticGrant SyntheticCapability
  validator : SourceMemory SyntheticValidatorGrant SyntheticValidatorCapability
  committedClaims : List String
  issuedEffects : List SyntheticCapability
  issuedValidators : List SyntheticValidatorCapability

def committedIn {C : Type} (rows : List (ClaimRow C)) : List String :=
  rows.filterMap fun row =>
    match row.state with
    | .claimed => none
    | .intentCommitted _ _ => some row.claimId

def bindingIn {C : Type} (rows : List (ClaimRow C)) (claimId : String) :
    Option (String × String) :=
  (rows.find? (fun row => row.claimId = claimId)).bind fun row =>
    match row.state with
    | .claimed => none
    | .intentCommitted eventId eventHash => some (eventId, eventHash)

/-- `_initialize_validator_claim_store`: a new instance reads the store. Effect
claims are restored, validator claims only as commit marks. -/
def Authority.start (key : IssuerKey) (store : ClaimStore) : Except ControlError Authority := do
  store.validator.claims.rows.forM fun row => do
    require (row.capabilityJson.grantId = row.grantId ∧ row.capabilityJson.claimId = row.claimId)
      (ControlError.dispatchDenied "durable validator claim binding is invalid")
    require ((validatorSource key).authentic row.capabilityJson)
      (ControlError.dispatchDenied "synthetic validator capability was not issued here")
  store.effect.claims.rows.forM fun row => do
    require (row.capabilityJson.grantId = row.grantId ∧ row.capabilityJson.claimId = row.claimId)
      (ControlError.dispatchDenied "durable effect claim binding is invalid")
    require ((effectSource key).authentic row.capabilityJson)
      (ControlError.dispatchDenied "durable effect claim evidence is invalid")
  return {
    effect :=
      { grants := fun _ => none
        claims := fun grantId =>
          (store.effect.claims.find? (fun row => row.grantId = grantId)).map (·.capabilityJson)
        commitBindings := bindingIn store.effect.claims.rows }
    validator :=
      { grants := fun _ => none
        claims := fun _ => none
        commitBindings := bindingIn store.validator.claims.rows }
    committedClaims :=
      committedIn store.validator.claims.rows ++ committedIn store.effect.claims.rows
    issuedEffects := []
    issuedValidators := [] }

/-! ## The calls of an instance -/

namespace Authority

variable (key : IssuerKey)

/-- `register`. A repeated registration of the cached grant is a no-op. -/
def register (authority : Authority) (store : ClaimStore) (grant : SyntheticGrant) :
    Except ControlError (Authority × ClaimStore) := do
  require ((effectSource key).complete grant)
    (ControlError.valueError (effectSource key).texts.grantFields)
  match authority.effect.grants grant.grantId with
  | some cached => do
      require (cached = grant)
        (ControlError.dispatchDenied (effectSource key).texts.grantExists)
      return (authority, store)
  | none => do
      let tables ← registerDurable (effectSource key) store.effect grant
      return ({ authority with effect := { authority.effect with
          grants := Function.update authority.effect.grants grant.grantId (some grant) } },
        { store with effect := tables })

/-- `register_validator`. A cached grant is refused, the same one included. -/
def registerValidator (authority : Authority) (store : ClaimStore)
    (grant : SyntheticValidatorGrant) : Except ControlError (Authority × ClaimStore) := do
  require ((validatorSource key).complete grant)
    (ControlError.valueError (validatorSource key).texts.grantFields)
  refuse ((authority.validator.grants grant.grantId).isSome)
    (ControlError.dispatchDenied (validatorSource key).texts.grantExists)
  let tables ← registerDurable (validatorSource key) store.validator grant
  return ({ authority with validator := { authority.validator with
      grants := Function.update authority.validator.grants grant.grantId (some grant) } },
    { store with validator := tables })

/-- `claim`. The durable grant only has to exist; the claim row must be new. -/
def claim (authority : Authority) (store : ClaimStore) (requested : SyntheticGrant) :
    Except ControlError (Authority × ClaimStore) := do
  let grant ← requestedGrant (effectSource key) authority.effect requested
  refuse ((authority.effect.claims grant.grantId).isSome)
    (ControlError.dispatchDenied (effectSource key).texts.alreadyClaimed)
  require (store.effect.grants.any (fun row => row.grantId = grant.grantId))
    (ControlError.dispatchDenied "synthetic effect grant durable binding is unavailable")
  let claims ← store.effect.claims.insert (claimedRow (effectSource key) grant)
    (ControlError.integrityError "UNIQUE constraint failed: effect_source_claims")
  return ({ authority with effect := authority.effect.withClaim (effectSource key) grant },
    { store with effect := { store.effect with claims := claims } })

/-- `claim_validator`. -/
def claimValidator (authority : Authority) (store : ClaimStore)
    (requested : SyntheticValidatorGrant) : Except ControlError (Authority × ClaimStore) := do
  let grant ← requestedGrant (validatorSource key) authority.validator requested
  refuse ((authority.validator.claims grant.grantId).isSome)
    (ControlError.dispatchDenied (validatorSource key).texts.alreadyClaimed)
  checkDurableGrant (validatorSource key) store.validator grant
  refuse (store.validator.claims.any (fun row => row.grantId = grant.grantId))
    (ControlError.dispatchDenied (validatorSource key).texts.alreadyClaimed)
  let claims ← store.validator.claims.insert (claimedRow (validatorSource key) grant)
    (ControlError.integrityError "UNIQUE constraint failed: validator_source_claims")
  return ({ authority with
      validator := authority.validator.withClaim (validatorSource key) grant },
    { store with validator := { store.validator with claims := claims } })

/-- `release_uncommitted_validator_claim`: drop the local handle, keep the durable claim. -/
def releaseUncommittedValidatorClaim (authority : Authority) (store : ClaimStore)
    (capability : SyntheticValidatorCapability) :
    Except ControlError (Authority × ClaimStore) := do
  require ((validatorSource key).authentic capability)
    (ControlError.dispatchDenied (validatorSource key).texts.notIssued)
  require (authority.validator.claims capability.grantId = some capability)
    (ControlError.dispatchDenied "synthetic validator claim rollback does not bind the grant")
  refuse (capability.claimId ∈ authority.committedClaims)
    (ControlError.dispatchDenied "committed synthetic validator claim cannot be released")
  verifyDurableClaimUncommitted (validatorSource key) store.validator capability
  return ({ authority with validator := { authority.validator with
      claims := Function.update authority.validator.claims capability.grantId none } }, store)

/-- The locked section of `mark_or_recover_intent_committed`. -/
def markOrRecoverIntentCommitted (authority : Authority) (store : ClaimStore)
    (capability : SyntheticCapability) (intentEventId intentEventHash : String) :
    Except ControlError (Authority × ClaimStore) := do
  refuse (intentEventId = "" ∨ intentEventHash = "")
    (ControlError.dispatchDenied (effectSource key).texts.markIncomplete)
  let tables ← markDurable (effectSource key) store.effect capability intentEventId
    intentEventHash
  return ({ authority with
      effect := authority.effect.withBinding capability.claimId (intentEventId, intentEventHash)
      committedClaims := capability.claimId :: authority.committedClaims },
    { store with effect := tables })

/-- `mark_intent_committed` after its issue check: without a pair a durable claim
cannot be marked, half a pair is refused, a pair is bound or recovered. -/
def markIntentCommitted (authority : Authority) (store : ClaimStore)
    (capability : SyntheticCapability) (intentEventId intentEventHash : Option String) :
    Except ControlError (Authority × ClaimStore) :=
  match intentEventId, intentEventHash with
  | none, none => do
      verifyForIntent (effectSource key) authority.committedClaims store.effect capability
      .error (ControlError.dispatchDenied (effectSource key).texts.markIncomplete)
  | some eventId, some eventHash =>
      markOrRecoverIntentCommitted key authority store capability eventId eventHash
  | _, _ => .error (ControlError.dispatchDenied (effectSource key).texts.markIncomplete)

/-- `_mark_validator_intent_binding`. A cached binding is compared first. -/
def markValidatorIntentBinding (authority : Authority) (store : ClaimStore)
    (capability : SyntheticValidatorCapability) (intentEventId intentEventHash : String) :
    Except ControlError (Authority × ClaimStore) := do
  refuse (intentEventId = "" ∨ intentEventHash = "")
    (ControlError.dispatchDenied (validatorSource key).texts.markIncomplete)
  refuse (∃ binding, authority.validator.commitBindings capability.claimId = some binding ∧
      binding ≠ (intentEventId, intentEventHash))
    (ControlError.dispatchDenied (validatorSource key).texts.otherIntent)
  let tables ← markDurable (validatorSource key) store.validator capability intentEventId
    intentEventHash
  return ({ authority with
      validator :=
        authority.validator.withBinding capability.claimId (intentEventId, intentEventHash)
      committedClaims := capability.claimId :: authority.committedClaims },
    { store with validator := tables })

end Authority

end Aegis.DeliveryControl.AuthorityClaims
