/-
# DeliveryControl.ClaimIds — claim ids of three families of grants

`authority.py`: the claims of effect, validator and operator grants share one set of
committed claim ids. A claim id is the digest of the grant's fields joined with NUL
characters, which no registration excludes from a field.

* `claimId_eq_iff`: two grants have one claim id exactly when NUL characters cut their fields
  into the same pieces;
* `committed_iff_marked`: what the shared set says of a grant in every state of every run.

The instances here have no claim store.
-/
import Aegis.Budget.Restart
import Aegis.DeliveryControl.AuthorityClaims
import Aegis.Lib.Joined

namespace Aegis.DeliveryControl.AuthorityClaims

open Aegis.Lib
open Aegis.Lib.Guarded
open Aegis.Lib.Runs

set_option autoImplicit false

/-! ## Operator grants -/

/-- `SyntheticOperatorGrant`. -/
structure SyntheticOperatorGrant where
  grantId : String
  repositoryId : String
  runId : String
  action : String
  scopeDigest : String
  deriving DecidableEq, Repr

/-- `SyntheticOperatorCapability`. -/
structure SyntheticOperatorCapability where
  claimId : String
  grantId : String
  repositoryId : String
  runId : String
  action : String
  scopeDigest : String
  issuerMac : String
  deriving DecidableEq, Repr

def operatorActions : List String :=
  ["PAUSE", "RESUME", "STOP_GRACEFUL", "STOP_IMMEDIATE", "STOP_ESCALATE", "RECOVER_OPERATION",
    "AUTHORIZE_SAFE_SAME_EFFECT_RETRY", "DISPOSE_REPORT_ONLY", "DISPOSE_STOPPED",
    "DISPOSE_FAILED_FINAL"]

/-- What an issuer computes: the digest of bytes and the MACs of capabilities. -/
structure Issuer where
  sha256 : ByteArray → String
  effectMac : SyntheticCapability → String
  validatorMac : SyntheticValidatorCapability → String
  operatorMac : SyntheticOperatorCapability → String

namespace Issuer

variable (issuer : Issuer)

/-- The digest of joined claim parts. -/
def claimId (parts : List String) : String := issuer.sha256 (joined '\x00' parts).toUTF8

def key : IssuerKey := ⟨issuer.claimId, issuer.effectMac, issuer.validatorMac⟩

end Issuer

/-- The operator family of `claim_operator`. It has no durable part: the texts of one are
empty. -/
def operatorSource (issuer : Issuer) :
    ClaimSource SyntheticOperatorGrant SyntheticOperatorCapability where
  grantId := SyntheticOperatorGrant.grantId
  complete grant :=
    grant.grantId ≠ "" && grant.repositoryId ≠ "" && grant.runId ≠ "" && grant.action ≠ "" &&
      grant.scopeDigest ≠ ""
  capabilityGrant := SyntheticOperatorCapability.grantId
  capabilityClaim := SyntheticOperatorCapability.claimId
  issue grant :=
    let unsigned : SyntheticOperatorCapability :=
      { claimId := issuer.claimId ["OPERATOR", grant.grantId, grant.repositoryId, grant.runId,
          grant.action, grant.scopeDigest]
        grantId := grant.grantId
        repositoryId := grant.repositoryId
        runId := grant.runId
        action := grant.action
        scopeDigest := grant.scopeDigest
        issuerMac := "" }
    { unsigned with issuerMac := issuer.operatorMac unsigned }
  authentic capability :=
    issuer.operatorMac { capability with issuerMac := "" } = capability.issuerMac
  texts :=
    { grantFields := "synthetic operator grant fields must be non-empty"
      grantExists := "synthetic operator grant ID already exists"
      grantUnavailable := "synthetic operator grant is unavailable"
      grantMismatch := "synthetic operator grant binding mismatch"
      alreadyClaimed := "synthetic operator grant was already claimed"
      durableMismatch := ""
      otherBinding := ""
      notIssued := "synthetic operator capability was not issued here"
      alreadyCommitted := "synthetic operator capability already committed an action"
      markIncomplete := ""
      claimUnavailable := ""
      otherIntent := "" }
  issue_grant _ := rfl
  issue_authentic _ := by simp

/-! ## One family in memory -/

section Family

variable {G C : Type} [DecidableEq G] [DecidableEq C] (source : ClaimSource G C)

/-- A registration without a claim store. -/
def registerMemory (memory : SourceMemory G C) (grant : G) :
    Except ControlError (SourceMemory G C) := do
  require (source.complete grant = true) (ControlError.valueError source.texts.grantFields)
  refuse ((memory.grants (source.grantId grant)).isSome = true)
    (ControlError.dispatchDenied source.texts.grantExists)
  return { memory with
    grants := Function.update memory.grants (source.grantId grant) (some grant) }

/-- A claim without a claim store. -/
def claimMemory (memory : SourceMemory G C) (requested : G) :
    Except ControlError (SourceMemory G C) := do
  let grant ← requestedGrant source memory requested
  refuse ((memory.claims (source.grantId grant)).isSome = true)
    (ControlError.dispatchDenied source.texts.alreadyClaimed)
  return memory.withClaim source grant

end Family

/-! ## An instance without a claim store -/

/-- A grant of any family. -/
inductive Grant
  | effect (grant : SyntheticGrant)
  | validator (grant : SyntheticValidatorGrant)
  | operator (grant : SyntheticOperatorGrant)
  deriving DecidableEq

/-- The texts that a claim id joins. -/
def Grant.parts : Grant → List String
  | .effect grant => [grant.grantId, grant.repositoryId, grant.logicalEffectId, grant.attemptId,
      grant.scopeDigest]
  | .validator grant => ["VALIDATOR", grant.grantId, grant.repositoryId, grant.logicalEffectId,
      grant.revisionDigest, grant.checkId, grant.inputDigest, grant.validatorAttemptId,
      grant.scopeDigest, grant.containmentDigest]
  | .operator grant => ["OPERATOR", grant.grantId, grant.repositoryId, grant.runId, grant.action,
      grant.scopeDigest]

/-- The claim id of a claim of the grant. -/
def Grant.claimId (issuer : Issuer) (grant : Grant) : String := issuer.claimId grant.parts

/-- The checks of a registration, apart from the grants that are registered. -/
def Grant.accepted (issuer : Issuer) : Grant → Bool
  | .effect grant => (effectSource issuer.key).complete grant
  | .validator grant => (validatorSource issuer.key).complete grant
  | .operator grant => (operatorSource issuer).complete grant && grant.action ∈ operatorActions

structure MemoryAuthority where
  effect : SourceMemory SyntheticGrant SyntheticCapability
  validator : SourceMemory SyntheticValidatorGrant SyntheticValidatorCapability
  operator : SourceMemory SyntheticOperatorGrant SyntheticOperatorCapability
  committedClaims : List String

def MemoryAuthority.new : MemoryAuthority := ⟨.empty, .empty, .empty, []⟩

namespace MemoryAuthority

variable (issuer : Issuer) (authority : MemoryAuthority)

/-- `register`, `register_validator` and `register_operator`. -/
def register : Grant → Except ControlError MemoryAuthority
  | .effect grant => do
      let memory ← registerMemory (effectSource issuer.key) authority.effect grant
      return { authority with effect := memory }
  | .validator grant => do
      let memory ← registerMemory (validatorSource issuer.key) authority.validator grant
      return { authority with validator := memory }
  | .operator grant => do
      require ((operatorSource issuer).complete grant = true)
        (ControlError.valueError (operatorSource issuer).texts.grantFields)
      require (grant.action ∈ operatorActions)
        (ControlError.valueError "unsupported synthetic operator action")
      let memory ← registerMemory (operatorSource issuer) authority.operator grant
      return { authority with operator := memory }

/-- `claim`, `claim_validator` and `claim_operator`, for the arguments of a grant. -/
def claim : Grant → Except ControlError MemoryAuthority
  | .effect grant => do
      let memory ← claimMemory (effectSource issuer.key) authority.effect grant
      return { authority with effect := memory }
  | .validator grant => do
      let memory ← claimMemory (validatorSource issuer.key) authority.validator grant
      return { authority with validator := memory }
  | .operator grant => do
      let memory ← claimMemory (operatorSource issuer) authority.operator grant
      return { authority with operator := memory }

/-- `claim_or_recover`. -/
def claimOrRecover (requested : SyntheticGrant) : Except ControlError MemoryAuthority :=
  match authority.effect.claims requested.grantId with
  | some issued => do
      require ([issued.repositoryId, issued.logicalEffectId, issued.attemptId, issued.scopeDigest] =
          [requested.repositoryId, requested.logicalEffectId, requested.attemptId,
            requested.scopeDigest])
        (ControlError.dispatchDenied (effectSource issuer.key).texts.otherBinding)
      return authority
  | none => claim issuer authority (.effect requested)

/-- `claim_or_recover_validator`: a recovered claim repeats the binding of its grant. -/
def claimOrRecoverValidator (requested : SyntheticValidatorGrant) :
    Except ControlError MemoryAuthority := do
  let grant ← requestedGrant (validatorSource issuer.key) authority.validator requested
  match authority.validator.claims grant.grantId with
  | some issued => do
      require ([issued.repositoryId, issued.logicalEffectId, issued.revisionDigest, issued.checkId,
            issued.inputDigest, issued.validatorAttemptId, issued.scopeDigest,
            issued.containmentDigest] =
          [grant.repositoryId, grant.logicalEffectId, grant.revisionDigest, grant.checkId,
            grant.inputDigest, grant.validatorAttemptId, grant.scopeDigest,
            grant.containmentDigest])
        (ControlError.dispatchDenied (validatorSource issuer.key).texts.otherBinding)
      return authority
  | none => claim issuer authority (.validator grant)

/-- `verify_for_intent`. -/
def verifyForIntent (capability : SyntheticCapability) : Except ControlError Unit := do
  verifyIssued (effectSource issuer.key) authority.effect capability
  refuse (capability.claimId ∈ authority.committedClaims)
    (ControlError.dispatchDenied (effectSource issuer.key).texts.alreadyCommitted)

/-- The committed set with one more claim id. -/
def commit (claimId : String) : MemoryAuthority :=
  { authority with committedClaims := claimId :: authority.committedClaims }

/-- `mark_or_recover_intent_committed`. -/
def markOrRecoverIntentCommitted (capability : SyntheticCapability)
    (intentEventId intentEventHash : String) : Except ControlError MemoryAuthority := do
  refuse (intentEventId = "" ∨ intentEventHash = "")
    (ControlError.dispatchDenied (effectSource issuer.key).texts.markIncomplete)
  verifyIssued (effectSource issuer.key) authority.effect capability
  match authority.effect.commitBindings capability.claimId with
  | some prior => do
      require (prior = (intentEventId, intentEventHash))
        (ControlError.dispatchDenied (effectSource issuer.key).texts.otherIntent)
      return authority
  | none => do
      refuse (capability.claimId ∈ authority.committedClaims)
        (ControlError.dispatchDenied (effectSource issuer.key).texts.alreadyCommitted)
      return { authority.commit capability.claimId with
        effect := authority.effect.withBinding capability.claimId (intentEventId, intentEventHash) }

/-- `mark_intent_committed`. -/
def markIntentCommitted (capability : SyntheticCapability)
    (intentEventId intentEventHash : Option String) : Except ControlError MemoryAuthority :=
  match intentEventId, intentEventHash with
  | none, none => do
      verifyForIntent issuer authority capability
      return authority.commit capability.claimId
  | some eventId, some eventHash =>
      markOrRecoverIntentCommitted issuer authority capability eventId eventHash
  | _, _ => .error (ControlError.dispatchDenied (effectSource issuer.key).texts.markIncomplete)

/-- `mark_validator_intent_committed`. A committed claim id is not refused here. -/
def markValidatorIntentCommitted (capability : SyntheticValidatorCapability)
    (intentEventId intentEventHash : String) : Except ControlError MemoryAuthority := do
  verifyIssued (validatorSource issuer.key) authority.validator capability
  refuse (intentEventId = "" ∨ intentEventHash = "")
    (ControlError.dispatchDenied (validatorSource issuer.key).texts.markIncomplete)
  refuse (∃ binding, authority.validator.commitBindings capability.claimId = some binding ∧
      binding ≠ (intentEventId, intentEventHash))
    (ControlError.dispatchDenied (validatorSource issuer.key).texts.otherIntent)
  return { authority.commit capability.claimId with
    validator :=
      authority.validator.withBinding capability.claimId (intentEventId, intentEventHash) }

/-- `mark_operator_action_committed`. -/
def markOperatorActionCommitted (capability : SyntheticOperatorCapability) :
    Except ControlError MemoryAuthority := do
  verifyIssued (operatorSource issuer) authority.operator capability
  refuse (capability.claimId ∈ authority.committedClaims)
    (ControlError.dispatchDenied (operatorSource issuer).texts.alreadyCommitted)
  return authority.commit capability.claimId

/-- `release_uncommitted_validator_claim`. -/
def releaseUncommittedValidatorClaim (capability : SyntheticValidatorCapability) :
    Except ControlError MemoryAuthority := do
  require ((validatorSource issuer.key).authentic capability = true)
    (ControlError.dispatchDenied (validatorSource issuer.key).texts.notIssued)
  require (authority.validator.claims capability.grantId = some capability)
    (ControlError.dispatchDenied "synthetic validator claim rollback does not bind the grant")
  refuse (capability.claimId ∈ authority.committedClaims)
    (ControlError.dispatchDenied "committed synthetic validator claim cannot be released")
  return { authority with validator := { authority.validator with
    claims := Function.update authority.validator.claims capability.grantId none } }

end MemoryAuthority

/-! ## Runs -/

inductive MemoryCall
  | register (grant : Grant)
  | claim (requested : Grant)
  | claimOrRecover (requested : SyntheticGrant)
  | claimOrRecoverValidator (requested : SyntheticValidatorGrant)
  | markIntentCommitted (capability : SyntheticCapability) (eventId eventHash : Option String)
  | markOrRecoverIntentCommitted (capability : SyntheticCapability) (eventId eventHash : String)
  | markValidatorIntentCommitted (capability : SyntheticValidatorCapability)
      (eventId eventHash : String)
  | markOperatorActionCommitted (capability : SyntheticOperatorCapability)
  | releaseUncommittedValidatorClaim (capability : SyntheticValidatorCapability)

namespace MemoryCall

def perform (issuer : Issuer) (authority : MemoryAuthority) :
    MemoryCall → Except ControlError MemoryAuthority
  | .register grant => authority.register issuer grant
  | .claim requested => authority.claim issuer requested
  | .claimOrRecover requested => authority.claimOrRecover issuer requested
  | .claimOrRecoverValidator requested => authority.claimOrRecoverValidator issuer requested
  | .markIntentCommitted capability eventId eventHash =>
      authority.markIntentCommitted issuer capability eventId eventHash
  | .markOrRecoverIntentCommitted capability eventId eventHash =>
      authority.markOrRecoverIntentCommitted issuer capability eventId eventHash
  | .markValidatorIntentCommitted capability eventId eventHash =>
      authority.markValidatorIntentCommitted issuer capability eventId eventHash
  | .markOperatorActionCommitted capability =>
      authority.markOperatorActionCommitted issuer capability
  | .releaseUncommittedValidatorClaim capability =>
      authority.releaseUncommittedValidatorClaim issuer capability

/-- The grant whose claim a call commits. -/
def marks : MemoryCall → List Grant
  | .markIntentCommitted capability _ _ => [effectGrant capability]
  | .markOrRecoverIntentCommitted capability _ _ => [effectGrant capability]
  | .markValidatorIntentCommitted capability _ _ =>
      [.validator ⟨capability.grantId, capability.repositoryId, capability.logicalEffectId,
        capability.revisionDigest, capability.checkId, capability.inputDigest,
        capability.validatorAttemptId, capability.scopeDigest, capability.containmentDigest⟩]
  | .markOperatorActionCommitted capability =>
      [.operator ⟨capability.grantId, capability.repositoryId, capability.runId, capability.action,
        capability.scopeDigest⟩]
  | _ => []
where
  effectGrant (capability : SyntheticCapability) : Grant :=
    .effect ⟨capability.grantId, capability.repositoryId, capability.logicalEffectId,
      capability.attemptId, capability.scopeDigest⟩

end MemoryCall

/-- An instance, and the grants whose claims were committed by a call of their own. -/
structure ClaimSession where
  authority : MemoryAuthority
  marked : List Grant

/-- A call that does not raise. A call that raises leaves the instance as it was. -/
def ClaimStep (issuer : Issuer) (session : ClaimSession) (call : MemoryCall) (later : ClaimSession) :
    Prop :=
  call.perform issuer session.authority = .ok later.authority ∧
    later.marked = call.marks ++ session.marked

/-- The grant is registered. -/
def MemoryAuthority.Holds (authority : MemoryAuthority) : Grant → Prop
  | .effect grant => authority.effect.grants grant.grantId = some grant
  | .validator grant => authority.validator.grants grant.grantId = some grant
  | .operator grant => authority.operator.grants grant.grantId = some grant

/-- What one family's memory satisfies. -/
structure FamilySound {G C : Type} (source : ClaimSource G C) (memory : SourceMemory G C)
    (committedClaims : List String) : Prop where
  grants : ∀ ref grant, memory.grants ref = some grant → source.grantId grant = ref
  claims : ∀ ref capability, memory.claims ref = some capability →
    ∃ grant, memory.grants ref = some grant ∧ capability = source.issue grant
  bindings : ∀ claimId binding, memory.commitBindings claimId = some binding →
    claimId ∈ committedClaims

namespace FamilySound

variable {G C : Type} [DecidableEq G] [DecidableEq C] {source : ClaimSource G C}
  {memory later : SourceMemory G C} {committedClaims : List String}

omit [DecidableEq G] [DecidableEq C] in
theorem empty (source : ClaimSource G C) (committedClaims : List String) :
    FamilySound source .empty committedClaims :=
  ⟨fun _ _ none => (by cases none), fun _ _ none => (by cases none), fun _ _ none => (by cases none)⟩

omit [DecidableEq G] [DecidableEq C] in
theorem commit (sound : FamilySound source memory committedClaims) (claimId : String) :
    FamilySound source memory (claimId :: committedClaims) :=
  { sound with bindings := fun held binding found =>
      List.mem_cons_of_mem _ (sound.bindings held binding found) }

omit [DecidableEq G] [DecidableEq C] in
theorem withBinding (sound : FamilySound source memory committedClaims) (claimId : String)
    (binding : String × String) :
    FamilySound source (memory.withBinding claimId binding) (claimId :: committedClaims) where
  grants := sound.grants
  claims := sound.claims
  bindings := by
    intro held other found
    by_cases same : held = claimId
    · exact same ▸ List.mem_cons_self ..
    · simp only [SourceMemory.withBinding, Function.update_of_ne same] at found
      exact List.mem_cons_of_mem _ (sound.bindings held other found)

omit [DecidableEq G] [DecidableEq C] in
/-- A registration adds a grant. -/
theorem register (sound : FamilySound source memory committedClaims) {grant : G}
    (registered : registerMemory source memory grant = .ok later) :
    FamilySound source later committedClaims ∧
      ∀ ref held, memory.grants ref = some held → later.grants ref = some held := by
  unfold registerMemory at registered
  simp only [bind_eq_ok, require_eq_ok, refuse_eq_ok, pure_eq_ok] at registered
  obtain ⟨_, _, _, fresh, rfl⟩ := registered
  have kept : ∀ ref held, memory.grants ref = some held →
      Function.update memory.grants (source.grantId grant) (some grant) ref = some held := by
    intro ref held found
    have other : ref ≠ source.grantId grant := by
      rintro rfl
      rw [found] at fresh
      exact fresh rfl
    rw [Function.update_of_ne other]
    exact found
  refine ⟨⟨?_, ?_, sound.bindings⟩, kept⟩
  · intro ref held found
    by_cases same : ref = source.grantId grant
    · subst same
      simp only [Function.update_self, Option.some.injEq] at found
      rw [found]
    · simp only [Function.update_of_ne same] at found
      exact sound.grants ref held found
  · intro ref capability found
    obtain ⟨held, isHeld, same⟩ := sound.claims ref capability found
    exact ⟨held, kept ref held isHeld, same⟩

omit [DecidableEq C] in
/-- A claim is the capability of its grant. -/
theorem claim (sound : FamilySound source memory committedClaims) {requested : G}
    (claimed : claimMemory source memory requested = .ok later) :
    FamilySound source later committedClaims ∧ later.grants = memory.grants := by
  unfold claimMemory requestedGrant at claimed
  simp only [bind_eq_ok, fetch_eq_ok, require_eq_ok, refuse_eq_ok, pure_eq_ok] at claimed
  obtain ⟨_, ⟨grant, found, _, rfl, rfl⟩, _, _, rfl⟩ := claimed
  refine ⟨⟨sound.grants, ?_, sound.bindings⟩, rfl⟩
  intro ref capability isClaim
  by_cases same : ref = source.grantId requested
  · subst same
    simp only [SourceMemory.withClaim, Function.update_self, Option.some.injEq] at isClaim
    exact ⟨requested, found, isClaim.symm⟩
  · simp only [SourceMemory.withClaim, Function.update_of_ne same] at isClaim
    exact sound.claims ref capability isClaim

omit [DecidableEq G] in
/-- A capability that passes the issue check is that of a registered grant. -/
theorem issued (sound : FamilySound source memory committedClaims) {capability : C}
    (checked : verifyIssued source memory capability = .ok ()) :
    ∃ grant, memory.grants (source.grantId grant) = some grant ∧ capability = source.issue grant := by
  unfold verifyIssued at checked
  rw [require_eq_ok] at checked
  obtain ⟨grant, held, same⟩ := sound.claims _ _ checked.1
  exact ⟨grant, by rw [sound.grants _ _ held]; exact held, same⟩

end FamilySound

/-- What every session satisfies. -/
structure SessionSound (issuer : Issuer) (session : ClaimSession) : Prop where
  effect : FamilySound (effectSource issuer.key) session.authority.effect
    session.authority.committedClaims
  validator : FamilySound (validatorSource issuer.key) session.authority.validator
    session.authority.committedClaims
  operator : FamilySound (operatorSource issuer) session.authority.operator
    session.authority.committedClaims
  held : ∀ grant ∈ session.marked, session.authority.Holds grant
  committed : ∀ claimId, claimId ∈ session.authority.committedClaims ↔
    ∃ grant ∈ session.marked, grant.claimId issuer = claimId

namespace SessionSound

variable {issuer : Issuer} {session : ClaimSession}

theorem new : SessionSound issuer ⟨.new, []⟩ :=
  ⟨.empty _ _, .empty _ _, .empty _ _, fun _ member => (by cases member), by
    simp [MemoryAuthority.new]⟩

/-- A grant that is committed by a call of its own. -/
theorem commit (sound : SessionSound issuer session) {grant : Grant}
    (holds : session.authority.Holds grant) :
    SessionSound issuer ⟨session.authority.commit (grant.claimId issuer), grant :: session.marked⟩ where
  effect := sound.effect.commit _
  validator := sound.validator.commit _
  operator := sound.operator.commit _
  held := by
    intro other member
    rcases List.mem_cons.mp member with rfl | earlier
    · cases other <;> exact holds
    · have before := sound.held other earlier
      cases other <;> exact before
  committed := by
    intro claimId
    show claimId ∈ grant.claimId issuer :: session.authority.committedClaims ↔ _
    rw [List.mem_cons, sound.committed claimId]
    simp only [List.mem_cons, exists_eq_or_imp]
    exact or_congr_left eq_comm

/-- A grant whose claim id was committed before. -/
theorem again (sound : SessionSound issuer session) {grant : Grant}
    (holds : session.authority.Holds grant)
    (committed : grant.claimId issuer ∈ session.authority.committedClaims) :
    SessionSound issuer ⟨session.authority, grant :: session.marked⟩ where
  effect := sound.effect
  validator := sound.validator
  operator := sound.operator
  held := by
    intro other member
    rcases List.mem_cons.mp member with rfl | earlier
    · exact holds
    · exact sound.held other earlier
  committed := by
    intro claimId
    simp only [List.mem_cons, exists_eq_or_imp, ← sound.committed claimId]
    constructor
    · exact .inr
    · rintro (rfl | earlier)
      · exact committed
      · exact earlier

theorem effect_issued (sound : SessionSound issuer session) {capability : SyntheticCapability}
    (checked : verifyIssued (effectSource issuer.key) session.authority.effect capability = .ok ()) :
    session.authority.Holds (MemoryCall.marks.effectGrant capability) ∧
      (MemoryCall.marks.effectGrant capability).claimId issuer = capability.claimId := by
  obtain ⟨grant, held, rfl⟩ := sound.effect.issued checked
  exact ⟨held, rfl⟩

theorem register (sound : SessionSound issuer session) {grant : Grant}
    {later : MemoryAuthority} (registered : session.authority.register issuer grant = .ok later) :
    SessionSound issuer ⟨later, session.marked⟩ := by
  unfold MemoryAuthority.register at registered
  cases grant with
  | effect grant =>
      simp only [bind_eq_ok, pure_eq_ok] at registered
      obtain ⟨memory, one, rfl⟩ := registered
      obtain ⟨family, kept⟩ := sound.effect.register one
      refine { sound with effect := family, held := fun other member => ?_ }
      have before := sound.held other member
      cases other with
      | effect other => exact kept _ _ before
      | _ => exact before
  | validator grant =>
      simp only [bind_eq_ok, pure_eq_ok] at registered
      obtain ⟨memory, one, rfl⟩ := registered
      obtain ⟨family, kept⟩ := sound.validator.register one
      refine { sound with validator := family, held := fun other member => ?_ }
      have before := sound.held other member
      cases other with
      | validator other => exact kept _ _ before
      | _ => exact before
  | operator grant =>
      simp only [bind_eq_ok, pure_eq_ok] at registered
      obtain ⟨_, _, _, _, memory, one, rfl⟩ := registered
      obtain ⟨family, kept⟩ := sound.operator.register one
      refine { sound with operator := family, held := fun other member => ?_ }
      have before := sound.held other member
      cases other with
      | operator other => exact kept _ _ before
      | _ => exact before

theorem claim (sound : SessionSound issuer session) {requested : Grant} {later : MemoryAuthority}
    (claimed : session.authority.claim issuer requested = .ok later) :
    SessionSound issuer ⟨later, session.marked⟩ := by
  unfold MemoryAuthority.claim at claimed
  cases requested with
  | effect grant =>
      simp only [bind_eq_ok, pure_eq_ok] at claimed
      obtain ⟨memory, one, rfl⟩ := claimed
      obtain ⟨family, grants⟩ := sound.effect.claim one
      refine { sound with effect := family, held := fun other member => ?_ }
      have before := sound.held other member
      cases other with
      | effect other =>
          show memory.grants _ = _
          rw [grants]
          exact before
      | _ => exact before
  | validator grant =>
      simp only [bind_eq_ok, pure_eq_ok] at claimed
      obtain ⟨memory, one, rfl⟩ := claimed
      obtain ⟨family, grants⟩ := sound.validator.claim one
      refine { sound with validator := family, held := fun other member => ?_ }
      have before := sound.held other member
      cases other with
      | validator other =>
          show memory.grants _ = _
          rw [grants]
          exact before
      | _ => exact before
  | operator grant =>
      simp only [bind_eq_ok, pure_eq_ok] at claimed
      obtain ⟨memory, one, rfl⟩ := claimed
      obtain ⟨family, grants⟩ := sound.operator.claim one
      refine { sound with operator := family, held := fun other member => ?_ }
      have before := sound.held other member
      cases other with
      | operator other =>
          show memory.grants _ = _
          rw [grants]
          exact before
      | _ => exact before

theorem markOrRecover (sound : SessionSound issuer session) {capability : SyntheticCapability}
    {eventId eventHash : String} {later : MemoryAuthority}
    (marked : session.authority.markOrRecoverIntentCommitted issuer capability eventId eventHash =
      .ok later) :
    SessionSound issuer ⟨later, MemoryCall.marks.effectGrant capability :: session.marked⟩ := by
  unfold MemoryAuthority.markOrRecoverIntentCommitted at marked
  simp only [bind_eq_ok, refuse_eq_ok] at marked
  obtain ⟨_, _, _, checked, marked⟩ := marked
  obtain ⟨holds, named⟩ := sound.effect_issued checked
  cases bound : session.authority.effect.commitBindings capability.claimId with
  | some prior =>
      rw [bound] at marked
      simp only [bind_eq_ok, require_eq_ok, pure_eq_ok] at marked
      obtain ⟨_, _, rfl⟩ := marked
      refine sound.again holds ?_
      rw [named]
      exact sound.effect.bindings _ _ bound
  | none =>
      rw [bound] at marked
      simp only [bind_eq_ok, refuse_eq_ok, pure_eq_ok] at marked
      obtain ⟨_, _, rfl⟩ := marked
      have committed := sound.commit holds
      rw [named] at committed
      refine { committed with effect := sound.effect.withBinding _ _, held := fun other member => ?_ }
      have before := committed.held other member
      cases other <;> exact before

/-- **A call keeps what every session satisfies.** -/
theorem step (sound : SessionSound issuer session) {call : MemoryCall} {later : ClaimSession}
    (step : ClaimStep issuer session call later) : SessionSound issuer later := by
  obtain ⟨performed, marked⟩ := step
  obtain ⟨authority, marks⟩ := later
  change marks = _ at marked
  subst marked
  cases call with
  | register grant => exact sound.register performed
  | claim requested => exact sound.claim performed
  | claimOrRecover requested =>
      change session.authority.claimOrRecover issuer requested = .ok authority at performed
      unfold MemoryAuthority.claimOrRecover at performed
      split at performed
      · simp only [bind_eq_ok, require_eq_ok, pure_eq_ok] at performed
        obtain ⟨_, _, rfl⟩ := performed
        exact sound
      · exact sound.claim performed
  | claimOrRecoverValidator requested =>
      change session.authority.claimOrRecoverValidator issuer requested = .ok authority at performed
      unfold MemoryAuthority.claimOrRecoverValidator at performed
      rw [bind_eq_ok] at performed
      obtain ⟨grant, _, performed⟩ := performed
      split at performed
      · simp only [bind_eq_ok, require_eq_ok, pure_eq_ok] at performed
        obtain ⟨_, _, rfl⟩ := performed
        exact sound
      · exact sound.claim performed
  | markIntentCommitted capability eventId eventHash =>
      change session.authority.markIntentCommitted issuer capability eventId eventHash =
        .ok authority at performed
      unfold MemoryAuthority.markIntentCommitted at performed
      split at performed
      · unfold MemoryAuthority.verifyForIntent at performed
        simp only [bind_eq_ok, refuse_eq_ok, pure_eq_ok] at performed
        obtain ⟨_, ⟨_, checked, _⟩, rfl⟩ := performed
        obtain ⟨holds, named⟩ := sound.effect_issued checked
        rw [← named]
        exact sound.commit holds
      · exact sound.markOrRecover performed
      · cases performed
  | markOrRecoverIntentCommitted capability eventId eventHash => exact sound.markOrRecover performed
  | markValidatorIntentCommitted capability eventId eventHash =>
      change session.authority.markValidatorIntentCommitted issuer capability eventId eventHash =
        .ok authority at performed
      unfold MemoryAuthority.markValidatorIntentCommitted at performed
      simp only [bind_eq_ok, refuse_eq_ok, pure_eq_ok] at performed
      obtain ⟨_, checked, _, _, _, _, rfl⟩ := performed
      obtain ⟨grant, held, rfl⟩ := sound.validator.issued checked
      have holds : session.authority.Holds (.validator grant) := held
      have committed := sound.commit holds
      refine { committed with
        validator := sound.validator.withBinding _ _, held := fun other member => ?_ }
      have before := committed.held other member
      cases other <;> exact before
  | markOperatorActionCommitted capability =>
      change session.authority.markOperatorActionCommitted issuer capability = .ok authority
        at performed
      unfold MemoryAuthority.markOperatorActionCommitted at performed
      simp only [bind_eq_ok, refuse_eq_ok, pure_eq_ok] at performed
      obtain ⟨_, checked, _, _, rfl⟩ := performed
      obtain ⟨grant, held, rfl⟩ := sound.operator.issued checked
      have holds : session.authority.Holds (.operator grant) := held
      exact sound.commit holds
  | releaseUncommittedValidatorClaim capability =>
      change session.authority.releaseUncommittedValidatorClaim issuer capability = .ok authority
        at performed
      unfold MemoryAuthority.releaseUncommittedValidatorClaim at performed
      simp only [bind_eq_ok, require_eq_ok, refuse_eq_ok, pure_eq_ok] at performed
      obtain ⟨_, _, _, _, _, _, rfl⟩ := performed
      refine { sound with
        validator := { sound.validator with claims := ?_ }, held := fun other member => ?_ }
      · intro ref held found
        by_cases same : ref = capability.grantId
        · subst same
          simp at found
        · simp only [Function.update_of_ne same] at found
          exact sound.validator.claims ref held found
      · have before := sound.held other member
        cases other <;> exact before

end SessionSound

theorem sessionSound_run {issuer : Issuer} {calls : List MemoryCall} {session : ClaimSession}
    (run : Run (ClaimStep issuer) ⟨.new, []⟩ calls session) : SessionSound issuer session :=
  run.invariant (I := SessionSound issuer) (fun _ _ _ sound step => sound.step step) .new

/-! ## Claim ids -/

theorem Grant.parts_ne_nil (grant : Grant) : grant.parts ≠ [] := by
  cases grant <;> exact List.cons_ne_nil _ _

/-- What NUL characters cut the texts of a claim id into. -/
def Grant.pieces (grant : Grant) : List (List Char) := Lib.pieces '\x00' grant.parts

/-- Two grants have one claim id exactly when their texts are cut into the same pieces. -/
theorem claimId_eq_iff {issuer : Issuer} (injective : Function.Injective issuer.sha256)
    {left right : Grant} :
    left.claimId issuer = right.claimId issuer ↔ left.pieces = right.pieces := by
  have texts : left.claimId issuer = right.claimId issuer ↔
      joined '\x00' left.parts = joined '\x00' right.parts := by
    constructor
    · intro same
      exact String.toByteArray_inj.mp (injective same)
    · intro same
      exact congrArg (fun text : String => issuer.sha256 text.toUTF8) same
  rw [texts, joined_eq_iff left.parts_ne_nil right.parts_ne_nil]
  exact Iff.rfl

/-- What the committed set says of a grant, exactly. -/
theorem committed_iff_marked {issuer : Issuer} (injective : Function.Injective issuer.sha256)
    {session : ClaimSession} (sound : SessionSound issuer session) (grant : Grant) :
    (grant.claimId issuer ∈ session.authority.committedClaims ↔ grant ∈ session.marked) ↔
      (grant ∈ session.marked ∨ ∀ marked ∈ session.marked, marked.pieces ≠ grant.pieces) := by
  rw [sound.committed]
  constructor
  · intro same
    by_cases isMarked : grant ∈ session.marked
    · exact .inl isMarked
    · refine .inr fun marked member cut => isMarked (same.mp ⟨marked, member, ?_⟩)
      exact (claimId_eq_iff injective).mpr cut
  · rintro (isMarked | apart)
    · exact ⟨fun _ => isMarked, fun _ => ⟨grant, isMarked, rfl⟩⟩
    · constructor
      · rintro ⟨marked, member, same⟩
        exact absurd ((claimId_eq_iff injective).mp same) (apart marked member)
      · intro isMarked
        exact absurd rfl (apart grant isMarked)

/-- **A claim id identifies its claim, up to where NUL characters cut the texts.** Two grants have
different claim ids exactly when their texts are cut into different pieces; and in every state
of every run, the committed set holds the claim id of a grant whose own claim was not
committed exactly when a grant with a committed claim is cut into the same pieces. -/
theorem claim_id_identifies_iff {issuer : Issuer} (injective : Function.Injective issuer.sha256) :
    (∀ left right : Grant,
      left.claimId issuer ≠ right.claimId issuer ↔ left.pieces ≠ right.pieces) ∧
    ∀ (calls : List MemoryCall) (session : ClaimSession),
      Run (ClaimStep issuer) ⟨.new, []⟩ calls session → ∀ grant, session.authority.Holds grant →
        ((grant.claimId issuer ∈ session.authority.committedClaims ↔ grant ∈ session.marked) ↔
          (grant ∈ session.marked ∨ ∀ marked ∈ session.marked, marked.pieces ≠ grant.pieces)) :=
  ⟨fun _ _ => not_congr (claimId_eq_iff injective), fun _ _ run grant _ =>
    committed_iff_marked injective (sessionSound_run run) grant⟩

/-! ## A sample -/

def sampleIssuer : Issuer := ⟨Budget.plainDigest, fun _ => "", fun _ => "", fun _ => ""⟩

/-- A NUL character in the repository. -/
def sampleLeft : SyntheticGrant := ⟨"a", "b\x00c", "d", "e", "f"⟩

/-- A NUL character in the grant id. -/
def sampleRight : SyntheticGrant := ⟨"a\x00b", "c", "d", "e", "f"⟩

def samplePlain : SyntheticGrant := ⟨"a", "b", "d", "e", "f"⟩

theorem claim_id_of_sample :
    (Grant.effect samplePlain).claimId sampleIssuer ≠
      (Grant.effect sampleLeft).claimId sampleIssuer := by
  have injective : Function.Injective sampleIssuer.sha256 := Budget.plainDigest_injective
  have apart : (Grant.effect samplePlain).pieces ≠ (Grant.effect sampleLeft).pieces := by decide
  exact ((claim_id_identifies_iff injective).1 _ _).mpr apart

/-- Two accepted grants of one claim id; committing the claim of the first marks the second. -/
theorem claim_ids_collide : ¬ ∀ issuer : Issuer, Function.Injective issuer.sha256 →
    ∀ left right : Grant, left.accepted issuer = true → right.accepted issuer = true →
      left ≠ right → left.claimId issuer ≠ right.claimId issuer := by
  intro identifies
  have injective : Function.Injective sampleIssuer.sha256 := Budget.plainDigest_injective
  have cut : (Grant.effect sampleLeft).pieces = (Grant.effect sampleRight).pieces := by decide
  exact identifies sampleIssuer injective (.effect sampleLeft) (.effect sampleRight) rfl rfl
    (by decide) ((claimId_eq_iff injective).mpr cut)

end Aegis.DeliveryControl.AuthorityClaims
