/-
# DeliveryControl.StoreSystem — the store under any sequence of calls

A `Call` is one operation with its arguments and the answers its checks outside
the model get. `Call.step` is its transaction: a call that raises is rolled back
and leaves the store as it was. A `StoreRun` is any sequence of calls from the
store right after `initialize`; nothing is assumed about who makes them.

* `Command.transacts`: every operation that returns made the moves of its events;
* `StoreRun.invariant`: what every move keeps holds in every reachable store.
-/
import Aegis.DeliveryControl.OperationMoves

namespace Aegis.DeliveryControl

open Aegis.Lib
open Aegis.Lib.Guarded
open Aegis.Lib.Runs

set_option autoImplicit false

/-- The operations of the store that write events, with their arguments. -/
inductive Command
  | acceptPlan (request : PlanAcceptanceRequest)
  | commitIntent (intent : OperationIntent) (capability : SyntheticCapability)
  | claimOperationLaunch (intent : OperationIntent) (commit : CommitReceipt)
  | contactClaimedOperation (intent : OperationIntent) (capability : SyntheticCapability)
      (commit : CommitReceipt) (launch : OperationLaunchReceipt) (targetDigest : String)
  | settleBudget (request : BudgetSettlementRequest) (uncertaintyFences : List String)
  | recordEffectObservation (request : EffectObservationRequest)
      (uncertainties : List (String × String))
  | commitValidatorIntent (request : ValidatorIntentRequest)
      (capability : SyntheticValidatorCapability)
  | contactCommittedValidator (request : ValidatorIntentRequest) (targetDigest : String)
  | recordValidatorObservation (request : ValidatorObservationRequest) (context : ResultContext)
  | applyValidatorObservation (request : ValidationApplicationRequest)
      (classification : Option FailureClassification) (reconciled : Bool)
      (nextCheck : Option (String × Bool))
  | settleTerminalValidation (request : TerminalValidationRequest) (replayed : Bool)
  | finalizeOperation (request : FinalizeOperationRequest) (replayed : Bool)
  | adoptVerifiedEffect (request : EffectAdoptionRequest) (replayed : Bool)
  | recoverProvenNonexecution (request : RecoveryRequest)
  | authorizeSafeSameEffectRetry (request : RecoveryRequest)
  | control (operation : ControlOperation) (request : ControlRequest)
  | recordAuthorityFact (factKind : AuthorityFactKind) (governedOrder : GovernedOrder)
      (sourceRunId : Option String) (request : ControlRequest)

namespace Command

/-- What a command does to the store, or the error it raises. -/
def perform (digests : StoreDigests) (repositoryId : String) (checks : Checks) (store : Store) :
    Command → Except ControlError Store
  | acceptPlan request => DeliveryControl.acceptPlan digests repositoryId checks request store
  | commitIntent intent capability =>
      Prod.snd <$> DeliveryControl.commitIntent digests repositoryId checks intent capability store
  | claimOperationLaunch intent commit =>
      Prod.snd <$> DeliveryControl.claimOperationLaunch digests repositoryId checks intent commit
        store
  | contactClaimedOperation intent capability commit launch targetDigest =>
      DeliveryControl.contactClaimedOperation digests checks intent capability commit launch
        targetDigest store
  | settleBudget request uncertaintyFences =>
      Prod.snd <$> DeliveryControl.settleBudget digests checks request uncertaintyFences store
  | recordEffectObservation request uncertainties =>
      Prod.snd <$> DeliveryControl.recordEffectObservation digests repositoryId checks request
        uncertainties store
  | commitValidatorIntent request capability =>
      DeliveryControl.commitValidatorIntent digests repositoryId checks request capability store
  | contactCommittedValidator request targetDigest =>
      DeliveryControl.contactCommittedValidator digests checks request targetDigest store
  | recordValidatorObservation request context =>
      DeliveryControl.recordValidatorObservation digests repositoryId checks request context store
  | applyValidatorObservation request classification reconciled nextCheck =>
      DeliveryControl.applyValidatorObservation digests repositoryId checks request classification
        reconciled nextCheck store
  | settleTerminalValidation request replayed =>
      DeliveryControl.settleTerminalValidation digests repositoryId checks request replayed store
  | finalizeOperation request replayed =>
      DeliveryControl.finalizeOperation digests repositoryId checks request replayed store
  | adoptVerifiedEffect request replayed =>
      DeliveryControl.adoptVerifiedEffect digests repositoryId checks request replayed store
  | recoverProvenNonexecution request =>
      DeliveryControl.recoverProvenNonexecution digests repositoryId checks request store
  | authorizeSafeSameEffectRetry request =>
      DeliveryControl.authorizeSafeSameEffectRetry digests repositoryId checks request store
  | control operation request =>
      DeliveryControl.control operation.route digests repositoryId checks request store
  | recordAuthorityFact factKind governedOrder sourceRunId request =>
      DeliveryControl.recordAuthorityFact factKind governedOrder sourceRunId digests repositoryId
        checks request store

/-- The reservation a command asks for. -/
def demand? : Command → Option Demand
  | commitIntent intent _ => some intent.demand
  | commitValidatorIntent request _ => some request.demand
  | _ => none

/-- The settlement a command asks for, with the reservation it settles; none when it
replays a recorded one. -/
def settlement? (store : Store) : Command → Option (Reservation × BudgetSettlementRequest)
  | settleBudget request _ =>
      if store.settlements.any (fun row => row.settlementEventId = request.settlementEventId) then
        none
      else (store.reservation? request.reservationId).map (fun reservation => (reservation, request))
  | recordEffectObservation request _ =>
      if store.settlements.any (fun row => row.settlementEventId = request.settlementEventId) then
        none
      else (store.attemptReservation? request.scope).map (fun reservation =>
        (reservation, receiptSettlement request reservation))
  | _ => none

/-- The first event of a command reserves or settles what the command asks for, and
otherwise no more than an unknown worst case. -/
structure Asks (command : Command) (store : Store) (body : EventBody) : Prop where
  demand : ∀ demand, body.detail.demand? = some demand → command.demand? = some demand
  settlement : ∀ settlement, body.detail.settlement? = some settlement →
    settlement.request.disposition = .unknownWorstCaseCharged ∨
      ∃ reservation, command.settlement? store = some (reservation, settlement.request)

theorem Asks.of_plain {command : Command} {store : Store} {body : EventBody}
    (plain : body.Plain) : command.Asks store body := by
  simp only [EventBody.Plain, EventDetail.plain, Bool.and_eq_true, Option.isNone_iff_eq_none,
    Option.all_eq_true, decide_eq_true_eq] at plain
  refine ⟨fun demand reserves => ?_, fun settlement settles => .inl (plain.2 settlement settles)⟩
  rw [plain.1] at reserves
  cases reserves

theorem Asks.of_settles {command : Command} {store : Store} {body : EventBody}
    {reservation : Reservation} {request : BudgetSettlementRequest}
    (settles : body.Settles request)
    (asked : command.settlement? store = some (reservation, request)) :
    command.Asks store body := by
  obtain ⟨settlement, settles, rfl⟩ := settles
  constructor
  · intro demand reserves
    rw [EventDetail.demand?_of_settlement? settles] at reserves
    cases reserves
  · intro other same
    rw [settles] at same
    obtain rfl := Option.some.inj same
    exact .inr ⟨reservation, asked⟩

end Command

section System

variable {digests : StoreDigests} {repositoryId : String} {checks : Checks} {before after : Store}

/-- **Every command that returns made the moves of its events**: an event that moves
the slot is the last of its run, and only the first reserves or settles known usage. -/
theorem Command.transacts {command : Command}
    (performed : command.perform digests repositoryId checks before = .ok after) :
    Transacts digests repositoryId (command.Asks before) before after := by
  have plain : ∀ body : EventBody, body.Plain → command.Asks before body := fun _ => Asks.of_plain
  cases command with
  | acceptPlan request => exact (acceptPlan_transacts performed).imp plain
  | commitIntent intent capability =>
      simp only [perform, map_eq_ok, Prod.exists, exists_eq_right] at performed
      obtain ⟨receipt, committed⟩ := performed
      refine (commitIntent_transacts committed).imp ?_
      rintro body ⟨claimId, detail⟩
      constructor <;> simp [detail, EventDetail.demand?, EventDetail.settlement?, demand?]
  | claimOperationLaunch intent commit =>
      simp only [perform, map_eq_ok, Prod.exists, exists_eq_right] at performed
      obtain ⟨receipt, claimed⟩ := performed
      exact (claimOperationLaunch_transacts claimed).imp plain
  | contactClaimedOperation intent capability commit launch targetDigest =>
      exact (contactClaimedOperation_transacts performed).imp plain
  | settleBudget request texts =>
      simp only [perform, map_eq_ok, Prod.exists, exists_eq_right] at performed
      obtain ⟨receipt, settled⟩ := performed
      refine (settleBudget_transacts settled).imp ?_
      rintro body ⟨settles, ⟨reservation, found⟩, fresh⟩
      have asked : (settleBudget request texts).settlement? before = some (reservation, request) := by
        simp only [settlement?]
        rw [if_neg (by simpa using fresh), found]
        rfl
      exact .of_settles settles asked
  | recordEffectObservation request uncertainties =>
      simp only [perform, map_eq_ok, Prod.exists, exists_eq_right] at performed
      obtain ⟨receipt, observed⟩ := performed
      refine (recordEffectObservation_transacts observed).imp ?_
      rintro body (quiet | ⟨⟨reservation, found, settles⟩, fresh⟩)
      · exact plain body quiet
      · have asked : (recordEffectObservation request uncertainties).settlement? before =
            some (reservation, receiptSettlement request reservation) := by
          simp only [settlement?]
          rw [if_neg (by simpa using fresh), found]
          rfl
        exact .of_settles settles asked
  | commitValidatorIntent request capability =>
      refine (commitValidatorIntent_transacts performed).imp ?_
      rintro body ⟨claimId, detail⟩
      constructor <;> simp [detail, EventDetail.demand?, EventDetail.settlement?, demand?]
  | contactCommittedValidator request targetDigest =>
      exact (contactCommittedValidator_transacts performed).imp plain
  | recordValidatorObservation request context =>
      exact (recordValidatorObservation_transacts performed).imp plain
  | applyValidatorObservation request classification reconciled nextCheck =>
      exact (applyValidatorObservation_transacts performed).imp plain
  | settleTerminalValidation request replayed =>
      exact (settleTerminalValidation_transacts performed).imp plain
  | finalizeOperation request replayed => exact (finalizeOperation_transacts performed).imp plain
  | adoptVerifiedEffect request replayed =>
      exact (adoptVerifiedEffect_transacts performed).imp plain
  | recoverProvenNonexecution request =>
      exact (recoverProvenNonexecution_transacts performed).imp plain
  | authorizeSafeSameEffectRetry request =>
      exact (authorizeSafeSameEffectRetry_transacts performed).imp plain
  | control operation request => exact (control_transacts performed).imp plain
  | recordAuthorityFact factKind governedOrder sourceRunId request =>
      exact (recordAuthorityFact_transacts performed).imp plain

/-! ## Transactions -/

/-- A transaction moves the slot not at all, or by one of its events. -/
theorem SlotLast.split {bodies : List EventBody} (last : SlotLast bodies) :
    (∀ body ∈ bodies, body.detail.still = true) ∨
      ∃ earlier body later, bodies = earlier ++ body :: later ∧
        (∀ other ∈ earlier, other.detail.still = true) ∧ body.detail.still = false ∧
        ∀ other ∈ later, other.runId ≠ body.runId ∧ other.detail.still = true := by
  by_cases quiet : ∀ body ∈ bodies, body.detail.still = true
  · exact .inl quiet
  · simp only [not_forall, Bool.not_eq_true] at quiet
    obtain ⟨body, member, moves⟩ := quiet
    obtain ⟨earlier, later, rfl⟩ := List.append_of_mem member
    rw [SlotLast, List.pairwise_append, List.pairwise_cons] at last
    obtain ⟨-, ⟨after, -⟩, across⟩ := last
    refine .inr ⟨earlier, body, later, rfl, fun other early => ?_, moves,
      fun other late => after other late moves⟩
    cases still : other.detail.still with
    | true => rfl
    | false =>
        have := (across other early body List.mem_cons_self still).2
        rw [moves] at this
        cases this

/-- An event that does not move the slot leaves it. -/
theorem SlotMove.of_still_eq {body : EventBody} (moved : SlotMove before after body)
    (still : body.detail.still = true) : after.slot = before.slot := by
  cases moved with
  | quiet same keeps commits adopts => exact same
  | acquired intent claimId committed first empty =>
      rw [committed.detail] at still
      cases still
  | transferred intent claimId retry slot committed again held ofRun effect prior =>
      rw [committed.detail] at still
      cases still
  | adopted slot ofRun origin detail empty taken =>
      rw [detail] at still
      cases still
  | released slot release detail named ofRun held freed closed =>
      cases kind : body.detail <;> simp_all [EventDetail.still, EventDetail.releases]

theorem Moves.slot_of_still {bodies : List EventBody}
    (moved : Moves digests repositoryId before bodies after)
    (still : ∀ body ∈ bodies, body.detail.still = true) : after.slot = before.slot := by
  induction moved with
  | nil => rfl
  | snoc earlier taken ih =>
      rw [taken.slot.of_still_eq (still _ (by simp)), ih (fun body member => still body (by simp [member]))]

/-- The events of a transaction are appended in order. -/
theorem Moves.recorded {bodies : List EventBody}
    (moved : Moves digests repositoryId before bodies after) :
    after.events.rows = before.events.rows ++ bodies.map (Store.eventRow digests) := by
  induction moved with
  | nil => simp
  | snoc earlier taken ih => rw [taken.recorded, ih, List.map_append, List.append_assoc]; rfl

/-- An event of a transaction is in the table after it and not before it. -/
theorem Moves.recorded_new {bodies : List EventBody}
    (moved : Moves digests repositoryId before bodies after) {body : EventBody}
    (member : body ∈ bodies) :
    Store.eventRow digests body ∈ after.events ∧ Store.eventRow digests body ∉ before.events := by
  have rows := Moves.recorded moved
  constructor
  · rw [← Table.mem_rows, rows, List.mem_append]
    exact .inr (List.mem_map_of_mem member)
  · intro stored
    have distinct := after.events.unique
    rw [rows, List.pairwise_append] at distinct
    exact distinct.2.2 _ stored _ (List.mem_map_of_mem member) (.inl rfl)

/-! ## Runs -/

/-- A command with the answers of the checks outside the model. -/
structure Call where
  command : Command
  checks : Checks

/-- The transaction of a call: rolled back when it raises. -/
def Call.step (digests : StoreDigests) (repositoryId : String) (store : Store) (call : Call) :
    Store :=
  match call.command.perform digests repositoryId call.checks store with
  | .ok after => after
  | .error _ => store

/-- Any sequence of calls, from any store. -/
abbrev Calls (digests : StoreDigests) (repositoryId : String) : Store → List Call → Store → Prop :=
  Run (fun store call after => call.step digests repositoryId store = after)

/-- Any sequence of calls from the store right after `initialize`. -/
abbrev StoreRun (digests : StoreDigests) (repositoryId : String) : List Call → Store → Prop :=
  Calls digests repositoryId Store.empty

/-- A call that returned performed its command; one that raised changed nothing. -/
theorem Call.transacts {call : Call} (stepped : call.step digests repositoryId before = after) :
    Transacts digests repositoryId (call.command.Asks before) before after := by
  unfold Call.step at stepped
  split at stepped
  · rename_i performed
    rw [← stepped]
    exact Command.transacts performed
  · rw [← stepped]
    exact .refl

end System

/-! ## A sample repository

One run with one item and one effect, for the concrete histories of later modules. -/

/-- Digests that keep the identities they are made from. -/
def sampleDigests : StoreDigests where
  event body := "#" ++ body.eventId
  event_ne_empty body same := by simpa using congrArg String.length same
  contactId _ sourceId := sourceId
  adoptionFence repositoryId sourceRunId dependentRunId originatingEventId :=
    repositoryId ++ sourceRunId ++ dependentRunId ++ originatingEventId

/-- A call whose checks outside the model all pass. -/
def Command.checked (command : Command) : Call := ⟨command, fun _ => true⟩

def samplePlan : PlanAcceptanceRequest where
  commandId := "plan"
  eventId := "planned"
  repositoryId := "repo"
  runId := "run"
  itemId := "item"
  logicalEffectId := "effect"
  checkIds := []

/-- The scope of an attempt of the sample run. -/
def sampleScope (attemptId : String) : AttemptScope where
  repositoryId := "repo"
  runId := "run"
  itemId := "item"
  logicalEffectId := "effect"
  attemptId := attemptId

/-- An intent of the sample run: its attempt, which names everything else, and its units. -/
def sampleIntent (attemptId : String) (reserved worst cap : Nat) (retry : Option RetryBinding) :
    OperationIntent where
  request :=
    { repositoryId := "repo"
      runId := "run"
      itemId := "item"
      commandId := "commit-" ++ attemptId
      eventId := "intent-" ++ attemptId
      logicalEffectId := "effect"
      effectDescriptorDigest := "descriptor"
      attemptId := attemptId
      permissionUseId := attemptId
      reservationId := attemptId
      budgetPolicyDigest := "policy"
      reservedUnits := reserved
      worstCaseUnits := worst
      capUnits := cap }
  retry := retry

def sampleCapability (attemptId : String) : SyntheticCapability where
  claimId := "claim-" ++ attemptId
  grantId := "grant-" ++ attemptId
  repositoryId := "repo"
  logicalEffectId := "effect"
  attemptId := attemptId
  scopeDigest := "scope"
  issuerMac := "mac"

/-- The store a list of commands of the sample repository leads to. -/
def sampleStore (commands : List Command) : Store :=
  (commands.map Command.checked).foldl (Call.step sampleDigests "repo") Store.empty

theorem sampleStore_reached (commands : List Command) :
    StoreRun sampleDigests "repo" (commands.map Command.checked) (sampleStore commands) :=
  Run.of_foldl _ _

end Aegis.DeliveryControl
