/-
# DeliveryControl.CommandReplay — a command that is given again

The rows of `command_outcomes`, `budget_settlements` and `effect_observations`
carry the digest of the payload they were written for. A `Journal` is the store
with these columns; a call on it compares the digest of its own payload with the
recorded one, where the store alone leaves that answer to the caller.

* `Journal.call`: one transaction with its answer;
* `Kept`: what no transaction takes out of the tables again;
* `journal_idempotent`: the same command, given again after any history, has its
  first answer and writes nothing; under a used command id no other payload
  passes, and whatever is refused changes nothing.
-/
import Aegis.DeliveryControl.StoreSystem

namespace Aegis.DeliveryControl

open Aegis.Lib
open Aegis.Lib.Guarded
open Aegis.Lib.Runs

set_option autoImplicit false

/-! ## Payloads -/

/-- The members of a recovered request besides those of its base class; the payload
does not say which of the two recovered classes it is. -/
def RetryBinding.members (retry : RetryBinding) : String × String × Nat × Nat :=
  (retry.recoveryAuthorizationId, retry.priorAttemptId, retry.expectedSourceGeneration,
    retry.expectedTargetGeneration)

/-- What a recorded digest is the digest of. -/
inductive Payload
  /-- `_payload_digest`. -/
  | intent (request : IntentRequest) (retry : Option (String × String × Nat × Nat))
  /-- `settlement_binding_version` 3. -/
  | settlement (request : BudgetSettlementRequest)
  /-- `settlement_binding_version` 2, without a seal. -/
  | unsealedSettlement (request : BudgetSettlementRequest)
  /-- `_effect_observation_request_payload`. -/
  | observation (request : EffectObservationRequest)
  /-- The payload of `_observation_digest`: without `command_id` and `event_id`. -/
  | observedFact (request : EffectObservationRequest)
  /-- The payload of an operation that is not replayed here, as a text. -/
  | other (text : String)
  deriving DecidableEq

/-- The key under which a command is recorded: a settlement is known by its event. -/
inductive CommandKey
  | command (commandId : String)
  | settlement (settlementEventId : String)
  deriving DecidableEq, Repr

/-- The digests of the store and of the payloads. -/
structure JournalDigests (D : Type) where
  store : StoreDigests
  payload : Payload → D
  text : Command → String

namespace Command

/-- The payload of a command. -/
def payload {D : Type} (digests : JournalDigests D) : Command → Payload
  | commitIntent intent _ => .intent intent.request (intent.retry.map RetryBinding.members)
  | settleBudget request _ => .settlement request
  | recordEffectObservation request _ => .observation request
  | command => .other (digests.text command)

/-- The key of a command that is replayed from its records. -/
def key? : Command → Option CommandKey
  | commitIntent intent _ => some (.command intent.request.commandId)
  | settleBudget request _ => some (.settlement request.settlementEventId)
  | recordEffectObservation request _ => some (.command request.commandId)
  | _ => none

/-- The payload of a settlement that a command makes. -/
def settlementPayload (request : BudgetSettlementRequest) : Command → Payload
  | settleBudget _ _ => .settlement request
  | control .pauseValidation _ | control .pauseActiveValidation _ | control (.stop _) _
  | control .escalateStop _ => .settlement request
  | _ => .unsealedSettlement request

/-- The payload of an observation that a command makes. -/
def observedFact {D : Type} (digests : JournalDigests D) : Command → Payload
  | recordEffectObservation request _ =>
      .observedFact { request with commandId := "", eventId := "" }
  | command => .other (digests.text command)

end Command

/-! ## Answers -/

/-- What an operation returns. -/
inductive Answer
  | committed (receipt : CommitReceipt)
  | settled (receipt : SettlementReceipt)
  | observed (receipt : ObservationReceipt)
  | done
  deriving DecidableEq, Repr

namespace Answer

/-- The answer is that of the call that wrote. -/
def first : Answer → Bool
  | committed receipt => !receipt.replayed
  | settled receipt => !receipt.replayed
  | observed receipt => !receipt.replayed
  | done => false

/-- The same answer, marked as a replay. -/
def again : Answer → Answer
  | committed receipt => .committed { receipt with replayed := true }
  | settled receipt => .settled { receipt with replayed := true }
  | observed receipt => .observed { receipt with replayed := true }
  | done => .done

end Answer

/-- What a command answers and does to the store, or the error it raises. -/
def Command.answer (digests : StoreDigests) (repositoryId : String) (checks : Checks)
    (store : Store) : Command → Except ControlError (Answer × Store)
  | commitIntent intent capability => do
      let (receipt, after) ←
        DeliveryControl.commitIntent digests repositoryId checks intent capability store
      return (.committed receipt, after)
  | settleBudget request uncertaintyFences => do
      let (receipt, after) ←
        DeliveryControl.settleBudget digests checks request uncertaintyFences store
      return (.settled receipt, after)
  | recordEffectObservation request uncertainties => do
      let (receipt, after) ← DeliveryControl.recordEffectObservation digests repositoryId checks
        request uncertainties store
      return (.observed receipt, after)
  | command => do
      let after ← command.perform digests repositoryId checks store
      return (.done, after)

/-- The answer comes with what the command performs. -/
theorem Command.performed_of_answer {digests : StoreDigests} {repositoryId : String}
    {checks : Checks} {before after : Store} {command : Command} {answer : Answer}
    (answered : command.answer digests repositoryId checks before = .ok (answer, after)) :
    command.perform digests repositoryId checks before = .ok after := by
  cases command
  case commitIntent =>
    simp only [Command.answer, bind_eq_ok, pure_eq_ok, Prod.mk.injEq, Prod.exists] at answered
    obtain ⟨receipt, _, committed, -, rfl⟩ := answered
    simp [perform, committed]
  case settleBudget =>
    simp only [Command.answer, bind_eq_ok, pure_eq_ok, Prod.mk.injEq, Prod.exists] at answered
    obtain ⟨receipt, _, settled, -, rfl⟩ := answered
    simp [perform, settled]
  case recordEffectObservation =>
    simp only [Command.answer, bind_eq_ok, pure_eq_ok, Prod.mk.injEq, Prod.exists] at answered
    obtain ⟨receipt, _, observed, -, rfl⟩ := answered
    simp [perform, observed]
  all_goals
    simp only [Command.answer, bind_eq_ok, pure_eq_ok, Prod.mk.injEq] at answered
    obtain ⟨_, performed, -, rfl⟩ := answered
    exact performed

/-! ## The journal -/

/-- The store with its columns of payload digests, by the key of their row:
`command_outcomes.payload_digest`, `budget_settlements.payload_digest` and
`effect_observations.observation_digest`. -/
structure Journal (D : Type) where
  store : Store
  outcomeDigest : String → Option D
  settlementDigest : String → Option D
  observationDigest : String → Option D

namespace Journal

variable {D : Type} [DecidableEq D] (digests : JournalDigests D) (repositoryId : String)

/-- The journal of a database right after `initialize`. -/
def empty : Journal D where
  store := .empty
  outcomeDigest _ := none
  settlementDigest _ := none
  observationDigest _ := none

/-- The digest recorded under a key. -/
def recorded? (journal : Journal D) : CommandKey → Option D
  | .command commandId => journal.outcomeDigest commandId
  | .settlement settlementEventId => journal.settlementDigest settlementEventId

/-- The comparison of a recorded digest with that of the command; an observation
that another command recorded is compared without its ids. -/
def samePayload (journal : Journal D) (command : Command) (given : Bool) : Bool :=
  match command with
  | .commitIntent intent _ =>
      journal.recorded? (.command intent.request.commandId) =
        some (digests.payload (command.payload digests))
  | .settleBudget request _ =>
      journal.recorded? (.settlement request.settlementEventId) =
        some (digests.payload (command.payload digests))
  | .recordEffectObservation request _ =>
      if (journal.store.outcome? request.commandId).isSome then
        journal.recorded? (.command request.commandId) =
          some (digests.payload (command.payload digests))
      else
        match journal.store.observations.find? (fun row =>
            row.observationId = request.observationId ||
              row.sourceReceiptId = request.sourceReceiptId) with
        | some prior =>
            journal.observationDigest prior.observationId =
              some (digests.payload (command.observedFact digests))
        | none => given
  | _ => given

/-- The answers a call gets: one of them is computed. -/
def checked (journal : Journal D) (checks : Checks) (command : Command) : Checks
  | .samePayload => journal.samePayload digests command (checks .samePayload)
  | check => checks check

/-- The columns after a command: a new row has the digest of the payload it was
written for. -/
def advance (journal : Journal D) (command : Command) (after : Store) : Journal D where
  store := after
  outcomeDigest commandId := journal.outcomeDigest commandId <|>
    (after.outcome? commandId).map (fun _ => digests.payload (command.payload digests))
  settlementDigest settlementEventId := journal.settlementDigest settlementEventId <|>
    (after.settlements.find? (fun row => row.settlementEventId = settlementEventId)).map
      (fun row => digests.payload (command.settlementPayload row.body.request))
  observationDigest observationId := journal.observationDigest observationId <|>
    (after.observations.find? (fun row => row.observationId = observationId)).map
      (fun _ => digests.payload (command.observedFact digests))

/-- One call: its answer and the journal after it. -/
def call (journal : Journal D) (checks : Checks) (command : Command) :
    Except ControlError (Answer × Journal D) := do
  let (answer, after) ← command.answer digests.store repositoryId
    (journal.checked digests checks command) journal.store
  return (answer, journal.advance digests command after)

/-- The transaction of a call: rolled back when it raises. -/
def step (journal : Journal D) (given : Call) : Journal D :=
  match journal.call digests repositoryId given.checks given.command with
  | .ok (_, after) => after
  | .error _ => journal

end Journal

/-- Any sequence of calls, from any journal. -/
abbrev JournalRun {D : Type} [DecidableEq D] (digests : JournalDigests D) (repositoryId : String) :
    Journal D → List Call → Journal D → Prop :=
  Run (fun journal given after => journal.step digests repositoryId given = after)

/-! ## What stays -/

/-- What no transaction takes out of the tables again. -/
structure Kept (before after : Store) : Prop where
  outcomes : ∀ row ∈ before.commandOutcomes, row ∈ after.commandOutcomes
  settlements : ∀ row ∈ before.settlements, row ∈ after.settlements
  observations : ∀ row ∈ before.observations, row ∈ after.observations
  redemptions : ∀ row ∈ before.redemptions, row ∈ after.redemptions
  reservations : ∀ row ∈ before.reservations, ∃ next ∈ after.reservations,
    next.demand = row.demand

theorem Kept.refl (store : Store) : Kept store store :=
  ⟨fun _ => id, fun _ => id, fun _ => id, fun _ => id, fun row member => ⟨row, member, rfl⟩⟩

theorem Kept.trans {before middle after : Store} (first : Kept before middle)
    (second : Kept middle after) : Kept before after := by
  refine ⟨fun row member => second.outcomes row (first.outcomes row member),
    fun row member => second.settlements row (first.settlements row member),
    fun row member => second.observations row (first.observations row member),
    fun row member => second.redemptions row (first.redemptions row member),
    fun row member => ?_⟩
  obtain ⟨next, here, same⟩ := first.reservations row member
  obtain ⟨last, there, again⟩ := second.reservations next here
  exact ⟨last, there, again.trans same⟩

section Keeping

variable {digests : StoreDigests} {repositoryId : String} {before after : Store}

/-- A move appends to the accounts, and settles a reservation in its place. -/
theorem Move.kept {body : EventBody} (moved : Move digests repositoryId before body after) :
    Kept before after := by
  refine ⟨moved.outcomes, ?_, moved.observations, moved.redemptions, ?_⟩
  · intro row member
    cases moved.accounts with
    | quiet reservations settlements fences => exact settlements ▸ member
    | reserved reservation unsettled detail unfenced reservations settlements fences =>
        exact settlements ▸ member
    | settled reservation settlement settles detail hash settlements reservations fences =>
        rw [← Table.mem_rows, settlements]
        exact List.mem_append_left _ member
  · intro row member
    cases moved.accounts with
    | quiet reservations settlements fences => exact ⟨row, reservations ▸ member, rfl⟩
    | reserved reservation unsettled detail unfenced reservations settlements fences =>
        refine ⟨row, ?_, rfl⟩
        rw [← Table.mem_rows, reservations]
        exact List.mem_append_left _ member
    | settled reservation settlement settles detail hash settlements reservations fences =>
        have stored := List.mem_map_of_mem (f := fun other : Reservation =>
          if other.reservationId = settlement.reservationId
          then other.settled settlement.body settlement.settlementHash else other) member
        rw [← reservations] at stored
        refine ⟨_, stored, ?_⟩
        split <;> rfl

theorem Moves.kept {bodies : List EventBody}
    (moved : Moves digests repositoryId before bodies after) : Kept before after := by
  induction moved with
  | nil => exact .refl _
  | snoc earlier taken ih => exact ih.trans taken.kept

theorem Transacts.kept {asks : EventBody → Prop}
    (transacts : Transacts digests repositoryId asks before after) : Kept before after := by
  obtain ⟨bodies, moved, -⟩ := transacts
  exact moved.kept

end Keeping

/-! ## Columns and rows -/

namespace Journal

variable {D : Type} {digests : JournalDigests D}

/-- A digest is recorded for every row, and for nothing else. -/
structure Complete (journal : Journal D) : Prop where
  outcomes : ∀ commandId,
    (journal.outcomeDigest commandId).isSome = (journal.store.outcome? commandId).isSome
  settlements : ∀ settlementEventId, (journal.settlementDigest settlementEventId).isSome =
    (journal.store.settlements.find? (fun row =>
      row.settlementEventId = settlementEventId)).isSome
  observations : ∀ observationId, (journal.observationDigest observationId).isSome =
    (journal.store.observations.find? (fun row => row.observationId = observationId)).isSome

theorem complete_empty : (empty : Journal D).Complete :=
  ⟨fun _ => rfl, fun _ => rfl, fun _ => rfl⟩

/-- A column filled up for the rows of a table that kept its rows is complete. -/
theorem isSome_filled {ρ : Type} [Constrained ρ] {column : Option D} {before after : Table ρ}
    {condition : ρ → Bool} {digest : ρ → D}
    (complete : column.isSome = (before.find? condition).isSome)
    (kept : ∀ row ∈ before, row ∈ after) :
    (column <|> (after.find? condition).map digest).isSome = (after.find? condition).isSome := by
  cases column with
  | none => simp
  | some recorded =>
      have found : (before.find? condition).isSome = true := by simpa using complete.symm
      obtain ⟨row, member, meets⟩ := Table.isSome_find?.mp found
      have still : (after.find? condition).isSome = true :=
        Table.isSome_find?.mpr ⟨row, kept row member, meets⟩
      simp [still]

/-- A complete column has no digest yet for a row that is new. -/
theorem filled_new {ρ : Type} [Constrained ρ] {column : Option D} {before after : Table ρ}
    {condition : ρ → Bool} {digest : ρ → D} {row : ρ}
    (complete : column.isSome = (before.find? condition).isSome)
    (fresh : before.find? condition = none) (found : after.find? condition = some row) :
    (column <|> (after.find? condition).map digest) = some (digest row) := by
  have nothing : column = none := by simpa [fresh] using complete
  simp [nothing, found]

/-- Filling up a complete column changes nothing. -/
theorem filled_complete {ρ : Type} {column : Option D} {found : Option ρ} {digest : ρ → D}
    (complete : column.isSome = found.isSome) : (column <|> found.map digest) = column := by
  cases column with
  | some recorded => rfl
  | none =>
      have nothing : found = none := by simpa using complete
      simp [nothing]

variable {journal : Journal D}

theorem Complete.advance {command : Command} {after : Store} (complete : journal.Complete)
    (kept : Kept journal.store after) :
    (journal.advance digests command after).Complete :=
  ⟨fun _ => isSome_filled (complete.outcomes _) kept.outcomes,
    fun _ => isSome_filled (complete.settlements _) kept.settlements,
    fun _ => isSome_filled (complete.observations _) kept.observations⟩

/-- A call that leaves the store leaves the columns. -/
theorem advance_self (complete : journal.Complete) (command : Command) :
    journal.advance digests command journal.store = journal := by
  cases journal with
  | mk store outcomes settlements observations =>
      simp only [Journal.advance, mk.injEq, true_and]
      refine ⟨funext fun id => ?_, funext fun id => ?_, funext fun id => ?_⟩
      · exact filled_complete (complete.outcomes id)
      · exact filled_complete (complete.settlements id)
      · exact filled_complete (complete.observations id)

theorem call_eq_ok [DecidableEq D] {repositoryId : String} {next : Journal D} {checks : Checks}
    {command : Command} {answer : Answer} :
    journal.call digests repositoryId checks command = .ok (answer, next) ↔
      ∃ after, command.answer digests.store repositoryId (journal.checked digests checks command)
          journal.store = .ok (answer, after) ∧ journal.advance digests command after = next := by
  simp only [call, bind_eq_ok, pure_eq_ok, Prod.mk.injEq, Prod.exists]
  constructor
  · rintro ⟨_, after, answered, rfl, rfl⟩
    exact ⟨after, answered, rfl⟩
  · rintro ⟨after, answered, rfl⟩
    exact ⟨_, after, answered, rfl, rfl⟩

/-- The rows and the digests of a journal are all in a later one. -/
structure Extends (before after : Journal D) : Prop where
  store : Kept before.store after.store
  recorded : ∀ key digest, before.recorded? key = some digest → after.recorded? key = some digest

theorem extends_advance {command : Command} {after : Store} (kept : Kept journal.store after) :
    journal.Extends (journal.advance digests command after) := by
  refine ⟨kept, fun key digest recorded => ?_⟩
  cases key <;> simp only [recorded?] at recorded ⊢ <;> simp [Journal.advance, recorded]

section Calls

variable [DecidableEq D] {repositoryId : String}

/-- A call that returned made the transaction of its command. -/
theorem kept_of_call {journal next : Journal D} {checks : Checks} {command : Command}
    {answer : Answer}
    (called : journal.call digests repositoryId checks command = .ok (answer, next)) :
    ∃ after, Kept journal.store after ∧ journal.advance digests command after = next := by
  obtain ⟨after, answered, advanced⟩ := call_eq_ok.mp called
  exact ⟨after, (Command.transacts (Command.performed_of_answer answered)).kept, advanced⟩

theorem kept_of_step {journal next : Journal D} {given : Call} (complete : journal.Complete)
    (stepped : journal.step digests repositoryId given = next) :
    next.Complete ∧ journal.Extends next := by
  unfold step at stepped
  split at stepped
  · rename_i answer after called
    subst stepped
    obtain ⟨store, kept, rfl⟩ := kept_of_call called
    exact ⟨complete.advance kept, extends_advance kept⟩
  · subst stepped
    exact ⟨complete, .refl _, fun _ _ => id⟩

/-- Any history extends the journal it starts from. -/
theorem extends_of_run {first last : Journal D} {calls : List Call} (complete : first.Complete)
    (run : JournalRun digests repositoryId first calls last) :
    last.Complete ∧ first.Extends last := by
  refine Run.invariant (I := fun journal => journal.Complete ∧ first.Extends journal)
    (fun journal given next held stepped => ?_) ⟨complete, .refl _, fun _ _ => id⟩ run
  obtain ⟨ok, sofar⟩ := held
  obtain ⟨nextOk, further⟩ := kept_of_step ok stepped
  exact ⟨nextOk, sofar.store.trans further.store,
    fun key digest recorded => further.recorded key digest (sofar.recorded key digest recorded)⟩

end Calls

end Journal

/-! ## What the first call leaves -/

section First

variable {digests : StoreDigests} {repositoryId : String} {checks : Checks} {before after : Store}

/-- An intent that was not a replay left its outcome and the redemption of its capability. -/
theorem commitIntent_first {intent : OperationIntent} {capability : SyntheticCapability}
    {receipt : CommitReceipt}
    (committed : commitIntent digests repositoryId checks intent capability before =
      .ok (receipt, after)) (first : receipt.replayed = false) :
    intent.validate = .ok () ∧ intent.request.repositoryId = repositoryId ∧
      before.outcome? intent.request.commandId = none ∧
      receipt.commandId = intent.request.commandId ∧
      ⟨intent.request.commandId, receipt.eventId, receipt.sequence, receipt.eventHash⟩ ∈
        after.commandOutcomes ∧
      ∃ redemption ∈ after.redemptions, redemption.commandId = intent.request.commandId ∧
        redemption.claimId = capability.claimId ∧ redemption.grantId = capability.grantId ∧
        redemption.scopeDigest = capability.scopeDigest := by
  simp only [commitIntent, bind_eq_ok, require_eq_ok] at committed
  obtain ⟨_, validated, _, own, _, -, _, -, committed⟩ := committed
  cases found : before.outcome? intent.request.commandId with
  | some prior =>
      rw [found] at committed
      simp only [commitReplay, bind_eq_ok, pure_eq_ok, Prod.mk.injEq] at committed
      obtain ⟨_, ⟨_, -, _, -, _, -, _, -, rfl⟩, rfl, -⟩ := committed
      cases first
  | none =>
      rw [found] at committed
      simp only [bind_eq_ok, pure_eq_ok, Prod.mk.injEq, Prod.exists, writeIntent,
        Store.append_eq_ok, Store.recordOutcome_eq_ok] at committed
      obtain ⟨run, effects, -, _, ⟨_, -, _, -, _, -, _, -, _, -, redemptions, redeemed, _,
        ⟨_, -, rfl⟩, outcomes, recorded, rfl⟩, rfl, rfl⟩ := committed
      exact ⟨validated, own, rfl, rfl, (Table.mem_of_insert recorded _).mpr (.inr rfl), _,
        (Table.mem_of_insert redeemed _).mpr (.inr rfl), rfl, rfl, rfl, rfl⟩

/-- The row of a settlement is in the table its writes leave. -/
theorem recordSettlement_stored {plan : SettlementPlan} {texts : List String}
    (written : recordSettlement digests before plan texts = .ok after) :
    ⟨digests.event plan.body, plan.settlement.request.nonDispatchProven, plan.settlement⟩ ∈
      after.settlements := by
  simp only [recordSettlement, bind_eq_ok, Store.settle_eq_ok, Store.append_eq_ok] at written
  obtain ⟨_, ⟨settlements, inserted, rfl⟩, _, validated, _, uncertainties, _, raised, _, cleared, _,
    released, _, -, rfl⟩ := written
  obtain ⟨fences₁, validators, rfl, -⟩ := settleValidator_ok validated
  obtain ⟨fences₂, rfl, -⟩ := resolveUncertainties_ok uncertainties
  obtain ⟨fences₃, rfl, -⟩ := Store.raiseFences_ok raised
  obtain ⟨fences₄, rfl, -⟩ := clearResolved_ok cleared
  have stored := (Table.mem_of_insert inserted _).mpr (.inr rfl)
  obtain ⟨-, rfl⟩ | ⟨-, -, -, -, -, slot, table, -, rfl, -⟩ := releaseSettledSlot_ok released
  · exact stored
  · exact stored

/-- A settlement that was not a replay left its row, of which its receipt is read. -/
theorem settleBudget_first {request : BudgetSettlementRequest} {texts : List String}
    {receipt : SettlementReceipt}
    (settled : settleBudget digests checks request texts before = .ok (receipt, after))
    (first : receipt.replayed = false) :
    request.validate = .ok () ∧
      (∃ reservation ∈ before.reservations,
        reservation.reservationId = request.reservationId ∧ reservation.scope = request.scope) ∧
      before.settlements.find? (fun row => row.settlementEventId = request.settlementEventId) =
        none ∧
      ∃ row ∈ after.settlements, row.body.request = request ∧ receipt = row.receipt false := by
  simp only [settleBudget, bind_eq_ok, fetch_eq_ok, require_eq_ok] at settled
  obtain ⟨_, validated, _, -, _, -, reservation, owner, _, bound, _, -, settled⟩ := settled
  obtain ⟨member, named⟩ := mem_of_reservation? owner
  cases found : before.settlements.find? (fun row =>
      row.settlementEventId = request.settlementEventId) with
  | some prior =>
      rw [found] at settled
      simp only [bind_eq_ok, pure_eq_ok, Prod.mk.injEq] at settled
      obtain ⟨_, -, rfl, -⟩ := settled
      cases first
  | none =>
      rw [found] at settled
      simp only [bind_eq_ok, pure_eq_ok, Prod.mk.injEq, writeSettlement] at settled
      obtain ⟨plan, checked, _, ⟨middle, recorded, fenced⟩, rfl, rfl⟩ := settled
      obtain ⟨-, same, -⟩ := checkSettlement_ok checked
      have stored := recordSettlement_stored recorded
      refine ⟨validated, ⟨reservation, member, named, bound⟩, rfl, _, ?_, same, rfl⟩
      split at fenced
      · obtain ⟨bodies, moved, -⟩ := dependents_moves plan.reservation.scope.repositoryId fenced
        rw [← same]
        exact moved.kept.settlements _ stored
      · obtain rfl := Except.ok.inj fenced
        rw [← same]
        exact stored

/-- Releasing the slot changes the slot table only. -/
theorem releaseObservedSlot_tables (store : Store) (scope : AttemptScope) (plan : ReceiptPlan) :
    (releaseObservedSlot store scope plan).observations = store.observations ∧
      (releaseObservedSlot store scope plan).commandOutcomes = store.commandOutcomes := by
  unfold releaseObservedSlot
  split <;> exact ⟨rfl, rfl⟩

/-- The row of an observation and the outcome of its command are in the tables its
writes leave. -/
theorem writeObservation_stored {request : EffectObservationRequest}
    {classification : SourceControlClassification} {plan : ReceiptPlan}
    {uncertainties : List (String × String)} {row : Observation}
    (written : writeObservation digests before request classification plan uncertainties =
      .ok (row, after)) :
    row.commandId = request.commandId ∧ row ∈ after.observations ∧
      ∃ outcome ∈ after.commandOutcomes, outcome.commandId = request.commandId := by
  simp only [writeObservation, bind_eq_ok, Store.recordOutcome_eq_ok, Store.append_eq_ok]
    at written
  obtain ⟨observations, observed, _, disabled, _, ⟨outcomes, recorded, rfl⟩, _, raised, _,
    ⟨_, -, rfl⟩, dependents⟩ := written
  obtain ⟨fences₁, authorizations, rfl, -⟩ := disableRetry_ok disabled
  obtain ⟨fences₂, rfl, -⟩ := Store.raiseFences_ok raised
  have stored := (Table.mem_of_insert observed _).mpr (.inr rfl)
  have outcome := (Table.mem_of_insert recorded _).mpr (.inr rfl)
  obtain ⟨sameRows, sameOutcomes⟩ := releaseObservedSlot_tables { before with
    observations := observations
    authorizations := authorizations
    commandOutcomes := outcomes
    fences := fences₂ } request.scope plan
  rw [← Table.mem_rows, ← show _ = observations from sameRows] at stored
  rw [← Table.mem_rows, ← show _ = outcomes from sameOutcomes] at outcome
  split at dependents
  · simp only [bind_eq_ok, pure_eq_ok, Prod.mk.injEq] at dependents
    obtain ⟨_, fenced, rfl, rfl⟩ := dependents
    obtain ⟨bodies, moved, -⟩ := dependents_moves request.scope.repositoryId fenced
    exact ⟨rfl, moved.kept.observations _ stored, _, moved.kept.outcomes _ outcome, rfl⟩
  · simp only [bind_eq_ok, Except.ok.injEq, pure_eq_ok, Prod.mk.injEq, exists_eq_left']
      at dependents
    obtain ⟨rfl, rfl⟩ := dependents
    exact ⟨rfl, stored, _, outcome, rfl⟩

/-- An observation that was not a replay left its row and the outcome of its command. -/
theorem recordEffectObservation_first {request : EffectObservationRequest}
    {uncertainties : List (String × String)} {receipt : ObservationReceipt}
    (recorded : recordEffectObservation digests repositoryId checks request uncertainties before =
      .ok (receipt, after)) (first : receipt.replayed = false) :
    request.validate = .ok () ∧ request.scope.repositoryId = repositoryId ∧
      request.classification.isSome = true ∧ before.outcome? request.commandId = none ∧
      (∃ outcome ∈ after.commandOutcomes, outcome.commandId = request.commandId) ∧
      ∃ row ∈ after.observations, row.commandId = request.commandId ∧
        receipt = row.receipt false := by
  simp only [recordEffectObservation, bind_eq_ok, require_eq_ok, fetch_eq_ok] at recorded
  obtain ⟨_, validated, _, own, classification, classified, _, -, _, -, recorded⟩ := recorded
  cases found : before.outcome? request.commandId with
  | some prior =>
      rw [found] at recorded
      simp only [bind_eq_ok, pure_eq_ok, Prod.mk.injEq] at recorded
      obtain ⟨_, -, _, -, rfl, -⟩ := recorded
      cases first
  | none =>
      rw [found] at recorded
      dsimp only at recorded
      split at recorded
      · simp only [bind_eq_ok, pure_eq_ok, Prod.mk.injEq] at recorded
        obtain ⟨_, -, rfl, -⟩ := recorded
        cases first
      · simp only [bind_eq_ok, pure_eq_ok, Prod.mk.injEq, Prod.exists, observeEffect] at recorded
        obtain ⟨row, _, ⟨_, -, _, -, _, -, _, -, _, -, _, _, -, _, -, _, _, -, _, -, _, -, written⟩,
          rfl, rfl⟩ := recorded
        obtain ⟨ofCommand, stored, outcome⟩ := writeObservation_stored written
        exact ⟨validated, own, by rw [classified]; rfl, rfl, outcome, row, stored, ofCommand, rfl⟩

end First

/-! ## The second call -/

/-- Two intents with one payload pass the same `validate`. -/
theorem OperationIntent.validate_of_payload {first again : OperationIntent}
    (request : again.request = first.request)
    (retry : again.retry.map RetryBinding.members = first.retry.map RetryBinding.members)
    (validated : first.validate = .ok ()) : again.validate = .ok () := by
  simp only [OperationIntent.validate, bind_eq_ok] at validated ⊢
  obtain ⟨_, base, rest⟩ := validated
  refine ⟨(), by rw [request]; exact base, ?_⟩
  cases firstRetry : first.retry with
  | none =>
      have : again.retry = none := by simpa [firstRetry] using retry
      rw [this]
  | some binding =>
      rw [firstRetry, Option.map_some] at retry
      obtain ⟨other, same, members⟩ := Option.map_eq_some_iff.mp retry
      simp only [RetryBinding.members, Prod.mk.injEq] at members
      obtain ⟨authorization, prior, source, target⟩ := members
      rw [firstRetry] at rest
      rw [same]
      simpa only [RetryBinding.validate, bind_eq_ok, require_eq_ok, refuse_eq_ok, authorization,
        prior, source, target, request] using rest

section Second

variable {digests : StoreDigests} {repositoryId : String} {checks : Checks} {store : Store}

theorem commitIntent_again {intent : OperationIntent} {capability : SyntheticCapability}
    {prior : CommandOutcome} {redemption : Redemption} (validated : intent.validate = .ok ())
    (own : intent.request.repositoryId = repositoryId) (binds : capabilityBinds intent capability)
    (verified : verifyProjections checks store = .ok ())
    (recorded : store.outcome? intent.request.commandId = some prior)
    (issued : checks .issued = true) (same : checks .samePayload = true)
    (issuer : checks .planIssuer = true) (redeemed : redemption ∈ store.redemptions)
    (command : redemption.commandId = intent.request.commandId)
    (claim : redemption.claimId = capability.claimId)
    (grant : redemption.grantId = capability.grantId)
    (scope : redemption.scopeDigest = capability.scopeDigest) :
    commitIntent digests repositoryId checks intent capability store =
      .ok (⟨intent.request.commandId, prior.eventId, prior.sequence, prior.eventHash, true⟩,
        store) := by
  have original : store.redemptions.any (fun row => row.commandId = intent.request.commandId &&
      row.claimId = capability.claimId && row.grantId = capability.grantId &&
      row.scopeDigest = capability.scopeDigest) = true :=
    Table.any_eq_true.mpr ⟨redemption, redeemed, by simp [command, claim, grant, scope]⟩
  simp only [commitIntent, bind_eq_ok, require_eq_ok]
  refine ⟨(), validated, (), own, (), binds, (), verified, ?_⟩
  rw [recorded]
  simp only [commitReplay, bind_eq_ok, pure_eq_ok, Prod.mk.injEq, Checks.require_eq_ok,
    require_eq_ok, and_true]
  exact ⟨_, ⟨(), issued, (), same, (), issuer, (), original, rfl⟩, rfl⟩

theorem settleBudget_again {request : BudgetSettlementRequest} {texts : List String}
    {reservation : Reservation} {prior : SettlementRow} (validated : request.validate = .ok ())
    (evidence : checks .evidence = true) (verified : verifyProjections checks store = .ok ())
    (owner : store.reservation? request.reservationId = some reservation)
    (bound : reservation.scope = request.scope) (issuer : checks .planIssuer = true)
    (recorded : store.settlements.find? (fun row =>
      row.settlementEventId = request.settlementEventId) = some prior)
    (same : checks .samePayload = true) :
    settleBudget digests checks request texts store = .ok (prior.receipt true, store) := by
  simp only [settleBudget, bind_eq_ok, fetch_eq_ok, require_eq_ok, Checks.require_eq_ok]
  refine ⟨(), validated, (), evidence, (), verified, reservation, owner, (), bound, (), issuer, ?_⟩
  rw [recorded]
  simp only [bind_eq_ok, pure_eq_ok, Checks.require_eq_ok]
  exact ⟨(), same, trivial⟩

theorem recordEffectObservation_again {request : EffectObservationRequest}
    {uncertainties : List (String × String)} {prior : Observation} {outcome : CommandOutcome}
    (validated : request.validate = .ok ()) (own : request.scope.repositoryId = repositoryId)
    (classified : request.classification.isSome = true) (evidence : checks .evidence = true)
    (verified : verifyProjections checks store = .ok ()) (fresh : checks .freshness = true)
    (recorded : store.outcome? request.commandId = some outcome)
    (same : checks .samePayload = true)
    (stored : store.observations.find? (fun row => row.commandId = request.commandId) =
      some prior) :
    recordEffectObservation digests repositoryId checks request uncertainties store =
      .ok (prior.receipt true, store) := by
  obtain ⟨classification, classified⟩ := Option.isSome_iff_exists.mp classified
  simp only [recordEffectObservation, verifyStore, bind_eq_ok, fetch_eq_ok, require_eq_ok,
    Checks.require_eq_ok]
  refine ⟨(), validated, (), own, classification, classified, (), evidence, (),
    ⟨(), verified, fresh⟩, ?_⟩
  rw [recorded]
  simp only [bind_eq_ok, pure_eq_ok, fetch_eq_ok, Checks.require_eq_ok]
  exact ⟨(), same, prior, stored, rfl⟩

end Second

/-! ## Idempotence -/

/-- What a repeated command is checked against besides its payload: the store's own
verifier, the authority and its evidence, for an intent the capability that was
redeemed, and for an observation the freshness proof. -/
def Command.Admitted (checks : Checks) (store : Store) (original again : Command) : Prop :=
  verifyProjections checks store = .ok () ∧
    match original, again with
    | commitIntent _ redeemed, commitIntent intent capability =>
        checks .issued = true ∧ checks .planIssuer = true ∧ capabilityBinds intent capability ∧
          capability.claimId = redeemed.claimId ∧ capability.grantId = redeemed.grantId ∧
          capability.scopeDigest = redeemed.scopeDigest
    | _, settleBudget _ _ => checks .evidence = true ∧ checks .planIssuer = true
    | _, recordEffectObservation _ _ => checks .evidence = true ∧ checks .freshness = true
    | _, _ => True

/-- What a journal owes to every command given to it, and to every history after that. -/
structure Journal.Idempotent {D : Type} [DecidableEq D] (digests : JournalDigests D)
    (repositoryId : String) (first : Journal D) : Prop where
  /-- A command that was committed and is given again, with the same payload and after
  any history, has its first answer and changes nothing. -/
  replayed : ∀ {checks original answer second},
    first.call digests repositoryId checks original = .ok (answer, second) →
    answer.first = true → ∀ {calls third}, JournalRun digests repositoryId second calls third →
    ∀ {again checks}, again.payload digests = original.payload digests →
      original.Admitted checks third.store again →
      third.call digests repositoryId checks again = .ok (answer.again, third)
  /-- Under the key of a committed command no other payload passes, after any history. -/
  reused : ∀ {checks original answer second},
    first.call digests repositoryId checks original = .ok (answer, second) →
    answer.first = true → ∀ {calls third}, JournalRun digests repositoryId second calls third →
    ∀ {again checks}, again.key? = original.key? →
      again.payload digests ≠ original.payload digests →
      ∃ error, third.call digests repositoryId checks again = .error error
  /-- Nor does a payload other than the one any operation recorded under the key. -/
  recorded : ∀ {command key digest checks}, command.key? = some key →
    first.recorded? key = some digest → digest ≠ digests.payload (command.payload digests) →
    ∃ error, first.call digests repositoryId checks command = .error error
  /-- A call that raises changes nothing. -/
  rejected : ∀ {given : Call} {error},
    first.call digests repositoryId given.checks given.command = .error error →
    first.step digests repositoryId given = first

/-- The outcome of a command is found under its id. -/
theorem outcome?_of_mem {store : Store} {row : CommandOutcome} {commandId : String}
    (member : row ∈ store.commandOutcomes) (named : row.commandId = commandId) :
    store.outcome? commandId = some row :=
  Table.find?_eq_some member (by simp [named])
    (fun other _ same => (of_decide_eq_true same).trans named.symm)

/-- A settlement is found under its event id. -/
theorem settlement?_of_mem {store : Store} {row : SettlementRow} {settlementEventId : String}
    (member : row ∈ store.settlements) (named : row.settlementEventId = settlementEventId) :
    store.settlements.find? (fun row => row.settlementEventId = settlementEventId) = some row :=
  Table.find?_eq_some member (by simp [named])
    (fun other _ same => .inl ((of_decide_eq_true same).trans named.symm))

/-- The observation of a command is found under its id. -/
theorem observation?_of_mem {store : Store} {row : Observation} {commandId : String}
    (member : row ∈ store.observations) (named : row.commandId = commandId) :
    store.observations.find? (fun row => row.commandId = commandId) = some row :=
  Table.find?_eq_some member (by simp [named])
    (fun other _ same => .inr (.inr (.inl ((of_decide_eq_true same).trans named.symm))))

/-- A reservation is found under its id. -/
theorem reservation?_of_mem {store : Store} {row : Reservation} {reservationId : String}
    (member : row ∈ store.reservations) (named : row.reservationId = reservationId) :
    store.reservation? reservationId = some row :=
  Table.find?_eq_some member (by simp [named])
    (fun other _ same => .inl ((of_decide_eq_true same).trans named.symm))

section Idempotence

variable {D : Type} [DecidableEq D] {digests : JournalDigests D} {repositoryId : String}

variable {second : Journal D} {answer : Answer}

/-- A committed command leaves its digest under its key. -/
theorem Journal.recorded_of_first {first : Journal D} {checks : Checks} {command : Command}
    (complete : first.Complete)
    (called : first.call digests repositoryId checks command = .ok (answer, second))
    (wrote : answer.first = true) :
    ∃ key, command.key? = some key ∧
      second.recorded? key = some (digests.payload (command.payload digests)) := by
  obtain ⟨after, answered, rfl⟩ := call_eq_ok.mp called
  cases command
  case commitIntent intent capability =>
    simp only [Command.answer, bind_eq_ok, pure_eq_ok, Prod.mk.injEq, Prod.exists] at answered
    obtain ⟨receipt, _, committed, rfl, rfl⟩ := answered
    obtain ⟨-, -, fresh, -, stored, -⟩ :=
      commitIntent_first committed (by simpa [Answer.first] using wrote)
    exact ⟨_, rfl, filled_new (complete.outcomes _) fresh (outcome?_of_mem stored rfl)⟩
  case settleBudget request texts =>
    simp only [Command.answer, bind_eq_ok, pure_eq_ok, Prod.mk.injEq, Prod.exists] at answered
    obtain ⟨receipt, _, settled, rfl, rfl⟩ := answered
    obtain ⟨-, -, fresh, row, stored, rfl, -⟩ :=
      settleBudget_first settled (by simpa [Answer.first] using wrote)
    exact ⟨_, rfl, filled_new (complete.settlements _) fresh (settlement?_of_mem stored rfl)⟩
  case recordEffectObservation request uncertainties =>
    simp only [Command.answer, bind_eq_ok, pure_eq_ok, Prod.mk.injEq, Prod.exists] at answered
    obtain ⟨receipt, _, recorded, rfl, rfl⟩ := answered
    obtain ⟨-, -, -, fresh, ⟨outcome, stored, named⟩, -⟩ :=
      recordEffectObservation_first recorded (by simpa [Answer.first] using wrote)
    exact ⟨_, rfl, filled_new (complete.outcomes _) fresh (outcome?_of_mem stored named)⟩
  all_goals
    simp only [Command.answer, bind_eq_ok, pure_eq_ok, Prod.mk.injEq] at answered
    obtain ⟨_, -, rfl, -⟩ := answered
    cases wrote

/-- A payload that is not the recorded one is refused. -/
theorem Journal.refused_of_recorded {journal : Journal D} {checks : Checks} {command : Command}
    {key : CommandKey} {digest : D} (complete : journal.Complete) (keyed : command.key? = some key)
    (recorded : journal.recorded? key = some digest)
    (other : digest ≠ digests.payload (command.payload digests)) :
    ∃ error, journal.call digests repositoryId checks command = .error error := by
  cases called : journal.call digests repositoryId checks command with
  | error error => exact ⟨error, rfl⟩
  | ok result =>
      exfalso
      obtain ⟨answer, next⟩ := result
      obtain ⟨after, answered, -⟩ := call_eq_ok.mp called
      have unequal : journal.recorded? key ≠
          some (digests.payload (command.payload digests)) := by
        rw [recorded]
        simpa using other
      cases command
      case commitIntent intent capability =>
        obtain rfl := Option.some.inj keyed
        have some_ := complete.outcomes intent.request.commandId
        rw [show journal.outcomeDigest _ = some digest from recorded] at some_
        obtain ⟨prior, found⟩ := Option.isSome_iff_exists.mp some_.symm
        simp only [Command.answer, DeliveryControl.commitIntent, bind_eq_ok, Prod.exists] at answered
        obtain ⟨_, _, ⟨_, -, _, -, _, -, _, -, committed⟩, -⟩ := answered
        rw [found] at committed
        simp only [commitReplay, bind_eq_ok, Checks.require_eq_ok] at committed
        obtain ⟨_, ⟨_, -, _, same, -⟩, -⟩ := committed
        exact unequal (of_decide_eq_true same)
      case settleBudget request texts =>
        obtain rfl := Option.some.inj keyed
        have some_ := complete.settlements request.settlementEventId
        rw [show journal.settlementDigest _ = some digest from recorded] at some_
        obtain ⟨prior, found⟩ := Option.isSome_iff_exists.mp some_.symm
        simp only [Command.answer, DeliveryControl.settleBudget, bind_eq_ok, Prod.exists] at answered
        obtain ⟨_, _, ⟨_, -, _, -, _, -, reservation, -, _, -, _, -, settled⟩, -⟩ := answered
        rw [found] at settled
        simp only [bind_eq_ok, Checks.require_eq_ok] at settled
        obtain ⟨_, same, -⟩ := settled
        exact unequal (of_decide_eq_true same)
      case recordEffectObservation request uncertainties =>
        obtain rfl := Option.some.inj keyed
        have some_ := complete.outcomes request.commandId
        rw [show journal.outcomeDigest _ = some digest from recorded] at some_
        obtain ⟨prior, found⟩ := Option.isSome_iff_exists.mp some_.symm
        simp only [Command.answer, DeliveryControl.recordEffectObservation, bind_eq_ok, Prod.exists]
          at answered
        obtain ⟨_, _, ⟨_, -, _, -, _, -, _, -, _, -, observed⟩, -⟩ := answered
        rw [found] at observed
        simp only [bind_eq_ok, Checks.require_eq_ok] at observed
        obtain ⟨_, same, -⟩ := observed
        have computed : journal.samePayload digests (.recordEffectObservation request uncertainties)
            (checks .samePayload) = true := same
        rw [samePayload, found] at computed
        exact unequal (of_decide_eq_true computed)
      all_goals cases keyed

/-- The computed answer is the only one the verifier could see differently, and it
does not ask for it. -/
theorem Journal.verified_checked {journal : Journal D} {checks : Checks} {command : Command}
    {store : Store} (verified : verifyProjections checks store = .ok ()) :
    verifyProjections (journal.checked digests checks command) store = .ok () :=
  verified

/-- An intent that is given again with its payload and its capability. -/
theorem Journal.commitIntent_replayed {first third : Journal D} {checks later : Checks}
    {intent : OperationIntent} {capability : SyntheticCapability} (complete : first.Complete)
    (called : first.call digests repositoryId checks (.commitIntent intent capability) =
      .ok (answer, second)) (wrote : answer.first = true) (lasting : second.Extends third)
    (whole : third.Complete) {again : Command}
    (same : again.payload digests = (Command.commitIntent intent capability).payload digests)
    (admitted : (Command.commitIntent intent capability).Admitted later third.store again) :
    third.call digests repositoryId later again = .ok (answer.again, third) := by
  obtain ⟨key, keyed, recorded⟩ := recorded_of_first complete called wrote
  obtain rfl := Option.some.inj keyed
  have digest := lasting.recorded _ _ recorded
  obtain ⟨after, answered, rfl⟩ := call_eq_ok.mp called
  simp only [Command.answer, bind_eq_ok, pure_eq_ok, Prod.mk.injEq, Prod.exists] at answered
  obtain ⟨receipt, _, committed, rfl, rfl⟩ := answered
  obtain ⟨validated, own, -, ofCommand, stored, redemption, redeemed, command, claim, grant,
    scope⟩ := commitIntent_first committed (by simpa [Answer.first] using wrote)
  cases again <;> simp only [Command.payload, Payload.intent.injEq, reduceCtorEq] at same
  rename_i intent' capability'
  obtain ⟨request, retry⟩ := same
  obtain ⟨verified, issued, issuer, binds, sameClaim, sameGrant, sameScope⟩ := admitted
  have found : third.store.outcome? intent'.request.commandId = some
      ⟨intent.request.commandId, receipt.eventId, receipt.sequence, receipt.eventHash⟩ :=
    outcome?_of_mem (lasting.store.outcomes _ stored) (by rw [request])
  have computed : third.checked digests later (.commitIntent intent' capability') .samePayload =
      true := by
    show decide (third.recorded? (.command intent'.request.commandId) = _) = true
    rw [request, digest]
    simp [Command.payload, request, retry]
  rw [call_eq_ok]
  refine ⟨third.store, ?_, advance_self whole _⟩
  have issuedHere : third.checked digests later (.commitIntent intent' capability') .issued = true :=
    issued
  have issuerHere :
      third.checked digests later (.commitIntent intent' capability') .planIssuer = true := issuer
  have ownAgain : intent'.request.repositoryId = repositoryId := by rw [request, own]
  have commandAgain : redemption.commandId = intent'.request.commandId := by rw [request, command]
  have replay : commitIntent digests.store repositoryId
      (third.checked digests later (.commitIntent intent' capability')) intent' capability'
      third.store = .ok (⟨intent'.request.commandId, receipt.eventId, receipt.sequence,
        receipt.eventHash, true⟩, third.store) :=
    commitIntent_again (OperationIntent.validate_of_payload request retry validated) ownAgain binds
      (verified_checked verified) found issuedHere computed issuerHere (lasting.store.redemptions _ redeemed) commandAgain
      (claim.trans sameClaim.symm) (grant.trans sameGrant.symm) (scope.trans sameScope.symm)
  simp only [Command.answer, bind_eq_ok, pure_eq_ok, Prod.mk.injEq, Prod.exists]
  refine ⟨_, _, replay, ?_, rfl⟩
  simp [Answer.again, ofCommand, request]

/-- A settlement that is given again. -/
theorem Journal.settleBudget_replayed {first third : Journal D} {checks later : Checks}
    {request : BudgetSettlementRequest} {texts : List String} (complete : first.Complete)
    (called : first.call digests repositoryId checks (.settleBudget request texts) =
      .ok (answer, second)) (wrote : answer.first = true) (lasting : second.Extends third)
    (whole : third.Complete) {again : Command}
    (same : again.payload digests = (Command.settleBudget request texts).payload digests)
    (admitted : (Command.settleBudget request texts).Admitted later third.store again) :
    third.call digests repositoryId later again = .ok (answer.again, third) := by
  obtain ⟨key, keyed, recorded⟩ := recorded_of_first complete called wrote
  obtain rfl := Option.some.inj keyed
  have digest := lasting.recorded _ _ recorded
  obtain ⟨middle, kept, advanced⟩ := kept_of_call called
  obtain ⟨after, answered, rfl⟩ := call_eq_ok.mp called
  have settledKept : Kept first.store after := by
    rw [← show middle = after from congrArg Journal.store advanced]
    exact kept
  simp only [Command.answer, bind_eq_ok, pure_eq_ok, Prod.mk.injEq, Prod.exists] at answered
  obtain ⟨receipt, _, settled, rfl, rfl⟩ := answered
  obtain ⟨validated, ⟨reservation, owner, named, bound⟩, -, row, stored, asked, receipted⟩ :=
    settleBudget_first settled (by simpa [Answer.first] using wrote)
  cases again <;> simp only [Command.payload, Payload.settlement.injEq, reduceCtorEq] at same
  rename_i request' texts'
  obtain rfl : request = request' := same.symm
  obtain ⟨verified, evidence, issuer⟩ := admitted
  obtain ⟨next, nextMember, nextDemand⟩ := (settledKept.trans lasting.store).reservations _ owner
  have nextNamed : next.reservationId = request.reservationId :=
    (congrArg Demand.reservationId nextDemand).trans named
  have nextBound : next.scope = request.scope := (congrArg Demand.scope nextDemand).trans bound
  have found : third.store.settlements.find? (fun row =>
      row.settlementEventId = request.settlementEventId) = some row :=
    settlement?_of_mem (lasting.store.settlements _ stored)
      (by rw [SettlementRow.settlementEventId, asked])
  have computed : third.checked digests later (.settleBudget request texts') .samePayload =
      true := by
    show decide (third.recorded? (.settlement request.settlementEventId) = _) = true
    rw [digest]
    exact decide_eq_true rfl
  have evidenceHere :
      third.checked digests later (.settleBudget request texts') .evidence = true := evidence
  have issuerHere :
      third.checked digests later (.settleBudget request texts') .planIssuer = true := issuer
  have replay : settleBudget digests.store
      (third.checked digests later (.settleBudget request texts')) request texts' third.store =
        .ok (row.receipt true, third.store) :=
    settleBudget_again validated evidenceHere (verified_checked verified)
      (reservation?_of_mem nextMember nextNamed) nextBound issuerHere found computed
  rw [call_eq_ok]
  refine ⟨third.store, ?_, advance_self whole _⟩
  simp only [Command.answer, bind_eq_ok, pure_eq_ok, Prod.mk.injEq, Prod.exists]
  refine ⟨_, _, replay, ?_, rfl⟩
  rw [receipted]
  rfl

/-- An observation that is given again. -/
theorem Journal.recordEffectObservation_replayed {first third : Journal D} {checks later : Checks}
    {request : EffectObservationRequest} {uncertainties : List (String × String)}
    (complete : first.Complete)
    (called : first.call digests repositoryId checks
      (.recordEffectObservation request uncertainties) = .ok (answer, second))
    (wrote : answer.first = true) (lasting : second.Extends third) (whole : third.Complete)
    {again : Command}
    (same : again.payload digests =
      (Command.recordEffectObservation request uncertainties).payload digests)
    (admitted : (Command.recordEffectObservation request uncertainties).Admitted later
      third.store again) :
    third.call digests repositoryId later again = .ok (answer.again, third) := by
  obtain ⟨key, keyed, recorded⟩ := recorded_of_first complete called wrote
  obtain rfl := Option.some.inj keyed
  have digest := lasting.recorded _ _ recorded
  obtain ⟨after, answered, rfl⟩ := call_eq_ok.mp called
  simp only [Command.answer, bind_eq_ok, pure_eq_ok, Prod.mk.injEq, Prod.exists] at answered
  obtain ⟨receipt, _, observed, rfl, rfl⟩ := answered
  obtain ⟨validated, own, classified, -, ⟨outcome, outcomeStored, outcomeNamed⟩, row, stored,
    named, receipted⟩ := recordEffectObservation_first observed (by simpa [Answer.first] using wrote)
  cases again <;> simp only [Command.payload, Payload.observation.injEq, reduceCtorEq] at same
  rename_i request' uncertainties'
  obtain rfl : request = request' := same.symm
  obtain ⟨verified, evidence, fresh⟩ := admitted
  have found : third.store.outcome? request.commandId = some outcome :=
    outcome?_of_mem (lasting.store.outcomes _ outcomeStored) outcomeNamed
  have foundRow : third.store.observations.find? (fun row =>
      row.commandId = request.commandId) = some row :=
    observation?_of_mem (lasting.store.observations _ stored) named
  have computed : third.checked digests later
      (.recordEffectObservation request uncertainties') .samePayload = true := by
    show third.samePayload digests (.recordEffectObservation request uncertainties')
      (later .samePayload) = true
    rw [samePayload, found, digest]
    exact decide_eq_true rfl
  have evidenceHere : third.checked digests later
      (.recordEffectObservation request uncertainties') .evidence = true := evidence
  have freshHere : third.checked digests later
      (.recordEffectObservation request uncertainties') .freshness = true := fresh
  have replay : recordEffectObservation digests.store repositoryId
      (third.checked digests later (.recordEffectObservation request uncertainties')) request
      uncertainties' third.store = .ok (row.receipt true, third.store) :=
    recordEffectObservation_again validated own classified evidenceHere
      (verified_checked verified) freshHere found computed foundRow
  rw [call_eq_ok]
  refine ⟨third.store, ?_, advance_self whole _⟩
  simp only [Command.answer, bind_eq_ok, pure_eq_ok, Prod.mk.injEq, Prod.exists]
  refine ⟨_, _, replay, ?_, rfl⟩
  rw [receipted]
  rfl

/-- **Every reachable journal is idempotent.** -/
theorem journal_idempotent (collisionFree : Function.Injective digests.payload)
    {calls : List Call} {first : Journal D}
    (reached : JournalRun digests repositoryId Journal.empty calls first) :
    first.Idempotent digests repositoryId := by
  obtain ⟨complete, -⟩ := Journal.extends_of_run Journal.complete_empty reached
  constructor
  case replayed =>
    intro checks original answer second called wrote calls third later again checks' same admitted
    obtain ⟨after, kept, rfl⟩ := Journal.kept_of_call called
    obtain ⟨whole, lasting⟩ := Journal.extends_of_run (complete.advance kept) later
    obtain ⟨key, keyed, -⟩ := Journal.recorded_of_first complete called wrote
    cases original
    case commitIntent =>
      exact Journal.commitIntent_replayed complete called wrote lasting whole same admitted
    case settleBudget =>
      exact Journal.settleBudget_replayed complete called wrote lasting whole same admitted
    case recordEffectObservation =>
      exact Journal.recordEffectObservation_replayed complete called wrote lasting whole same
        admitted
    all_goals cases keyed
  case reused =>
    intro checks original answer second called wrote calls third later again checks' named other
    obtain ⟨after, kept, rfl⟩ := Journal.kept_of_call called
    obtain ⟨whole, lasting⟩ := Journal.extends_of_run (complete.advance kept) later
    obtain ⟨key, keyed, recorded⟩ := Journal.recorded_of_first complete called wrote
    refine Journal.refused_of_recorded whole (named.trans keyed) (lasting.recorded _ _ recorded) ?_
    intro same
    exact other (collisionFree same).symm
  case recorded =>
    intro command key digest checks keyed recorded other
    exact Journal.refused_of_recorded complete keyed recorded other
  case rejected =>
    intro given error raised
    rw [Journal.step, raised]

end Idempotence

/-! ## The sample repository -/

/-- Every payload as its own digest. -/
def sampleJournalDigests : JournalDigests Payload where
  store := sampleDigests
  payload := id
  text _ := ""

/-- The journal a list of commands of the sample repository leads to. -/
def sampleJournal (commands : List Command) : Journal Payload :=
  (commands.map Command.checked).foldl (Journal.step sampleJournalDigests "repo") Journal.empty

theorem sampleJournal_reached (commands : List Command) :
    JournalRun sampleJournalDigests "repo" Journal.empty (commands.map Command.checked)
      (sampleJournal commands) :=
  Run.of_foldl _ _

/-- The intent of the sample run, with the capability of a claim. -/
def sampleCommit (claimId : String) : Command :=
  .commitIntent (sampleIntent "first" 1 1 1 none) { sampleCapability "first" with claimId := claimId }

theorem sampleJournal_idempotent :
    (sampleJournal [.acceptPlan samplePlan, sampleCommit "claim"]).Idempotent
      sampleJournalDigests "repo" :=
  journal_idempotent Function.injective_id
    (sampleJournal_reached [.acceptPlan samplePlan, sampleCommit "claim"])

/-- The payload of an intent does not name its capability: given again with another
claim of the same attempt, the committed intent is refused. -/
theorem replay_of_other_claim_refused :
    ∃ answer second error,
      (sampleJournal [.acceptPlan samplePlan]).call sampleJournalDigests "repo" (fun _ => true)
        (sampleCommit "claim") = .ok (answer, second) ∧ answer.first = true ∧
      (sampleCommit "other").payload sampleJournalDigests =
        (sampleCommit "claim").payload sampleJournalDigests ∧
      second.call sampleJournalDigests "repo" (fun _ => true) (sampleCommit "other") =
        .error error :=
  ⟨_, _, _, rfl, rfl, rfl, rfl⟩

end Aegis.DeliveryControl
