/-
# DeliveryControl.StoreMoves — what one recorded event does to the store

Every transaction of the store is a sequence of moves, one for each event it
records. `Move` says everything a move can do to the heads of the runs, to the
budget accounts, to the outstanding slot and to the permission uses; whatever is
proved about all runs of the store is derived from it.

* `Move.of_append`: a move from the one `append` of its event;
* `charge_move`, `dependents_move`, `kept_move`: the moves that several
  operations share.
-/
import Aegis.DeliveryControl.BudgetSettlement
import Aegis.DeliveryControl.Control
import Aegis.Lib.Runs

namespace Aegis.DeliveryControl

open Aegis.Lib
open Aegis.Lib.Guarded
open Aegis.Lib.Runs

set_option autoImplicit false

/-! ## Heads of runs -/

/-- The body is the next event of a run of the repository. -/
structure RunRow.Next (repositoryId : String) (run : RunRow) (body : EventBody) : Prop where
  ofRun : body.runId = run.runId
  sequence : body.sequence = run.headSequence + 1
  previous : body.previousEventHash = run.headHash
  repository : run.repositoryId = repositoryId → body.repositoryId = repositoryId

/-- The state after an event: the one its body leads to, else the state before. -/
def RunRow.Follows (run : RunRow) (body : EventBody) (state : LifecycleState) : Prop :=
  (body.lifecycle = none ∧ state = run.lifecycleState) ∨ body.lifecycle = some (run.change state)

/-- What an event does to the heads: it opens a run or moves the head of one. -/
inductive HeadMove (digests : StoreDigests) (repositoryId : String)
    (before after : Table RunRow) (body : EventBody) : Prop
  | opened (request : PlanAcceptanceRequest) (own : request.repositoryId = repositoryId)
      (fresh : ∀ row ∈ before, row.runId ≠ request.runId)
      (body_eq : body = request.body)
      (rows : after.rows = before.rows ++
        [request.run.advance .planned none (Store.eventRow digests body)])
  | advanced (run : RunRow) (state : LifecycleState) (cursor : Option String)
      (member : run ∈ before) (next : run.Next repositoryId body) (follows : run.Follows body state)
      (terminal : run.lifecycleState.terminal = true → state = run.lifecycleState)
      (rows : after.rows = before.rows.map (fun row => if row.runId = body.runId
        then row.advance state cursor (Store.eventRow digests body) else row))

/-! ## Accounts -/

/-- The settlement an event records. -/
def EventDetail.settlement? : EventDetail → Option SettlementBody
  | .budgetSettled settlement | .nondispatchProven settlement => some settlement
  | _ => none

/-- The units of a reservation: identity, scope, reserved, worst case and cap. -/
structure Demand where
  reservationId : String
  scope : AttemptScope
  reservedUnits : Nat
  worstCaseUnits : Nat
  capUnits : Nat
  deriving DecidableEq, Repr

def Reservation.demand (reservation : Reservation) : Demand :=
  ⟨reservation.reservationId, reservation.scope, reservation.reservedUnits,
    reservation.worstCaseUnits, reservation.capUnits⟩

def OperationIntent.demand (intent : OperationIntent) : Demand :=
  ⟨intent.request.reservationId, intent.scope, intent.request.reservedUnits,
    intent.request.worstCaseUnits, intent.request.capUnits⟩

def ValidatorIntentRequest.demand (request : ValidatorIntentRequest) : Demand :=
  ⟨request.reservationId, request.scope, request.reservedUnits, request.worstCaseUnits,
    request.capUnits⟩

/-- The reservation an event makes. -/
def EventDetail.demand? : EventDetail → Option Demand
  | .intentCommitted intent _ => some intent.demand
  | .validatorIntentCommitted request _ => some request.demand
  | _ => none

theorem EventDetail.demand?_of_settlement? {detail : EventDetail} {settlement : SettlementBody}
    (settles : detail.settlement? = some settlement) : detail.demand? = none := by
  cases detail <;> first | rfl | cases settles

/-- An event that reserves nothing and settles nothing but an unknown worst case. -/
def EventDetail.plain (detail : EventDetail) : Bool :=
  detail.demand?.isNone && detail.settlement?.all (fun settlement =>
    settlement.request.disposition = .unknownWorstCaseCharged)

/-- A fence over the whole repository that no final failure raised. -/
def Fence.repositoryWide (fence : Fence) (repositoryId : String) : Prop :=
  fence.repositoryId = repositoryId ∧ fence.itemId = none ∧ fence.logicalEffectId = none ∧
    fence.reasonCode ≠ .failedFinalApplication

/-- A reservation as `commit_intent` and `commit_validator_intent` insert it. -/
def Reservation.Unsettled (reservation : Reservation) : Prop :=
  reservation.disposition = .reserved ∧ reservation.heldUnits = reservation.reservedUnits ∧
    reservation.chargedUnits = 0 ∧ reservation.uncertainty = false ∧
    reservation.settlementHeadHash = ""

/-- A reservation that was never settled charges nothing. -/
def Reservation.Uncharged (reservation : Reservation) : Prop :=
  reservation.disposition = .reserved → reservation.chargedUnits = 0

/-- The additional-liability fence of the head settlement, when the next one resolves it. -/
def headFence (store : Store) (reservation : Reservation) (next : BudgetDisposition) :
    Option FenceId :=
  if resolvesUnknown reservation.disposition next then
    match store.settlements.find? (fun row => row.reservationId = reservation.reservationId &&
        row.settlementHash = reservation.settlementHeadHash) with
    | some head =>
        if head.body.request.additionalLiability then
          some (.additionalLiability head.settlementEventId) else none
    | none => none
  else none

/-- A settlement continues the accounting of its reservation. -/
structure Settles (store : Store) (reservation : Reservation) (row : SettlementRow) : Prop where
  owner : reservation ∈ store.reservations
  binds : row.reservationId = reservation.reservationId
  scope : row.body.request.scope = reservation.scope
  previous : row.previousHash = reservation.settlementHeadHash
  unheld : row.body.heldUnits = 0
  derived : reservation.Uncharged → deriveSettlementAccounting reservation.disposition reservation.chargedUnits
    reservation.worstCaseUnits row.body.request.disposition row.body.request.actualUnits
    row.body.request.additionalLiability row.body.request.nonDispatchProven
    row.body.request.zeroLiabilityProven =
      .ok (row.body.heldUnits, row.body.chargedUnits, row.body.uncertainty)
  once : row.body.request.disposition = .released → ∀ earlier ∈ store.settlements,
    earlier.reservationId = row.reservationId → earlier.body.request.disposition ≠ .released

/-- What an event does to the accounts: nothing, a reservation, or a settlement. -/
inductive AccountMove (digests : StoreDigests) (before after : Store) (body : EventBody) : Prop
  | quiet (reservations : after.reservations = before.reservations)
      (settlements : after.settlements = before.settlements)
      (fences : ∀ fence, fence ∈ after.settlementFences ↔ fence ∈ before.settlementFences)
  | reserved (reservation : Reservation) (unsettled : reservation.Unsettled)
      (detail : body.detail.demand? = some reservation.demand)
      (unfenced : ∀ fence ∈ before.settlementFences,
        ¬ fence.repositoryWide reservation.scope.repositoryId)
      (reservations : after.reservations.rows = before.reservations.rows ++ [reservation])
      (settlements : after.settlements = before.settlements)
      (fences : ∀ fence, fence ∈ after.settlementFences ↔ fence ∈ before.settlementFences)
  | settled (reservation : Reservation) (row : SettlementRow)
      (settles : Settles before reservation row)
      (detail : body.detail.settlement? = some row.body)
      (hash : row.settlementHash = digests.event body)
      (settlements : after.settlements.rows = before.settlements.rows ++ [row])
      (reservations : after.reservations.rows = before.reservations.rows.map (fun other =>
        if other.reservationId = row.reservationId
        then other.settled row.body row.settlementHash else other))
      (fences : ∀ fence, fence ∈ after.settlementFences ↔
        (fence ∈ before.settlementFences ∧
          headFence before reservation row.body.request.disposition ≠ some fence.fenceId) ∨
        fence ∈ raisedFences reservation reservation.disposition row.body)

/-! ## The slot -/

/-- The slot row of an intent. -/
def OperationIntent.slotRow (intent : OperationIntent) : SlotRow where
  repositoryId := intent.request.repositoryId
  runId := intent.request.runId
  logicalEffectId := intent.request.logicalEffectId
  attemptId := intent.request.attemptId
  generation := intent.slotGeneration
  originKind := .executionIntent
  originId := intent.request.attemptId

/-- The permission use of an intent. -/
def OperationIntent.permissionUse (intent : OperationIntent) : PermissionUse :=
  ⟨intent.request.permissionUseId, intent.request.repositoryId, intent.request.logicalEffectId,
    intent.request.attemptId⟩

/-- The operation an event releases the slot of: effect, attempt and generation. -/
def EventDetail.releases : EventDetail → Option (String × String × Option Nat)
  | .nondispatchProven settlement =>
      if settlement.request.releaseSlot then
        some (settlement.request.scope.logicalEffectId, settlement.request.scope.attemptId, none)
      else none
  | .receipt _ members =>
      if members.slotReleased then
        some (members.logicalEffectId, members.slotAttemptId, members.slotGeneration)
      else none
  | .validationApplied _ closure | .terminalValidationSettled _ closure
  | .operationFinalized closure =>
      if closure.slotReleased then
        some (closure.logicalEffectId, closure.slotAttemptId, some closure.slotGeneration)
      else none
  | _ => none

/-- The release names a slot row; a non-execution proof leaves the generation open. -/
def SlotRow.Named (slot : SlotRow) (release : String × String × Option Nat) : Prop :=
  release.1 = slot.logicalEffectId ∧ release.2.1 = slot.attemptId ∧
    ∀ generation ∈ release.2.2, generation = slot.generation

/-- Nothing of the operation that holds the slot is held or uncertain. -/
def SlotRow.Closed (slot : SlotRow) (store : Store) : Prop :=
  ∀ reservation ∈ store.reservations, reservation.scope.repositoryId = slot.repositoryId →
    reservation.scope.runId = slot.runId →
    reservation.scope.logicalEffectId = slot.logicalEffectId →
    reservation.scope.attemptId = slot.attemptId →
    reservation.heldUnits = 0 ∧ reservation.uncertainty = false

/-- What an intent leaves behind: its permission use, its reservation, the redemption of
its capability and the slot. -/
structure Committed (before after : Store) (body : EventBody) (intent : OperationIntent)
    (claimId : String) : Prop where
  detail : body.detail = .intentCommitted intent claimId
  ofRun : intent.request.runId = body.runId
  fresh : ∀ use ∈ before.permissionUses, ¬ Conflict use intent.permissionUse
  used : intent.permissionUse ∈ after.permissionUses
  reserved : ∃ reservation ∈ after.reservations,
    reservation.reservationId = intent.request.reservationId ∧ reservation.scope = intent.scope
  redeemed : ∃ redemption ∈ after.redemptions, redemption.commandId = body.commandId ∧
    redemption.claimId = claimId
  taken : after.slot.rows = [intent.slotRow]

/-- What an event does to the slot. -/
inductive SlotMove (before after : Store) (body : EventBody) : Prop
  | quiet (same : after.slot = before.slot) (keeps : body.detail.releases = none)
      (commits : ∀ intent claimId, body.detail ≠ .intentCommitted intent claimId)
      (adopts : ∀ effect attempt generation, body.detail ≠ .effectAdopted effect attempt generation)
  | acquired (intent : OperationIntent) (claimId : String)
      (committed : Committed before after body intent claimId) (first : intent.retry = none)
      (empty : before.slot.rows = [])
  | transferred (intent : OperationIntent) (claimId : String) (retry : RetryBinding)
      (slot : SlotRow) (committed : Committed before after body intent claimId)
      (again : intent.retry = some retry) (held : before.slot.rows = [slot])
      (ofRun : slot.runId = body.runId)
      (effect : slot.logicalEffectId = intent.request.logicalEffectId)
      (prior : slot.attemptId = retry.priorAttemptId)
  | adopted (slot : SlotRow) (ofRun : slot.runId = body.runId)
      (origin : slot.originKind = .effectAdoption)
      (detail : body.detail = .effectAdopted slot.logicalEffectId slot.attemptId slot.generation)
      (empty : before.slot.rows = []) (taken : after.slot.rows = [slot])
  | released (slot : SlotRow) (release : String × String × Option Nat)
      (detail : body.detail.releases = some release) (named : slot.Named release)
      (ofRun : slot.runId = body.runId) (held : before.slot.rows = [slot])
      (freed : after.slot.rows = []) (closed : slot.Closed after)

/-! ## Launches -/

/-- A launch binds an event of its repository and the claim that its command redeemed. -/
def Launch.Bound (launch : Launch) (store : Store) : Prop :=
  ∃ event ∈ store.events, ∃ redemption ∈ store.redemptions,
    event.body.eventId = launch.intentEventId ∧ redemption.commandId = event.body.commandId ∧
      redemption.claimId = launch.capabilityClaimId

/-! ## Moves -/

/-- Everything one recorded event does to the store. -/
structure Move (digests : StoreDigests) (repositoryId : String) (before : Store)
    (body : EventBody) (after : Store) : Prop where
  head : HeadMove digests repositoryId before.runs after.runs body
  recorded : after.events.rows = before.events.rows ++ [Store.eventRow digests body]
  accounts : AccountMove digests before after body
  slot : SlotMove before after body
  uses : ∀ use ∈ before.permissionUses, use ∈ after.permissionUses
  redemptions : ∀ redemption ∈ before.redemptions, redemption ∈ after.redemptions
  launches : ∀ launch ∈ after.launches, launch ∈ before.launches ∨ launch.Bound before
  outcomes : ∀ outcome ∈ before.commandOutcomes, outcome ∈ after.commandOutcomes
  observations : ∀ observation ∈ before.observations, observation ∈ after.observations

/-- A transaction: the moves of its events. -/
abbrev Moves (digests : StoreDigests) (repositoryId : String) :
    Store → List EventBody → Store → Prop :=
  Run (Move digests repositoryId)

namespace Store

variable {digests : StoreDigests} {store after : Store}

/-- An appended event changes the events and the head of its run, and nothing else. -/
theorem append_eq_ok {body : EventBody} {state : LifecycleState} {cursor : Option String} :
    store.append digests body state cursor = .ok after ↔
      ∃ events, store.events.insert (eventRow digests body) (uniqueError "events") = .ok events ∧
        { store with
          events := events
          runs := store.runs.update (fun row => row.runId = body.runId)
            (fun row => row.advance state cursor (eventRow digests body))
            (fun _ _ => Iff.rfl) } = after := by
  simp only [append, bind_eq_ok, pure_eq_ok]

/-- A recorded outcome changes the outcomes, and nothing else. -/
theorem recordOutcome_eq_ok {body : EventBody} :
    store.recordOutcome digests body = .ok after ↔
      ∃ outcomes, store.commandOutcomes.insert
          ⟨body.commandId, body.eventId, body.sequence, digests.event body⟩
          (uniqueError "command_outcomes") = .ok outcomes ∧
        { store with commandOutcomes := outcomes } = after := by
  simp only [recordOutcome, bind_eq_ok, pure_eq_ok]

/-- A settlement changes the settlements and its reservation, and nothing else. -/
theorem settle_eq_ok {row : SettlementRow} :
    store.settle row = .ok after ↔
      ∃ settlements, store.settlements.insert row (uniqueError "budget_settlements") =
          .ok settlements ∧
        { store with
          settlements := settlements
          reservations := store.reservations.update
            (fun reservation => reservation.reservationId = row.reservationId)
            (fun reservation => reservation.settled row.body row.settlementHash)
            (fun _ _ => Iff.rfl) } = after := by
  simp only [settle, bind_eq_ok, pure_eq_ok]

end Store

/-- Fences inserted one by one are the table's fences and the inserted ones. -/
theorem mem_of_insertAll {fences : List Fence} :
    ∀ {table next : Table Fence},
      fences.foldlM (fun table fence => table.insert fence (uniqueError "dispatch_fences")) table
          = .ok next →
        ∀ fence, fence ∈ next ↔ fence ∈ table ∨ fence ∈ fences := by
  induction fences with
  | nil =>
      intro table next inserted fence
      obtain rfl : table = next := by simpa using inserted
      simp
  | cons first rest ih =>
      intro table next inserted fence
      simp only [List.foldlM_cons, bind_eq_ok] at inserted
      obtain ⟨middle, here, later⟩ := inserted
      rw [ih later, Table.mem_of_insert here, List.mem_cons, or_assoc]

/-- Raised fences change the fences, and nothing else. -/
theorem Store.raiseFences_ok {store after : Store} {fences : List Fence}
    (raised : store.raiseFences fences = .ok after) :
    ∃ table, after = { store with fences := table } ∧
      ∀ fence, fence ∈ table ↔ fence ∈ store.fences ∨ fence ∈ fences := by
  simp only [Store.raiseFences, bind_eq_ok, pure_eq_ok] at raised
  obtain ⟨table, inserted, rfl⟩ := raised
  exact ⟨table, rfl, mem_of_insertAll inserted⟩

theorem Store.mem_settlementFences {store : Store} {fence : Fence} :
    fence ∈ store.settlementFences ↔ fence ∈ store.fences ∧ fence.fenceId.ofSettlement = true := by
  simp [Store.settlementFences]

/-- Raising fences of other kinds leaves the settlement fences as they are. -/
theorem settlementFences_of_raise {store : Store} {fences : List Fence} {table : Table Fence}
    (raised : ∀ fence, fence ∈ table ↔ fence ∈ store.fences ∨ fence ∈ fences)
    (other : ∀ fence ∈ fences, fence.fenceId.ofSettlement = false) (fence : Fence) :
    fence ∈ Store.settlementFences { store with fences := table } ↔
      fence ∈ store.settlementFences := by
  rw [Store.mem_settlementFences, Store.mem_settlementFences, raised]
  constructor
  · rintro ⟨stored | new, kind⟩
    · exact ⟨stored, kind⟩
    · rw [other fence new] at kind
      cases kind
  · rintro ⟨stored, kind⟩
    exact ⟨.inl stored, kind⟩

/-- The move of the accounts reads the store after it only where the accounts stand. -/
theorem AccountMove.congr {digests : StoreDigests} {before middle after : Store}
    {body : EventBody} (moved : AccountMove digests before middle body)
    (reservations : after.reservations = middle.reservations)
    (settlements : after.settlements = middle.settlements) (fences : after.fences = middle.fences) :
    AccountMove digests before after body := by
  have sameFences : after.settlementFences = middle.settlementFences := by
    simp only [Store.settlementFences, fences]
  cases moved with
  | quiet sameReservations sameSettlements same =>
      exact .quiet (reservations.trans sameReservations) (settlements.trans sameSettlements)
        (by simpa only [sameFences] using same)
  | reserved reservation unsettled detail unfenced rows sameSettlements same =>
      exact .reserved reservation unsettled detail unfenced (by rw [reservations, rows])
        (settlements.trans sameSettlements) (by simpa only [sameFences] using same)
  | settled reservation row settles detail hash settled rows raised =>
      exact .settled reservation row settles detail hash (by rw [settlements, settled])
        (by rw [reservations, rows]) (by simpa only [sameFences] using raised)

/-- The move of the slot reads it, the reservations, the permission uses and the
redemptions. -/
theorem SlotMove.congr {before middle after : Store} {body : EventBody}
    (moved : SlotMove before middle body) (slot : after.slot = middle.slot)
    (reservations : after.reservations = middle.reservations)
    (uses : after.permissionUses = middle.permissionUses)
    (redemptions : after.redemptions = middle.redemptions) : SlotMove before after body := by
  have kept : ∀ {intent claimId}, Committed before middle body intent claimId →
      Committed before after body intent claimId := by
    intro intent claimId committed
    refine ⟨committed.detail, committed.ofRun, committed.fresh, ?_, ?_, ?_, ?_⟩
    · rw [uses]
      exact committed.used
    · rw [reservations]
      exact committed.reserved
    · rw [redemptions]
      exact committed.redeemed
    · rw [slot]
      exact committed.taken
  cases moved with
  | quiet same keeps commits adopts => exact .quiet (slot.trans same) keeps commits adopts
  | acquired intent claimId committed first empty =>
      exact .acquired intent claimId (kept committed) first empty
  | transferred intent claimId retry held committed again rows ofRun effect prior =>
      exact .transferred intent claimId retry held (kept committed) again rows ofRun effect prior
  | adopted held ofRun origin detail empty taken =>
      exact .adopted held ofRun origin detail empty (by rw [slot, taken])
  | released held release detail named ofRun rows freed closed =>
      refine .released held release detail named ofRun rows (by rw [slot, freed]) ?_
      simpa only [SlotRow.Closed, reservations] using closed

/-- What a move needs of the tables beside the runs, the accounts and the slot. -/
structure Retains (before middle : Store) : Prop where
  redemptions : ∀ redemption ∈ before.redemptions, redemption ∈ middle.redemptions
  launches : ∀ launch ∈ middle.launches, launch ∈ before.launches ∨ launch.Bound before
  outcomes : ∀ outcome ∈ before.commandOutcomes, outcome ∈ middle.commandOutcomes
  observations : ∀ observation ∈ before.observations, observation ∈ middle.observations

theorem Retains.same {before middle : Store} (redemptions : middle.redemptions = before.redemptions)
    (launches : middle.launches = before.launches)
    (outcomes : middle.commandOutcomes = before.commandOutcomes)
    (observations : middle.observations = before.observations) : Retains before middle where
  redemptions := fun _ member => redemptions ▸ member
  launches := fun _ member => .inl (launches ▸ member)
  outcomes := fun _ member => outcomes ▸ member
  observations := fun _ member => observations ▸ member

theorem Retains.stored {before middle : Store} {row : CommandOutcome} {error : ControlError}
    (redemptions : middle.redemptions = before.redemptions)
    (launches : middle.launches = before.launches)
    (outcomes : before.commandOutcomes.insert row error = .ok middle.commandOutcomes)
    (observations : middle.observations = before.observations) : Retains before middle :=
  ⟨fun _ member => redemptions ▸ member, fun _ member => .inl (launches ▸ member),
    fun _ member => Table.mem_of_mem_insert outcomes member, fun _ member => observations ▸ member⟩

theorem Retains.observed {before middle : Store} {row : CommandOutcome} {observation : Observation}
    {error error' : ControlError} (redemptions : middle.redemptions = before.redemptions)
    (launches : middle.launches = before.launches)
    (outcomes : before.commandOutcomes.insert row error = .ok middle.commandOutcomes)
    (observations : before.observations.insert observation error' = .ok middle.observations) :
    Retains before middle where
  redemptions := fun _ member => redemptions ▸ member
  launches := fun _ member => .inl (launches ▸ member)
  outcomes := fun _ member => Table.mem_of_mem_insert outcomes member
  observations := fun _ member => Table.mem_of_mem_insert observations member

/-- **A move from its event.** The rest of the transaction stands in `middle`,
which has the runs and the events of the store before. -/
theorem Move.of_append {digests : StoreDigests} {repositoryId : String}
    {before middle after : Store} {body : EventBody}
    {run : RunRow} {state : LifecycleState} {cursor : Option String}
    (appended : middle.append digests body state cursor = .ok after)
    (runs : middle.runs = before.runs) (events : middle.events = before.events)
    (member : run ∈ before.runs) (next : run.Next repositoryId body)
    (follows : run.Follows body state)
    (terminal : run.lifecycleState.terminal = true → state = run.lifecycleState)
    (accounts : AccountMove digests before middle body) (slot : SlotMove before middle body)
    (uses : ∀ use ∈ before.permissionUses, use ∈ middle.permissionUses)
    (retains : Retains before middle) :
    Move digests repositoryId before body after := by
  rw [Store.append_eq_ok] at appended
  obtain ⟨table, inserted, rfl⟩ := appended
  rw [Table.insert_eq_ok] at inserted
  refine ⟨.advanced run state cursor member next follows terminal ?_, ?_,
    accounts.congr rfl rfl rfl, slot.congr rfl rfl rfl rfl, uses, retains.redemptions,
    retains.launches, retains.outcomes, retains.observations⟩
  · simp only [Table.update, runs, decide_eq_true_eq]
  · rw [← events]
    exact inserted.2

/-- A recorded outcome belongs to the move of its event. -/
theorem Move.of_recordOutcome {digests : StoreDigests} {repositoryId : String}
    {before middle after : Store} {body recorded : EventBody}
    (moved : Move digests repositoryId before body middle)
    (outcome : middle.recordOutcome digests recorded = .ok after) :
    Move digests repositoryId before body after := by
  rw [Store.recordOutcome_eq_ok] at outcome
  obtain ⟨outcomes, inserted, rfl⟩ := outcome
  refine ⟨moved.head, moved.recorded, moved.accounts.congr rfl rfl rfl,
    moved.slot.congr rfl rfl rfl rfl, moved.uses, moved.redemptions, moved.launches,
    fun row member => ?_, moved.observations⟩
  exact Table.mem_of_mem_insert inserted (moved.outcomes row member)

/-- An event whose detail has nothing to do with the slot. -/
def EventDetail.still : EventDetail → Bool
  | .intentCommitted _ _ | .effectAdopted _ _ _ => false
  | detail => detail.releases.isNone

theorem SlotMove.of_still {before after : Store} {body : EventBody}
    (same : after.slot = before.slot) (still : body.detail.still = true) :
    SlotMove before after body := by
  refine .quiet same ?_ ?_ ?_
  · cases detail : body.detail <;> simp_all [EventDetail.still, EventDetail.releases]
  · intro intent claimId detail
    simp [detail, EventDetail.still] at still
  · intro effect attempt generation detail
    simp [detail, EventDetail.still] at still

/-- A quiet move: only other tables changed besides the event. -/
theorem Move.of_quiet {digests : StoreDigests} {repositoryId : String} {before middle after : Store} {body : EventBody}
    {run : RunRow} {state : LifecycleState} {cursor : Option String}
    (appended : middle.append digests body state cursor = .ok after)
    (runs : middle.runs = before.runs) (events : middle.events = before.events)
    (reservations : middle.reservations = before.reservations)
    (settlements : middle.settlements = before.settlements)
    (fences : ∀ fence, fence ∈ middle.settlementFences ↔ fence ∈ before.settlementFences)
    (slot : middle.slot = before.slot) (uses : middle.permissionUses = before.permissionUses)
    (member : run ∈ before.runs) (next : run.Next repositoryId body) (follows : run.Follows body state)
    (terminal : run.lifecycleState.terminal = true → state = run.lifecycleState)
    (still : body.detail.still = true)
    (retains : Retains before middle) :
    Move digests repositoryId before body after :=
  .of_append appended runs events member next follows terminal
    (.quiet reservations settlements fences) (.of_still slot still)
    (fun _ member => uses ▸ member) retains

/-! ## Shared moves -/

section Shared

variable {digests : StoreDigests} {repositoryId : String} {before after : Store}

theorem mem_of_run? {store : Store} {runId : String} {run : RunRow}
    (found : store.run? runId = some run) : run ∈ store.runs ∧ run.runId = runId := by
  have := Table.mem_of_find? found
  simpa using this

theorem mem_of_runOf? {store : Store} {scope : AttemptScope} {run : RunRow}
    (found : store.runOf? scope = some run) :
    run ∈ store.runs ∧ run.runId = scope.runId ∧ run.repositoryId = scope.repositoryId := by
  have := Table.mem_of_find? found
  simpa using this

theorem mem_of_reservation? {store : Store} {reservationId : String} {reservation : Reservation}
    (found : store.reservation? reservationId = some reservation) :
    reservation ∈ store.reservations ∧ reservation.reservationId = reservationId := by
  have := Table.mem_of_find? found
  simpa using this

/-- The body that `nextBody` builds is the next of its run. -/
theorem RunRow.next_nextBody {run : RunRow} {eventId commandId : String}
    {lifecycle : Option LifecycleChange} {cursor : Option (Option String)} {detail : EventDetail} :
    run.Next repositoryId (run.nextBody eventId commandId lifecycle cursor detail) :=
  ⟨rfl, rfl, rfl, id⟩

theorem RunRow.follows_change {run : RunRow} {eventId commandId : String}
    {state : LifecycleState} {cursor : Option (Option String)} {detail : EventDetail} :
    run.Follows (run.nextBody eventId commandId (some (run.change state)) cursor detail) state :=
  .inr rfl

/-- An event whose lifecycle members, if it has them, name one state twice. -/
def EventBody.Keeps (body : EventBody) : Prop :=
  ∀ change, body.lifecycle = some change → change.source = some change.target

/-- Every run after has a run before with its identity and its state. -/
def KeepsStates (before after : Store) : Prop :=
  ∀ next ∈ after.runs, ∃ run ∈ before.runs,
    run.runId = next.runId ∧ run.lifecycleState = next.lifecycleState

/-- A move whose event keeps the state keeps it in the store. -/
theorem Move.keeps {body : EventBody} (moved : Move digests repositoryId before body after)
    (keeps : body.Keeps) : KeepsStates before after := by
  intro next member
  cases moved.head with
  | opened request own fresh body_eq rows =>
      have := keeps ⟨none, .planned⟩ (by rw [body_eq]; rfl)
      cases this
  | advanced run state cursor stored of follows terminal rows =>
      rw [← Table.mem_rows, rows, List.mem_map] at member
      obtain ⟨old, oldMember, rfl⟩ := member
      split
      · rename_i same
        refine ⟨old, oldMember, rfl, ?_⟩
        obtain rfl : old = run := Table.eq_of_conflict oldMember stored (same.trans of.ofRun)
        obtain ⟨-, rfl⟩ | changes := follows
        · rfl
        · exact Option.some.inj (keeps _ changes)
      · exact ⟨old, oldMember, rfl, rfl⟩

theorem Moves.keeps {bodies : List EventBody} (moved : Moves digests repositoryId before bodies after)
    (keeps : ∀ body ∈ bodies, body.Keeps) : KeepsStates before after := by
  induction moved with
  | nil => exact fun next member => ⟨next, member, rfl, rfl⟩
  | snoc earlier taken ih =>
      intro next member
      obtain ⟨middle, middleMember, sameId, sameState⟩ :=
        taken.keeps (keeps _ (by simp)) next member
      obtain ⟨run, runMember, id, state⟩ :=
        ih (fun body member => keeps body (by simp [member])) middle middleMember
      exact ⟨run, runMember, id.trans sameId, state.trans sameState⟩

/-- An event that keeps the state of its run. -/
theorem kept_move {request : ControlRequest} {event : String × EventKind}
    (recorded : recordKept digests request before event = .ok after) :
    ∃ body, Move digests repositoryId before body after ∧ body.Keeps ∧
      body.detail = .recorded event.2 := by
  simp only [recordKept, bind_eq_ok, fetch_eq_ok] at recorded
  obtain ⟨run, found, appended⟩ := recorded
  exact ⟨_, .of_quiet appended rfl rfl rfl rfl (fun _ => Iff.rfl) rfl rfl (mem_of_run? found).1
    RunRow.next_nextBody RunRow.follows_change (fun _ => rfl) rfl (.same rfl rfl rfl rfl),
    fun change same => by rw [← Option.some.inj same]; rfl, rfl⟩

/-- A worst case within the cap is no breach, and nothing else raises a fence. -/
theorem raisedFences_unknown {reservation : Reservation} {settlement : SettlementBody}
    (reserved : reservation.disposition = .reserved)
    (unknown : settlement.request.disposition = .unknownWorstCaseCharged)
    (charged : settlement.chargedUnits = reservation.worstCaseUnits) :
    raisedFences reservation reservation.disposition settlement = [] := by
  have within := reservation.worst_le_cap
  have quiet : isBudgetBreach settlement.request.disposition settlement.chargedUnits
      reservation.reservedUnits reservation.capUnits = false := by
    simp [isBudgetBreach, unknown, charged, BudgetDisposition.knownUsage, within]
  simp [raisedFences, quiet, reserved, BudgetDisposition.knownUsage]

/-- A charge of the worst case is the move of its settlement. -/
theorem charge_move {reservation : Reservation} {settlementEventId evidence reason : String}
    (member : reservation ∈ before.reservations)
    (charged : chargeWorstCase digests before reservation settlementEventId evidence reason =
      .ok after) :
    ∃ body, Move digests repositoryId before body after ∧ body.Keeps ∧
      body.detail.still = true ∧ body.detail.plain = true := by
  simp only [chargeWorstCase, bind_eq_ok, require_eq_ok, fetch_eq_ok, Store.settle_eq_ok,
    exists_const] at charged
  obtain ⟨⟨reserved, -⟩, run, found, _, ⟨settlements, inserted, rfl⟩, appended⟩ := charged
  rw [Table.insert_eq_ok] at inserted
  refine ⟨_, .of_append appended rfl rfl (mem_of_run? found).1 RunRow.next_nextBody
    (.inl ⟨rfl, rfl⟩) (fun _ => rfl) ?_ (.of_still rfl rfl) (fun _ member => member)
    (.same rfl rfl rfl rfl), (fun change none => by cases none), rfl, rfl⟩
  refine .settled reservation _ ⟨member, rfl, rfl, rfl, rfl, ?_, ?_⟩ rfl rfl inserted.2 ?_ ?_
  · intro uncharged
    rw [deriveSettlementAccounting_ok, reserved, uncharged reserved]
    simp [unknownSettlement, settlementTransitions, expectedAdditionalLiability, unknownCharge,
      BudgetDisposition.knownUsage]
  · intro released
    cases released
  · simp only [Table.update, decide_eq_true_eq]
  · intro fence
    rw [raisedFences_unknown reserved rfl rfl]
    simp [headFence, resolvesUnknown, reserved, Store.settlementFences]

/-- The event by which an adoption of another run's effect was fenced. -/
def EventBody.FencesDependent (body : EventBody) (sourceRunId : String)
    (provenance : ProvenanceKind) : Prop :=
  body.runId ≠ sourceRunId ∧ ∃ fenceId, body.detail = .dependentAdoptionFenced provenance fenceId

/-- A dependent adoption is fenced by one quiet move, or was fenced before. -/
theorem dependent_moves {fencedRepository sourceRunId originatingEventId : String}
    {provenance : ProvenanceKind} {dependency : AdoptionDependency}
    (source : dependency.ancestorRunId = sourceRunId)
    (fenced : fenceDependentAdoption digests fencedRepository sourceRunId originatingEventId
      provenance before dependency = .ok after) :
    ∃ bodies, Moves digests repositoryId before bodies after ∧
      ∀ body ∈ bodies, body.FencesDependent sourceRunId provenance := by
  unfold fenceDependentAdoption at fenced
  split at fenced
  · obtain rfl : before = after := by simpa using fenced
    exact ⟨[], .nil, by simp⟩
  · rename_i run found
    dsimp only at fenced
    split at fenced
    · obtain rfl : before = after := by simpa using fenced
      exact ⟨[], .nil, by simp⟩
    · simp only [bind_eq_ok] at fenced
      obtain ⟨middle, raised, appended⟩ := fenced
      obtain ⟨table, rfl, members⟩ := Store.raiseFences_ok raised
      obtain ⟨member, dependent⟩ := mem_of_run? found
      refine ⟨[_], .snoc .nil (.of_quiet appended rfl rfl rfl rfl ?_ rfl rfl member
        RunRow.next_nextBody RunRow.follows_change dependentAdoptionState_terminal rfl
        (.same rfl rfl rfl rfl)), ?_⟩
      · exact settlementFences_of_raise members (by simp [FenceId.ofSettlement])
      · simp only [List.mem_singleton, forall_eq]
        refine ⟨?_, _, rfl⟩
        rw [← source]
        exact fun same => dependency.distinct (same.symm.trans dependent)

variable (repositoryId) in
/-- Moves made one transaction part after another. -/
theorem moves_of_foldlM {ι : Type} {compute : Store → ι → Except ControlError Store}
    (kind : EventBody → Prop) :
    ∀ {items : List ι}
      (_ : ∀ item ∈ items, ∀ {store next}, compute store item = .ok next →
        ∃ bodies, Moves digests repositoryId store bodies next ∧ ∀ body ∈ bodies, kind body)
      {before after : Store}, items.foldlM compute before = .ok after →
      ∃ bodies, Moves digests repositoryId before bodies after ∧ ∀ body ∈ bodies, kind body := by
  intro items
  induction items with
  | nil =>
      intro each before after folded
      obtain rfl : before = after := by simpa using folded
      exact ⟨[], .nil, by simp⟩
  | cons item items ih =>
      intro each before after folded
      simp only [List.foldlM_cons, bind_eq_ok] at folded
      obtain ⟨middle, here, later⟩ := folded
      obtain ⟨first, reached, firstKind⟩ := each item List.mem_cons_self here
      obtain ⟨rest, moved, restKind⟩ :=
        ih (fun item member => each item (List.mem_cons_of_mem _ member)) later
      refine ⟨first ++ rest, reached.append moved, ?_⟩
      simp only [List.mem_append]
      rintro body (member | member)
      · exact firstKind body member
      · exact restKind body member

variable (repositoryId) in
/-- The dependent adoptions of a run are fenced by quiet moves. -/
theorem dependents_moves {fencedRepository sourceRunId originatingEventId : String}
    {provenance : ProvenanceKind}
    (fenced : fenceDependentAdoptions digests fencedRepository sourceRunId originatingEventId
      provenance before = .ok after) :
    ∃ bodies, Moves digests repositoryId before bodies after ∧
      ∀ body ∈ bodies, body.FencesDependent sourceRunId provenance := by
  refine moves_of_foldlM repositoryId _ (fun dependency member => ?_) fenced
  rw [List.mem_mergeSort, List.mem_filter] at member
  have source := member.2
  simp only [Bool.and_eq_true, decide_eq_true_eq] at source
  intro store next here
  exact dependent_moves source.2 here

end Shared

end Aegis.DeliveryControl
