/-
# DeliveryControl.OperationMoves — every operation is a sequence of moves

One lemma for each operation of the store: what it returned is reached from the
store before by the moves of the events it recorded. `SlotLast` adds that in each
transaction an event that moves the slot is the last one of its run.
-/
import Aegis.DeliveryControl.StoreMoves
import Aegis.DeliveryControl.Completion

namespace Aegis.DeliveryControl

open Aegis.Lib
open Aegis.Lib.Guarded
open Aegis.Lib.Runs
open Aegis.DeliveryControl.TargetLedger (ContactKind)

set_option autoImplicit false

/-- At most one event moves the slot, and it is the last event of its run. -/
def SlotLast (bodies : List EventBody) : Prop :=
  bodies.Pairwise (fun earlier later => earlier.detail.still = false →
    later.runId ≠ earlier.runId ∧ later.detail.still = true)

/-- The event that reserves or settles is the first one; the others are plain. -/
def Led (asks : EventBody → Prop) : List EventBody → Prop
  | [] => True
  | first :: later => asks first ∧ ∀ body ∈ later, body.detail.plain = true

/-- What a transaction does: the moves of its events, of which the first is asked for. -/
def Transacts (digests : StoreDigests) (repositoryId : String) (asks : EventBody → Prop)
    (before after : Store) : Prop :=
  ∃ bodies, Moves digests repositoryId before bodies after ∧ SlotLast bodies ∧ Led asks bodies

/-- An event that reserves nothing and settles no more than an unknown worst case. -/
def EventBody.Plain (body : EventBody) : Prop :=
  body.detail.plain = true

section Operations

variable {digests : StoreDigests} {repositoryId : String} {checks : Checks} {before after : Store}
  {asks : EventBody → Prop}

variable {store : Store} {body : EventBody} {intent : OperationIntent} {reservation : Reservation}
  {slot : SlotRow}

theorem Transacts.refl : Transacts digests repositoryId asks store store :=
  ⟨[], .nil, .nil, trivial⟩

theorem Transacts.single (moved : Move digests repositoryId before body after) (asked : asks body) :
    Transacts digests repositoryId asks before after :=
  ⟨[body], .snoc .nil moved, List.pairwise_singleton _ _, asked, by simp⟩

theorem Transacts.imp {asks' : EventBody → Prop} (weaker : ∀ body, asks body → asks' body)
    (transacts : Transacts digests repositoryId asks before after) :
    Transacts digests repositoryId asks' before after := by
  obtain ⟨bodies, moves, last, led⟩ := transacts
  refine ⟨bodies, moves, last, ?_⟩
  cases bodies with
  | nil => trivial
  | cons first later => exact ⟨weaker first led.1, led.2⟩

/-- Moves that all leave the slot alone and are plain are a transaction. -/
theorem Transacts.of_still {bodies : List EventBody}
    (moved : Moves digests repositoryId before bodies after)
    (quiet : ∀ body ∈ bodies, body.detail.still = true ∧ body.detail.plain = true) :
    Transacts digests repositoryId EventBody.Plain before after := by
  refine ⟨bodies, moved, ?_, ?_⟩
  · rw [SlotLast, List.pairwise_iff_forall_sublist]
    intro earlier later sub moves
    rw [(quiet earlier (sub.subset (by simp))).1] at moves
    cases moves
  · cases bodies with
    | nil => trivial
    | cons first later =>
        exact ⟨(quiet first (by simp)).2, fun body member => (quiet body (by simp [member])).2⟩

/-- `accept_plan` opens a run. -/
theorem acceptPlan_transacts {request : PlanAcceptanceRequest}
    (accepted : acceptPlan digests repositoryId checks request before = .ok after) :
    Transacts digests repositoryId EventBody.Plain before after := by
  simp only [acceptPlan, bind_eq_ok] at accepted
  obtain ⟨_, own, _, -, _, -, accepted⟩ := accepted
  rw [require_eq_ok] at own
  split at accepted
  · simp only [bind_eq_ok, pure_eq_ok] at accepted
    obtain ⟨_, -, rfl⟩ := accepted
    exact .refl
  · simp only [bind_eq_ok, refuse_eq_ok, Store.append_eq_ok, Store.recordOutcome_eq_ok]
      at accepted
    obtain ⟨_, -, _, new, _, -, _, -, _, -, runs, opened, requirements, -, _,
      ⟨events, inserted, rfl⟩, outcomes, stored, rfl⟩ := accepted
    rw [Table.insert_eq_ok] at opened inserted
    have fresh : ∀ row ∈ before.runs, row.runId ≠ request.runId := opened.1
    have plain : request.body.Plain := rfl
    refine .single ?_ plain
    refine ⟨.opened request own fresh rfl ?_, inserted.2, .quiet rfl rfl (fun _ => Iff.rfl),
      .of_still rfl rfl, fun _ member => member, fun _ member => member, fun _ => .inl,
      fun _ => Table.mem_of_mem_insert stored, fun _ member => member⟩
    simp only [Table.update, opened.2, List.map_append, List.map_singleton]
    congr 1
    · conv_rhs => rw [← List.map_id before.runs.rows]
      refine List.map_congr_left (fun row member => ?_)
      have other : row.runId ≠ request.body.runId := fresh row member
      simp [other]
    · simp [PlanAcceptanceRequest.body, RunRow.nextBody]

/-- The durable intent of a receipt, and the redemption of its command. -/
theorem durableIntent?_ok {eventId commandId : String} {event : EventRow} {redemption : Redemption}
    (bound : before.durableIntent? eventId commandId = some (event, intent, redemption)) :
    event ∈ before.events ∧ event.body.eventId = eventId ∧ redemption ∈ before.redemptions ∧
      redemption.commandId = event.body.commandId ∧
      event.body.commandId = commandId ∧
      ∃ claimId, event.body.detail = .intentCommitted intent claimId := by
  simp only [Store.durableIntent?, bind, Option.bind_eq_some_iff] at bound
  obtain ⟨found, eventLookup, redeemed, redemptionLookup, bound⟩ := bound
  obtain ⟨eventMember, eventMatches⟩ := Table.mem_of_find? eventLookup
  obtain ⟨redemptionMember, redemptionMatches⟩ := Table.mem_of_find? redemptionLookup
  simp only [decide_eq_true_eq] at eventMatches redemptionMatches
  split at bound
  · rename_i durable claimId detail
    split at bound
    · rename_i named
      simp only [Option.some.injEq, Prod.mk.injEq] at bound
      obtain ⟨rfl, rfl, rfl⟩ := bound
      exact ⟨eventMember, eventMatches, redemptionMember, redemptionMatches.trans named.symm,
        named, claimId, detail⟩
    · cases bound
  · cases bound

/-- `claim_operation_launch` records one event. -/
theorem claimOperationLaunch_transacts {commit : CommitReceipt} {launch : OperationLaunchReceipt}
    (claimed : claimOperationLaunch digests repositoryId checks intent commit before =
      .ok (launch, after)) : Transacts digests repositoryId EventBody.Plain before after := by
  simp only [claimOperationLaunch, bind_eq_ok] at claimed
  obtain ⟨_, -, _, -, _, -, claimed⟩ := claimed
  split at claimed
  · simp only [bind_eq_ok, pure_eq_ok, Prod.mk.injEq] at claimed
    obtain ⟨_, -, -, rfl⟩ := claimed
    exact .refl
  · simp only [bind_eq_ok, fetch_eq_ok, require_eq_ok, pure_eq_ok, Prod.mk.injEq, Prod.exists]
      at claimed
    obtain ⟨event, durable, redemption, bound, _, ⟨-, named⟩, _, -, _, -, run, found, _, running,
      _, -, _, -, _, -, _, -, launches, launched, _, appended, -, rfl⟩ := claimed
    refine .single (.of_quiet appended rfl rfl rfl rfl (fun _ => Iff.rfl) rfl rfl
      (mem_of_run? found).1 RunRow.next_nextBody RunRow.follows_change ?_ rfl
      ⟨fun _ member => member, ?_, fun _ member => member, fun _ member => member⟩) rfl
    · rw [running]
      simp [LifecycleState.terminal]
    · intro launch member
      obtain ⟨eventMember, eventId, redemptionMember, commandId, -⟩ := durableIntent?_ok bound
      refine ((Table.mem_of_insert launched launch).mp member).imp_right ?_
      rintro rfl
      exact ⟨event, eventMember, redemption, redemptionMember, eventId, commandId, rfl⟩

/-- A contact records one event. -/
theorem claimAdapterContact_move {kind : ContactKind} {sourceId targetDigest : String}
    {scope : AttemptScope} {resulting : LifecycleState} {cursor : Option String}
    {contact : Contact}
    (claimed : claimAdapterContact digests checks before kind sourceId scope targetDigest
      resulting cursor = .ok (contact, after))
    (nonterminal : ∀ run ∈ before.runs, run.runId = scope.runId →
      run.lifecycleState.terminal = false) :
    ∃ body, Move digests repositoryId before body after ∧
      body.detail = .adapterContactClaimed kind sourceId scope.logicalEffectId scope.attemptId := by
  simp only [claimAdapterContact, bind_eq_ok, fetch_eq_ok, pure_eq_ok, Prod.mk.injEq] at claimed
  obtain ⟨_, -, _, -, run, found, _, -, _, appended, -, rfl⟩ := claimed
  obtain ⟨member, bound⟩ := Table.mem_of_find? found
  simp only [Bool.and_eq_true, decide_eq_true_eq] at bound
  refine ⟨_, .of_quiet appended rfl rfl rfl rfl (fun _ => Iff.rfl) rfl rfl member
    RunRow.next_nextBody RunRow.follows_change ?_ rfl (.same rfl rfl rfl rfl), rfl⟩
  rw [nonterminal run member bound.1.1]
  simp

/-- `_contact_claimed_operation` records the contact and charges the worst case. -/
theorem contactClaimedOperation_transacts {capability : SyntheticCapability}
    {commit : CommitReceipt} {launch : OperationLaunchReceipt} {targetDigest : String}
    (contacted : contactClaimedOperation digests checks intent capability commit launch
      targetDigest before = .ok after) :
    Transacts digests repositoryId EventBody.Plain before after := by
  simp only [contactClaimedOperation, bind_eq_ok, fetch_eq_ok, require_eq_ok, Prod.exists,
    appendContactUncertaintySettlement] at contacted
  obtain ⟨_, -, _, -, _, -, _, _, _, -, _, -, _, -, _, -, _, -, run, found, _, ⟨waits, -⟩, _, -,
    _, -, _, -, _, -, contact, middle, claimed, reservation, reserved, _, -, charged⟩ := contacted
  obtain ⟨member, bound⟩ := Table.mem_of_find? found
  simp only [Bool.and_eq_true, decide_eq_true_eq] at bound
  have nonterminal : ∀ row ∈ before.runs, row.runId = intent.scope.runId →
      row.lifecycleState.terminal = false := by
    intro row stored same
    obtain rfl : row = run := Table.eq_of_conflict stored member (same.trans bound.1.1.symm)
    rw [waits]
    rfl
  obtain ⟨first, moved, detail⟩ := claimAdapterContact_move claimed nonterminal
  obtain ⟨second, settled, -, still, plain⟩ :=
    charge_move (mem_of_reservation? reserved).1 charged
  refine .of_still (.snoc (.snoc .nil moved) settled) ?_
  simp only [List.nil_append, List.cons_append, List.mem_cons, List.not_mem_nil, or_false,
    forall_eq_or_imp, forall_eq, detail]
  exact ⟨⟨rfl, rfl⟩, still, plain⟩

/-- The reservation of an intent is unsettled and bound to its attempt. -/
theorem intentReservation_ok (built : intentReservation intent = .ok reservation) :
    reservation.Unsettled ∧ reservation.demand = intent.demand := by
  simp only [intentReservation] at built
  split at built
  · obtain rfl := Except.ok.inj built
    exact ⟨⟨rfl, rfl, rfl, rfl, rfl⟩, rfl⟩
  · cases built

/-- The same of a validator intent. -/
theorem validatorReservation_ok {request : ValidatorIntentRequest}
    (built : validatorReservation request = .ok reservation) :
    reservation.Unsettled ∧ reservation.demand = request.demand := by
  simp only [validatorReservation] at built
  split at built
  · obtain rfl := Except.ok.inj built
    exact ⟨⟨rfl, rfl, rfl, rfl, rfl⟩, rfl⟩
  · cases built

/-- What a recovered intent was checked against. -/
theorem retryAuthorization_ok {retry : RetryBinding} {authorization : RetryAuthorization}
    (authorized : retryAuthorization checks before intent retry = .ok authorization) :
    authorization ∈ before.authorizations ∧ authorization.kind = retry.kind ∧
      authorization.authorizationId = retry.recoveryAuthorizationId ∧
      authorization.scope = { intent.scope with attemptId := retry.priorAttemptId } ∧
      authorization.successorAttemptId = intent.request.attemptId ∧
      authorization.sourceGeneration = retry.expectedSourceGeneration ∧
      authorization.targetGeneration = retry.expectedTargetGeneration ∧
      authorization.status = .available ∧
      ∃ slot, before.slot? intent.request.repositoryId = some slot ∧
        slot.runId = intent.request.runId ∧
        slot.logicalEffectId = intent.request.logicalEffectId ∧
        slot.attemptId = retry.priorAttemptId ∧
        slot.generation = retry.expectedSourceGeneration := by
  simp only [retryAuthorization, bind_eq_ok, fetch_eq_ok, require_eq_ok, pure_eq_ok]
    at authorized
  obtain ⟨found, lookup, _, ⟨scope, successor, source, target, available, -⟩, slot, held, _, owns,
    _, -, _, -, rfl⟩ := authorized
  obtain ⟨member, named⟩ := Table.mem_of_find? lookup
  simp only [Bool.and_eq_true, decide_eq_true_eq] at named
  exact ⟨member, named.1, named.2, scope, successor, source, target, available, slot, held, owns⟩

/-- The one row of the slot table. -/
theorem slot_rows_of_mem (held : slot ∈ store.slot) :
    store.slot.rows = [slot] := by
  have alone : ∀ row ∈ store.slot, row = slot := fun row member =>
    Table.eq_of_conflict member held trivial
  cases rows : store.slot.rows with
  | nil =>
      have : slot ∈ store.slot.rows := held
      simp [rows] at this
  | cons first rest =>
      have head : first = slot := alone first (by simp [← Table.mem_rows, rows])
      cases rest with
      | nil => rw [head]
      | cons second rest =>
          have distinct := store.slot.unique
          rw [rows, List.pairwise_cons] at distinct
          exact absurd trivial (distinct.1 second (by simp))

theorem mem_of_slot? {name : String} (found : store.slot? name = some slot) :
    slot ∈ store.slot ∧ slot.repositoryId = name := by
  have := Table.mem_of_find? found
  simpa using this

/-- Nothing is fenced over the repository when an intent is committed. -/
theorem intentFences_ok {authorization : Option RetryAuthorization} {done : Unit}
    (open_ : intentFences before intent authorization = .ok done) :
    ∀ fence ∈ before.fences, fence.applies intent.scope = true →
      ∃ text, fence.fenceId = .other text := by
  intro fence member applies
  have active : fence.fenceId ∈ before.activeFences intent.scope :=
    List.mem_map_of_mem (List.mem_filter.mpr ⟨member, applies⟩)
  simp only [intentFences] at open_
  split at open_
  · split at open_
    · rw [require_eq_ok] at open_
      have allowed := open_.1 _ active
      simp only [RetryAuthorization.allowedFences, List.mem_cons, List.mem_map] at allowed
      obtain same | ⟨text, -, same⟩ := allowed
      · exact ⟨_, same⟩
      · exact ⟨text, same.symm⟩
    · rw [require_eq_ok] at open_
      simp [open_] at active
  · rw [require_eq_ok] at open_
    simp [open_] at active

/-- No settlement fence lies over the repository when an intent is committed. -/
theorem intentFences_unfenced {authorization : Option RetryAuthorization} {done : Unit}
    (open_ : intentFences before intent authorization = .ok done) :
    ∀ fence ∈ before.settlementFences, ¬ fence.repositoryWide intent.scope.repositoryId := by
  intro fence member wide
  obtain ⟨stored, kind⟩ := Store.mem_settlementFences.mp member
  obtain ⟨text, other⟩ := intentFences_ok open_ fence stored (by
    simp [Fence.applies, wide.1, wide.2.1, wide.2.2.1])
  simp [other, FenceId.ofSettlement] at kind

/-- What a new intent was checked against. -/
theorem checkIntent_ok {capability : SyntheticCapability} {run : RunRow}
    {effects : Table DurableEffect}
    (checked : checkIntent checks before intent capability = .ok (run, effects)) :
    before.run? intent.request.runId = some run ∧ run.itemId = intent.request.itemId ∧
      run.lifecycleState = .planned ∧
      (∃ authorization, intentSlot checks before intent = .ok authorization ∧
        intentFences before intent authorization = .ok ()) ∧
      before.aggregate intent.request.repositoryId + intent.request.reservedUnits ≤
        intent.request.capUnits := by
  simp only [checkIntent, bind_eq_ok, fetch_eq_ok, require_eq_ok, pure_eq_ok, Prod.mk.injEq]
    at checked
  obtain ⟨_, -, _, -, _, -, _, -, _, -, _, -, _, -, found, lookup, _, item, _, planned, _, -, _, -,
    authorization, slot, _, open_, _, -, _, -, _, within, rfl, -⟩ := checked
  exact ⟨lookup, item, planned, ⟨authorization, slot, open_⟩, within⟩

/-- The slot a new intent takes, from the slot it was checked against. -/
theorem intentTakesSlot_ok {slot : Table SlotRow} {authorization : Option RetryAuthorization}
    (checked : intentSlot checks before intent = .ok authorization)
    (taken : intentTakesSlot before intent = .ok slot) :
    slot.rows = [intent.slotRow] ∧
      ((intent.retry = none ∧ before.slot.rows = []) ∨
        ∃ retry held, intent.retry = some retry ∧ before.slot.rows = [held] ∧
          held.runId = intent.request.runId ∧
          held.logicalEffectId = intent.request.logicalEffectId ∧
          held.attemptId = retry.priorAttemptId ∧
          held.generation = retry.expectedSourceGeneration) := by
  cases retry : intent.retry with
  | none =>
      simp only [intentSlot, retry, bind_eq_ok, require_eq_ok] at checked
      obtain ⟨_, empty, -⟩ := checked
      simp only [intentTakesSlot, retry, Table.insert_eq_ok, empty, List.nil_append] at taken
      refine ⟨?_, .inl ⟨rfl, empty⟩⟩
      rw [taken.2]
      simp [OperationIntent.slotRow, OperationIntent.slotGeneration, retry]
  | some binding =>
      simp only [intentSlot, retry, map_eq_ok] at checked
      obtain ⟨authorization, authorized, -⟩ := checked
      obtain ⟨-, -, -, -, -, -, -, -, held, lookup, ofRun, effect, prior, generation⟩ :=
        retryAuthorization_ok authorized
      obtain ⟨member, repository⟩ := mem_of_slot? lookup
      have rows := slot_rows_of_mem member
      refine ⟨?_, .inr ⟨binding, held, rfl, rows, ofRun, effect, prior, generation⟩⟩
      simp only [intentTakesSlot, retry] at taken
      rw [← Except.ok.inj taken]
      simp [Table.update, rows, repository, ofRun, effect, prior, generation,
        OperationIntent.slotRow, OperationIntent.slotGeneration, retry]

/-- `commit_intent` records one event, which takes the slot and reserves. -/
theorem commitIntent_transacts {capability : SyntheticCapability} {receipt : CommitReceipt}
    (committed : commitIntent digests repositoryId checks intent capability before =
      .ok (receipt, after)) :
    Transacts digests repositoryId (fun body => ∃ claimId, body.detail = .intentCommitted intent claimId)
      before after := by
  simp only [commitIntent, bind_eq_ok, require_eq_ok] at committed
  obtain ⟨_, -, _, own, _, -, _, -, committed⟩ := committed
  split at committed
  · simp only [bind_eq_ok, pure_eq_ok, Prod.mk.injEq] at committed
    obtain ⟨_, -, -, rfl⟩ := committed
    exact .refl
  · simp only [bind_eq_ok, pure_eq_ok, Prod.mk.injEq, Prod.exists, writeIntent] at committed
    obtain ⟨run, effects, checked, _, ⟨uses, used, reservation, built, reservations, reserved,
      origins, -, slot, takes, redemptions, redeemed, middle, appended, outcome⟩, -, rfl⟩ :=
      committed
    obtain ⟨found, item, planned, ⟨authorization, checkedSlot, open_⟩, -⟩ := checkIntent_ok checked
    obtain ⟨taken, held⟩ := intentTakesSlot_ok checkedSlot takes
    obtain ⟨unsettled, demand⟩ := intentReservation_ok built
    have scope : reservation.scope = intent.scope := congrArg Demand.scope demand
    have named : reservation.reservationId = intent.request.reservationId :=
      congrArg Demand.reservationId demand
    obtain ⟨member, ofRun⟩ := mem_of_run? found
    have usedRows := Table.mem_of_insert used
    have reservedRows := Table.mem_of_insert reserved
    have redeemedRows := Table.mem_of_insert redeemed
    rw [Table.insert_eq_ok] at used reserved
    refine .single (Move.of_recordOutcome (.of_append appended rfl rfl member
      ⟨rfl, rfl, rfl, fun _ => own⟩ (.inr rfl) ?_ ?_ ?_ ?_
      ⟨fun redemption member => (redeemedRows redemption).mpr (.inl member),
        fun _ member => .inl member, fun _ member => member, fun _ member => member⟩) outcome)
      ⟨_, rfl⟩
    · rw [planned]
      simp [LifecycleState.terminal]
    · refine .reserved reservation unsettled (congrArg some demand.symm) ?_ reserved.2 rfl
        (fun _ => Iff.rfl)
      rw [scope]
      exact intentFences_unfenced open_
    · have committed : Committed before { before with
            effects := effects
            permissionUses := uses
            reservations := reservations
            origins := origins
            slot := slot
            authorizations := intentConsumes before intent
            redemptions := redemptions } (intentBody intent capability run) intent
          capability.claimId :=
        ⟨rfl, ofRun.symm, used.1, (usedRows _).mpr (.inr rfl),
          ⟨reservation, (reservedRows _).mpr (.inr rfl), named, scope⟩,
          ⟨_, (redeemedRows _).mpr (.inr rfl), rfl, rfl⟩, taken⟩
      obtain ⟨first, empty⟩ | ⟨retry, slot, again, rows, slotRun, effect, prior, -⟩ := held
      · exact .acquired intent _ committed first empty
      · exact .transferred intent _ retry slot committed again rows (slotRun.trans ofRun.symm)
          effect prior
    · exact fun use member => (usedRows use).mpr (.inl member)

/-! ## Settlements -/

/-- Two tables with the same settlement fences. -/
def SameSettlementFences (a b : Table Fence) : Prop :=
  ∀ fence, fence.fenceId.ofSettlement = true → (fence ∈ a ↔ fence ∈ b)

theorem SameSettlementFences.delete {table : Table Fence} {fenceId : FenceId}
    (other : fenceId.ofSettlement = false) :
    SameSettlementFences (table.delete (fun fence => fence.fenceId = fenceId)) table := by
  intro fence kind
  simp only [Table.mem_delete, decide_eq_false_iff_not, and_iff_left_iff_imp]
  rintro - rfl
  rw [other] at kind
  cases kind

theorem SameSettlementFences.trans {a b c : Table Fence} (first : SameSettlementFences a b)
    (second : SameSettlementFences b c) : SameSettlementFences a c :=
  fun fence kind => (first fence kind).trans (second fence kind)

/-- Tables with the same settlement fences, as the fences of two stores. -/
theorem settlementFences_of_same {a b : Store} (same : SameSettlementFences a.fences b.fences)
    (fence : Fence) : fence ∈ a.settlementFences ↔ fence ∈ b.settlementFences := by
  rw [Store.mem_settlementFences, Store.mem_settlementFences]
  constructor
  · rintro ⟨stored, kind⟩
    exact ⟨(same fence kind).mp stored, kind⟩
  · rintro ⟨stored, kind⟩
    exact ⟨(same fence kind).mpr stored, kind⟩

/-- Fences of other kinds raised on top. -/
theorem SameSettlementFences.raise {a b c : Table Fence} {fences : List Fence}
    (raised : ∀ fence, fence ∈ a ↔ fence ∈ b ∨ fence ∈ fences)
    (other : ∀ fence ∈ fences, fence.fenceId.ofSettlement = false)
    (same : SameSettlementFences b c) : SameSettlementFences a c := by
  intro fence kind
  rw [raised, same fence kind]
  refine ⟨fun member => member.resolve_right (fun new => ?_), .inl⟩
  rw [other fence new] at kind
  cases kind

variable {plan : SettlementPlan} {uncertain : Bool}

/-- Settling a validator leaves everything but validator intents and its own fence. -/
theorem settleValidator_ok (settled : settleValidator before plan = .ok after) :
    ∃ fences validators, after = { before with fences := fences, validatorIntents := validators } ∧
      SameSettlementFences fences before.fences := by
  unfold settleValidator at settled
  split at settled
  · split at settled
    · simp only [bind_eq_ok, pure_eq_ok] at settled
      obtain ⟨_, -, rfl⟩ := settled
      exact ⟨_, _, rfl, .delete rfl⟩
    · obtain rfl : before = after := by simpa using settled
      exact ⟨_, _, rfl, fun _ _ => Iff.rfl⟩
  · obtain rfl : before = after := by simpa using settled
    exact ⟨_, _, rfl, fun _ _ => Iff.rfl⟩

/-- Resolved uncertainties leave everything but their own fences. -/
theorem resolveUncertainties_ok {texts : List String}
    (resolved : resolveUncertainties before plan texts = .ok after) :
    ∃ fences, after = { before with fences := fences } ∧
      SameSettlementFences fences before.fences := by
  unfold resolveUncertainties at resolved
  split at resolved
  · clear * - resolved
    induction texts generalizing before with
    | nil =>
        obtain rfl : before = after := by simpa using resolved
        exact ⟨_, rfl, fun _ _ => Iff.rfl⟩
    | cons text texts ih =>
        simp only [List.foldlM_cons, bind_eq_ok, pure_eq_ok] at resolved
        obtain ⟨_, ⟨_, -, rfl⟩, later⟩ := resolved
        obtain ⟨fences, rfl, same⟩ := ih later
        exact ⟨fences, rfl, same.trans (.delete rfl)⟩
  · obtain rfl : before = after := by simpa using resolved
    exact ⟨_, rfl, fun _ _ => Iff.rfl⟩

/-- A resolved fence goes, the others stay. -/
theorem clearResolved_ok {resolved : Option FenceId}
    (cleared : clearResolved before resolved = .ok after) :
    ∃ fences, after = { before with fences := fences } ∧
      ∀ fence, fence ∈ fences ↔ fence ∈ before.fences ∧ resolved ≠ some fence.fenceId := by
  cases resolved with
  | none =>
      obtain rfl : before = after := by simpa [clearResolved] using cleared
      exact ⟨_, rfl, by simp⟩
  | some fenceId =>
      simp only [clearResolved, bind_eq_ok, pure_eq_ok] at cleared
      obtain ⟨_, -, rfl⟩ := cleared
      refine ⟨_, rfl, fun fence => ?_⟩
      simp [eq_comm]

/-- The fence that a settlement resolves is the one of the head settlement. -/
theorem resolvedFence_ok {next : BudgetDisposition} {resolved : Option FenceId}
    (looked : resolvedFence before reservation next = .ok resolved) :
    resolved = headFence before reservation next := by
  unfold resolvedFence at looked
  unfold headFence
  split at looked
  · rename_i resolves
    simp only [bind_eq_ok, fetch_eq_ok, pure_eq_ok] at looked
    obtain ⟨head, found, rfl⟩ := looked
    simp only [if_pos resolves, found]
  · rename_i keeps
    rw [if_neg keeps]
    exact (Except.ok.inj looked).symm

theorem settlementAccounting_ok {request : BudgetSettlementRequest} {held charged : Nat}
    (derived : settlementAccounting reservation request = .ok (held, charged, uncertain)) :
    deriveSettlementAccounting reservation.disposition reservation.chargedUnits
      reservation.worstCaseUnits request.disposition request.actualUnits
      request.additionalLiability request.nonDispatchProven request.zeroLiabilityProven =
        .ok (held, charged, uncertain) := by
  unfold settlementAccounting at derived
  split at derived
  · cases derived
  · exact derived

/-- What a settlement was checked against. -/
theorem checkSettlement_ok {request : BudgetSettlementRequest}
    (checked : checkSettlement checks before request reservation = .ok plan) :
    plan.reservation = reservation ∧ plan.settlement.request = request ∧
      request.expectedPreviousHash = reservation.settlementHeadHash ∧
      (request.disposition = .released → ∀ earlier ∈ before.settlements,
        earlier.reservationId = request.reservationId →
          earlier.body.request.disposition ≠ .released) ∧
      deriveSettlementAccounting reservation.disposition reservation.chargedUnits
        reservation.worstCaseUnits request.disposition request.actualUnits
        request.additionalLiability request.nonDispatchProven request.zeroLiabilityProven =
          .ok (plan.settlement.heldUnits, plan.settlement.chargedUnits,
            plan.settlement.uncertainty) ∧
      plan.resolved = headFence before reservation request.disposition ∧
      before.runOf? reservation.scope = some plan.run ∧
      plan.run.itemId = reservation.scope.itemId ∧
      plan.slot = before.slotOf? reservation.scope ∧
      (plan.run.lifecycleState.terminal = true → plan.target.1 = plan.run.lifecycleState) ∧
      (request.nonDispatchProven = false →
        plan.target = (plan.run.lifecycleState, plan.run.continuationCursor)) := by
  simp only [checkSettlement, bind_eq_ok, fetch_eq_ok, require_eq_ok, refuse_eq_ok, Prod.exists]
    at checked
  obtain ⟨_, -, _, head, _, once, evidence, -, held, charged, uncertain, derived, resolved, looked,
    run, found, _, item, _, -, routed⟩ := checked
  have accounting := settlementAccounting_ok derived
  have unreleased : request.disposition = .released → ∀ earlier ∈ before.settlements,
      earlier.reservationId = request.reservationId →
        earlier.body.request.disposition ≠ .released := by
    intro released earlier member same again
    exact once ⟨released, by simpa using ⟨earlier, member, same, again⟩⟩
  split at routed
  · rename_i proven
    simp only [bind_eq_ok, pure_eq_ok, Prod.exists] at routed
    obtain ⟨state, cursor, target, rfl⟩ := routed
    refine ⟨rfl, rfl, head.symm, unreleased, accounting, resolvedFence_ok looked, found, item, rfl,
      deriveNonexecutionRoute_terminal target, ?_⟩
    intro undispatched
    rw [undispatched] at proven
    cases proven
  · simp only [bind_eq_ok, pure_eq_ok, Except.ok.injEq, exists_eq_left'] at routed
    subst routed
    exact ⟨rfl, rfl, head.symm, unreleased, accounting, resolvedFence_ok looked, found, item, rfl,
      fun _ => rfl, fun _ => rfl⟩

/-- A requested slot release: what it was checked against, and the empty slot. -/
theorem releaseSettledSlot_ok (released : releaseSettledSlot before plan = .ok after) :
    (plan.settlement.request.releaseSlot = false ∧ after = before) ∨
      (plan.settlement.request.releaseSlot = true ∧
        plan.settlement.request.disposition = .released ∧
        plan.settlement.request.nonDispatchProven = true ∧ plan.settlement.uncertainty = false ∧
        before.activeValidator plan.reservation.scope.repositoryId plan.reservation.scope.runId
          = false ∧
        ∃ slot table, plan.slot = some slot ∧ after = { before with slot := table } ∧
          (∀ held ∈ before.slot, before.slotOf? plan.reservation.scope = some held →
            held = slot → table.rows = [])) := by
  unfold releaseSettledSlot at released
  dsimp only at released
  split at released
  · rename_i requested
    simp only [bind_eq_ok, require_eq_ok, refuse_eq_ok, fetch_eq_ok, pure_eq_ok] at released
    obtain ⟨_, ⟨disposition, proven, -⟩, _, settled, _, inactive, slot, held, rfl⟩ := released
    rw [not_or, Bool.not_eq_true] at settled
    rw [Bool.not_eq_true] at inactive
    refine .inr ⟨requested, disposition, proven, settled.1, inactive, slot, _, held, rfl, ?_⟩
    rintro row member found rfl
    obtain ⟨-, matched⟩ := Table.mem_of_find? found
    simp only [Bool.and_eq_true, decide_eq_true_eq] at matched
    simp [Table.delete, slot_rows_of_mem member, matched]
  · rename_i kept
    obtain rfl : before = after := by simpa using released
    exact .inl ⟨by simpa using kept, rfl⟩

theorem mem_of_slotOf? {scope : AttemptScope} (found : store.slotOf? scope = some slot) :
    slot ∈ store.slot ∧ slot.repositoryId = scope.repositoryId ∧ slot.runId = scope.runId ∧
      slot.logicalEffectId = scope.logicalEffectId ∧ slot.attemptId = scope.attemptId := by
  have := Table.mem_of_find? found
  simp only [Bool.and_eq_true, decide_eq_true_eq] at this
  exact ⟨this.1, this.2.1.1.1, this.2.1.1.2, this.2.1.2, this.2.2⟩

/-- The reservation of a settled attempt has nothing held; a release leaves nothing uncertain. -/
theorem closed_of_released {row : SettlementRow} {table : Table Reservation}
    (settles : Settles before reservation row)
    (member : slot.repositoryId = reservation.scope.repositoryId ∧
      slot.logicalEffectId = reservation.scope.logicalEffectId ∧
      slot.attemptId = reservation.scope.attemptId) (held : row.body.heldUnits = 0)
    (certain : row.body.uncertainty = false)
    (rows : table.rows = before.reservations.rows.map (fun other =>
      if other.reservationId = row.reservationId
      then other.settled row.body row.settlementHash else other)) :
    slot.Closed { before with reservations := table } := by
  intro other stored repository _ effect attempt
  rw [← Table.mem_rows, rows, List.mem_map] at stored
  obtain ⟨old, oldMember, rfl⟩ := stored
  have scopes : ∀ row : SettlementRow, (if old.reservationId = row.reservationId
      then old.settled row.body row.settlementHash else old).scope = old.scope := by
    intro row
    split <;> rfl
  rw [scopes] at repository effect attempt
  obtain rfl : old = reservation := Table.eq_of_conflict oldMember settles.owner
    (.inr ⟨repository.trans member.1, effect.trans member.2.1, attempt.trans member.2.2⟩)
  rw [if_pos settles.binds.symm]
  exact ⟨held, certain⟩

/-- An accepted derivation raises the fences of the loop: its flag is the expected
one, and a released reservation is not released again. -/
theorem deriveSettlementAccounting_flags {current next : BudgetDisposition} {charged worst : Nat}
    {actual : Option Nat} {additional nonDispatch zeroLiability : Bool} {held units : Nat}
    (derived : deriveSettlementAccounting current charged worst next actual additional nonDispatch
      zeroLiability = .ok (held, units, uncertain)) :
    (current = .released → next ≠ .released) ∧
      (additional = true ↔ next = .unknownWorstCaseCharged ∧ current.knownUsage = true) ∧
      held = 0 ∧ (next = .released → uncertain = false ∧ units = 0) := by
  rw [deriveSettlementAccounting_ok] at derived
  obtain ⟨allowed, held, flag, kinds⟩ := derived
  refine ⟨?_, ?_, held, ?_⟩
  · rintro rfl rfl
    simp [settlementTransitions] at allowed
  · rw [flag]
    simp [expectedAdditionalLiability]
  · rintro rfl
    have known : nonDispatch = true ∧ zeroLiability = true ∧ uncertain = false ∧ units = 0 := by
      simpa [BudgetDisposition.knownUsage, and_comm] using kinds
    exact known.2.2

/-- The settlement fences a live settlement raises are those of the replay loop. -/
theorem mem_raises {charged worst : Nat} {actual : Option Nat} {nonDispatch zeroLiability : Bool}
    {held units : Nat}
    (derived : deriveSettlementAccounting plan.reservation.disposition charged worst
      plan.settlement.request.disposition actual plan.settlement.request.additionalLiability
      nonDispatch zeroLiability = .ok (held, units, uncertain)) (fence : Fence)
    (kind : fence.fenceId.ofSettlement = true) :
    fence ∈ plan.raises ↔
      fence ∈ raisedFences plan.reservation plan.reservation.disposition plan.settlement := by
  obtain ⟨once, additional, -, -⟩ := deriveSettlementAccounting_flags derived
  have late : (plan.reservation.disposition = .released ∧
      plan.settlement.request.disposition ≠ .released) ↔
        plan.reservation.disposition = .released :=
    ⟨And.left, fun released => ⟨released, once released⟩⟩
  have flagged : (plan.settlement.request.disposition = .unknownWorstCaseCharged &&
      plan.reservation.disposition.knownUsage && plan.settlement.request.additionalLiability) =
        plan.settlement.request.additionalLiability := by
    cases flag : plan.settlement.request.additionalLiability with
    | false => simp
    | true => simpa using additional.mp flag
  have other : fence ∉ if plan.settlement.contradiction then
      [{ fenceId := FenceId.nonexecutionContradiction plan.settlement.request.settlementEventId
         repositoryId := plan.reservation.scope.repositoryId
         itemId := some plan.reservation.scope.itemId
         logicalEffectId := some plan.reservation.scope.logicalEffectId
         reasonCode := FenceReason.nonexecutionContradiction
         originatingEventId := plan.settlement.request.settlementEventId : Fence }] else [] := by
    split
    · rw [List.mem_singleton]
      rintro rfl
      cases kind
    · simp
  simp only [SettlementPlan.raises, raisedFences, late, flagged, List.mem_append, other, or_false,
    or_assoc]

/-- The settlement fences of a store, from what its fences are. -/
theorem mem_settlementFences_of_iff {wanted : Fence → Prop}
    (same : ∀ fence, fence.fenceId.ofSettlement = true → (fence ∈ store.fences ↔ wanted fence))
    (kinds : ∀ fence, wanted fence → fence.fenceId.ofSettlement = true) (fence : Fence) :
    fence ∈ store.settlementFences ↔ wanted fence := by
  rw [Store.mem_settlementFences]
  constructor
  · rintro ⟨member, kind⟩
    exact (same fence kind).mp member
  · intro meets
    exact ⟨(same fence (kinds fence meets)).mpr meets, kinds fence meets⟩

theorem raisedFences_ofSettlement {current : BudgetDisposition} {settlement : SettlementBody}
    {fence : Fence} (raised : fence ∈ raisedFences reservation current settlement) :
    fence.fenceId.ofSettlement = true ∧
      (fence.fenceId = .budgetBreach settlement.request.settlementEventId ∨
        fence.fenceId = .lateAccounting settlement.request.settlementEventId ∨
        fence.fenceId = .additionalLiability settlement.request.settlementEventId) ∧
      fence.repositoryWide reservation.scope.repositoryId := by
  simp only [raisedFences, List.mem_append] at raised
  obtain (raised | raised) | raised := raised <;> split at raised <;>
    simp only [List.mem_singleton, List.not_mem_nil] at raised <;> subst raised <;>
    simp [breachFence, lateFence, additionalFence, settlementFence, FenceId.ofSettlement,
      Fence.repositoryWide]

/-- The fence a settlement resolves was raised by an earlier settlement, not by itself. -/
theorem headFence_ne_raised {row : SettlementRow} {fence : Fence}
    (fresh : ∀ earlier ∈ before.settlements, ¬ Conflict earlier row)
    (raised : fence ∈ raisedFences reservation reservation.disposition row.body) :
    headFence before reservation row.body.request.disposition ≠ some fence.fenceId := by
  intro resolved
  simp only [headFence] at resolved
  split at resolved
  · split at resolved
    · rename_i head found
      split at resolved
      · obtain ⟨-, kinds, -⟩ := raisedFences_ofSettlement raised
        rw [← Option.some.inj resolved] at kinds
        obtain same | same | same := kinds
        · cases same
        · cases same
        · exact fresh head (Table.mem_of_find? found).1 (.inl (FenceId.additionalLiability.inj same))
      · cases resolved
    · cases resolved
  · cases resolved

theorem SettlementPlan.settlement?_body :
    plan.body.detail.settlement? = some plan.settlement := by
  unfold SettlementPlan.body
  dsimp only
  split <;> rfl

/-- The event of a settlement, with everything its transaction wrote. -/
theorem settlement_move {request : BudgetSettlementRequest} {texts : List String} {middle : Store}
    (member : reservation ∈ before.reservations)
    (named : reservation.reservationId = request.reservationId)
    (bound : reservation.scope = request.scope)
    (checked : checkSettlement checks before request reservation = .ok plan)
    (written : recordSettlement digests before plan texts = .ok middle) :
    Move digests repositoryId before plan.body middle := by
  obtain ⟨rfl, rfl, head, once, derived, resolved, found, -, slotted, terminal, plain⟩ :=
    checkSettlement_ok checked
  simp only [recordSettlement, bind_eq_ok, Store.settle_eq_ok] at written
  obtain ⟨_, ⟨settlements, inserted, rfl⟩, _, validated, _, uncertainties, _, raised, _, cleared, _,
    released, appended⟩ := written
  rw [Table.insert_eq_ok] at inserted
  obtain ⟨fences₁, validators, rfl, same₁⟩ := settleValidator_ok validated
  obtain ⟨fences₂, rfl, same₂⟩ := resolveUncertainties_ok uncertainties
  obtain ⟨fences₃, rfl, same₃⟩ := Store.raiseFences_ok raised
  obtain ⟨fences₄, rfl, same₄⟩ := clearResolved_ok cleared
  obtain ⟨runMember, runId, -⟩ := mem_of_runOf? found
  obtain ⟨-, -, held, certain⟩ := deriveSettlementAccounting_flags derived
  let row : SettlementRow :=
    ⟨digests.event plan.body, plan.settlement.request.nonDispatchProven, plan.settlement⟩
  have settles : Settles before plan.reservation row :=
    ⟨member, named.symm, bound.symm, head, held, fun _ => derived, once⟩
  have next : plan.run.Next repositoryId plan.body := by
    unfold SettlementPlan.body
    dsimp only
    split <;> exact RunRow.next_nextBody
  have accounts : ∀ slot, AccountMove digests before { before with
      settlements := settlements
      reservations := before.reservations.update
        (fun reservation => reservation.reservationId = row.reservationId)
        (fun reservation => reservation.settled row.body row.settlementHash) (fun _ _ => Iff.rfl)
      validatorIntents := validators
      fences := fences₄
      slot := slot } plan.body := by
    intro slot
    refine .settled plan.reservation row settles SettlementPlan.settlement?_body rfl inserted.2
      ?_ ?_
    · simp only [Table.update, decide_eq_true_eq]
    · refine mem_settlementFences_of_iff ?_ ?_
      · intro fence kind
        rw [same₄, same₃, same₂ fence kind, same₁ fence kind, mem_raises derived fence kind,
          Store.mem_settlementFences, resolved]
        constructor
        · rintro ⟨stored | new, kept⟩
          · exact .inl ⟨⟨stored, kind⟩, kept⟩
          · exact .inr new
        · rintro (⟨⟨stored, -⟩, kept⟩ | new)
          · exact ⟨.inl stored, kept⟩
          · exact ⟨.inr new, headFence_ne_raised inserted.1 new⟩
      · rintro fence (⟨stored, -⟩ | new)
        · exact (Store.mem_settlementFences.mp stored).2
        · exact (raisedFences_ofSettlement new).1
  have follows : plan.run.Follows plan.body plan.target.1 := by
    unfold SettlementPlan.body
    dsimp only
    split
    · exact RunRow.follows_change
    · rename_i undispatched
      refine .inl ⟨rfl, ?_⟩
      rw [plain (by simpa using undispatched)]
  obtain ⟨kept, rfl⟩ | ⟨requested, disposition, proven, -, -, slot, table, owned, rfl, freed⟩ :=
    releaseSettledSlot_ok released
  · refine .of_append appended rfl rfl runMember next follows terminal (accounts _)
      (.of_still rfl ?_) (fun _ member => member) (.same rfl rfl rfl rfl)
    unfold SettlementPlan.body
    dsimp only
    split <;> simp [RunRow.nextBody, EventDetail.still, EventDetail.releases, kept]
  · rw [slotted] at owned
    obtain ⟨slotMember, repository, slotRun, effect, attempt⟩ := mem_of_slotOf? owned
    have detail : plan.body.detail = .nondispatchProven plan.settlement := by
      simp [SettlementPlan.body, proven, RunRow.nextBody]
    refine .of_append appended rfl rfl runMember next follows terminal (accounts _)
      (.released slot (plan.reservation.scope.logicalEffectId, plan.reservation.scope.attemptId,
        none) ?_ ⟨effect.symm, attempt.symm, fun generation none => by cases none⟩ ?_
        (slot_rows_of_mem slotMember) (freed slot slotMember owned rfl) ?_) (fun _ member => member)
      (.same rfl rfl rfl rfl)
    · simp [detail, EventDetail.releases, requested, bound]
    · rw [slotRun, ← runId]
      exact next.ofRun.symm
    · refine closed_of_released settles ⟨repository, effect, attempt⟩ held
        (certain disposition).1 ?_
      simp only [Table.update, decide_eq_true_eq]
      rfl

theorem SettlementPlan.runId_body : plan.body.runId = plan.run.runId := by
  unfold SettlementPlan.body
  dsimp only
  split <;> rfl

/-- After an event of the source run, the fencing of its dependents: other runs, and
none of their events moves the slot. -/
theorem Transacts.with_dependents {sourceRunId fencedRepository originatingEventId : String}
    {provenance : ProvenanceKind} {middle : Store}
    (moved : Move digests repositoryId before body middle) (asked : asks body)
    (ofRun : body.runId = sourceRunId)
    (fenced : fenceDependentAdoptions digests fencedRepository sourceRunId originatingEventId
      provenance middle = .ok after) : Transacts digests repositoryId asks before after := by
  obtain ⟨bodies, moves, kinds⟩ := dependents_moves repositoryId fenced
  refine ⟨[body] ++ bodies, Run.append (.snoc .nil moved) moves, ?_, asked, ?_⟩
  · rw [SlotLast, List.singleton_append, List.pairwise_cons]
    constructor
    · intro later member _
      rw [ofRun]
      obtain ⟨other, fenceId, detail⟩ := kinds later member
      exact ⟨other, by rw [detail]; rfl⟩
    · rw [List.pairwise_iff_forall_sublist]
      intro earlier later sub moves
      obtain ⟨-, fenceId, detail⟩ := kinds earlier (sub.subset (by simp))
      rw [detail] at moves
      cases moves
  · intro body member
    obtain ⟨-, fenceId, detail⟩ := kinds body member
    rw [detail]
    rfl

/-- The event records a settlement under the request. -/
def EventBody.Settles (request : BudgetSettlementRequest) (body : EventBody) : Prop :=
  ∃ settlement, body.detail.settlement? = some settlement ∧ settlement.request = request

/-- The writes of a settlement are the move of its event and the fencing of
dependent adoptions. -/
theorem writeSettlement_transacts {request : BudgetSettlementRequest} {texts : List String}
    (member : reservation ∈ before.reservations)
    (named : reservation.reservationId = request.reservationId)
    (bound : reservation.scope = request.scope)
    (checked : checkSettlement checks before request reservation = .ok plan)
    (written : writeSettlement digests before plan texts = .ok after) :
    Transacts digests repositoryId (EventBody.Settles request) before after := by
  simp only [writeSettlement, bind_eq_ok] at written
  obtain ⟨middle, recorded, fenced⟩ := written
  have moved : Move digests repositoryId before plan.body middle :=
    settlement_move member named bound checked recorded
  obtain ⟨rfl, same, -, -, -, -, found, -⟩ := checkSettlement_ok checked
  have settles : plan.body.Settles request := ⟨_, SettlementPlan.settlement?_body, same⟩
  split at fenced
  · refine .with_dependents moved settles ?_ fenced
    rw [SettlementPlan.runId_body]
    exact (mem_of_runOf? found).2.1
  · obtain rfl := Except.ok.inj fenced
    exact .single moved settles

/-- `_settle_budget` records a settlement, or replays one. -/
theorem settleBudget_transacts {request : BudgetSettlementRequest} {texts : List String}
    {receipt : SettlementReceipt}
    (settled : settleBudget digests checks request texts before = .ok (receipt, after)) :
    Transacts digests repositoryId (fun body => body.Settles request ∧
      (∃ reservation, before.reservation? request.reservationId = some reservation) ∧
      ∀ row ∈ before.settlements, row.settlementEventId ≠ request.settlementEventId)
      before after := by
  simp only [settleBudget, bind_eq_ok, fetch_eq_ok, require_eq_ok] at settled
  obtain ⟨_, -, _, -, _, -, reservation, found, _, bound, _, -, settled⟩ := settled
  split at settled
  · simp only [bind_eq_ok, pure_eq_ok, Prod.mk.injEq] at settled
    obtain ⟨_, -, -, rfl⟩ := settled
    exact .refl
  · rename_i fresh
    simp only [bind_eq_ok, pure_eq_ok, Prod.mk.injEq] at settled
    obtain ⟨plan, checked, _, written, -, rfl⟩ := settled
    obtain ⟨member, named⟩ := mem_of_reservation? found
    refine (writeSettlement_transacts member named bound checked written).imp
      (fun body settles => ⟨settles, ⟨reservation, found⟩, fun row stored same => ?_⟩)
    have := Table.find?_eq_none.mp fresh row stored
    simp [same] at this

/-! ## Receipts -/

/-- A receipt never releases. -/
theorem receiptDisposition_ne_released {current : BudgetDisposition} {usageUnits : Option Nat} :
    receiptDisposition current usageUnits ≠ .released := by
  unfold receiptDisposition
  split
  · simp
  · split <;> simp

/-- A receipt resolves the fence of the head settlement, as a settlement would. -/
theorem receiptResolves_eq {usageUnits : Option Nat} :
    receiptResolves before reservation (receiptDisposition reservation.disposition usageUnits) =
      headFence before reservation (receiptDisposition reservation.disposition usageUnits) := by
  simp only [receiptResolves, headFence, resolvesUnknown, Bool.and_eq_true, Bool.or_eq_true,
    decide_eq_true_eq, receiptDisposition_ne_released, or_false] <;> rfl

/-- The fences of a receipt's settlement are those of the replay loop. -/
theorem mem_receiptRaises {settlement : SettlementBody} {charged worst : Nat} {actual : Option Nat}
    {nonDispatch zeroLiability : Bool} {held units : Nat}
    (bound : settlement.request.scope = reservation.scope)
    (derived : deriveSettlementAccounting reservation.disposition charged worst
      settlement.request.disposition actual settlement.request.additionalLiability
      nonDispatch zeroLiability = .ok (held, units, uncertain)) (fence : Fence) :
    fence ∈ receiptRaises reservation settlement ↔
      fence ∈ raisedFences reservation reservation.disposition settlement := by
  obtain ⟨-, additional, -, -⟩ := deriveSettlementAccounting_flags derived
  have flagged : (settlement.request.disposition = .unknownWorstCaseCharged &&
      reservation.disposition.knownUsage && settlement.request.additionalLiability) =
        settlement.request.additionalLiability := by
    cases flag : settlement.request.additionalLiability with
    | false => simp
    | true => simpa using additional.mp flag
  simp only [receiptRaises, raisedFences, bound, flagged, List.mem_append]
  constructor
  · rintro ((raised | raised) | raised)
    · exact .inr raised
    · exact .inl (.inr raised)
    · exact .inl (.inl raised)
  · rintro ((raised | raised) | raised)
    · exact .inr raised
    · exact .inl (.inr raised)
    · exact .inl (.inl raised)

variable (before) in
theorem dropFence_ok (resolved : Option FenceId) :
    ∃ fences, dropFence before resolved = { before with fences := fences } ∧
      ∀ fence, fence ∈ fences ↔ fence ∈ before.fences ∧ resolved ≠ some fence.fenceId := by
  cases resolved with
  | none => exact ⟨_, rfl, by simp⟩
  | some fenceId =>
      refine ⟨_, rfl, fun fence => ?_⟩
      simp [eq_comm]

/-- After an append the run of its event has the state it led to. -/
theorem state_of_append {state : LifecycleState} {cursor : Option String}
    (appended : before.append digests body state cursor = .ok after) {run : RunRow}
    (member : run ∈ after.runs) (ofRun : run.runId = body.runId) :
    run.lifecycleState = state := by
  rw [Store.append_eq_ok] at appended
  obtain ⟨_, -, rfl⟩ := appended
  obtain ⟨old, -, same⟩ := List.mem_map.mp member
  rw [← same] at ofRun ⊢
  split
  · rfl
  · rename_i other
    rw [if_neg other] at ofRun
    simp [ofRun] at other

variable {request : EffectObservationRequest}

variable (repositoryId) in
/-- A receipt that is not recorded settles its reservation in one move, which keeps
the state of the run. -/
theorem settleReceipt_move {run : RunRow} {row : SettlementRow}
    (found : before.runOf? request.scope = some run)
    (settled : settleReceipt digests before request run = .ok (row, after)) :
    ∃ body, Move digests repositoryId before body after ∧ body.detail.still = true ∧
      (∃ reservation, before.attemptReservation? request.scope = some reservation ∧
        body.Settles (receiptSettlement request reservation)) ∧
      ∀ next ∈ after.runs, next.runId = request.scope.runId →
        next.lifecycleState = run.lifecycleState := by
  simp only [settleReceipt, bind_eq_ok, require_eq_ok, fetch_eq_ok, pure_eq_ok, Prod.exists,
    Store.settle_eq_ok, Prod.mk.injEq] at settled
  obtain ⟨_, -, reservation, owner, _, ⟨ofRun, ofItem⟩, held, charged, uncertain, derived, _,
    ⟨settlements, inserted, rfl⟩, _, raised, _, appended, -, rfl⟩ := settled
  obtain ⟨fences₁, dropped, same₁⟩ := dropFence_ok { before with
      settlements := settlements
      reservations := _ }
    (receiptResolves before reservation (receiptSettlement request reservation).disposition)
  rw [dropped] at raised
  obtain ⟨fences₂, rfl, same₂⟩ := Store.raiseFences_ok raised
  obtain ⟨runMember, runId, -⟩ := mem_of_runOf? found
  obtain ⟨member, bound⟩ := Table.mem_of_find? owner
  simp only [Bool.and_eq_true, decide_eq_true_eq] at bound
  rw [Table.insert_eq_ok] at inserted
  have scope : request.scope = reservation.scope := by
    obtain ⟨⟨repository, effect⟩, attempt⟩ := bound
    cases scope : reservation.scope
    simp_all
  have accounting := settlementAccounting_ok derived
  have zero := (deriveSettlementAccounting_flags accounting).2.2.1
  refine ⟨_, .of_append appended rfl rfl runMember RunRow.next_nextBody (.inl ⟨rfl, rfl⟩)
    (fun _ => rfl) ?_ (.of_still rfl rfl) (fun _ member => member) (.same rfl rfl rfl rfl), rfl,
    ⟨reservation, owner, _, rfl, rfl⟩, ?_⟩
  · refine .settled reservation _ ⟨member, rfl, scope, rfl, rfl, fun _ => ?_, ?_⟩ rfl rfl inserted.2
      ?_ ?_
    · rw [← zero]
      exact accounting
    · intro released
      exact absurd released receiptDisposition_ne_released
    · simp only [Table.update, decide_eq_true_eq]
    · refine mem_settlementFences_of_iff ?_ ?_
      · intro fence kind
        rw [same₂, same₁, mem_receiptRaises scope accounting, Store.mem_settlementFences,
          receiptSettlement, receiptResolves_eq]
        constructor
        · rintro (⟨stored, kept⟩ | new)
          · exact .inl ⟨⟨stored, kind⟩, kept⟩
          · exact .inr new
        · rintro (⟨⟨stored, -⟩, kept⟩ | new)
          · exact .inl ⟨stored, kept⟩
          · exact .inr new
      · rintro fence (⟨stored, -⟩ | new)
        · exact (Store.mem_settlementFences.mp stored).2
        · exact (raisedFences_ofSettlement new).1
  · intro next member ofRun
    exact state_of_append appended member (ofRun.trans runId.symm)

/-- A closed accounting leaves nothing held and nothing uncertain in the run. -/
theorem accountingClosed_ok {scope : AttemptScope} {observation optional : Bool}
    {validator : Option String}
    (closed : accountingClosed checks before scope observation validator optional = true) :
    ∀ reservation ∈ before.reservations, reservation.scope.repositoryId = scope.repositoryId →
      reservation.scope.runId = scope.runId →
      reservation.heldUnits = 0 ∧ reservation.uncertainty = false := by
  intro reservation member repository ofRun
  simp only [accountingClosed, Bool.and_eq_true] at closed
  have settled := List.all_eq_true.mp closed.1.1.2 reservation (by
    rw [Store.reservationsOf, List.mem_filter]
    exact ⟨member, by simp [repository, ofRun]⟩)
  unfold settledConclusively at settled
  split at settled
  · cases settled
  · simp only [Bool.and_eq_true, decide_eq_true_eq, Bool.not_eq_true'] at settled
    exact settled.1

/-- A move that leaves the slot alone may lead a plain transaction. -/
theorem Transacts.led {middle : Store} (moved : Move digests repositoryId before body middle)
    (asked : asks body) (still : body.detail.still = true)
    (rest : Transacts digests repositoryId EventBody.Plain middle after) :
    Transacts digests repositoryId asks before after := by
  obtain ⟨later, moves, last, plain⟩ := rest
  refine ⟨[body] ++ later, Run.append (.snoc .nil moved) moves, ?_, asked, ?_⟩
  · rw [SlotLast, List.singleton_append, List.pairwise_cons]
    refine ⟨fun second _ moves => ?_, last⟩
    rw [still] at moves
    cases moves
  · cases later with
    | nil => simp
    | cons second third =>
        rintro body (_ | _)
        · exact plain.1
        · exact plain.2 body ‹_›

theorem uncertaintyFences_quiet {scope : AttemptScope} {eventId : String}
    {uncertainties : List (String × String)} :
    ∀ fence ∈ uncertaintyFences scope eventId uncertainties,
      fence.fenceId.ofSettlement = false := by
  intro fence raised
  obtain ⟨uncertainty, -, rfl⟩ := List.mem_map.mp raised
  rfl

/-- A disabled retry changes authorizations and raises no settlement fence. -/
theorem disableRetry_ok {retry : Option RetryAuthorization}
    (disabled : disableRetry before request retry = .ok after) :
    ∃ fences authorizations,
      after = { before with fences := fences, authorizations := authorizations } ∧
      SameSettlementFences fences before.fences := by
  unfold disableRetry at disabled
  split at disabled
  · obtain rfl := Except.ok.inj disabled
    exact ⟨_, _, rfl, fun _ _ => Iff.rfl⟩
  · obtain ⟨fences, rfl, same⟩ := Store.raiseFences_ok disabled
    refine ⟨fences, _, rfl, .raise same ?_ (fun _ _ => Iff.rfl)⟩
    intro fence raised
    split at raised
    · rw [List.mem_singleton.mp raised]
      rfl
    · cases raised

/-- The checks a receipt passed: its slot, its state and what a release requires. -/
theorem receiptPlan_ok {classification : SourceControlClassification} {earlier run : RunRow}
    {settlement : SettlementRow} {retry : Option RetryAuthorization} {plan : ReceiptPlan}
    (planned : receiptPlan checks before request classification earlier run settlement retry =
      .ok plan) :
    plan.run = run ∧ plan.slot = before.ownedSlot? request.scope ∧
      (earlier.lifecycleState.terminal = true → plan.resulting = earlier.lifecycleState) ∧
      (plan.slotReleased = true → plan.slot.isSome = true ∧
        accountingClosed checks before request.scope true none false = true) := by
  simp only [receiptPlan, bind_eq_ok, fetch_eq_ok, require_eq_ok] at planned
  obtain ⟨reservation, -, _, -, planned⟩ := planned
  split at planned
  · cases planned
  · simp only [bind_eq_ok, require_eq_ok, pure_eq_ok, Prod.exists] at planned
    obtain ⟨kind, resulting, routed, _, -, rfl⟩ := planned
    refine ⟨rfl, rfl, deriveEffectObservationRoute_terminal routed, ?_⟩
    intro released
    simp only [Bool.and_eq_true] at released
    exact ⟨released.1.1.2, released.2⟩

/-- The owned slot is the one row of the slot table. -/
theorem ownedSlot?_ok {scope : AttemptScope} (owned : before.ownedSlot? scope = some slot) :
    slot ∈ before.slot ∧ slot.repositoryId = scope.repositoryId ∧ slot.runId = scope.runId ∧
      slot.logicalEffectId = scope.logicalEffectId ∧ slot.attemptId = scope.attemptId := by
  simp only [Store.ownedSlot?, Option.filter_eq_some_iff, Bool.and_eq_true, decide_eq_true_eq]
    at owned
  obtain ⟨found, ⟨ofRun, effect⟩, attempt⟩ := owned
  obtain ⟨member, repository⟩ := mem_of_slot? found
  exact ⟨member, repository, ofRun, effect, attempt⟩

variable (before) in
/-- The slot after a receipt: kept, or freed when the receipt releases it. -/
theorem releaseObservedSlot_ok {scope : AttemptScope} {plan : ReceiptPlan}
    (owned : ∀ slot, plan.slot = some slot → slot ∈ before.slot ∧
      slot.repositoryId = scope.repositoryId ∧ slot.runId = scope.runId ∧
      slot.logicalEffectId = scope.logicalEffectId ∧ slot.attemptId = scope.attemptId)
    (held : plan.slotReleased = true → plan.slot.isSome = true) :
    (plan.slotReleased = false ∧ releaseObservedSlot before scope plan = before) ∨
      ∃ slot table, plan.slotReleased = true ∧ plan.slot = some slot ∧ table.rows = [] ∧
        releaseObservedSlot before scope plan = { before with slot := table } := by
  cases released : plan.slotReleased with
  | false => exact .inl ⟨rfl, by simp [releaseObservedSlot, released]⟩
  | true =>
      obtain ⟨slot, found⟩ := Option.isSome_iff_exists.mp (held released)
      obtain ⟨member, repository, ofRun, effect, attempt⟩ := owned slot found
      refine .inr ⟨slot, before.slot.delete (fun row => row.repositoryId = scope.repositoryId &&
        row.runId = scope.runId && row.logicalEffectId = scope.logicalEffectId &&
        row.attemptId = scope.attemptId && row.generation = slot.generation), rfl, found, ?_, ?_⟩
      · simp [Table.delete, slot_rows_of_mem member, repository, ofRun, effect, attempt]
      · simp only [releaseObservedSlot, released, found]

/-- The receipt's own event and its dependents, after its accounting. -/
theorem writeObservation_transacts {classification : SourceControlClassification}
    {earlier run : RunRow} {settlement : SettlementRow} {retry : Option RetryAuthorization}
    {plan : ReceiptPlan} {uncertainties : List (String × String)} {row : Observation}
    (found : before.runOf? request.scope = some run)
    (same : run.lifecycleState = earlier.lifecycleState)
    (planned : receiptPlan checks before request classification earlier run settlement retry =
      .ok plan)
    (written : writeObservation digests before request classification plan uncertainties =
      .ok (row, after)) : Transacts digests repositoryId EventBody.Plain before after := by
  obtain ⟨ofPlan, slotted, terminal, closing⟩ := receiptPlan_ok planned
  simp only [writeObservation, bind_eq_ok, Store.recordOutcome_eq_ok] at written
  obtain ⟨observations, observed, _, disabled, _, ⟨outcomes, stored, rfl⟩, _, raised, middle, appended,
    dependents⟩ := written
  obtain ⟨fences₁, authorizations, rfl, same₁⟩ := disableRetry_ok disabled
  obtain ⟨fences₂, rfl, same₂⟩ := Store.raiseFences_ok raised
  obtain ⟨member, runId, -⟩ := mem_of_runOf? found
  have fences : SameSettlementFences fences₂ before.fences :=
    .raise same₂ uncertaintyFences_quiet same₁
  have next : run.Next repositoryId (plan.body request classification) := by
    rw [← ofPlan]
    exact RunRow.next_nextBody
  have follows : run.Follows (plan.body request classification) plan.resulting := by
    rw [← ofPlan]
    exact RunRow.follows_change
  have keeps : run.lifecycleState.terminal = true → plan.resulting = run.lifecycleState := by
    rw [same]
    exact terminal
  have accounts : ∀ slot, AccountMove digests before { before with
      observations := observations
      authorizations := authorizations
      commandOutcomes := outcomes
      fences := fences₂
      slot := slot } (plan.body request classification) := by
    exact fun slot => .quiet rfl rfl (settlementFences_of_same fences)
  have owned : ∀ slot, plan.slot = some slot → slot ∈ before.slot ∧
      slot.repositoryId = request.scope.repositoryId ∧ slot.runId = request.scope.runId ∧
      slot.logicalEffectId = request.scope.logicalEffectId ∧
      slot.attemptId = request.scope.attemptId := by
    intro slot held
    rw [slotted] at held
    exact ownedSlot?_ok held
  have moved : Move digests repositoryId before (plan.body request classification) middle := by
    obtain ⟨kept, stays⟩ | ⟨slot, table, released, held, freed, leaves⟩ :=
      releaseObservedSlot_ok { before with
        observations := observations
        authorizations := authorizations
        commandOutcomes := outcomes
        fences := fences₂ } owned (fun released => (closing released).1)
    · rw [stays] at appended
      refine .of_append appended rfl rfl member next follows keeps (accounts _)
        (.of_still rfl ?_) (fun _ member => member) (.observed rfl rfl stored observed)
      simp [ReceiptPlan.body, RunRow.nextBody, EventDetail.still, EventDetail.releases, kept]
    · rw [leaves] at appended
      obtain ⟨slotMember, repository, slotRun, effect, attempt⟩ := owned slot held
      refine .of_append appended rfl rfl member next follows keeps (accounts _)
        (.released slot (request.scope.logicalEffectId, slot.attemptId, some slot.generation) ?_
          ⟨effect.symm, rfl, fun generation same => (Option.some.inj same).symm⟩ ?_
          (slot_rows_of_mem slotMember) freed ?_) (fun _ member => member)
        (.observed rfl rfl stored observed)
      · simp [ReceiptPlan.body, RunRow.nextBody, EventDetail.releases, released, held]
      · rw [slotRun, ← runId]
        exact next.ofRun.symm
      · intro reservation stored sameRepository sameRun _ _
        exact accountingClosed_ok (closing released).2 reservation stored
          (sameRepository.trans repository) (sameRun.trans slotRun)
  split at dependents
  · simp only [bind_eq_ok, pure_eq_ok, Prod.mk.injEq] at dependents
    obtain ⟨_, fenced, -, rfl⟩ := dependents
    exact .with_dependents moved rfl (next.ofRun.trans runId) fenced
  · simp only [bind_eq_ok, Except.ok.injEq, pure_eq_ok, Prod.mk.injEq, exists_eq_left'] at dependents
    obtain ⟨-, rfl⟩ := dependents
    exact .single moved rfl

/-- `_record_effect_observation` settles, records and fences, or replays a receipt. -/
theorem recordEffectObservation_transacts {uncertainties : List (String × String)}
    {receipt : ObservationReceipt}
    (observed : recordEffectObservation digests repositoryId checks request uncertainties before =
      .ok (receipt, after)) :
    Transacts digests repositoryId (fun body => body.Plain ∨
      ((∃ reservation, before.attemptReservation? request.scope = some reservation ∧
        body.Settles (receiptSettlement request reservation)) ∧
      ∀ row ∈ before.settlements, row.settlementEventId ≠ request.settlementEventId))
      before after := by
  simp only [recordEffectObservation, bind_eq_ok] at observed
  obtain ⟨_, -, _, -, classification, -, _, -, _, -, observed⟩ := observed
  split at observed
  · simp only [bind_eq_ok, pure_eq_ok, Prod.mk.injEq] at observed
    obtain ⟨_, -, _, -, -, rfl⟩ := observed
    exact .refl
  split at observed
  · simp only [bind_eq_ok, pure_eq_ok, Prod.mk.injEq] at observed
    obtain ⟨_, -, -, rfl⟩ := observed
    exact .refl
  simp only [bind_eq_ok, fetch_eq_ok, require_eq_ok, pure_eq_ok, Prod.mk.injEq, Prod.exists,
    observeEffect] at observed
  obtain ⟨row, _, ⟨_, -, _, -, earlier, found, _, -, _, -, _, _, -, _, -, settlement, middle,
    accounted, run, now, plan, planned, written⟩, -, rfl⟩ := observed
  unfold receiptAccounting at accounted
  split at accounted
  · simp only [Except.ok.injEq, Prod.mk.injEq] at accounted
    obtain ⟨rfl, rfl⟩ := accounted
    obtain rfl : earlier = run := by simpa [found] using now
    exact (writeObservation_transacts now rfl planned written).imp (fun _ => .inl)
  · rename_i fresh
    obtain ⟨body, moved, still, settles, keeps⟩ :=
      settleReceipt_move repositoryId found accounted
    obtain ⟨member, ofRun, -⟩ := mem_of_runOf? now
    refine .led moved (.inr ⟨settles, fun row stored same => ?_⟩) still
      (writeObservation_transacts now (keeps run member ofRun) planned written)
    have := Table.find?_eq_none.mp fresh row stored
    simp [same] at this

/-! ## Validation -/

/-- What a validator intent was checked against. -/
theorem checkValidatorIntent_ok {request : ValidatorIntentRequest} {run : RunRow}
    (checked : checkValidatorIntent checks before request = .ok run) :
    before.runOf? request.scope = some run ∧ run.lifecycleState = .validating ∧
      (∀ fence ∈ before.fences, ¬ fence.repositoryWide request.scope.repositoryId) ∧
      before.aggregate request.scope.repositoryId + request.reservedUnits ≤ request.capUnits := by
  simp only [checkValidatorIntent, bind_eq_ok, fetch_eq_ok, require_eq_ok, refuse_eq_ok,
    pure_eq_ok] at checked
  obtain ⟨_, -, _, -, _, -, _, found, _, -, _, validating, _, -, _, -, _, -, _, -, _, -, _, -, _,
    -, _, -, _, unfenced, _, within, _, -, rfl⟩ := checked
  refine ⟨found, validating, ?_, within⟩
  intro fence member wide
  refine unfenced (Table.any_eq_true.mpr ⟨fence, member, ?_⟩)
  simp [wide.1, wide.2.2.2]

/-- `commit_validator_intent` reserves. -/
theorem commitValidatorIntent_transacts {request : ValidatorIntentRequest}
    {capability : SyntheticValidatorCapability}
    (committed : commitValidatorIntent digests repositoryId checks request capability before =
      .ok after) :
    Transacts digests repositoryId
      (fun body => ∃ claimId, body.detail = .validatorIntentCommitted request claimId)
      before after := by
  simp only [commitValidatorIntent, bind_eq_ok] at committed
  obtain ⟨_, -, _, -, committed⟩ := committed
  split at committed
  · simp only [bind_eq_ok, pure_eq_ok] at committed
    obtain ⟨_, -, rfl⟩ := committed
    exact .refl
  · simp only [bind_eq_ok] at committed
    obtain ⟨run, checked, uses, used, reservation, built, reservations, reserved, intents, -,
      redemptions, redeemed, middle, appended, outcome⟩ := committed
    obtain ⟨found, validating, unfenced, -⟩ := checkValidatorIntent_ok checked
    obtain ⟨unsettled, demand⟩ := validatorReservation_ok built
    have scope : reservation.scope = request.scope := congrArg Demand.scope demand
    have usedRows := Table.mem_of_insert used
    rw [Table.insert_eq_ok] at reserved
    refine .single (Move.of_recordOutcome (.of_append appended rfl rfl (mem_of_runOf? found).1
      RunRow.next_nextBody RunRow.follows_change ?_ ?_ (.of_still rfl rfl) ?_
      ⟨fun redemption member => (Table.mem_of_insert redeemed redemption).mpr (.inl member),
        fun _ member => .inl member, fun _ member => member, fun _ member => member⟩)
      outcome) ⟨_, rfl⟩
    · rw [validating]
      simp [LifecycleState.terminal]
    · refine .reserved reservation unsettled (congrArg some demand.symm) ?_ reserved.2 rfl
        (fun _ => Iff.rfl)
      rw [scope]
      intro fence member
      exact unfenced fence (Store.mem_settlementFences.mp member).1
    · exact fun use member => (usedRows use).mpr (.inl member)

/-- `_contact_committed_validator` records its contact, or disables the launch. -/
theorem contactCommittedValidator_transacts {request : ValidatorIntentRequest}
    {targetDigest : String}
    (contacted : contactCommittedValidator digests checks request targetDigest before =
      .ok after) : Transacts digests repositoryId EventBody.Plain before after := by
  simp only [contactCommittedValidator, bind_eq_ok] at contacted
  obtain ⟨_, -, _, -, _, -, intent, -, _, -, _, -, generation, -, contacted⟩ := contacted
  split at contacted
  · simp only [bind_eq_ok, pure_eq_ok] at contacted
    obtain ⟨_, -, rfl⟩ := contacted
    exact .refl
  · simp only [bind_eq_ok, fetch_eq_ok, require_eq_ok] at contacted
    obtain ⟨run, found, _, ⟨waits, -⟩, reservation, -, _, -, slot, -, _, -, contacted⟩ := contacted
    obtain ⟨member, runId, -⟩ := mem_of_runOf? found
    split at contacted
    · simp only [bind_eq_ok, pure_eq_ok, Prod.exists, require_eq_ok] at contacted
      obtain ⟨_, -, contact, _, claimed, rfl⟩ := contacted
      have nonterminal : ∀ row ∈ before.runs, row.runId = request.scope.runId →
          row.lifecycleState.terminal = false := by
        intro row stored same
        obtain rfl : row = run := Table.eq_of_conflict stored member (same.trans runId.symm)
        rw [waits]
        rfl
      obtain ⟨body, moved, detail⟩ := claimAdapterContact_move claimed nonterminal
      have plain : body.Plain := by
        rw [EventBody.Plain, detail]
        rfl
      exact .single moved plain
    · simp only [recordValidatorInitiationDisabled, bind_eq_ok, fetch_eq_ok, require_eq_ok]
        at contacted
      obtain ⟨_, -, run, found, _, ⟨waits, -⟩, _, raised, appended⟩ := contacted
      obtain ⟨fences, rfl, same⟩ := Store.raiseFences_ok raised
      refine .single (.of_quiet appended rfl rfl rfl rfl ?_ rfl rfl (mem_of_runOf? found).1
        RunRow.next_nextBody RunRow.follows_change ?_ rfl (.same rfl rfl rfl rfl)) rfl
      · exact settlementFences_of_raise same (by simp [FenceId.ofSettlement])
      · rw [waits]
        simp [LifecycleState.terminal]

/-- A result keeps a terminal state. -/
theorem validatorObservationState_terminal {current : LifecycleState} {usageUnits : Option Nat}
    {activityKnown : Bool} (terminal : current.terminal = true) :
    validatorObservationState current usageUnits activityKnown = current := by
  simp [validatorObservationState, terminal]

/-- `_record_validator_observation` records its result, and may fence dependents. -/
theorem recordValidatorObservation_transacts {request : ValidatorObservationRequest}
    {context : ResultContext}
    (observed : recordValidatorObservation digests repositoryId checks request context before =
      .ok after) : Transacts digests repositoryId EventBody.Plain before after := by
  simp only [recordValidatorObservation, bind_eq_ok] at observed
  obtain ⟨_, -, _, -, observed⟩ := observed
  split at observed
  · simp only [bind_eq_ok, pure_eq_ok] at observed
    obtain ⟨_, -, rfl⟩ := observed
    exact .refl
  · simp only [bind_eq_ok, Store.recordOutcome_eq_ok] at observed
    obtain ⟨run, checked, observations, -, _, raised, _, ⟨outcomes, stored, rfl⟩, middle, appended,
      dependents⟩ := observed
    obtain ⟨fences, rfl, same⟩ := Store.raiseFences_ok raised
    have found : before.runOf? request.scope = some run := by
      simp only [checkValidatorObservation, bind_eq_ok, fetch_eq_ok, pure_eq_ok] at checked
      obtain ⟨_, -, _, -, _, -, _, -, _, found, _, -, rfl⟩ := checked
      exact found
    obtain ⟨member, runId, -⟩ := mem_of_runOf? found
    have moved : Move digests repositoryId before _ middle :=
      .of_quiet appended rfl rfl rfl rfl
        (settlementFences_of_same (.raise same uncertaintyFences_quiet (fun _ _ => Iff.rfl))) rfl rfl
        member RunRow.next_nextBody RunRow.follows_change validatorObservationState_terminal rfl
        (.stored rfl rfl stored rfl)
    split at dependents
    · exact .with_dependents moved rfl runId dependents
    · obtain rfl := Except.ok.inj dependents
      exact .single moved rfl

/-- What an application was checked against. -/
theorem checkApplication_ok {request : ValidationApplicationRequest}
    {classification : Option FailureClassification} {reconciled : Bool} {plan : ApplicationPlan}
    (checked : checkApplication checks before request classification reconciled = .ok plan) :
    before.runOf? request.scope = some plan.run ∧ plan.run.lifecycleState = .validating ∧
      (plan.observation.verdict = .pass →
        plan.route.slotReleased = false ∧ plan.route.resultingState.terminal = false) ∧
      (plan.route.slotReleased = true →
        (∃ slot ∈ before.slot, slot.repositoryId = request.scope.repositoryId ∧
          slotBinds slot request.scope plan.intent.parentAttemptId plan.generation) ∧
        ∃ scope : AttemptScope, scope.repositoryId = request.scope.repositoryId ∧
          scope.runId = request.scope.runId ∧
          ∃ validator optional, accountingClosed checks before scope false validator optional =
            true) := by
  simp only [checkApplication, bind_eq_ok, fetch_eq_ok, require_eq_ok, refuse_eq_ok, pure_eq_ok]
    at checked
  obtain ⟨run, found, _, -, _, validating, _, -, _, -, observation, -, intent, -, _, -,
    generation, -, _, -, _, -, _, -, _, -, _, -, _, -, route, derived, rfl⟩ := checked
  refine ⟨found, validating, fun passed => ?_, fun released => ?_⟩
  · dsimp only at passed
    rw [passed] at derived
    exact deriveValidationApplicationRoute_pass derived
  obtain ⟨-, -, current, closed, final⟩ := deriveValidationApplicationRoute_released derived released
  rw [Option.any_eq_true] at current
  obtain ⟨slot, held, binds⟩ := current
  obtain ⟨member, matched⟩ := Table.mem_of_find? held
  simp only [Bool.and_eq_true, decide_eq_true_eq] at matched binds closed
  exact ⟨⟨slot, member, matched.1, binds⟩,
    ⟨{ request.scope with attemptId := intent.parentAttemptId }, rfl, rfl, _, _, closed.2⟩⟩

variable (repositoryId) in
/-- The event that routes to the next check keeps a state that is not terminal. -/
theorem routeNextCheck_move {request : ValidationApplicationRequest} {checkId : String}
    {ready : Bool} (active : ∀ run ∈ before.runs, run.runId = request.scope.runId →
      run.lifecycleState.terminal = false)
    (routed : routeNextCheck digests before request checkId ready = .ok after) :
    ∃ body, Move digests repositoryId before body after ∧ body.detail.still = true ∧
      body.detail.plain = true := by
  simp only [routeNextCheck, bind_eq_ok, fetch_eq_ok] at routed
  obtain ⟨run, found, appended⟩ := routed
  obtain ⟨member, runId, -⟩ := mem_of_runOf? found
  refine ⟨_, .of_quiet appended rfl rfl rfl rfl (fun _ => Iff.rfl) rfl rfl member
    RunRow.next_nextBody RunRow.follows_change ?_ rfl (.same rfl rfl rfl rfl), rfl, rfl⟩
  rw [active run member runId]
  simp

/-- The slot after an application: kept, or freed by a final failure. -/
theorem releaseAppliedSlot_ok {request : ValidationApplicationRequest} {plan : ApplicationPlan}
    (released : releaseAppliedSlot before request plan = .ok after) :
    (plan.route.slotReleased = false ∧ after = before) ∨
      (plan.route.slotReleased = true ∧ ∃ table, after = { before with slot := table } ∧
        table.rows = []) := by
  unfold releaseAppliedSlot at released
  split at released
  · rename_i frees
    simp only [bind_eq_ok, fetch_eq_ok, require_eq_ok, pure_eq_ok] at released
    obtain ⟨slot, held, _, ofRun, _, generation, rfl⟩ := released
    obtain ⟨member, repository⟩ := mem_of_slot? held
    refine .inr ⟨frees, _, rfl, ?_⟩
    simp [Table.delete, slot_rows_of_mem member, repository, ofRun, generation]
  · rename_i kept
    obtain rfl := Except.ok.inj released
    exact .inl ⟨by simpa using kept, rfl⟩

/-- `_apply_validator_observation` records the application and the route to its next check. -/
theorem applyValidatorObservation_transacts {request : ValidationApplicationRequest}
    {classification : Option FailureClassification} {reconciled : Bool}
    {nextCheck : Option (String × Bool)}
    (applied : applyValidatorObservation digests repositoryId checks request classification
      reconciled nextCheck before = .ok after) : Transacts digests repositoryId EventBody.Plain before after := by
  simp only [applyValidatorObservation, bind_eq_ok] at applied
  obtain ⟨_, -, _, -, applied⟩ := applied
  split at applied
  · simp only [bind_eq_ok, pure_eq_ok] at applied
    obtain ⟨_, -, rfl⟩ := applied
    exact .refl
  · simp only [bind_eq_ok, require_eq_ok, Store.recordOutcome_eq_ok] at applied
    obtain ⟨_, -, plan, checked, _, pending, applications, -, _, raised, _, released, _,
      ⟨outcomes, stored, rfl⟩, middle, appended, routed⟩ := applied
    obtain ⟨found, validating, passing, releasing⟩ := checkApplication_ok checked
    obtain ⟨fences, rfl, same⟩ := Store.raiseFences_ok raised
    obtain ⟨member, runId, -⟩ := mem_of_runOf? found
    have keeps : plan.run.lifecycleState.terminal = true →
        plan.route.resultingState = plan.run.lifecycleState := by
      rw [validating]
      simp [LifecycleState.terminal]
    have next : plan.run.Next repositoryId
        (plan.body request classification (nextCheck.map (·.1))) := RunRow.next_nextBody
    have quiet : SameSettlementFences fences before.fences := by
      refine .raise same (fun fence raised => ?_) (fun _ _ => Iff.rfl)
      split at raised
      · rw [List.mem_singleton.mp raised]
        rfl
      · cases raised
    have moved : Move digests repositoryId before
        (plan.body request classification (nextCheck.map (·.1))) middle := by
      obtain ⟨kept, rfl⟩ | ⟨frees, table, rfl, freed⟩ := releaseAppliedSlot_ok released
      · refine .of_quiet appended rfl rfl rfl rfl (settlementFences_of_same quiet) rfl rfl member
          next RunRow.follows_change keeps ?_ (.stored rfl rfl stored rfl)
        simp [ApplicationPlan.body, RunRow.nextBody, EventDetail.still, EventDetail.releases, kept]
      · obtain ⟨⟨slot, slotMember, repository, slotRun, effect, attempt, generation⟩, scope,
          scopeRepository, scopeRun, validator, optional, closed⟩ := releasing frees
        refine .of_append appended rfl rfl member next RunRow.follows_change keeps
          (.quiet rfl rfl (settlementFences_of_same quiet))
          (.released slot (request.scope.logicalEffectId, plan.intent.parentAttemptId,
            some plan.generation) ?_ ⟨effect.symm, attempt.symm, ?_⟩ ?_
            (slot_rows_of_mem slotMember) freed ?_) (fun _ member => member)
          (.stored rfl rfl stored rfl)
        · simp [ApplicationPlan.body, RunRow.nextBody, EventDetail.releases, frees]
        · intro named same
          rw [generation]
          exact (Option.some.inj same).symm
        · rw [slotRun, ← runId]
          exact next.ofRun.symm
        · intro reservation stored sameRepository sameRun _ _
          exact accountingClosed_ok closed reservation stored
            (sameRepository.trans (repository.trans scopeRepository.symm))
            (sameRun.trans (slotRun.trans scopeRun.symm))
    split at routed
    · rename_i checkId ready
      obtain ⟨passed, -⟩ := pending rfl
      obtain ⟨kept, active⟩ := passing passed
      have nonterminal : ∀ run ∈ middle.runs, run.runId = request.scope.runId →
          run.lifecycleState.terminal = false := by
        intro run stored ofRun
        rw [state_of_append appended stored (ofRun.trans runId.symm)]
        exact active
      obtain ⟨second, routing, still, plain⟩ :=
        routeNextCheck_move repositoryId nonterminal routed
      refine .of_still (.snoc (.snoc .nil moved) routing) ?_
      simp only [List.nil_append, List.cons_append, List.mem_cons, List.not_mem_nil, or_false,
        forall_eq_or_imp, forall_eq]
      refine ⟨⟨?_, rfl⟩, still, plain⟩
      simp [ApplicationPlan.body, RunRow.nextBody, EventDetail.still, EventDetail.releases, kept]
    · obtain rfl := Except.ok.inj routed
      exact .single moved rfl

/-- A terminal validation releases the slot only with its accounting closed. -/
theorem terminalRelease_ok {request : TerminalValidationRequest}
    (released : terminalRelease checks before request slot = .ok true) :
    ∃ validator optional, accountingClosed checks before (request.scope slot.attemptId) false
      validator optional = true := by
  unfold terminalRelease at released
  dsimp only at released
  generalize (if request.ofApplication = true then none else request.validatorIntentId) =
    validator at released
  split at released
  · split at released
    · rename_i closed
      exact ⟨_, _, closed⟩
    · simp only [bind_eq_ok, pure_eq_ok, Bool.false_eq_true, and_false, exists_false] at released
  · cases released

/-- `settle_terminal_validation` records one event, which may release the slot. -/
theorem settleTerminalValidation_transacts {request : TerminalValidationRequest} {replayed : Bool}
    (settled : settleTerminalValidation digests repositoryId checks request replayed before =
      .ok after) : Transacts digests repositoryId EventBody.Plain before after := by
  simp only [settleTerminalValidation, bind_eq_ok] at settled
  obtain ⟨_, -, _, -, settled⟩ := settled
  split at settled
  · obtain rfl : before = after := by simpa using settled
    exact .refl
  · simp only [bind_eq_ok, fetch_eq_ok, require_eq_ok, Store.recordOutcome_eq_ok] at settled
    obtain ⟨_, -, run, found, _, -, _, -, _, -, slot, held, generation, -, _, binds, released,
      releasing, _, -, _, ⟨outcomes, stored, rfl⟩, appended⟩ := settled
    obtain ⟨member, runId, -⟩ := mem_of_runOf? found
    obtain ⟨slotMember, repository⟩ := mem_of_slot? held
    obtain ⟨slotRun, effect, -, generations⟩ := binds
    cases released with
    | false =>
        exact .single (.of_quiet appended rfl rfl rfl rfl (fun _ => Iff.rfl) rfl rfl member
          RunRow.next_nextBody RunRow.follows_change (fun _ => rfl)
          (by simp [RunRow.nextBody, EventDetail.still, EventDetail.releases])
          (.stored rfl rfl stored rfl)) rfl
    | true =>
        obtain ⟨validator, optional, closed⟩ := terminalRelease_ok releasing
        refine .single (.of_append appended rfl rfl member RunRow.next_nextBody
          RunRow.follows_change (fun _ => rfl) (.quiet rfl rfl (fun _ => Iff.rfl))
          (.released slot (request.logicalEffectId, slot.attemptId, some slot.generation) ?_
            ⟨effect.symm, rfl, fun named same => (Option.some.inj same).symm⟩
            (slotRun.trans runId.symm) (slot_rows_of_mem slotMember) ?_ ?_)
          (fun _ member => member) (.stored rfl rfl stored rfl)) rfl
        · simp [RunRow.nextBody, EventDetail.releases]
        · have ofRun : slot.runId = request.runId := slotRun
          simp [Table.delete, slot_rows_of_mem slotMember, repository, ofRun, generations]
        · intro reservation stored sameRepository sameRun _ _
          exact accountingClosed_ok closed reservation stored
            (sameRepository.trans repository) (sameRun.trans slotRun)

/-! ## Completion -/

/-- `_finalize_operation` completes the run and releases its slot. -/
theorem finalizeOperation_transacts {request : FinalizeOperationRequest} {replayed : Bool}
    (finalized : finalizeOperation digests repositoryId checks request replayed before =
      .ok after) : Transacts digests repositoryId EventBody.Plain before after := by
  simp only [finalizeOperation, bind_eq_ok] at finalized
  obtain ⟨_, -, _, -, _, -, finalized⟩ := finalized
  split at finalized
  · obtain rfl : before = after := by simpa using finalized
    exact .refl
  · simp only [bind_eq_ok, fetch_eq_ok, require_eq_ok, Store.recordOutcome_eq_ok] at finalized
    obtain ⟨_, -, run, found, _, -, _, ⟨blocked, -⟩, _, -, _, -, _, -, _, closed, _, -, slot, held,
      _, binds, _, -, _, -, _, ⟨outcomes, stored, rfl⟩, appended⟩ := finalized
    obtain ⟨member, runId, -⟩ := mem_of_runOf? found
    obtain ⟨slotMember, repository⟩ := mem_of_slot? held
    obtain ⟨slotRun, effect, attempt, generation⟩ := binds
    refine .single (.of_append appended rfl rfl member RunRow.next_nextBody (.inr ?_) ?_
      (.quiet rfl rfl (fun _ => Iff.rfl))
      (.released slot (request.scope.logicalEffectId, request.scope.attemptId,
        some request.expectedSlotGeneration) rfl ⟨effect.symm, attempt.symm, ?_⟩
        (slotRun.trans runId.symm) (slot_rows_of_mem slotMember) ?_ ?_) (fun _ member => member)
      (.stored rfl rfl stored rfl)) rfl
    · rw [← blocked]
      rfl
    · rw [blocked]
      simp [LifecycleState.terminal]
    · intro named same
      rw [generation]
      exact (Option.some.inj same).symm
    · simp [Table.delete, slot_rows_of_mem slotMember, repository, slotRun, attempt, generation]
    · intro reservation stored sameRepository sameRun _ _
      exact accountingClosed_ok closed reservation stored
        (sameRepository.trans repository) (sameRun.trans slotRun)

/-- `adopt_verified_effect` takes the empty slot. -/
theorem adoptVerifiedEffect_transacts {request : EffectAdoptionRequest} {replayed : Bool}
    (adopted : adoptVerifiedEffect digests repositoryId checks request replayed before =
      .ok after) : Transacts digests repositoryId EventBody.Plain before after := by
  simp only [adoptVerifiedEffect, bind_eq_ok] at adopted
  obtain ⟨_, -, _, -, adopted⟩ := adopted
  split at adopted
  · obtain rfl : before = after := by simpa using adopted
    exact .refl
  · simp only [bind_eq_ok, Store.recordOutcome_eq_ok] at adopted
    obtain ⟨run, checked, adoptions, -, origins, -, dependencies, -, slot, taken, _,
      ⟨outcomes, stored, rfl⟩, appended⟩ := adopted
    simp only [checkAdoption, bind_eq_ok, fetch_eq_ok, require_eq_ok, pure_eq_ok] at checked
    obtain ⟨_, -, _, -, _, found, _, -, _, -, spec, authorized, _, -, _, empty, _, -, _, -, _, -,
      _, -, rfl⟩ := checked
    obtain ⟨member, runId, -⟩ := mem_of_runOf? found
    rw [Table.insert_eq_ok, empty] at taken
    refine .single (.of_append appended rfl rfl member RunRow.next_nextBody RunRow.follows_change
      (fun terminal => authorize_terminal authorized terminal)
      (.quiet rfl rfl (fun _ => Iff.rfl)) (.adopted _ ?_ rfl rfl empty taken.2)
      (fun _ member => member) (.stored rfl rfl stored rfl)) rfl
    exact runId.symm

/-- The writes the two recoveries share are one quiet move. -/
theorem writeRecovery_move {request : RecoveryRequest} {kind : RetryKind} {eventKind : EventKind}
    {run : RunRow} {resulting : LifecycleState} {spec : TransitionSpec} {transitionId : String}
    {guards : List String}
    (member : run ∈ before.runs)
    (authorized : authorize transitionId (some run.lifecycleState) resulting guards = .ok spec)
    (written : writeRecovery digests before request kind eventKind run resulting = .ok after) :
    Transacts digests repositoryId EventBody.Plain before after := by
  simp only [writeRecovery, bind_eq_ok, Store.recordOutcome_eq_ok] at written
  obtain ⟨authorizations, -, _, ⟨outcomes, stored, rfl⟩, appended⟩ := written
  exact .single (.of_quiet appended rfl rfl rfl rfl (fun _ => Iff.rfl) rfl rfl member
    RunRow.next_nextBody RunRow.follows_change
    (fun terminal => authorize_terminal authorized terminal) rfl (.stored rfl rfl stored rfl)) rfl

/-- What a recovery was checked against. -/
theorem checkRecovery_ok {request : RecoveryRequest} {source : LifecycleState} {run : RunRow}
    (checked : checkRecovery checks before request source = .ok run) :
    before.runOf? request.scope = some run ∧ run.lifecycleState = source := by
  simp only [checkRecovery, bind_eq_ok, fetch_eq_ok, require_eq_ok, pure_eq_ok] at checked
  obtain ⟨_, -, _, -, _, -, _, found, _, ⟨-, state, -⟩, _, -, _, -, _, -, _, -, rfl⟩ := checked
  exact ⟨found, state⟩

/-- `recover_proven_nonexecution` records an authorization. -/
theorem recoverProvenNonexecution_transacts {request : RecoveryRequest}
    (recovered : recoverProvenNonexecution digests repositoryId checks request before =
      .ok after) : Transacts digests repositoryId EventBody.Plain before after := by
  simp only [recoverProvenNonexecution, bind_eq_ok] at recovered
  obtain ⟨_, -, _, -, recovered⟩ := recovered
  split at recovered
  · simp only [bind_eq_ok, pure_eq_ok] at recovered
    obtain ⟨_, -, rfl⟩ := recovered
    exact .refl
  · simp only [bind_eq_ok] at recovered
    obtain ⟨_, -, run, checked, _, -, _, -, spec, authorized, written⟩ := recovered
    obtain ⟨found, blocked⟩ := checkRecovery_ok checked
    rw [← blocked] at authorized
    exact writeRecovery_move (mem_of_runOf? found).1 authorized written

/-- `authorize_safe_same_effect_retry` records an authorization and clears a fence. -/
theorem authorizeSafeSameEffectRetry_transacts {request : RecoveryRequest}
    (recovered : authorizeSafeSameEffectRetry digests repositoryId checks request before =
      .ok after) : Transacts digests repositoryId EventBody.Plain before after := by
  simp only [authorizeSafeSameEffectRetry, bind_eq_ok] at recovered
  obtain ⟨_, -, _, -, recovered⟩ := recovered
  split at recovered
  · simp only [bind_eq_ok, pure_eq_ok] at recovered
    obtain ⟨_, -, rfl⟩ := recovered
    exact .refl
  · simp only [bind_eq_ok, writeRecovery, Store.recordOutcome_eq_ok] at recovered
    obtain ⟨_, -, _, -, _, -, run, checked, _, -, _, -, _, -, _, -, spec, authorized,
      authorizations, -, _, ⟨outcomes, stored, rfl⟩, appended⟩ := recovered
    obtain ⟨found, waits⟩ := checkRecovery_ok checked
    rw [← waits] at authorized
    exact .single (.of_quiet appended rfl rfl rfl rfl
      (settlementFences_of_same (.delete rfl)) rfl rfl (mem_of_runOf? found).1
      RunRow.next_nextBody RunRow.follows_change
      (fun terminal => authorize_terminal authorized terminal) rfl
      (.stored rfl rfl stored rfl)) rfl

/-! ## Control -/

/-- A charged obligation is the move of its settlement. -/
theorem chargeObligation_move {runId : String} {obligation : Obligation}
    (charged : chargeObligation digests runId before obligation = .ok after) :
    ∃ body, Move digests repositoryId before body after ∧ body.Keeps ∧
      body.detail.still = true ∧ body.detail.plain = true := by
  simp only [chargeObligation, bind_eq_ok, fetch_eq_ok, require_eq_ok] at charged
  obtain ⟨reservation, found, _, -, charged⟩ := charged
  exact charge_move (mem_of_reservation? found).1 charged

/-- Cleared control fences leave everything else, and the settlement fences. -/
theorem clearAll_ok (cleared : List ControlFence) :
    ∀ store : Store, ∃ fences,
      cleared.foldl (fun store fence => store.clearFence fence.fenceId) store =
        { store with fences := fences } ∧ SameSettlementFences fences store.fences := by
  induction cleared with
  | nil => exact fun store => ⟨_, rfl, fun _ _ => Iff.rfl⟩
  | cons first rest ih =>
      intro store
      obtain ⟨fences, cleared, same⟩ := ih (store.clearFence first.fenceId)
      exact ⟨fences, cleared, same.trans (.delete (by cases first <;> rfl))⟩

/-- The writes of a route leave runs, events, accounts and the slot. -/
theorem writeControl_ok {route : ControlRoute} {request : ControlRequest}
    (written : writeControl route request before = .ok after) :
    ∃ fences pauses validators, after = { before with
        fences := fences
        pauses := pauses
        validatorIntents := validators } ∧ SameSettlementFences fences before.fences := by
  unfold writeControl at written
  split at written
  · obtain rfl := Except.ok.inj written
    exact ⟨_, _, _, rfl, fun _ _ => Iff.rfl⟩
  · simp only [bind_eq_ok] at written
    obtain ⟨pauses, -, raised⟩ := written
    obtain ⟨fences, rfl, same⟩ := Store.raiseFences_ok raised
    exact ⟨fences, _, _, rfl, .raise same (by simp [ControlRequest.fence, FenceId.ofSettlement])
      (fun _ _ => Iff.rfl)⟩
  · obtain ⟨fences, rfl, same⟩ := Store.raiseFences_ok written
    refine ⟨fences, _, _, rfl, .raise same ?_ (fun _ _ => Iff.rfl)⟩
    intro fence member
    rw [List.mem_singleton.mp member]
    rename_i raised _ _
    cases raised <;> rfl
  · rename_i cleared _
    obtain rfl := Except.ok.inj written
    obtain ⟨fences, cleared, same⟩ := clearAll_ok cleared before
    exact ⟨fences, _, _, cleared, same⟩
  · simp only [bind_eq_ok, pure_eq_ok] at written
    obtain ⟨_, -, _, -, rfl⟩ := written
    exact ⟨_, _, _, rfl, .delete rfl⟩
  · obtain rfl := Except.ok.inj written
    split <;> exact ⟨_, _, _, rfl, fun _ _ => Iff.rfl⟩

theorem ControlWrite.quiet_detail {kind : EventKind} {write : ControlWrite} :
    (write.detail kind).still = true ∧ (write.detail kind).plain = true := by
  cases write with
  | settlePause validatorIntentId resultCessation =>
      simp only [ControlWrite.detail]
      split <;> exact ⟨rfl, rfl⟩
  | _ => exact ⟨rfl, rfl⟩

/-- What a control operation was checked against. -/
theorem checkControl_ok {route : ControlRoute} {request : ControlRequest} {run : RunRow}
    (checked : checkControl route checks before request = .ok run) :
    before.runOf? request.scope = some run ∧ run.lifecycleState ∈ route.sources ∧
      request.target ∈ route.targets run.lifecycleState ∧ request.write.kind ∈ route.writes := by
  simp only [checkControl, bind_eq_ok, fetch_eq_ok, require_eq_ok] at checked
  obtain ⟨_, -, _, -, found, lookup, _, -, _, source, _, -, _, ⟨target, writes, -⟩, checked⟩ :=
    checked
  split at checked
  · simp only [bind_eq_ok, pure_eq_ok] at checked
    obtain ⟨_, -, rfl⟩ := checked
    exact ⟨lookup, source, target, writes⟩
  · obtain rfl := Except.ok.inj checked
    exact ⟨lookup, source, target, writes⟩

/-- A control operation charges its obligations, records its earlier events, which
keep the state, and its last one, which leads to the target of its route. -/
theorem control_moves {route : ControlRoute} {request : ControlRequest}
    (controlled : control route digests repositoryId checks request before = .ok after) :
    ∃ bodies, Moves digests repositoryId before bodies after ∧
      ∀ body ∈ bodies, body.detail.still = true ∧ body.detail.plain = true := by
  simp only [control, bind_eq_ok] at controlled
  obtain ⟨_, -, _, -, controlled⟩ := controlled
  split at controlled
  · simp only [bind_eq_ok, pure_eq_ok] at controlled
    obtain ⟨_, -, rfl⟩ := controlled
    exact ⟨[], .nil, by simp⟩
  · simp only [bind_eq_ok, fetch_eq_ok, Store.recordOutcome_eq_ok] at controlled
    obtain ⟨_, -, source, checked, charged, charges, kept, keeping, run, found, _, written, _,
      ⟨outcomes, fresh, rfl⟩, appended⟩ := controlled
    obtain ⟨lookup, sources, target, -⟩ := checkControl_ok checked
    obtain ⟨first, charging, firstKeeps⟩ := moves_of_foldlM repositoryId
      (fun body => body.Keeps ∧ body.detail.still = true ∧ body.detail.plain = true)
      (fun obligation _ => by
        intro store next here
        obtain ⟨body, moved, keeps, still⟩ := chargeObligation_move here
        exact ⟨[body], .snoc .nil moved, by simpa using ⟨keeps, still⟩⟩) charges
    obtain ⟨second, recording, secondKeeps⟩ := moves_of_foldlM repositoryId
      (fun body => body.Keeps ∧ body.detail.still = true ∧ body.detail.plain = true)
      (fun event _ => by
        intro store next here
        obtain ⟨body, moved, keeps, detail⟩ := kept_move here
        refine ⟨[body], .snoc .nil moved, ?_⟩
        simp only [List.mem_singleton, forall_eq, detail]
        exact ⟨keeps, rfl, rfl⟩) keeping
    have earlier := charging.append recording
    have keeps : ∀ body ∈ first ++ second,
        body.Keeps ∧ body.detail.still = true ∧ body.detail.plain = true := by
      intro body member
      rw [List.mem_append] at member
      exact member.elim (firstKeeps body) (secondKeeps body)
    obtain ⟨member, runId⟩ := mem_of_run? found
    obtain ⟨stored, storedId, -⟩ := mem_of_runOf? lookup
    have same : run.lifecycleState = source.lifecycleState := by
      obtain ⟨origin, originMember, originId, state⟩ :=
        Moves.keeps earlier (fun body member => (keeps body member).1) run member
      obtain rfl : origin = source := Table.eq_of_conflict originMember stored
        (originId.trans (runId.trans storedId.symm))
      exact state.symm
    obtain ⟨fences, pauses, validators, rfl, quiet⟩ := writeControl_ok written
    refine ⟨first ++ second ++ [_], earlier.snoc (.of_quiet appended rfl rfl rfl rfl
      (settlementFences_of_same quiet) rfl rfl member RunRow.next_nextBody RunRow.follows_change ?_
      ControlWrite.quiet_detail.1 (.stored rfl rfl fresh rfl)), ?_⟩
    · rw [same]
      exact route.keepsTerminal _ sources _ target
    · intro body member
      rw [List.mem_append] at member
      obtain member | member := member
      · exact (keeps body member).2
      · rw [List.mem_singleton.mp member]
        exact ControlWrite.quiet_detail

theorem control_transacts {route : ControlRoute} {request : ControlRequest}
    (controlled : control route digests repositoryId checks request before = .ok after) :
    Transacts digests repositoryId EventBody.Plain before after := by
  obtain ⟨bodies, moves, still⟩ := control_moves controlled
  exact .of_still moves still

/-- `record_authority_fact` records its fact and may fence dependent adoptions. -/
theorem recordAuthorityFact_transacts {factKind : AuthorityFactKind}
    {governedOrder : GovernedOrder} {sourceRunId : Option String} {request : ControlRequest}
    (recorded : recordAuthorityFact factKind governedOrder sourceRunId digests repositoryId checks
      request before = .ok after) : Transacts digests repositoryId EventBody.Plain before after := by
  simp only [recordAuthorityFact, bind_eq_ok] at recorded
  obtain ⟨middle, controlled, fenced⟩ := recorded
  obtain ⟨bodies, moves, still⟩ := control_moves controlled
  split at fenced
  · split at fenced
    · obtain ⟨later, fencing, kinds⟩ := dependents_moves repositoryId fenced
      refine .of_still (moves.append fencing) (fun body member => ?_)
      rw [List.mem_append] at member
      obtain member | member := member
      · exact still body member
      · obtain ⟨-, fenceId, detail⟩ := kinds body member
        rw [detail]
        exact ⟨rfl, rfl⟩
    · obtain rfl : middle = after := by simpa using fenced
      exact .of_still moves still
  · obtain rfl : middle = after := by simpa using fenced
    exact .of_still moves still

end Operations

end Aegis.DeliveryControl
