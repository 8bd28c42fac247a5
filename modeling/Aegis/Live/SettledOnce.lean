/-
# Live.SettledOnce — one charge for a reservation

Any sequence of calls on a cost meter, with the reservation handles it has issued. A settlement of
a handle that has no entry yet finds its reservation in flight and charges it within its bounds.
A second settlement is not refused: `settleUsage` takes the refusal of the budget ledger for a
drift and enters the call again, and a reservation that drifted is still in flight, so that
`releaseUnreconciled` charges it once more. The meter therefore charges every handle once exactly
in the runs that settle no handle a second time (`settled_once_iff`).
-/
import Aegis.Lib.Runs
import Aegis.Live.MeterAccounts

namespace Aegis.Live

open Aegis.Lib
open Aegis.Lib.Runs
open Aegis.Budget

set_option autoImplicit false

/-! ## Calls -/

/-- A call on a meter. -/
inductive MeterCall
  | reserve (callRef : String) (pin : ModelPin) (systemBytes userBytes : Int)
      (maxOutputTokens : Option Int)
  | reconcile (handle : ReservationHandle) (inputTokens outputTokens : Int) (servedModel : String)
  | reconcileUngradedResponse (handle : ReservationHandle) (inputTokens outputTokens : Int)
      (servedModel reasonCode detail : String) (ungraded : UngradedResponse)
  | releaseUnreconciled (handle : ReservationHandle) (reasonCode detail : String)

namespace MeterCall

/-- The handle that a call settles. -/
def settles? : MeterCall → Option ReservationHandle
  | .reserve .. => none
  | .reconcile handle .. => some handle
  | .reconcileUngradedResponse handle .. => some handle
  | .releaseUnreconciled handle .. => some handle

/-- The call reports usage of the handle within its bounds. -/
def Within (call : MeterCall) (handle : ReservationHandle) : Prop :=
  match call with
  | .reserve .. => False
  | .reconcile own inputTokens outputTokens _ => own = handle ∧
      inputTokens ≤ handle.reservedInputTokens ∧ outputTokens ≤ handle.reservedOutputTokens
  | .reconcileUngradedResponse own inputTokens outputTokens _ _ _ _ => own = handle ∧
      inputTokens ≤ handle.reservedInputTokens ∧ outputTokens ≤ handle.reservedOutputTokens
  | .releaseUnreconciled .. => False

end MeterCall

/-- A meter and the handles it has issued. -/
structure MeterSession (F : Type) where
  meter : CostMeter F
  issued : List ReservationHandle := []

section Sessions

variable {F : Type} [ClockFloat F]

/-- The handle has an entry. -/
def CostMeter.Settled (meter : CostMeter F) (handle : ReservationHandle) : Prop :=
  ∃ entry ∈ meter.entries, entry.callIndex = handle.callIndex

instance (meter : CostMeter F) (handle : ReservationHandle) : Decidable (meter.Settled handle) :=
  inferInstanceAs (Decidable (∃ entry ∈ meter.entries, entry.callIndex = handle.callIndex))

/-- The charge of the call with this index. -/
def CostMeter.chargeAt (meter : CostMeter F) (callIndex : Nat) : Int :=
  ((meter.entries.find? fun entry => decide (entry.callIndex = callIndex)).map
    CostEntry.costCents).getD 0

/-- The reservation of the handle, while it is in flight. -/
def CostMeter.flight? (meter : CostMeter F) (handle : ReservationHandle) : Option Amounts :=
  BudgetLedger.held? meter.ledger.inflight (.str handle.reservationId)

namespace MeterSession

/-- Every handle is charged by at most one entry, and nothing else is spent. -/
structure ChargedOnce (session : MeterSession F) : Prop where
  single : (session.meter.entries.map CostEntry.callIndex).Nodup
  spent : session.meter.spentCents = ((session.issued.filter fun handle =>
    decide (session.meter.Settled handle)).map fun handle =>
      session.meter.chargeAt handle.callIndex).sum

/-- The call settles no handle that has an entry. A release whose reservation is no longer in
flight is refused without an entry. -/
def FirstSettlement (session : MeterSession F) : MeterCall → Prop
  | .reserve .. => True
  | .reconcile handle .. => ¬ session.meter.Settled handle
  | .reconcileUngradedResponse handle .. => ¬ session.meter.Settled handle
  | .releaseUnreconciled handle .. =>
      ¬ session.meter.Settled handle ∨ session.meter.flight? handle = none

variable (sha256Hex : ByteArray → String)

/-- What a call leaves, and the outcome of a settlement. -/
def step (session : MeterSession F) :
    MeterCall → MeterSession F × Option (Except (Raised F) CostEntry)
  | .reserve callRef pin systemBytes userBytes maxOutputTokens =>
      let done := session.meter.reserve sha256Hex callRef pin systemBytes userBytes maxOutputTokens
      (⟨done.1, session.issued ++ done.2.toOption.toList⟩, none)
  | .reconcile handle inputTokens outputTokens servedModel =>
      let done := session.meter.reconcile sha256Hex handle inputTokens outputTokens servedModel
      (⟨done.1, session.issued⟩, some done.2)
  | .reconcileUngradedResponse handle inputTokens outputTokens servedModel reasonCode detail
      ungraded =>
      let done := session.meter.reconcileUngradedResponse sha256Hex handle inputTokens outputTokens
        servedModel reasonCode detail ungraded
      (⟨done.1, session.issued⟩, some done.2)
  | .releaseUnreconciled handle reasonCode detail =>
      let done := session.meter.releaseUnreconciled sha256Hex handle reasonCode detail
      (⟨done.1, session.issued⟩, some done.2)

/-- One call, on a handle that the meter has issued. -/
def Steps (before : MeterSession F) (call : MeterCall) (after : MeterSession F) : Prop :=
  (∀ handle ∈ call.settles?, handle ∈ before.issued) ∧ (before.step sha256Hex call).1 = after

/-- A sequence of calls on a new meter. -/
def MeterRun (ceilingCents maxCalls maxOutputTokens : Int) (calls : List MeterCall)
    (session : MeterSession F) : Prop :=
  ∃ meter : CostMeter F, CostMeter.new sha256Hex ceilingCents maxCalls maxOutputTokens = .ok meter ∧
    Run (Steps sha256Hex) ⟨meter, []⟩ calls session

/-- The same, when every call meets a condition on the state before it. -/
def MeterRunWith (condition : MeterSession F → MeterCall → Prop)
    (ceilingCents maxCalls maxOutputTokens : Int) (calls : List MeterCall)
    (session : MeterSession F) : Prop :=
  ∃ meter : CostMeter F, CostMeter.new sha256Hex ceilingCents maxCalls maxOutputTokens = .ok meter ∧
    Run (fun before call after => condition before call ∧ Steps sha256Hex before call after)
      ⟨meter, []⟩ calls session

/-- A settlement whose usage is within the bounds of its handle succeeds, at a charge of at least
one cent and at most the reserved ones. -/
def Charges (session : MeterSession F) (call : MeterCall) : Prop :=
  ∀ handle, call.Within handle → ∃ entry : CostEntry,
    (session.step sha256Hex call).2 = some (.ok entry) ∧ entry.callIndex = handle.callIndex ∧
      1 ≤ entry.costCents ∧ entry.costCents ≤ handle.reservedCents

end MeterSession

end Sessions

/-! ## The budget ledger under a charge -/

theorem ceilCents_mono {inputTokens outputTokens inputBound outputBound : Int}
    (inputCents outputCents : Nat) (input : inputTokens ≤ inputBound)
    (output : outputTokens ≤ outputBound) :
    ceilCents inputTokens inputCents outputTokens outputCents ≤
      ceilCents inputBound inputCents outputBound outputCents := by
  have inputs : inputTokens * inputCents ≤ inputBound * inputCents :=
    Int.mul_le_mul_of_nonneg_right input (Int.natCast_nonneg _)
  have outputs : outputTokens * outputCents ≤ outputBound * outputCents :=
    Int.mul_le_mul_of_nonneg_right output (Int.natCast_nonneg _)
  unfold ceilCents microCentsPerCent
  simp only
  split <;> split <;> omega

section Ledger

variable {F : Type} [ClockFloat F] {sha256Hex : ByteArray → String}

/-- A popped reservation is gone, and no other. -/
theorem held_pop {ledger : BudgetLedger F} (numbered : Numbered ledger) (id other : String) :
    BudgetLedger.held? (BudgetLedger.popInflight ledger.inflight (.str id)) (.str other) =
      if other = id then none else BudgetLedger.held? ledger.inflight (.str other) := by
  unfold BudgetLedger.held? BudgetLedger.popInflight
  rw [List.find?_filter]
  split
  · rename_i same
    subst same
    rw [List.find?_eq_none.mpr]
    · rfl
    · intro entry _
      simp
  · rename_i different
    rw [← List.head?_filter, ← List.head?_filter]
    congr 2
    refine List.filter_congr fun entry member => ?_
    have ofOther := numbered.same_iff member other
    have ofId := numbered.same_iff member id
    by_cases asked : entry.1 = .str other
    · have apart : entry.1 ≠ .str id := by
        rw [asked]
        intro same
        injection same with same
        exact different same
      have isOther := ofOther.mpr asked
      have notId : entry.1.same (.str id) = false :=
        Bool.eq_false_iff.mpr fun same => apart (ofId.mp same)
      simp [isOther, notId]
    · have notOther : entry.1.same (.str other) = false :=
        Bool.eq_false_iff.mpr fun same => asked (ofOther.mp same)
      simp [notOther]

variable (sha256Hex) in
/-- What becomes of the ledger when a reservation is settled at a charge. -/
theorem reconcile_charge {ledger : BudgetLedger F} {id : String} {reserved actual : Int}
    (positive : 0 ≤ actual)
    (flight : BudgetLedger.held? ledger.inflight (.str id) = none ∨
      BudgetLedger.held? ledger.inflight (.str id) = some (amountsOf (chargeOf reserved))) :
    ∃ after result, ledger.reconcile sha256Hex id (CostMeter.amounts actual) = (after, result) ∧
      ledger.sequence ≤ after.sequence ∧
      ((result = .ok () ∧ BudgetLedger.held? ledger.inflight (.str id) ≠ none ∧
          after.inflight = BudgetLedger.popInflight ledger.inflight (.str id)) ∨
        ((∃ error, result = .error error) ∧ after.inflight = ledger.inflight ∧
          (BudgetLedger.held? ledger.inflight (.str id) ≠ none → reserved < actual))) := by
  unfold BudgetLedger.reconcile
  rw [validate_amounts positive]
  rcases flight with gone | held
  · simp only [gone]
    exact ⟨_, _, rfl, le_rfl, .inr ⟨⟨_, rfl⟩, rfl, fun some => absurd rfl some⟩⟩
  · simp only [held, overruns_charge]
    by_cases excess : reserved.toNat < actual.toNat
    · rw [if_pos excess, if_pos (List.cons_ne_nil _ _)]
      refine ⟨_, _, rfl, ?_, .inr ⟨⟨_, rfl⟩, ?_, fun _ => by omega⟩⟩
      · unfold BudgetLedger.ensureKillSwitch
        split
        · exact Nat.le_succ _
        · exact (Nat.le_succ _).trans (Nat.le_succ _)
      · unfold BudgetLedger.ensureKillSwitch
        split <;> rfl
    · rw [if_neg excess, if_neg (not_not.mpr rfl)]
      exact ⟨_, _, rfl, Nat.le_succ _, .inl ⟨rfl, Option.some_ne_none _, rfl⟩⟩

variable (sha256Hex) in
/-- What becomes of the reservations when another one is asked for. -/
theorem reserve_flight (ledger : BudgetLedger F) (now : F) (label : String) {amounts : Json F}
    {validated : List (Dimension × Nat)}
    (valid : validateAmounts amounts "reserve" = .ok validated) :
    ∃ after result, ledger.reserve sha256Hex now label amounts = (after, result) ∧
      ledger.sequence ≤ after.sequence ∧
      (((∃ error, result = .error error) ∧ after.inflight = ledger.inflight) ∨
        ∃ reservation, result = .ok reservation ∧
          reservation.reservationId = ledger.nextReservationId ∧
          ledger.sequence < after.sequence ∧
          after.inflight = BudgetLedger.putInflight ledger.inflight (.str ledger.nextReservationId)
            (amountsOf validated)) := by
  have ensured : ∀ reason, ledger.sequence ≤ (ledger.ensureKillSwitch sha256Hex reason).sequence ∧
      (ledger.ensureKillSwitch sha256Hex reason).inflight = ledger.inflight := by
    intro reason
    unfold BudgetLedger.ensureKillSwitch
    split
    · exact ⟨le_rfl, rfl⟩
    · exact ⟨Nat.le_succ _, rfl⟩
  unfold BudgetLedger.reserve
  rw [valid]
  simp only
  by_cases late : ledger.deadlineExceeded now = true
  · rw [if_pos late]
    obtain ⟨later, same⟩ := ensured "wall-clock deadline exceeded"
    exact ⟨_, _, rfl, later.trans (Nat.le_succ _), .inl ⟨⟨_, rfl⟩, same⟩⟩
  rw [if_neg late]
  by_cases killed : ledger.killSwitchEngaged = true
  · rw [if_pos killed]
    exact ⟨_, _, rfl, Nat.le_succ _, .inl ⟨⟨_, rfl⟩, rfl⟩⟩
  rw [if_neg killed]
  by_cases empty : validated.any (fun entry => decide (0 < entry.2)) = false
  · rw [if_pos empty]
    exact ⟨_, _, rfl, Nat.le_succ _, .inl ⟨⟨_, rfl⟩, rfl⟩⟩
  rw [if_neg empty]
  by_cases full : ledger.caps.effectiveConcurrencyCap ≤ ledger.inflight.length
  · rw [if_pos full]
    exact ⟨_, _, rfl, Nat.le_succ _, .inl ⟨⟨_, rfl⟩, rfl⟩⟩
  rw [if_neg full]
  cases ledger.headroomViolation validated with
  | some violation => exact ⟨_, _, rfl, Nat.le_succ _, .inl ⟨⟨_, rfl⟩, rfl⟩⟩
  | none => exact ⟨_, _, rfl, Nat.le_succ _, .inr ⟨_, rfl, rfl, Nat.lt_succ_self _, rfl⟩⟩

/-! ## What every sequence of calls keeps -/

/-- The issued handles are told apart by index and reservation, a handle without an entry is in
flight at its price, and every entry is of an issued handle. -/
structure Tracked (session : MeterSession F) : Prop where
  accounts : ∃ granted, Accounts session.meter.ledger granted
  indices : (session.issued.map ReservationHandle.callIndex).Nodup
  bounded : ∀ handle ∈ session.issued, handle.callIndex ≤ session.meter.callIndex
  reservations : (session.issued.map ReservationHandle.reservationId).Nodup
  numbered : ∀ handle ∈ session.issued, ∃ number ≤ session.meter.ledger.sequence,
    handle.reservationId = reservationId number
  priced : ∀ handle ∈ session.issued, handle.reservedCents = ceilCents handle.reservedInputTokens
    handle.inputCentsPerMtok handle.reservedOutputTokens handle.outputCentsPerMtok
  flight : ∀ handle ∈ session.issued,
    session.meter.flight? handle = some (amountsOf (chargeOf handle.reservedCents)) ∨
      session.meter.flight? handle = none ∧ session.meter.Settled handle
  entered : ∀ entry ∈ session.meter.entries, ∃ handle ∈ session.issued,
    handle.callIndex = entry.callIndex

variable {session : MeterSession F}

/-- A call that issues nothing, and whose entries are of issued handles. -/
theorem Tracked.moved (tracked : Tracked session) {after : CostMeter F}
    (accounts : ∃ granted, Accounts after.ledger granted)
    (later : session.meter.ledger.sequence ≤ after.ledger.sequence)
    (counted : after.callIndex = session.meter.callIndex) {new : List CostEntry}
    (entries : after.entries = session.meter.entries ++ new)
    (own : ∀ entry ∈ new, ∃ handle ∈ session.issued, handle.callIndex = entry.callIndex)
    (flight : ∀ handle ∈ session.issued, after.flight? handle = session.meter.flight? handle ∨
      after.flight? handle = none ∧ after.Settled handle) :
    Tracked ⟨after, session.issued⟩ where
  accounts := accounts
  indices := tracked.indices
  bounded := fun handle member => counted ▸ tracked.bounded handle member
  reservations := tracked.reservations
  numbered := fun handle member => by
    obtain ⟨number, known, named⟩ := tracked.numbered handle member
    exact ⟨number, known.trans later, named⟩
  priced := tracked.priced
  flight := fun handle member => by
    show after.flight? handle = _ ∨ after.flight? handle = none ∧ after.Settled handle
    rcases flight handle member with same | settled
    · rw [same]
      rcases tracked.flight handle member with held | ⟨gone, entry, there, index⟩
      · exact .inl held
      · exact .inr ⟨gone, entry, entries ▸ List.mem_append_left _ there, index⟩
    · exact .inr settled
  entered := fun entry member => by
    have inside : entry ∈ session.meter.entries ++ new := entries ▸ member
    rcases List.mem_append.mp inside with old | added
    · exact tracked.entered entry old
    · exact own entry added

/-- What a settlement leaves: an entry of the handle, or nothing when the reservation is no longer
in flight. -/
structure SettlesAs (session : MeterSession F) (handle : ReservationHandle) (after : CostMeter F)
    (outcome : Except (Raised F) CostEntry) (new : List CostEntry) : Prop where
  tracked : Tracked ⟨after, session.issued⟩
  entries : after.entries = session.meter.entries ++ new
  own : ∀ entry ∈ new, entry.callIndex = handle.callIndex
  outcome : ∀ entry, outcome = .ok entry → new = [entry]

variable {handle : ReservationHandle}

variable (sha256Hex) in
/-- A charge of an issued handle: it succeeds while the reservation is in flight and covers it. -/
theorem Tracked.charge (tracked : Tracked session) (issued : handle ∈ session.issued) {actual : Int}
    (natural : 0 ≤ actual) :
    ∃ ledger result, session.meter.ledger.reconcile sha256Hex handle.reservationId
        (CostMeter.amounts actual) = (ledger, result) ∧
      (result = .ok () ∧ session.meter.flight? handle ≠ none ∨
        (∃ error, result = .error error) ∧
          (session.meter.flight? handle ≠ none → handle.reservedCents < actual)) ∧
      ∀ (after : CostMeter F) (new : List CostEntry), after.ledger = ledger →
        after.callIndex = session.meter.callIndex →
        after.entries = session.meter.entries ++ new →
        (∀ entry ∈ new, entry.callIndex = handle.callIndex) → (result = .ok () → new ≠ []) →
        Tracked ⟨after, session.issued⟩ := by
  obtain ⟨granted, accounts⟩ := tracked.accounts
  have kept : Accounts (session.meter.ledger.reconcile sha256Hex handle.reservationId
      (CostMeter.amounts actual)).1 granted := accounts.reconcile _ _
  have flight : session.meter.flight? handle = none ∨
      session.meter.flight? handle = some (amountsOf (chargeOf handle.reservedCents)) := by
    rcases tracked.flight handle issued with held | ⟨gone, -⟩
    · exact .inr held
    · exact .inl gone
  obtain ⟨ledger, result, done, later, cases_⟩ :=
    reconcile_charge sha256Hex natural flight
  rw [done] at kept
  refine ⟨ledger, result, done, ?_, ?_⟩
  · rcases cases_ with ⟨rfl, held, -⟩ | ⟨refused, -, excess⟩
    · exact .inl ⟨rfl, held⟩
    · exact .inr ⟨refused, excess⟩
  · intro after new same counted entries own entered
    refine tracked.moved ⟨granted, same ▸ kept⟩ (same ▸ later) counted entries
      (fun entry member => ⟨handle, issued, (own entry member).symm⟩) fun other member => ?_
    rcases cases_ with ⟨rfl, -, popped⟩ | ⟨-, unchanged, -⟩
    · have asked : after.flight? other = if other.reservationId = handle.reservationId then none
          else session.meter.flight? other := by
        unfold CostMeter.flight?
        rw [same, popped]
        exact held_pop accounts.numbered _ _
      rw [asked]
      split
      · rename_i one
        obtain rfl := List.inj_on_of_nodup_map tracked.reservations member issued one
        obtain ⟨entry, there⟩ := List.exists_mem_of_ne_nil _ (entered rfl)
        exact .inr ⟨rfl, entry, entries ▸ List.mem_append_right _ there, own entry there⟩
      · exact .inl rfl
    · left
      unfold CostMeter.flight?
      rw [same, unchanged]

variable (sha256Hex) in
/-- The settlement of an issued handle at its usage. -/
theorem Tracked.settleUsage (tracked : Tracked session) (issued : handle ∈ session.issued)
    (inputTokens outputTokens : Int) (servedModel : String) (reasonCode detail : Option String)
    (ungraded : Option UngradedResponse) :
    ∃ after outcome entry, session.meter.settleUsage sha256Hex handle inputTokens outputTokens
        servedModel reasonCode detail ungraded = (after, outcome) ∧
      SettlesAs session handle after outcome [entry] ∧
      (session.meter.flight? handle ≠ none → inputTokens ≤ handle.reservedInputTokens →
        outputTokens ≤ handle.reservedOutputTokens → outcome = .ok entry ∧
          1 ≤ entry.costCents ∧ entry.costCents ≤ handle.reservedCents) := by
  unfold CostMeter.settleUsage
  simp only
  generalize cost : ceilCents inputTokens handle.inputCentsPerMtok outputTokens
    handle.outputCentsPerMtok = actual
  have atLeast : 1 ≤ actual := by
    rw [← cost]
    exact ceilCents_pos _ _ _ _
  obtain ⟨ledger, result, done, cases_, moves⟩ :=
    tracked.charge sha256Hex issued (show 0 ≤ actual by omega)
  rw [done]
  rcases cases_ with ⟨rfl, -⟩ | ⟨⟨error, rfl⟩, excess⟩
  · refine ⟨_, _, _, rfl, ⟨moves _ [_] rfl rfl rfl ?_ fun _ => List.cons_ne_nil _ _, rfl, ?_, ?_⟩, ?_⟩
    · intro entry member
      rw [List.mem_singleton.mp member]
      rfl
    · intro entry member
      rw [List.mem_singleton.mp member]
      rfl
    · intro entry done
      rw [Except.ok.inj done]
    · intro _ input output
      refine ⟨rfl, atLeast, ?_⟩
      show actual ≤ handle.reservedCents
      rw [tracked.priced handle issued, ← cost]
      exact ceilCents_mono _ _ input output
  · refine ⟨_, _, _, rfl, ⟨moves _ [_] ?_ ?_ (recordHalt_entries _ _ _ _ _ _) ?_
      fun done => absurd done (by simp), recordHalt_entries _ _ _ _ _ _, ?_, ?_⟩, ?_⟩
    · unfold CostMeter.recordHalt
      split <;> rfl
    · unfold CostMeter.recordHalt
      split <;> rfl
    · intro entry member
      rw [List.mem_singleton.mp member]
      rfl
    · intro entry member
      rw [List.mem_singleton.mp member]
      rfl
    · intro entry done
      cases done
    · intro held input output
      have within := ceilCents_mono handle.inputCentsPerMtok handle.outputCentsPerMtok input output
      rw [cost, ← tracked.priced handle issued] at within
      have beyond := excess held
      omega

variable (sha256Hex) in
/-- A release charges the reservation while it is in flight. -/
theorem Tracked.releaseUnreconciled (tracked : Tracked session) (issued : handle ∈ session.issued)
    (reasonCode detail : String) :
    ∃ after outcome new, session.meter.releaseUnreconciled sha256Hex handle reasonCode detail =
        (after, outcome) ∧ SettlesAs session handle after outcome new ∧
      (session.meter.flight? handle = none ∧ new = [] ∨
        session.meter.flight? handle ≠ none ∧ ∃ entry, new = [entry]) := by
  have natural : 0 ≤ handle.reservedCents := by
    rw [tracked.priced handle issued]
    have atLeast := ceilCents_pos handle.reservedInputTokens handle.inputCentsPerMtok
      handle.reservedOutputTokens handle.outputCentsPerMtok
    omega
  obtain ⟨ledger, result, done, cases_, moves⟩ :=
    tracked.charge sha256Hex issued natural
  unfold CostMeter.releaseUnreconciled
  simp only
  rw [done]
  rcases cases_ with ⟨rfl, held⟩ | ⟨⟨error, rfl⟩, excess⟩
  · refine ⟨_, _, [_], rfl, ⟨moves _ [_] rfl rfl rfl ?_ fun _ => List.cons_ne_nil _ _, rfl, ?_, ?_⟩,
      .inr ⟨held, _, rfl⟩⟩
    · intro entry member
      rw [List.mem_singleton.mp member]
      rfl
    · intro entry member
      rw [List.mem_singleton.mp member]
      rfl
    · intro entry done
      rw [Except.ok.inj done]
  · refine ⟨_, _, [], rfl, ⟨moves _ [] rfl rfl (List.append_nil _).symm ?_ ?_,
      (List.append_nil _).symm, ?_, ?_⟩, .inl ⟨?_, rfl⟩⟩
    · exact fun _ member => absurd member List.not_mem_nil
    · exact fun done => absurd done (by simp)
    · exact fun _ member => absurd member List.not_mem_nil
    · intro entry done
      cases done
    · by_contra held
      have beyond := excess held
      omega

/-- A new handle, with the next numbers. -/
theorem Tracked.issue (tracked : Tracked session) {after : CostMeter F}
    (accounts : ∃ granted, Accounts after.ledger granted)
    (later : session.meter.ledger.sequence < after.ledger.sequence)
    (counted : after.callIndex = session.meter.callIndex + 1)
    (entries : after.entries = session.meter.entries)
    (inflight : after.ledger.inflight = BudgetLedger.putInflight session.meter.ledger.inflight
      (.str session.meter.ledger.nextReservationId) (amountsOf (chargeOf handle.reservedCents)))
    (index : handle.callIndex = session.meter.callIndex + 1)
    (named : handle.reservationId = session.meter.ledger.nextReservationId)
    (priced : handle.reservedCents = ceilCents handle.reservedInputTokens handle.inputCentsPerMtok
      handle.reservedOutputTokens handle.outputCentsPerMtok) :
    Tracked ⟨after, session.issued ++ [handle]⟩ := by
  obtain ⟨granted, before⟩ := tracked.accounts
  have put := putInflight_fresh (amountsOf (chargeOf handle.reservedCents)) before.numbered.fresh
  have apart : ∀ other ∈ session.issued, other.reservationId ≠ handle.reservationId := by
    intro other member same
    obtain ⟨number, known, numbered⟩ := tracked.numbered other member
    rw [named, numbered] at same
    have equal := reservationId_injective (show reservationId number =
      reservationId (session.meter.ledger.sequence + 1) from same)
    omega
  refine ⟨accounts, ?_, ?_, ?_, ?_, ?_, ?_, ?_⟩
  · rw [List.map_append, List.nodup_append]
    refine ⟨tracked.indices, List.nodup_singleton _, ?_⟩
    intro held member other single
    obtain ⟨old, inside, rfl⟩ := List.mem_map.mp member
    obtain rfl := List.mem_singleton.mp single
    have below := tracked.bounded old inside
    omega
  · intro other member
    show other.callIndex ≤ after.callIndex
    rcases List.mem_append.mp member with old | new
    · have below := tracked.bounded other old
      omega
    · rw [List.mem_singleton.mp new]
      omega
  · rw [List.map_append, List.nodup_append]
    refine ⟨tracked.reservations, List.nodup_singleton _, ?_⟩
    intro held member other single
    obtain ⟨old, inside, rfl⟩ := List.mem_map.mp member
    obtain rfl := List.mem_singleton.mp single
    exact apart old inside
  · intro other member
    rcases List.mem_append.mp member with old | new
    · obtain ⟨number, known, numbered⟩ := tracked.numbered other old
      exact ⟨number, known.trans later.le, numbered⟩
    · rw [List.mem_singleton.mp new]
      exact ⟨session.meter.ledger.sequence + 1, later, named⟩
  · intro other member
    rcases List.mem_append.mp member with old | new
    · exact tracked.priced other old
    · rw [List.mem_singleton.mp new]
      exact priced
  · intro other member
    show after.flight? other = _ ∨ after.flight? other = none ∧ after.Settled other
    unfold CostMeter.flight? BudgetLedger.held?
    rw [inflight, put, List.find?_append]
    rcases List.mem_append.mp member with old | new
    · have missed : (Json.str (F := F) session.meter.ledger.nextReservationId).same
          (.str other.reservationId) = false := by
        rw [← named]
        exact beq_false_of_ne (apart other old).symm
      rw [List.find?_singleton, if_neg (by rw [missed]; exact Bool.false_ne_true), Option.or_none]
      rcases tracked.flight other old with held | ⟨gone, entry, there, same⟩
      · exact .inl held
      · exact .inr ⟨gone, entry, entries ▸ there, same⟩
    · rw [List.mem_singleton.mp new, named]
      have unheld : session.meter.ledger.inflight.find? (fun entry =>
          entry.1.same (.str session.meter.ledger.nextReservationId)) = none := by
        rw [List.find?_eq_none]
        intro entry inside same
        rw [before.numbered.fresh entry inside] at same
        cases same
      rw [unheld, Option.none_or, List.find?_singleton, if_pos (by simp [Json.same])]
      exact .inl rfl
  · intro entry member
    obtain ⟨other, inside, same⟩ := tracked.entered entry (entries ▸ member)
    exact ⟨other, List.mem_append_left _ inside, same⟩

variable (sha256Hex) in
/-- A reservation enters nothing. -/
theorem Tracked.reserve (tracked : Tracked session) (callRef : String) (pin : ModelPin)
    (systemBytes userBytes : Int) (maxOutputTokens : Option Int) :
    Tracked (session.step sha256Hex
        (.reserve callRef pin systemBytes userBytes maxOutputTokens)).1 ∧
      (session.step sha256Hex (.reserve callRef pin systemBytes userBytes
        maxOutputTokens)).1.meter.entries = session.meter.entries := by
  have unchanged : ∀ raised : Raised F,
      Tracked ⟨session.meter, session.issued ++
        (Except.error raised : Except (Raised F) ReservationHandle).toOption.toList⟩ := by
    intro raised
    show Tracked ⟨session.meter, session.issued ++ []⟩
    rw [List.append_nil]
    exact tracked
  show Tracked ⟨(session.meter.reserve sha256Hex callRef pin systemBytes userBytes
      maxOutputTokens).1, session.issued ++ (session.meter.reserve sha256Hex callRef pin
        systemBytes userBytes maxOutputTokens).2.toOption.toList⟩ ∧
    (session.meter.reserve sha256Hex callRef pin systemBytes userBytes maxOutputTokens).1.entries =
      session.meter.entries
  unfold CostMeter.reserve
  by_cases halted : session.meter.halted = true
  · rw [if_pos halted]
    exact ⟨unchanged _, rfl⟩
  rw [if_neg halted]
  by_cases small : maxOutputTokens.getD session.meter.maxOutputTokens < 1
  · simp only
    rw [if_pos small]
    exact ⟨unchanged _, rfl⟩
  simp only
  rw [if_neg small]
  generalize cost : ceilCents _ pin.inputCentsPerMtok _ pin.outputCentsPerMtok = reserved
  have natural : 0 ≤ reserved := by
    have atLeast := ceilCents_pos (max 1 (max 0 systemBytes + max 0 userBytes))
      pin.inputCentsPerMtok (maxOutputTokens.getD session.meter.maxOutputTokens)
      pin.outputCentsPerMtok
    omega
  obtain ⟨granted, accounts⟩ := tracked.accounts
  have kept : Accounts (session.meter.ledger.reserve sha256Hex JsonFloat.nan callRef
      (CostMeter.amounts reserved)).1 _ := accounts.reserve _ _ _
  obtain ⟨ledger, result, done, later, cases_⟩ := reserve_flight sha256Hex
    session.meter.ledger JsonFloat.nan callRef (validate_amounts (F := F) natural "reserve")
  rw [done] at kept
  rw [done]
  rcases cases_ with ⟨⟨error, rfl⟩, same⟩ | ⟨reservation, rfl, named, grown, inflight⟩
  · refine ⟨?_, recordHalt_entries _ _ _ _ _ _⟩
    show Tracked ⟨_, session.issued ++ []⟩
    rw [List.append_nil]
    have ledgers : ∀ (meter : CostMeter F) (detail : String),
        (meter.recordHalt detail callRef reserved pin.vendor pin.model).ledger = meter.ledger ∧
        (meter.recordHalt detail callRef reserved pin.vendor pin.model).callIndex =
          meter.callIndex := by
      intro meter detail
      unfold CostMeter.recordHalt
      split <;> exact ⟨rfl, rfl⟩
    obtain ⟨own, counted⟩ := ledgers { session.meter with ledger := ledger } (budgetMessage error)
    have isLedger := own.trans (show _ = ledger from rfl)
    have unentered : ∀ entry ∈ ([] : List CostEntry), ∃ handle ∈ session.issued,
        handle.callIndex = entry.callIndex :=
      fun _ member => absurd member List.not_mem_nil
    refine tracked.moved ?_ ?_ counted ?_ unentered fun handle _ => .inl ?_
    · rw [isLedger]
      exact ⟨_, kept⟩
    · rw [isLedger]
      exact later
    · rw [List.append_nil]
      exact recordHalt_entries _ _ _ _ _ _
    · unfold CostMeter.flight?
      rw [isLedger]
      exact congrArg (BudgetLedger.held? · (.str handle.reservationId)) same
  · exact ⟨tracked.issue ⟨_, kept⟩ grown rfl rfl inflight rfl named cost.symm, rfl⟩

/-! ## One call -/

/-- What a call enters: nothing, or the entry of the handle that it settles. -/
inductive Enters (session : MeterSession F) (call : MeterCall) : List CostEntry → Prop
  | nothing (first : session.FirstSettlement call) : Enters session call []
  | entry {handle : ReservationHandle} {entry : CostEntry}
      (index : entry.callIndex = handle.callIndex)
      (first : session.FirstSettlement call ↔ ¬ session.meter.Settled handle) :
      Enters session call [entry]

variable (sha256Hex) in
theorem Tracked.step (tracked : Tracked session) {call : MeterCall}
    (legal : ∀ handle ∈ call.settles?, handle ∈ session.issued) :
    Tracked (session.step sha256Hex call).1 ∧ ∃ new, Enters session call new ∧
      (session.step sha256Hex call).1.meter.entries = session.meter.entries ++ new := by
  cases call with
  | reserve callRef pin systemBytes userBytes maxOutputTokens =>
      obtain ⟨kept, same⟩ := tracked.reserve sha256Hex callRef pin systemBytes userBytes maxOutputTokens
      exact ⟨kept, [], .nothing trivial, by rw [List.append_nil, same]⟩
  | reconcile handle inputTokens outputTokens servedModel =>
      obtain ⟨after, outcome, entry, done, settles, -⟩ := tracked.settleUsage sha256Hex
        (legal handle rfl) inputTokens outputTokens servedModel none none none
      have stepped : (session.step sha256Hex (.reconcile handle inputTokens outputTokens
          servedModel)).1 = ⟨after, session.issued⟩ := by
        show (⟨(session.meter.reconcile sha256Hex _ _ _ _).1, _⟩ : MeterSession F) = _
        rw [CostMeter.reconcile, done]
      rw [stepped]
      exact ⟨settles.tracked, [entry], .entry (settles.own _ (List.mem_singleton_self _)) Iff.rfl,
        settles.entries⟩
  | reconcileUngradedResponse handle inputTokens outputTokens servedModel reasonCode detail ungraded =>
      obtain ⟨after, outcome, entry, done, settles, -⟩ := tracked.settleUsage sha256Hex
        (legal handle rfl) inputTokens outputTokens servedModel
        (some reasonCode) (some detail) (some ungraded)
      have stepped : (session.step sha256Hex (.reconcileUngradedResponse handle inputTokens
          outputTokens servedModel reasonCode detail ungraded)).1 = ⟨after, session.issued⟩ := by
        show (⟨(session.meter.reconcileUngradedResponse sha256Hex _ _ _ _ _ _ _).1, _⟩ :
          MeterSession F) = _
        rw [CostMeter.reconcileUngradedResponse, done]
      rw [stepped]
      exact ⟨settles.tracked, [entry], .entry (settles.own _ (List.mem_singleton_self _)) Iff.rfl,
        settles.entries⟩
  | releaseUnreconciled handle reasonCode detail =>
      obtain ⟨after, outcome, new, done, settles, entered⟩ := tracked.releaseUnreconciled
        sha256Hex (legal handle rfl) reasonCode detail
      have stepped : (session.step sha256Hex (.releaseUnreconciled handle reasonCode detail)).1 =
          ⟨after, session.issued⟩ := by
        show (⟨(session.meter.releaseUnreconciled sha256Hex _ _ _).1, _⟩ : MeterSession F) = _
        rw [done]
      rw [stepped]
      refine ⟨settles.tracked, new, ?_, settles.entries⟩
      rcases entered with ⟨gone, rfl⟩ | ⟨held, entry, rfl⟩
      · exact .nothing (.inr gone)
      · refine .entry (settles.own _ (List.mem_singleton_self _)) ⟨?_, .inl⟩
        rintro (unsettled | gone)
        · exact unsettled
        · exact absurd gone held

/-- The entries stay distinct exactly through a first settlement. -/
theorem single_iff {call : MeterCall} {new : List CostEntry} (enters : Enters session call new) :
    ((session.meter.entries ++ new).map CostEntry.callIndex).Nodup ↔
      (session.meter.entries.map CostEntry.callIndex).Nodup ∧ session.FirstSettlement call := by
  cases enters with
  | nothing first =>
      rw [List.append_nil]
      exact (and_iff_left first).symm
  | @entry handle entry index first =>
      rw [first, List.map_append, List.nodup_append]
      constructor
      · rintro ⟨before, -, apart⟩
        refine ⟨before, ?_⟩
        rintro ⟨held, member, same⟩
        exact apart _ (List.mem_map_of_mem member) _ (List.mem_singleton_self _)
          (same.trans index.symm)
      · rintro ⟨before, unsettled⟩
        refine ⟨before, List.nodup_singleton _, ?_⟩
        rintro _ member _ single rfl
        obtain ⟨held, there, same⟩ := List.mem_map.mp member
        have own := List.mem_singleton.mp single
        exact unsettled ⟨held, there, same.trans (own.trans index)⟩

/-- A first settlement within its bounds is charged. -/
theorem Tracked.charges (tracked : Tracked session) {call : MeterCall}
    (legal : ∀ handle ∈ call.settles?, handle ∈ session.issued)
    (first : session.FirstSettlement call) : session.Charges sha256Hex call := by
  intro handle within
  have settle : ∀ (inputTokens outputTokens : Int) (servedModel : String)
      (reasonCode detail : Option String) (ungraded : Option UngradedResponse),
      handle ∈ session.issued → ¬ session.meter.Settled handle →
      inputTokens ≤ handle.reservedInputTokens → outputTokens ≤ handle.reservedOutputTokens →
      ∃ entry : CostEntry, (session.meter.settleUsage sha256Hex handle inputTokens outputTokens
        servedModel reasonCode detail ungraded).2 = .ok entry ∧
        entry.callIndex = handle.callIndex ∧ 1 ≤ entry.costCents ∧
        entry.costCents ≤ handle.reservedCents := by
    intro inputTokens outputTokens servedModel reasonCode detail ungraded issued unsettled input
      output
    obtain ⟨after, outcome, entry, done, settles, charged⟩ := tracked.settleUsage sha256Hex
      issued inputTokens outputTokens servedModel reasonCode detail ungraded
    have held : session.meter.flight? handle ≠ none := by
      rcases tracked.flight handle issued with held | ⟨-, settled⟩
      · rw [held]
        exact Option.some_ne_none _
      · exact absurd settled unsettled
    obtain ⟨rfl, atLeast, atMost⟩ := charged held input output
    rw [done]
    exact ⟨entry, rfl, settles.own _ (List.mem_singleton_self _), atLeast, atMost⟩
  cases call with
  | reserve => cases within
  | releaseUnreconciled => cases within
  | reconcile own inputTokens outputTokens servedModel =>
      obtain ⟨rfl, input, output⟩ := within
      obtain ⟨entry, done, rest⟩ := settle _ _ servedModel none none none (legal own rfl) first
        input output
      exact ⟨entry, congrArg some done, rest⟩
  | reconcileUngradedResponse own inputTokens outputTokens servedModel reasonCode detail ungraded =>
      obtain ⟨rfl, input, output⟩ := within
      obtain ⟨entry, done, rest⟩ := settle _ _ servedModel (some reasonCode) (some detail)
        (some ungraded) (legal own rfl) first input output
      exact ⟨entry, congrArg some done, rest⟩

/-! ## Every sequence of calls -/

/-- What is spent are the charges of the settled handles. -/
theorem Tracked.chargedOnce (tracked : Tracked session)
    (single : (session.meter.entries.map CostEntry.callIndex).Nodup) : session.ChargedOnce where
  single := single
  spent := by
    have costs : session.meter.entries.map CostEntry.costCents =
        (session.meter.entries.map CostEntry.callIndex).map session.meter.chargeAt := by
      rw [List.map_map]
      refine List.map_congr_left fun entry member => ?_
      have found : (session.meter.entries.find? fun held =>
          decide (held.callIndex = entry.callIndex)) = some entry := by
        cases search : session.meter.entries.find? fun held =>
            decide (held.callIndex = entry.callIndex) with
        | none =>
            have missed := List.find?_eq_none.mp search entry member
            simp at missed
        | some held =>
            have same := List.find?_some search
            rw [List.inj_on_of_nodup_map single (List.mem_of_find?_eq_some search) member
              (of_decide_eq_true same)]
      show entry.costCents = session.meter.chargeAt entry.callIndex
      rw [CostMeter.chargeAt, found]
      rfl
    have indices : (session.meter.entries.map CostEntry.callIndex).Perm
        ((session.issued.filter fun handle => decide (session.meter.Settled handle)).map
          ReservationHandle.callIndex) := by
      refine (List.perm_ext_iff_of_nodup single
        (tracked.indices.sublist (List.filter_sublist.map _))).mpr fun index => ?_
      simp only [List.mem_map, List.mem_filter, decide_eq_true_eq]
      constructor
      · rintro ⟨entry, member, rfl⟩
        obtain ⟨handle, issued, same⟩ := tracked.entered entry member
        exact ⟨handle, ⟨issued, entry, member, same.symm⟩, same⟩
      · rintro ⟨handle, ⟨-, entry, member, same⟩, rfl⟩
        exact ⟨entry, member, same⟩
    unfold CostMeter.spentCents
    rw [costs, (indices.map session.meter.chargeAt).sum_eq, List.map_map]
    rfl

theorem tracked_new {ceilingCents maxCalls maxOutputTokens : Int} {meter : CostMeter F}
    (created : CostMeter.new sha256Hex ceilingCents maxCalls maxOutputTokens = .ok meter) :
    Tracked ⟨meter, []⟩ ∧ meter.entries = [] := by
  unfold CostMeter.new at created
  split at created
  · cases created
  split at created
  · cases created
  split at created
  · cases created
  split at created
  · cases created
  · rename_i ledger opened
    obtain rfl := Except.ok.inj created
    refine ⟨⟨⟨[], accounts_open opened⟩, List.nodup_nil, ?_, List.nodup_nil, ?_, ?_, ?_, ?_⟩, rfl⟩
    all_goals exact fun _ member => absurd member List.not_mem_nil

/-- **A meter charges every handle once, and every settlement within its bounds succeeds, exactly
in the runs that settle no handle a second time.** -/
theorem settled_once_iff {ceilingCents maxCalls maxOutputTokens : Int} {calls : List MeterCall}
    {session : MeterSession F}
    (run : MeterSession.MeterRun sha256Hex ceilingCents maxCalls maxOutputTokens calls session) :
    (session.ChargedOnce ∧ MeterSession.MeterRunWith sha256Hex (MeterSession.Charges sha256Hex)
      ceilingCents maxCalls maxOutputTokens calls session) ↔
    MeterSession.MeterRunWith sha256Hex MeterSession.FirstSettlement
      ceilingCents maxCalls maxOutputTokens calls session := by
  obtain ⟨meter, created, run⟩ := run
  obtain ⟨start, empty⟩ := tracked_new created
  have whole : ∀ {calls : List MeterCall} {session : MeterSession F},
      Run (MeterSession.Steps sha256Hex) ⟨meter, []⟩ calls session → Tracked session ∧
        ((session.meter.entries.map CostEntry.callIndex).Nodup →
          Run (fun before call after => before.FirstSettlement call ∧
            MeterSession.Steps sha256Hex before call after) ⟨meter, []⟩ calls session) := by
    intro calls session run
    induction run with
    | nil => exact ⟨start, fun _ => .nil⟩
    | snoc _ taken ih =>
        obtain ⟨tracked, firsts⟩ := ih
        obtain ⟨legal, rfl⟩ := taken
        obtain ⟨kept, new, enters, entries⟩ := tracked.step sha256Hex legal
        refine ⟨kept, fun single => ?_⟩
        rw [entries, single_iff enters] at single
        exact (firsts single.1).snoc ⟨single.2, legal, rfl⟩
  have charged : ∀ {calls : List MeterCall} {session : MeterSession F},
      Run (fun before call after => before.FirstSettlement call ∧
        MeterSession.Steps sha256Hex before call after) ⟨meter, []⟩ calls session →
        Tracked session ∧ (session.meter.entries.map CostEntry.callIndex).Nodup ∧
        Run (fun before call after => before.Charges sha256Hex call ∧
          MeterSession.Steps sha256Hex before call after) ⟨meter, []⟩ calls session := by
    intro calls session run
    induction run with
    | nil =>
        refine ⟨start, ?_, .nil⟩
        rw [empty]
        exact List.nodup_nil
    | snoc _ taken ih =>
        obtain ⟨tracked, single, charges⟩ := ih
        obtain ⟨first, legal, rfl⟩ := taken
        obtain ⟨kept, new, enters, entries⟩ := tracked.step sha256Hex legal
        refine ⟨kept, ?_, charges.snoc ⟨tracked.charges legal first, legal, rfl⟩⟩
        rw [entries, single_iff enters]
        exact ⟨single, first⟩
  constructor
  · rintro ⟨once, -⟩
    exact ⟨meter, created, (whole run).2 once.single⟩
  · rintro ⟨again, createdAgain, firsts⟩
    rw [created] at createdAgain
    obtain rfl := Except.ok.inj createdAgain
    obtain ⟨tracked, single, charges⟩ := charged firsts
    exact ⟨tracked.chargedOnce single, meter, created, charges⟩

end Ledger

/-! ## A sample -/

section Sample

def samplePin : ModelPin where
  vendor := "vendor"
  model := "model"
  inputCentsPerMtok := 300
  outputCentsPerMtok := 1500

/-- The first handle of a meter. -/
def sampleHandle : ReservationHandle where
  reservationId := "resv-000001"
  callIndex := 1
  callRef := "case-01"
  vendor := "vendor"
  model := "model"
  reservedInputTokens := 2000
  reservedOutputTokens := 1000
  reservedCents := 3
  inputCentsPerMtok := 300
  outputCentsPerMtok := 1500

def sampleReserve : MeterCall := .reserve "case-01" samplePin 500 1500 (some 1000)

def sampleReconcile : MeterCall := .reconcile sampleHandle 100 200 "model"

def noDigest (_ : ByteArray) : String := ""

/-- A new meter of one dollar. -/
def newMeter : CostMeter ZeroFloat where
  ceilingCents := 100
  maxCalls := 3
  maxOutputTokens := 1000
  ledger := { caps := CostMeter.caps 3 100 }

/-- The session after some calls on a new meter. -/
def sessionAfter (calls : List MeterCall) : MeterSession ZeroFloat :=
  calls.foldl (fun session call => (session.step noDigest call).1) ⟨newMeter, []⟩

theorem new_newMeter : CostMeter.new noDigest 100 3 1000 = .ok newMeter := rfl

theorem settled_of_sample :
    (sessionAfter [sampleReserve, sampleReconcile]).ChargedOnce ∧
      MeterSession.MeterRunWith noDigest (MeterSession.Charges noDigest) 100 3 1000
        [sampleReserve, sampleReconcile] (sessionAfter [sampleReserve, sampleReconcile]) := by
  have reserved : MeterSession.Steps noDigest ⟨newMeter, []⟩ sampleReserve
      (sessionAfter [sampleReserve]) :=
    ⟨fun _ none => (by cases none), rfl⟩
  have issued : (sessionAfter [sampleReserve]).issued = [sampleHandle] := by
    decide +kernel
  have settled : MeterSession.Steps noDigest (sessionAfter [sampleReserve]) sampleReconcile
      (sessionAfter [sampleReserve, sampleReconcile]) := by
    refine ⟨?_, rfl⟩
    rintro _ ⟨⟩
    rw [issued]
    exact List.mem_singleton_self _
  have unsettled : ¬ (sessionAfter [sampleReserve]).meter.Settled sampleHandle := by
    decide +kernel
  exact (settled_once_iff ⟨newMeter, new_newMeter, (Run.nil.snoc reserved).snoc settled⟩).mpr
    ⟨newMeter, new_newMeter, (Run.nil.snoc ⟨trivial, reserved⟩).snoc ⟨unsettled, settled⟩⟩

/-- A handle that is reconciled twice has two entries; so has one that drifted and is released. -/
theorem settled_twice :
    ((sessionAfter [sampleReserve, sampleReconcile, sampleReconcile]).meter.entries.map
      fun entry => (entry.callIndex, entry.costCents)) = [(1, 1), (1, 3)] ∧
    ((sessionAfter [sampleReserve, .reconcile sampleHandle 9000 9000 "model",
      .releaseUnreconciled sampleHandle "TRANSPORT_ERROR" "timeout"]).meter.entries.map
        fun entry => (entry.callIndex, entry.costCents)) = [(1, 17), (1, 3)] := by
  decide +kernel

end Sample

end Aegis.Live
