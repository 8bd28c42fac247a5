/-
# Live.MeterAccounts — the meter between two calls and during one

Between calls nothing is in flight (`Ready`), during a call exactly its own
reservation is (`Held`). A reservation leads from the one to the other or halts the
meter; a settlement leads back, with one entry more, unless the usage exceeds the
reservation: then the entry is a drift entry and the meter halts. What was spent
is the actual total of the budget ledger, so it stays below the ceiling.
-/
import Aegis.Budget.Conservation
import Aegis.Live.CostMeter

namespace Aegis.Live

open Aegis.Lib
open Aegis.Lib.Guarded
open Aegis.Budget

set_option autoImplicit false

/-! ## Costs -/

/-- Every call costs something. -/
theorem ceilCents_pos (inputTokens : Int) (inputCents : Nat) (outputTokens : Int)
    (outputCents : Nat) : 1 ≤ ceilCents inputTokens inputCents outputTokens outputCents := by
  unfold ceilCents microCentsPerCent
  simp only
  split
  · exact le_rfl
  · omega

/-- The request for one call of this cost. -/
def chargeOf (cents : Int) : List (Dimension × Nat) :=
  [(.calls, 1), (.monetaryCents, cents.toNat)]

theorem validate_amounts {F : Type} {cents : Int} (natural : 0 ≤ cents) (where_ : String) :
    validateAmounts (CostMeter.amounts (F := F) cents) where_ = .ok (chargeOf cents) := by
  have calls : validateAmount (F := F) where_ [] ("calls", .int 1) = .ok [(.calls, 1)] := rfl
  have known : Dimension.ofText? "monetary_cents" = some .monetaryCents :=
    Dimension.ofText?_text .monetaryCents
  have cost : validateAmount (F := F) where_ [(.calls, 1)] ("monetary_cents", .int cents) =
      .ok (chargeOf cents) := by
    have amount : ¬ cents < 0 := by omega
    simp only [validateAmount, known, fetch, refuse, if_neg amount]
    rfl
  show List.foldlM _ _ _ = _
  rw [List.foldlM_cons, calls]
  show List.foldlM _ _ _ = _
  rw [List.foldlM_cons, cost]
  rfl

theorem charge_monetary (cents : Int) :
    amountsOf (chargeOf cents) .monetaryCents = some cents.toNat := rfl

/-- Whether one charge fits into another. -/
theorem overruns_charge (reserved actual : Int) :
    BudgetLedger.overruns (amountsOf (chargeOf reserved)) (chargeOf actual) =
      if reserved.toNat < actual.toNat then [(.monetaryCents, actual.toNat)] else [] := by
  unfold BudgetLedger.overruns chargeOf
  by_cases excess : reserved.toNat < actual.toNat
  · rw [if_pos excess, List.filter_cons_of_neg Bool.false_ne_true, List.filter_cons_of_pos]
    · rfl
    · exact decide_eq_true excess
  · rw [if_neg excess, List.filter_cons_of_neg Bool.false_ne_true, List.filter_cons_of_neg]
    · rfl
    · exact fun exceeds => excess (of_decide_eq_true exceeds)

/-! ## The budget ledger under one call -/

section Ledger

variable {F : Type} [ClockFloat F] {sha256Hex : ByteArray → String}

/-- What a granted reservation leaves. -/
theorem reserve_ok {ledger : BudgetLedger F} {now : F} {label : String} {amounts : Json F}
    {validated : List (Dimension × Nat)} {reservation : Budget.Reservation}
    (valid : validateAmounts amounts "reserve" = .ok validated)
    (granted : (ledger.reserve sha256Hex now label amounts).2 = .ok reservation) :
    reservation.reservationId = ledger.nextReservationId ∧
    (ledger.reserve sha256Hex now label amounts).1.inflight =
      BudgetLedger.putInflight ledger.inflight (.str ledger.nextReservationId)
        (amountsOf validated) ∧
    (ledger.reserve sha256Hex now label amounts).1.actualTotals = ledger.actualTotals ∧
    (ledger.reserve sha256Hex now label amounts).1.caps = ledger.caps := by
  revert granted
  unfold BudgetLedger.reserve
  rw [valid]
  simp only
  split
  · exact fun granted => by cases granted
  split
  · exact fun granted => by cases granted
  split
  · exact fun granted => by cases granted
  split
  · exact fun granted => by cases granted
  cases ledger.headroomViolation validated with
  | some violation => exact fun granted => by cases granted
  | none =>
      intro granted
      obtain rfl := Except.ok.inj granted
      exact ⟨rfl, rfl, rfl, rfl⟩

variable (sha256Hex) in
/-- The settlement of the only reservation in flight, within it. -/
theorem reconcile_within {ledger : BudgetLedger F} {id : String} {reserved actual : Int}
    (natural : 0 ≤ actual) (within : actual ≤ reserved)
    (inflight : ledger.inflight = [(.str id, amountsOf (chargeOf reserved))]) :
    ∃ after, ledger.reconcile sha256Hex id (CostMeter.amounts actual) = (after, .ok ()) ∧
      after.inflight = [] ∧ after.caps = ledger.caps ∧
      after.actualTotals .monetaryCents = ledger.actualTotals .monetaryCents + actual := by
  have held : BudgetLedger.held? ledger.inflight (.str id) =
      some (amountsOf (chargeOf reserved)) := by
    rw [inflight]
    simp [BudgetLedger.held?, Json.same]
  have popped : BudgetLedger.popInflight ledger.inflight (.str id) = [] := by
    rw [inflight]
    simp [BudgetLedger.popInflight, Json.same]
  have fits : ¬ reserved.toNat < actual.toNat := by omega
  have excess : ¬ BudgetLedger.overruns (amountsOf (chargeOf reserved)) (chargeOf actual) ≠ [] := by
    rw [overruns_charge, if_neg fits]
    exact fun different => different rfl
  unfold BudgetLedger.reconcile
  rw [validate_amounts natural]
  simp only [held]
  rw [if_neg excess]
  refine ⟨_, rfl, popped, rfl, ?_⟩
  show ledger.actualTotals .monetaryCents + (actual.toNat : Int) = _
  rw [Int.toNat_of_nonneg natural]

variable (sha256Hex) in
/-- The settlement of the only reservation in flight, beyond it. -/
theorem reconcile_beyond {ledger : BudgetLedger F} {id : String} {reserved actual : Int}
    (natural : 0 ≤ reserved) (beyond : reserved < actual)
    (inflight : ledger.inflight = [(.str id, amountsOf (chargeOf reserved))]) :
    ∃ after error, ledger.reconcile sha256Hex id (CostMeter.amounts actual) =
      (after, .error error) := by
  have held : BudgetLedger.held? ledger.inflight (.str id) =
      some (amountsOf (chargeOf reserved)) := by
    rw [inflight]
    simp [BudgetLedger.held?, Json.same]
  have exceeds : reserved.toNat < actual.toNat := by omega
  have excess : BudgetLedger.overruns (amountsOf (chargeOf reserved)) (chargeOf actual) ≠ [] := by
    rw [overruns_charge, if_pos exceeds]
    exact List.cons_ne_nil _ _
  unfold BudgetLedger.reconcile
  rw [validate_amounts (by omega)]
  simp only [held]
  rw [if_pos excess]
  exact ⟨_, _, rfl⟩

/-! ## The meter -/

/-- The accounts of the meter are those of its ledger. -/
structure Steady (ceiling : Int) (meter : CostMeter F) : Prop where
  accounts : ∃ granted, Accounts meter.ledger granted
  capped : meter.ledger.caps.limits .monetaryCents = some ceiling.toNat
  spent : meter.spentCents = meter.ledger.actualTotals .monetaryCents

/-- Between two calls. -/
structure Ready (ceiling : Int) (meter : CostMeter F) : Prop extends Steady ceiling meter where
  idle : meter.ledger.inflight = []
  running : meter.halt = none
  numbered : meter.callIndex = meter.entries.length

/-- During a call. -/
structure Held (ceiling : Int) (meter : CostMeter F) (handle : ReservationHandle) : Prop
    extends Steady ceiling meter where
  inflight : meter.ledger.inflight =
    [(.str handle.reservationId, amountsOf (chargeOf handle.reservedCents))]
  positive : 1 ≤ handle.reservedCents
  numbered : handle.callIndex = meter.entries.length + 1
  counted : meter.callIndex = handle.callIndex
  running : meter.halt = none

/-- The usage exceeded the reservation. -/
def CostEntry.Drift (entry : CostEntry) : Prop :=
  entry.reconciled = false ∧ ∃ actual, entry.actualCents = some actual ∧ entry.reservedCents < actual

variable {ceiling : Int} {meter : CostMeter F}

/-- What was spent is below the ceiling. -/
theorem Steady.spent_le (steady : Steady ceiling meter) (positive : 0 ≤ ceiling) :
    meter.spentCents ≤ ceiling := by
  obtain ⟨granted, accounts⟩ := steady.accounts
  have reserved := accounts.conserved.reserved .monetaryCents
  have capped := accounts.conserved.capped .monetaryCents _ steady.capped
  have flight := inflightTotal_nonneg meter.ledger.inflight .monetaryCents
  rw [steady.spent]
  omega

omit [ClockFloat F] in
theorem spentCents_enter (meter : CostMeter F) (entry : CostEntry) :
    (meter.enter entry).spentCents = meter.spentCents + entry.costCents := by
  unfold CostMeter.spentCents CostMeter.enter
  rw [List.map_append, List.sum_append, List.map_singleton, List.sum_singleton]

omit [ClockFloat F] in
theorem recordHalt_entries (meter : CostMeter F) (detail callRef : String) (requested : Int)
    (vendor model : String) :
    (meter.recordHalt detail callRef requested vendor model).entries = meter.entries := by
  unfold CostMeter.recordHalt
  split <;> rfl

variable (sha256Hex) in
/-- A reservation is granted, or the meter halts without a call. -/
theorem Ready.reserve (ready : Ready ceiling meter) (callRef : String) (pin : ModelPin)
    (systemBytes userBytes : Int) {bound : Int} (positive : 1 ≤ bound) :
    (∃ after error, meter.reserve sha256Hex callRef pin systemBytes userBytes (some bound) =
        (after, .error (.live error)) ∧ after.entries = meter.entries) ∨
    (∃ after handle, meter.reserve sha256Hex callRef pin systemBytes userBytes (some bound) =
        (after, .ok handle) ∧ Held ceiling after handle ∧ handle.callRef = callRef ∧
          after.entries = meter.entries) := by
  have running : ¬ meter.halted = true := by
    unfold CostMeter.halted
    rw [ready.running]
    exact Bool.false_ne_true
  have bounded : ¬ bound < 1 := by omega
  unfold CostMeter.reserve
  rw [if_neg running]
  simp only [Option.getD_some]
  rw [if_neg bounded]
  generalize cost : ceilCents _ pin.inputCentsPerMtok bound pin.outputCentsPerMtok = reserved
  have atLeast : 1 ≤ reserved := by
    rw [← cost]
    exact ceilCents_pos _ _ _ _
  have valid := validate_amounts (F := F) (show 0 ≤ reserved by omega) "reserve"
  obtain ⟨granted, accounts⟩ := ready.accounts
  have kept : Accounts (meter.ledger.reserve sha256Hex JsonFloat.nan callRef
      (CostMeter.amounts reserved)).1 _ := accounts.reserve _ _ _
  cases done : (meter.ledger.reserve sha256Hex JsonFloat.nan callRef
      (CostMeter.amounts reserved)).2 with
  | error error =>
      left
      exact ⟨_, _, rfl, recordHalt_entries _ _ _ _ _ _⟩
  | ok reservation =>
      right
      obtain ⟨named, inflight, actual, caps⟩ := reserve_ok valid done
      refine ⟨_, _, rfl, ⟨⟨⟨_, kept⟩, ?_, ?_⟩, ?_, atLeast, ?_, rfl, ready.running⟩, rfl, rfl⟩
      · show (BudgetLedger.reserve sha256Hex meter.ledger _ _ _).1.caps.limits _ = _
        rw [caps]
        exact ready.capped
      · show meter.spentCents = (BudgetLedger.reserve sha256Hex meter.ledger _ _ _).1.actualTotals _
        rw [actual]
        exact ready.spent
      · show (BudgetLedger.reserve sha256Hex meter.ledger _ _ _).1.inflight =
          [(.str reservation.reservationId, _)]
        rw [inflight, ready.idle, named]
        rfl
      · show meter.callIndex + 1 = meter.entries.length + 1
        rw [ready.numbered]

/-- The entry belongs to the reservation. -/
structure EntryOf (handle : ReservationHandle) (entry : CostEntry) : Prop where
  callIndex : entry.callIndex = handle.callIndex
  callRef : entry.callRef = handle.callRef

variable (sha256Hex) in
/-- A charge within the reservation ends the call. -/
theorem Held.charge {handle : ReservationHandle} (held : Held ceiling meter handle) {actual : Int}
    (natural : 0 ≤ actual) (within : actual ≤ handle.reservedCents) :
    ∃ ledger, meter.ledger.reconcile sha256Hex handle.reservationId (CostMeter.amounts actual) =
        (ledger, .ok ()) ∧
      ∀ entry : CostEntry, entry.costCents = actual →
        Ready ceiling (CostMeter.enter { meter with ledger := ledger } entry) := by
  obtain ⟨ledger, done, idle, caps, total⟩ :=
    reconcile_within sha256Hex natural within held.inflight
  obtain ⟨granted, accounts⟩ := held.accounts
  have kept : Accounts (meter.ledger.reconcile sha256Hex handle.reservationId
      (CostMeter.amounts actual)).1 granted := accounts.reconcile _ _
  rw [done] at kept
  refine ⟨ledger, done, fun entry cost => ⟨⟨⟨granted, kept⟩, ?_, ?_⟩, idle, held.running, ?_⟩⟩
  · show ledger.caps.limits _ = _
    rw [caps]
    exact held.capped
  · rw [spentCents_enter, cost]
    show meter.spentCents + actual = ledger.actualTotals _
    rw [held.spent, total]
  · show meter.callIndex = (meter.entries ++ [entry]).length
    rw [held.counted, held.numbered, List.length_append, List.length_singleton]

variable (sha256Hex) in
/-- A settlement at the reported usage. -/
theorem Held.settleUsage {handle : ReservationHandle} (held : Held ceiling meter handle)
    (inputTokens outputTokens : Int) (servedModel : String) (reasonCode detail : Option String)
    (ungraded : Option UngradedResponse) :
    (∃ after entry, meter.settleUsage sha256Hex handle inputTokens outputTokens servedModel
        reasonCode detail ungraded = (after, .ok entry) ∧ Ready ceiling after ∧
        after.entries = meter.entries ++ [entry] ∧ EntryOf handle entry ∧
        entry.reconciled = true ∧ entry.reasonCode = reasonCode) ∨
    (∃ after error entry, meter.settleUsage sha256Hex handle inputTokens outputTokens servedModel
        reasonCode detail ungraded = (after, .error (.live error)) ∧
        after.entries = meter.entries ++ [entry] ∧ EntryOf handle entry ∧ entry.Drift) := by
  unfold CostMeter.settleUsage
  simp only
  generalize cost : ceilCents inputTokens handle.inputCentsPerMtok outputTokens
    handle.outputCentsPerMtok = actual
  have natural : 1 ≤ actual := by
    rw [← cost]
    exact ceilCents_pos _ _ _ _
  have positive := held.positive
  by_cases within : actual ≤ handle.reservedCents
  · left
    obtain ⟨ledger, done, ready⟩ := held.charge sha256Hex (by omega) within
    rw [done]
    exact ⟨_, _, rfl, ready _ rfl, rfl, ⟨rfl, rfl⟩, rfl, rfl⟩
  · right
    have beyond : handle.reservedCents < actual := by omega
    obtain ⟨ledger, error, done⟩ :=
      reconcile_beyond sha256Hex (by omega) beyond held.inflight
    rw [done]
    refine ⟨_, _, _, rfl, recordHalt_entries _ _ _ _ _ _, ⟨rfl, rfl⟩, rfl, actual, rfl, beyond⟩

/-- A call without usage is charged in full. -/
theorem Held.releaseUnreconciled {handle : ReservationHandle} (held : Held ceiling meter handle)
    (reasonCode detail : String) :
    ∃ after entry, meter.releaseUnreconciled sha256Hex handle reasonCode detail =
        (after, .ok entry) ∧ Ready ceiling after ∧ after.entries = meter.entries ++ [entry] ∧
        EntryOf handle entry := by
  have positive := held.positive
  obtain ⟨ledger, done, ready⟩ := held.charge sha256Hex (by omega) le_rfl
  unfold CostMeter.releaseUnreconciled
  simp only
  rw [done]
  exact ⟨_, _, rfl, ready _ rfl, rfl, ⟨rfl, rfl⟩⟩

end Ledger

end Aegis.Live
