/-
# Live.CostMeter — pre-call reservation, per-call usage, hard ceiling halt

Every call reserves an upper bound of its cost before it is dispatched, and its
reservation is settled after the call: at the usage that the provider reported, or
in full when there is no usage. The meter keeps its accounts in a budget ledger
without a store and its own list of entries, one for each settled call. Every
operation returns the meter it leaves behind, also when it raises.
-/
import Aegis.Budget.Ledger
import Aegis.Live.Transport

namespace Aegis.Live

open Aegis.Lib
open Aegis.Budget

set_option autoImplicit false

def microCentsPerCent : Int := 1000000

/-- Integer cents for a usage amount, rounded up; a call costs at least one. -/
def ceilCents (inputTokens : Int) (inputCentsPerMtok : Nat) (outputTokens : Int)
    (outputCentsPerMtok : Nat) : Int :=
  let numerator := inputTokens * inputCentsPerMtok + outputTokens * outputCentsPerMtok
  if numerator ≤ 0 then 1 else -(-numerator / microCentsPerCent)

structure ReservationHandle where
  reservationId : String
  callIndex : Nat
  callRef : String
  vendor : String
  model : String
  reservedInputTokens : Int
  reservedOutputTokens : Int
  reservedCents : Int
  inputCentsPerMtok : Nat
  outputCentsPerMtok : Nat
  deriving DecidableEq, Repr

/-- What an entry of an ungraded response holds besides. -/
structure UngradedResponse where
  stopReason : Option String
  responseId : Option String
  responseChars : Option Nat
  deriving DecidableEq, Repr

/-- An entry of the cost ledger. -/
structure CostEntry where
  callIndex : Nat
  callRef : String
  vendor : String
  model : String
  servedModel : Option String
  pinnedMatch : Option Bool
  inputTokens : Option Int
  outputTokens : Option Int
  reservedCents : Int
  actualCents : Option Int
  costCents : Int
  cumulativeCents : Int
  ceilingCents : Int
  reconciled : Bool
  reasonCode : Option String
  detail : Option String
  ungraded : Option UngradedResponse
  deriving DecidableEq, Repr

structure HaltRecord where
  reasonCode : String
  detail : String
  callRef : String
  requestedCents : Int
  spentCents : Int
  ceilingCents : Int
  callsDispatched : Nat
  vendor : String
  model : String
  deriving DecidableEq, Repr

structure CostMeter (F : Type) where
  ceilingCents : Int
  maxCalls : Int
  maxOutputTokens : Int
  ledger : BudgetLedger F
  entries : List CostEntry := []
  callIndex : Nat := 0
  halt : Option HaltRecord := none

/-- `str(exc)`. -/
def budgetMessage : BudgetError → String
  | .budget message => message
  | .denied message => message
  | .integrity message => message
  | .canonicalization message => message
  | .typeError => ""
  | .valueError => ""

/-- `dict(self._halt)`. -/
def HaltRecord.json {F : Type} (halt : HaltRecord) : Json F :=
  .dict [("halted", .bool true), ("reason_code", .str halt.reasonCode), ("detail", .str halt.detail),
    ("call_ref", .str halt.callRef), ("requested_cents", .int halt.requestedCents),
    ("spent_cents", .int halt.spentCents), ("ceiling_cents", .int halt.ceilingCents),
    ("calls_dispatched", .int halt.callsDispatched), ("vendor", .str halt.vendor),
    ("model", .str halt.model)]

namespace CostMeter

variable {F : Type}

/-- `{"calls": 1, "monetary_cents": cents}`. -/
def amounts (cents : Int) : Json F := .object [("calls", .int 1), ("monetary_cents", .int cents)]

/-- `limits={"calls": max_calls, "monetary_cents": ceiling_cents}`. -/
def limits (maxCalls ceilingCents : Int) : Amounts := fun dimension =>
  match dimension with
  | .calls => some maxCalls.toNat
  | .monetaryCents => some ceilingCents.toNat
  | _ => none

def caps (maxCalls ceilingCents : Int) : BudgetCaps F where
  limits := limits maxCalls ceilingCents
  concurrencyCap := 1
  wallClockDeadlineSeconds := none
  concurrencyCapability := .unavailable

def spentCents (meter : CostMeter F) : Int := (meter.entries.map CostEntry.costCents).sum

def remainingCents (meter : CostMeter F) : Int := meter.ceilingCents - meter.spentCents

def halted (meter : CostMeter F) : Bool := meter.halt.isSome

/-- Every reservation that reached dispatch, reconciled or not. -/
def attempts (meter : CostMeter F) : Nat := meter.entries.length

/-- `dict(self._halt or {})`. -/
def haltContext (meter : CostMeter F) : Json F := (meter.halt.map HaltRecord.json).getD (.object [])

/-- `_record_halt`: the first halt is kept. -/
def recordHalt (meter : CostMeter F) (detail callRef : String) (requestedCents : Int)
    (vendor model : String) : CostMeter F :=
  match meter.halt with
  | some _ => meter
  | none =>
      { meter with
        halt := some {
          reasonCode := "BUDGET_CAP"
          detail := detail
          callRef := callRef
          requestedCents := requestedCents
          spentCents := meter.spentCents
          ceilingCents := meter.ceilingCents
          callsDispatched := meter.entries.length
          vendor := vendor
          model := model } }

/-- `self._entries.append(entry)`. -/
def enter (meter : CostMeter F) (entry : CostEntry) : CostMeter F :=
  { meter with entries := meter.entries ++ [entry] }

/-- The entry of a call whose usage exceeded its reservation. -/
def driftEntry (meter : CostMeter F) (handle : ReservationHandle) (inputTokens outputTokens : Int)
    (servedModel : String) (actual : Int) : CostEntry where
  callIndex := handle.callIndex
  callRef := handle.callRef
  vendor := handle.vendor
  model := handle.model
  servedModel := some servedModel
  pinnedMatch := some (servedModel == handle.model)
  inputTokens := some inputTokens
  outputTokens := some outputTokens
  reservedCents := handle.reservedCents
  actualCents := some actual
  costCents := max actual handle.reservedCents
  cumulativeCents := meter.spentCents + max actual handle.reservedCents
  ceilingCents := meter.ceilingCents
  reconciled := false
  reasonCode := some "BUDGET_CAP"
  detail := some "reservation drift: actual usage exceeded the reservation"
  ungraded := none

/-- The entry of a call that was settled at its usage. -/
def reconciledEntry (meter : CostMeter F) (handle : ReservationHandle)
    (inputTokens outputTokens : Int) (servedModel : String) (actual : Int)
    (reasonCode detail : Option String) (ungraded : Option UngradedResponse) : CostEntry where
  callIndex := handle.callIndex
  callRef := handle.callRef
  vendor := handle.vendor
  model := handle.model
  servedModel := some servedModel
  pinnedMatch := some (servedModel == handle.model)
  inputTokens := some inputTokens
  outputTokens := some outputTokens
  reservedCents := handle.reservedCents
  actualCents := some actual
  costCents := actual
  cumulativeCents := meter.spentCents + actual
  ceilingCents := meter.ceilingCents
  reconciled := true
  reasonCode := reasonCode
  detail := detail
  ungraded := ungraded

/-- The entry of a call that produced no usage report. -/
def unreconciledEntry (meter : CostMeter F) (handle : ReservationHandle)
    (reasonCode detail : String) : CostEntry where
  callIndex := handle.callIndex
  callRef := handle.callRef
  vendor := handle.vendor
  model := handle.model
  servedModel := none
  pinnedMatch := none
  inputTokens := none
  outputTokens := none
  reservedCents := handle.reservedCents
  actualCents := none
  costCents := handle.reservedCents
  cumulativeCents := meter.spentCents + handle.reservedCents
  ceilingCents := meter.ceilingCents
  reconciled := false
  reasonCode := some reasonCode
  detail := some detail
  ungraded := none

variable [ClockFloat F] (sha256Hex : ByteArray → String)

/-- `CostMeter(...)`. Its caps have no deadline, so no clock is read. -/
def new (ceilingCents maxCalls maxOutputTokens : Int) : Except (Raised F) (CostMeter F) :=
  if ceilingCents ≤ 0 then .error (.valueError "ceiling_cents must be > 0")
  else if maxCalls < 1 then .error (.valueError "max_calls must be an int >= 1")
  else if maxOutputTokens < 1 then .error (.valueError "max_output_tokens must be an int >= 1")
  else
    match BudgetLedger.open_ sha256Hex (caps maxCalls ceilingCents) none JsonFloat.nan with
    | .error error => .error (.valueError (budgetMessage error))
    | .ok ledger => .ok { ceilingCents, maxCalls, maxOutputTokens, ledger }

/-- `reserve`. -/
def reserve (meter : CostMeter F) (callRef : String) (pin : ModelPin) (systemBytes userBytes : Int)
    (maxOutputTokens : Option Int) : CostMeter F × Except (Raised F) ReservationHandle :=
  if meter.halted = true then
    (meter, .error (.live (costCeilingHaltError
      "the cost meter is halted; no further call may be reserved" meter.haltContext)))
  else
    let outputBound := maxOutputTokens.getD meter.maxOutputTokens
    if outputBound < 1 then (meter, .error (.valueError "max_output_tokens must be an int >= 1"))
    else
      let inputUpper := max 1 (max 0 systemBytes + max 0 userBytes)
      let reserved := ceilCents inputUpper pin.inputCentsPerMtok outputBound pin.outputCentsPerMtok
      let done := meter.ledger.reserve sha256Hex JsonFloat.nan callRef (amounts reserved)
      match done.2 with
      | .error error =>
          let halted := { meter with ledger := done.1 }.recordHalt (budgetMessage error) callRef
            reserved pin.vendor pin.model
          (halted, .error (.live (costCeilingHaltError
            s!"spend ceiling reached before '{callRef}': {budgetMessage error}" halted.haltContext)))
      | .ok reservation =>
          ({ meter with ledger := done.1, callIndex := meter.callIndex + 1 },
            .ok {
              reservationId := reservation.reservationId
              callIndex := meter.callIndex + 1
              callRef := callRef
              vendor := pin.vendor
              model := pin.model
              reservedInputTokens := inputUpper
              reservedOutputTokens := outputBound
              reservedCents := reserved
              inputCentsPerMtok := pin.inputCentsPerMtok
              outputCentsPerMtok := pin.outputCentsPerMtok })

/-- A settlement at the usage that was reported; `reconcile` and
`reconcile_ungraded_response` differ in what the entry says besides. -/
def settleUsage (meter : CostMeter F) (handle : ReservationHandle) (inputTokens outputTokens : Int)
    (servedModel : String) (reasonCode detail : Option String)
    (ungraded : Option UngradedResponse) : CostMeter F × Except (Raised F) CostEntry :=
  let actual := ceilCents inputTokens handle.inputCentsPerMtok outputTokens handle.outputCentsPerMtok
  let done := meter.ledger.reconcile sha256Hex handle.reservationId (amounts actual)
  let settled : CostMeter F := { meter with ledger := done.1 }
  match done.2 with
  | .error error =>
      let halted := (settled.enter (settled.driftEntry handle inputTokens outputTokens servedModel
        actual)).recordHalt s!"reservation drift: {budgetMessage error}" handle.callRef actual
          handle.vendor handle.model
      (halted, .error (.live (costCeilingHaltError
        (s!"actual usage exceeded the reservation for '{handle.callRef}': " ++ budgetMessage error)
        halted.haltContext)))
  | .ok _ =>
      let entry := settled.reconciledEntry handle inputTokens outputTokens servedModel actual
        reasonCode detail ungraded
      (settled.enter entry, .ok entry)

def reconcile (meter : CostMeter F) (handle : ReservationHandle) (inputTokens outputTokens : Int)
    (servedModel : String) : CostMeter F × Except (Raised F) CostEntry :=
  meter.settleUsage sha256Hex handle inputTokens outputTokens servedModel none none none

def reconcileUngradedResponse (meter : CostMeter F) (handle : ReservationHandle)
    (inputTokens outputTokens : Int) (servedModel reasonCode detail : String)
    (ungraded : UngradedResponse) : CostMeter F × Except (Raised F) CostEntry :=
  meter.settleUsage sha256Hex handle inputTokens outputTokens servedModel (some reasonCode)
    (some detail) (some ungraded)

/-- `release_unreconciled`. -/
def releaseUnreconciled (meter : CostMeter F) (handle : ReservationHandle)
    (reasonCode detail : String) : CostMeter F × Except (Raised F) CostEntry :=
  let done := meter.ledger.reconcile sha256Hex handle.reservationId (amounts handle.reservedCents)
  let settled : CostMeter F := { meter with ledger := done.1 }
  match done.2 with
  | .error error =>
      (settled, .error (.live (costCeilingHaltError
        (s!"could not charge the unreconciled reservation for '{handle.callRef}': " ++
          budgetMessage error) settled.haltContext)))
  | .ok _ =>
      let entry := settled.unreconciledEntry handle reasonCode detail
      (settled.enter entry, .ok entry)

end CostMeter

end Aegis.Live
