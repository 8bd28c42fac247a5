/-
# DeliveryControl.BudgetReplay — the fences that settlements leave, replayed

The part of `_verify_projections` that rebuilds every reservation's accounting
and its dispatch fences from the settlement history, and compares them with the
stored ones. Each operation of the store runs it before it does anything else.

The chain of a reservation is followed along its hashes (`HashChain.follow`);
`replaySettlement` is one turn of the loop. Fences of other kinds are rebuilt
elsewhere in `_verify_projections`, so the comparison is on the three kinds that
settlements alone raise (`FenceId.ofSettlement`).
-/
import Aegis.DeliveryControl.Settlement
import Aegis.DeliveryControl.StoreTables
import Aegis.Lib.HashChain

namespace Aegis.DeliveryControl

open Aegis.Lib
open Aegis.Lib.Guarded
open Aegis.Lib.HashChain

set_option autoImplicit false

/-! ## The fences of one settlement -/

/-- A fence over the whole repository that a settlement originates. -/
def settlementFence (fenceId : FenceId) (reasonCode : FenceReason)
    (repositoryId settlementEventId : String) : Fence where
  fenceId := fenceId
  repositoryId := repositoryId
  itemId := none
  logicalEffectId := none
  reasonCode := reasonCode
  originatingEventId := settlementEventId

def breachFence (repositoryId settlementEventId : String) : Fence :=
  settlementFence (.budgetBreach settlementEventId) .budgetCapExceeded repositoryId
    settlementEventId

def lateFence (repositoryId settlementEventId : String) : Fence :=
  settlementFence (.lateAccounting settlementEventId) .lateAccountingAfterRelease repositoryId
    settlementEventId

def additionalFence (repositoryId settlementEventId : String) : Fence :=
  settlementFence (.additionalLiability settlementEventId) .additionalLiabilityUnresolved
    repositoryId settlementEventId

/-- The three kinds of fences that only settlements raise. -/
def FenceId.ofSettlement : FenceId → Bool
  | budgetBreach _ | lateAccounting _ | additionalLiability _ => true
  | _ => false

/-! ## The replay of one reservation -/

/-- The variables of the replay loop over one reservation's settlements. -/
structure ReplayState where
  previousHash : String
  disposition : BudgetDisposition
  heldUnits : Nat
  chargedUnits : Nat
  uncertainty : Bool
  historicalRelease : Bool
  activeAdditionalLiability : Option String
  fences : List Fence
  deriving DecidableEq

/-- The state of the loop before any settlement. -/
def Reservation.replayStart (reservation : Reservation) : ReplayState where
  previousHash := ""
  disposition := .reserved
  heldUnits := reservation.reservedUnits
  chargedUnits := 0
  uncertainty := false
  historicalRelease := false
  activeAdditionalLiability := none
  fences := []

/-- The unknown accounting that a known settlement or a release resolves. -/
def resolvesUnknown (current next : BudgetDisposition) : Bool :=
  current = .unknownWorstCaseCharged && (next = .adjusted || next = .released)

/-- The fences a settlement raises, in the order of the loop. -/
def raisedFences (reservation : Reservation) (current : BudgetDisposition)
    (settlement : SettlementBody) : List Fence :=
  let request := settlement.request
  let repositoryId := reservation.scope.repositoryId
  let settlementEventId := request.settlementEventId
  (if isBudgetBreach request.disposition settlement.chargedUnits reservation.reservedUnits
      reservation.capUnits then [breachFence repositoryId settlementEventId] else []) ++
    (if current = .released then [lateFence repositoryId settlementEventId] else []) ++
    if request.disposition = .unknownWorstCaseCharged && current.knownUsage &&
        request.additionalLiability then [additionalFence repositoryId settlementEventId]
    else []

/-- One turn of the loop over the settlements of a reservation. -/
def replaySettlement (reservation : Reservation) (state : ReplayState) (row : SettlementRow) :
    Except ControlError ReplayState := do
  let request := row.body.request
  require (request.scope = reservation.scope)
    (ControlError.storageIntegrityError "settlement scope binding mismatch")
  let (held, charged, uncertainty) ← deriveSettlementAccounting state.disposition
    state.chargedUnits reservation.worstCaseUnits request.disposition request.actualUnits
    request.additionalLiability request.nonDispatchProven request.zeroLiabilityProven
  refuse (state.historicalRelease ∧ request.disposition = .released)
    (ControlError.storageIntegrityError "settlement accounting semantics repeat release")
  require (row.body.heldUnits = held ∧ row.body.chargedUnits = charged ∧
      row.body.uncertainty = uncertainty)
    (ControlError.storageIntegrityError "settlement accounting semantics diverge from history")
  let resolved := resolvesUnknown state.disposition request.disposition
  let additional := request.disposition = .unknownWorstCaseCharged && state.disposition.knownUsage
    && request.additionalLiability
  let kept := match state.activeAdditionalLiability with
    | some active =>
        if resolved then
          state.fences.filter (fun fence => fence.fenceId ≠ .additionalLiability active)
        else state.fences
    | none => state.fences
  return {
    previousHash := row.settlementHash
    disposition := request.disposition
    heldUnits := held
    chargedUnits := charged
    uncertainty := uncertainty
    historicalRelease := state.historicalRelease || request.disposition = .released
    activeAdditionalLiability :=
      if additional then some request.settlementEventId
      else if resolved then none
      else state.activeAdditionalLiability
    fences := kept ++ raisedFences reservation state.disposition row.body }

/-- The settlements of one reservation. -/
def Store.settlementsOf (store : Store) (reservationId : String) : List SettlementRow :=
  store.settlements.rows.filter (fun row => row.reservationId = reservationId)

/-- The replay of one reservation: its chain is followed to its head, and the
stored accounting is the one the chain ends in. -/
def replayReservation (store : Store) (reservation : Reservation) :
    Except ControlError ReplayState := do
  let rows := store.settlementsOf reservation.reservationId
  require ((rows.map SettlementRow.previousHash).Nodup)
    (ControlError.storageIntegrityError "budget settlement chain branches")
  let chain := follow SettlementRow.previousHash SettlementRow.settlementHash rows rows.length ""
  require ((chain.map SettlementRow.settlementEventId).Nodup)
    (ControlError.storageIntegrityError "settlement appears in multiple chains")
  let final ← chain.foldlM (replaySettlement reservation) reservation.replayStart
  require (chain.length = rows.length)
    (ControlError.storageIntegrityError "budget settlement chain is disconnected")
  require (final.previousHash = reservation.settlementHeadHash)
    (ControlError.storageIntegrityError "budget settlement head diverges")
  require (reservation.heldUnits = final.heldUnits ∧
      reservation.chargedUnits = final.chargedUnits ∧
      reservation.uncertainty = final.uncertainty ∧
      reservation.disposition = final.disposition)
    (ControlError.storageIntegrityError
      "budget accounting projection diverges from settlement history")
  return final

/-- `expected_fences`, of the kinds that settlements raise. -/
def expectedFences (store : Store) : Except ControlError (List Fence) := do
  let states ← store.reservations.rows.mapM (replayReservation store)
  return states.flatMap (·.fences)

/-- The stored fences of those kinds. -/
def Store.settlementFences (store : Store) : List Fence :=
  store.fences.rows.filter (fun fence => fence.fenceId.ofSettlement)

/-- `actual_fences == expected_fences`. -/
def verifyBudgetProjection (store : Store) : Except ControlError Unit := do
  let expected ← expectedFences store
  require ((∀ fence ∈ expected, fence ∈ store.settlementFences) ∧
      ∀ fence ∈ store.settlementFences, fence ∈ expected)
    (ControlError.storageIntegrityError "dispatch-fence projection diverges")

end Aegis.DeliveryControl
