/-
# Runner.Scheduler — the queue of selected cases and the walk that reserves for them

`scheduler.py`: a selection is checked and sorted into a queue, and the queue is walked: every entry
with a positive request is reserved in the budget ledger and settled at once at its full amounts, up
to the first denial. The walk takes the ledger and the readings of its clock, one a reservation.
-/
import Mathlib.Data.Prod.Lex
import Mathlib.Data.String.Basic
import Aegis.Budget.Restart
import Aegis.Lib.SortBy
import Aegis.Runner.Attempts

namespace Aegis.Runner

open Aegis.Lib
open Aegis.Lib.Guarded
open Aegis.Budget (Amounts BudgetError BudgetLedger ClockFloat Dimension Reservation)

set_option autoImplicit false

inductive SchedulingPriority
  | criticalRegression
  | criticalSafety
  | canonicalRegressionSuite
  | changedSkill
  | reverseNeighborEdge
  | namedNeighbor
  | highRisk
  | standardChangedScope
  | cadenceOnly
  deriving DecidableEq, Repr

namespace SchedulingPriority

def value : SchedulingPriority → Int
  | criticalRegression => 1
  | criticalSafety => 2
  | canonicalRegressionSuite => 3
  | changedSkill => 4
  | reverseNeighborEdge => 5
  | namedNeighbor => 6
  | highRisk => 7
  | standardChangedScope => 8
  | cadenceOnly => 9

def all : List SchedulingPriority :=
  [criticalRegression, criticalSafety, canonicalRegressionSuite, changedSkill, reverseNeighborEdge,
    namedNeighbor, highRisk, standardChangedScope, cadenceOnly]

end SchedulingPriority

inductive InclusionReason
  | ownCase
  | namedNeighbor
  | reverseEdge
  | regressionMapped
  | cadenceSlot
  | fullCorpus
  deriving DecidableEq, Repr

def InclusionReason.text : InclusionReason → String
  | ownCase => "own_case"
  | namedNeighbor => "named_neighbor"
  | reverseEdge => "reverse_edge"
  | regressionMapped => "regression_mapped"
  | cadenceSlot => "cadence_slot"
  | fullCorpus => "full_corpus"

def schedulingPolicyVersion : String := "1.0.0-wp2b1"

structure SchedulingPolicy where
  policyVersion : String := schedulingPolicyVersion
  priorityOrder : List Int := SchedulingPriority.all.map SchedulingPriority.value
  withinPriorityOrdering : String := "canonical_case_uid"
  seed : Option String := none
  deriving DecidableEq, Repr

namespace SchedulingPolicy

def validate (policy : SchedulingPolicy) : Except RunnerError Unit := do
  require (policy.withinPriorityOrdering ∈ ["canonical_case_uid", "seeded_rotation"])
    (.scheduler "unknown within-priority ordering")
  refuse (policy.withinPriorityOrdering = "seeded_rotation" ∧ policy.seed.getD "" = "")
    (.scheduler "seeded_rotation requires an explicit recorded seed")
  require (policy.priorityOrder = SchedulingPriority.all.map SchedulingPriority.value)
    (.scheduler ("the v1 policy priority order is fixed by design §11a; " ++
      "no automatic reprioritization exists"))

def toDict {F : Type} (policy : SchedulingPolicy) : Json F :=
  .dict [("policy_version", .str policy.policyVersion),
    ("priority_order", .array (policy.priorityOrder.map .int)),
    ("within_priority_ordering", .str policy.withinPriorityOrdering),
    ("seed", (policy.seed.map .str).getD .null)]

end SchedulingPolicy

/-- One selected case; its request is a dictionary. -/
structure SelectionItem (F : Type) where
  caseUid : String
  priority : SchedulingPriority
  inclusionReason : InclusionReason
  reservationRequest : List (String × Json F)
  distinct : (reservationRequest.map Prod.fst).Nodup

namespace SelectionItem

variable {F : Type}

/-- A non-negative `int`. -/
def isNatural : Json F → Bool
  | .int value => decide (0 ≤ value)
  | _ => false

/-- `amount > 0`, for an `int`. -/
def isPositive : Json F → Bool
  | .int value => decide (0 < value)
  | _ => false

/-- The checks of one entry of the request. -/
def validateEntry (entry : String × Json F) : Except RunnerError Unit := do
  let _ ← fetch (Dimension.ofText? entry.1)
    (.scheduler (s!"reservation dimension '{entry.1}' is not a known budget dimension"))
  require (isNatural entry.2 = true)
    (.scheduler (s!"reservation amount for '{entry.1}' must be a non-negative int"))

def validate (item : SelectionItem F) : Except RunnerError Unit := do
  let _ ← parseCaseUid item.caseUid
  forM item.reservationRequest validateEntry

/-- `is_real_reservation`. -/
def isRealReservation (item : SelectionItem F) : Bool :=
  item.reservationRequest.any fun entry => isPositive entry.2

end SelectionItem

structure QueueEntry where
  caseUid : String
  priority : Int
  queuePosition : Nat
  inclusionReason : String
  deriving DecidableEq, Repr

structure DispatchDecision where
  entry : QueueEntry
  reservationResult : String
  reservationId : Option String
  denialDetail : Option String
  unrunReasonCode : Option String
  deriving DecidableEq, Repr

/-- The decision on an entry that is not reserved. -/
def DispatchDecision.denied (entry : QueueEntry) (detail : String) : DispatchDecision where
  entry := entry
  reservationResult := "denied"
  reservationId := none
  denialDetail := some detail
  unrunReasonCode := some ReasonCode.budgetCap.text

def DispatchDecision.reserved (entry : QueueEntry) (reservation : Reservation) :
    DispatchDecision where
  entry := entry
  reservationResult := "reserved"
  reservationId := some reservation.reservationId
  denialDetail := none
  unrunReasonCode := none

structure ScheduleEvidence where
  schedulingPolicyVersion : String
  schedulingPolicyHash : String
  seed : Option String
  queue : List QueueEntry
  decisions : List DispatchDecision
  deriving DecidableEq, Repr

section Walk

variable {F : Type} [ClockFloat F] (sha256Hex : ByteArray → String)

/-- `_within_priority_key`. -/
def withinPriorityKey (policy : SchedulingPolicy) (caseUid : String) : String :=
  if policy.withinPriorityOrdering = "seeded_rotation" then
    sha256Hex (policy.seed.getD "" ++ "::" ++ caseUid).toUTF8
  else caseUid

/-- The key that the queue is sorted by. -/
def queueKey (policy : SchedulingPolicy) (item : SelectionItem F) : Int ×ₗ String ×ₗ String :=
  toLex (item.priority.value,
    toLex (withinPriorityKey sha256Hex policy item.caseUid, item.caseUid))

/-- One turn of the loop that checks the selection, with the cases seen so far. -/
def checkItem (seen : List String) (item : SelectionItem F) : Except RunnerError (List String) := do
  item.validate
  refuse (item.caseUid ∈ seen) (.scheduler s!"duplicate case in selection: {item.caseUid}")
  pure (item.caseUid :: seen)

/-- The selection in the order of the queue. -/
def ordered (policy : SchedulingPolicy) (selection : List (SelectionItem F)) :
    List (SelectionItem F) :=
  sortBy (queueKey sha256Hex policy) selection

def queueEntry (item : SelectionItem F) (position : Nat) : QueueEntry where
  caseUid := item.caseUid
  priority := item.priority.value
  queuePosition := position
  inclusionReason := item.inclusionReason.text

/-- `build_queue`. -/
def buildQueue (policy : SchedulingPolicy) (selection : List (SelectionItem F)) :
    Except RunnerError (List QueueEntry) := do
  policy.validate
  let _ ← selection.foldlM checkItem []
  pure ((ordered sha256Hex policy selection).zipIdx.map fun placed => queueEntry placed.1 placed.2)

/-- `items[case_uid]`: of the items of a case the last one counts. -/
def itemOf (selection : List (SelectionItem F)) (caseUid : String) :
    Except RunnerError (SelectionItem F) :=
  fetch (selection.reverse.find? fun item => item.caseUid = caseUid) (.keyError caseUid)

/-- `reserve` and, when it is granted, `reconcile` at the reserved amounts. -/
def reserveInFull (ledger : BudgetLedger F) (now : F) (item : SelectionItem F) :
    BudgetLedger F × Except BudgetError Reservation :=
  match ledger.reserve sha256Hex now item.caseUid (.object item.reservationRequest) with
  | (after, .error error) => (after, .error error)
  | (after, .ok reservation) =>
      let settled := after.reconcile sha256Hex reservation.reservationId reservation.amounts.json
      (settled.1, settled.2.map fun _ => reservation)

/-- The walk of the queue: with the ledger, the number of readings taken of the clock and whether
the budget is exhausted. -/
def walk (selection : List (SelectionItem F)) (clock : Nat → F) :
    BudgetLedger F → Nat → Bool → List QueueEntry →
      BudgetLedger F × Except RunnerError (List DispatchDecision)
  | ledger, _, _, [] => (ledger, .ok [])
  | ledger, readings, exhausted, entry :: later =>
      match itemOf selection entry.caseUid with
      | .error error => (ledger, .error error)
      | .ok item =>
          let goOn := fun (ledger : BudgetLedger F) readings exhausted decision =>
            let rest := walk selection clock ledger readings exhausted later
            (rest.1, rest.2.map (decision :: ·))
          if exhausted = true then
            goOn ledger readings true
              (.denied entry "prefix exhausted: budget consumed by earlier queue entries")
          else if item.isRealReservation = false then
            goOn ledger readings false (.denied entry "empty or all-zero reservation request")
          else
            match reserveInFull sha256Hex ledger (clock readings) item with
            | (after, .error (.denied detail)) =>
                goOn after (readings + 1) true (.denied entry detail)
            | (after, .error error) => (after, .error (.budget error))
            | (after, .ok reservation) =>
                goOn after (readings + 1) false (.reserved entry reservation)

/-- `schedule_with_reservation`: the ledger it leaves and what it returns or raises. -/
def scheduleWithReservation (policy : SchedulingPolicy) (selection : List (SelectionItem F))
    (ledger : BudgetLedger F) (clock : Nat → F) :
    BudgetLedger F × Except RunnerError ScheduleEvidence :=
  match buildQueue sha256Hex policy selection with
  | .error error => (ledger, .error error)
  | .ok queue =>
      let walked := walk sha256Hex selection clock ledger 0 false queue
      (walked.1, walked.2.map fun decisions =>
        { schedulingPolicyVersion := policy.policyVersion
          schedulingPolicyHash := Budget.digestOf sha256Hex (policy.toDict (F := F))
          seed := policy.seed
          queue := queue
          decisions := decisions })

end Walk

end Aegis.Runner
