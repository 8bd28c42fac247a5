/-
# Usage.Report — the cohort report

`classify` reconstructs the day-30 state of a record from the events first received by the
close day; `computeReport` places each record (`placementOf`) and adds what it contributes
(`contribution`) to the cell of its month. A rate is kept as its two counts; its quotient
rounded to four places is left out.

`cell_counts`: the counts of a month are the sum of the contributions to it.
-/
import Aegis.Usage.CentralStore
import Mathlib.Algebra.BigOperators.Group.List.Basic
import Mathlib.Algebra.Group.Pi.Basic

namespace Aegis.Usage

open Aegis.Lib
open Aegis.Lib.Guarded

set_option autoImplicit false

structure StageState where
  applicable : Bool
  complete : Bool
  deriving DecidableEq

structure Classification where
  outcome : Value
  deliveryDay : Option Day
  acceptance : Value
  acceptanceDay : Option Day
  frozenValid : Bool
  frozenClaimed : Bool
  scopeChanged : Bool
  /-- In the order of the stages. -/
  stages : List StageState
  lateEvents : Nat
  deriving DecidableEq

/-- The events that count for the rate, in day order. -/
def usableEvents (record : Record) (closeDay cutoff : Day) : List Event :=
  sortBy Event.order ((record.transitions.events.filter fun stamped =>
    stamped.effectiveDay ≤ cutoff ∧ stamped.firstReceiptDay ≤ closeDay).map StampedEvent.toEvent)

def lateEvents (record : Record) (closeDay : Day) : List StampedEvent :=
  record.transitions.events.filter fun stamped => closeDay < stamped.firstReceiptDay

/-- The outcome and the delivery day of usable events. -/
def outcomeOf (usable : List Event) (cutoff : Day) : Value × Option Day :=
  match lastOf .status usable with
  | some event =>
      (event.value, if event.value = .delivered then some event.effectiveDay else none)
  | none =>
      if (usable.any fun event => event.kind = .observation ∧ event.value = .ongoing ∧
          event.effectiveDay = cutoff) = true then (.ongoing, none)
      else (.unknown, none)

/-- The stage is reached when its latest event completes it. -/
def stageState (record : Record) (usable : List Event) (stage : Stage) : StageState :=
  if stage ∈ record.enrollment.applicableStages then
    ⟨true, (lastOfStage stage usable).any fun event => event.value = .complete⟩
  else ⟨false, false⟩

/-- `_classify`. -/
def classify (record : Record) (closeDay cutoff : Day) : Classification :=
  let usable := usableEvents record closeDay cutoff
  let winner := lastOf .acceptance usable
  let frozenClaimed := record.enrollment.criteriaFrozenBeforeWork
  let scopeChanged := usable.any fun event => event.kind = .scopeChange ∧ event.effectiveDay ≤ cutoff
  { outcome := (outcomeOf usable cutoff).1
    deliveryDay := (outcomeOf usable cutoff).2
    acceptance := (winner.map Event.value).getD .notAssessed
    acceptanceDay := winner.map Event.effectiveDay
    frozenValid := frozenClaimed && !scopeChanged
    frozenClaimed
    scopeChanged
    stages := Usage.stages.map (stageState record usable)
    lateEvents := (lateEvents record closeDay).length }

/-! ## Cells -/

/-- What a cell counts. -/
inductive Counter
  | n
  | outcome (value : Value)
  | stageComplete (stage : Stage)
  | stageDenominator (stage : Stage)
  | stageNotApplicable (stage : Stage)
  | selfPassing | selfAssessed
  | independentPassing | independentAssessed
  | attestedSuccess
  | frozenInvalidated
  | lateEntries
  | lateEvents
  deriving DecidableEq

/-- The counters of late receipts, which no rate reads. -/
def Counter.isLate : Counter → Bool
  | .lateEntries => true
  | .lateEvents => true
  | _ => false

abbrev Tally := Counter → Nat

def stageOf (state : Classification) (stage : Stage) : StageState :=
  ((stages.zip state.stages).lookup stage).getD ⟨false, false⟩

def one (condition : Prop) [Decidable condition] : Nat := if condition then 1 else 0

/-- What a classified record adds to its cell. -/
def tally (record : Record) (state : Classification) (cutoff : Day) : Tally
  | .n => 1
  | .outcome value => one (state.outcome = value)
  | .stageComplete stage => one ((stageOf state stage).applicable = true ∧
      (stageOf state stage).complete = true)
  | .stageDenominator stage => one ((stageOf state stage).applicable = true)
  | .stageNotApplicable stage => one ((stageOf state stage).applicable = false)
  | .selfPassing => one (state.outcome = .delivered ∧ state.acceptance = .selfReportedPass)
  | .selfAssessed => one (state.outcome = .delivered ∧
      (state.acceptance = .selfReportedPass ∨ state.acceptance = .selfReportedFail))
  | .independentPassing => one (state.outcome = .delivered ∧
      state.acceptance = .independentAttestedPass)
  | .independentAssessed => one (state.outcome = .delivered ∧
      (state.acceptance = .independentAttestedPass ∨ state.acceptance = .independentAttestedFail))
  | .attestedSuccess => one (state.outcome = .delivered ∧ state.frozenValid = true ∧
      state.acceptance = .independentAttestedPass ∧
      (state.acceptanceDay.any fun day => day ≤ cutoff) = true)
  | .frozenInvalidated => one (state.frozenClaimed = true ∧ state.scopeChanged = true)
  | .lateEntries => record.lateEntries
  | .lateEvents => state.lateEvents

/-- Where a record stands on a day. -/
inductive Placement
  | expired
  | open_
  | retrospective
  | counted (closeDay : Day) (added : Tally)

/-- The days of a record: when its cohort closes and when its horizon ends. -/
def closeAndCutoff (record : Record) : Except Fault (Day × Day) := do
  let closeDay ← addDays record.enrollment.startDay (reportingWindowDays + lagDays)
  let cutoff ← addDays record.enrollment.startDay reportingWindowDays
  pure (closeDay, cutoff)

/-- One turn of the loop over the records. -/
def placementOf (today : Day) (record : Record) : Except Fault Placement := do
  let (closeDay, cutoff) ← closeAndCutoff record
  if record.expiresAt < today then pure .expired
  else if today < closeDay then pure .open_
  else if record.prospective = false then pure .retrospective
  else pure (.counted closeDay (tally record (classify record closeDay cutoff) cutoff))

structure Cell where
  closedOn : Day
  counts : Tally
  incomplete : Bool
  expiredExcluded : Option Nat

/-- The accumulators of `compute_report`. -/
structure Cohorts where
  months : Registry String Cell
  openMonths : Registry String Nat
  incompleteMonths : Registry String Nat
  retrospective : Nat
  expiredExcluded : Nat

/-- `counts[month] = counts.get(month, 0) + added`. -/
def raise (counts : Registry String Nat) (month : String) (added : Nat) : Registry String Nat :=
  counts.set month ((counts.get? month).getD 0 + added)

/-- The cell of a month after one more record. -/
def addToCell (cell : Option Cell) (closeDay : Day) (added : Tally) : Cell :=
  match cell with
  | none => ⟨closeDay, added, false, none⟩
  | some cell => { cell with
      closedOn := if cell.closedOn < closeDay then closeDay else cell.closedOn
      counts := cell.counts + added }

def Cohorts.add (cohorts : Cohorts) (month : String) : Placement → Cohorts
  | .expired => { cohorts with
      expiredExcluded := cohorts.expiredExcluded + 1
      incompleteMonths := raise cohorts.incompleteMonths month 1 }
  | .open_ => { cohorts with openMonths := raise cohorts.openMonths month 1 }
  | .retrospective => { cohorts with retrospective := cohorts.retrospective + 1 }
  | .counted closeDay added => { cohorts with
      months := cohorts.months.set month (addToCell (cohorts.months.get? month) closeDay added) }

/-- The month of a record's cohort. -/
def Record.month (record : Record) : String := monthOf record.enrollment.startDay

/-- The loop over the records. -/
def addRecords (today : Day) (cohorts : Cohorts) : List Record → Except Fault Cohorts
  | [] => .ok cohorts
  | record :: rest => do
      let placement ← placementOf today record
      addRecords today (cohorts.add record.month placement) rest

structure Rate where
  numerator : Nat
  denominator : Nat
  deriving DecidableEq

/-- `_rate`. -/
def rate (numerator denominator : Nat) : Rate :=
  if denominator = 0 then ⟨0, 0⟩ else ⟨numerator, denominator⟩

structure Metrics where
  delivery30d : Rate
  followUpCoverage : Rate
  unknownShare : Rate
  ongoingShare : Rate
  abandonedShare : Rate
  failedShare : Rate
  /-- The rate of each stage and its count of inapplicable records. -/
  stageReach : List (Stage × Rate × Nat)
  assessedAcceptanceSelfReport : Rate
  assessedAcceptanceIndependent : Rate
  independentlyAttestedSuccess : Rate
  deriving DecidableEq

/-- The metrics of a cell. -/
def metrics (counts : Tally) : Metrics :=
  let n := counts .n
  let discovered := counts (.outcome .delivered) + counts (.outcome .failed) +
    counts (.outcome .abandoned) + counts (.outcome .ongoing)
  { delivery30d := rate (counts (.outcome .delivered)) n
    followUpCoverage := rate discovered n
    unknownShare := rate (counts (.outcome .unknown)) n
    ongoingShare := rate (counts (.outcome .ongoing)) n
    abandonedShare := rate (counts (.outcome .abandoned)) n
    failedShare := rate (counts (.outcome .failed)) n
    stageReach := stages.map fun stage =>
      (stage, rate (counts (.stageComplete stage)) (counts (.stageDenominator stage)),
        counts (.stageNotApplicable stage))
    assessedAcceptanceSelfReport := rate (counts .selfPassing) (counts .selfAssessed)
    assessedAcceptanceIndependent := rate (counts .independentPassing) (counts .independentAssessed)
    independentlyAttestedSuccess := rate (counts .attestedSuccess) n }

def maxAggregateRecords : Nat := 5000

/-- The cell of a month with an observed expired record is incomplete. -/
def markIncomplete (months : Registry String Cell) (incomplete : Registry String Nat) :
    Registry String Cell :=
  incomplete.rows.foldl (fun months row =>
    match months.get? row.1 with
    | some cell => months.set row.1 { cell with incomplete := true, expiredExcluded := some row.2 }
    | none => months) months

structure Report where
  asOf : Day
  cohorts : Registry String Cell
  openCohorts : Registry String Nat
  retrospectiveExcluded : Nat
  expiredExcluded : Nat
  incompleteCohorts : Registry String Nat
  withdrawals : Nat
  quarantine : Nat
  ignored : Nat
  truncated : Bool

/-- The records of a report, at most as many as it takes. -/
def reportedRecords (store : Store) : List Record :=
  (sortBy Record.workflowRef store.records.values).take maxAggregateRecords

/-- The accumulators before the first record: months from which records expired. -/
def expiredCohorts (store : Store) : Cohorts :=
  store.expiredCohorts.rows.foldl (fun cohorts row => { cohorts with
    incompleteMonths := raise cohorts.incompleteMonths row.1 row.2
    expiredExcluded := cohorts.expiredExcluded + row.2 }) ⟨.empty, .empty, .empty, 0, 0⟩

/-- `compute_report`. The metrics of a cell are `metrics` of its counts. -/
def computeReport {F : Type} (store : Store) (asOf : Json F) : Except Fault Report := do
  let today ← parseDay asOf "day"
  let cohorts ← addRecords today (expiredCohorts store) (reportedRecords store)
  pure
    { asOf := today
      cohorts := markIncomplete cohorts.months cohorts.incompleteMonths
      openCohorts := cohorts.openMonths
      retrospectiveExcluded := cohorts.retrospective
      expiredExcluded := cohorts.expiredExcluded
      incompleteCohorts := cohorts.incompleteMonths.filter fun month _ =>
        (cohorts.months.get? month).isNone
      withdrawals := store.withdrawals
      quarantine := store.quarantine.length
      ignored := store.ignored
      truncated := decide (maxAggregateRecords < store.records.rows.length) }

/-! ## Contributions -/

/-- What a record adds to the counts of a month on a day. -/
def contribution (today : Day) (month : String) (record : Record) : Tally :=
  match placementOf today record with
  | .ok (.counted _ added) => if record.month = month then added else 0
  | _ => 0

/-- The counts of a month; none counted is zero. -/
def countsOf (months : Registry String Cell) (month : String) : Tally :=
  ((months.get? month).map Cell.counts).getD 0

theorem counts_addToCell (cell : Option Cell) (closeDay : Day) (added : Tally) :
    (addToCell cell closeDay added).counts = (cell.map Cell.counts).getD 0 + added := by
  cases cell with
  | none => exact (zero_add added).symm
  | some cell => rfl

theorem countsOf_add (cohorts : Cohorts) {today : Day} {record : Record} {placement : Placement}
    (placed : placementOf today record = .ok placement) (month : String) :
    countsOf (cohorts.add record.month placement).months month =
      countsOf cohorts.months month + contribution today month record := by
  unfold contribution
  rw [placed]
  cases placement with
  | counted closeDay added =>
      unfold countsOf
      simp only [Cohorts.add, Registry.get?_set]
      by_cases same : month = record.month
      · subst same
        simp [counts_addToCell]
      · have other : record.month ≠ month := fun equal => same equal.symm
        simp [same, other]
  | _ => exact (add_zero _).symm

/-- The loop adds the contributions. -/
theorem countsOf_addRecords {today : Day} {records : List Record} {cohorts after : Cohorts}
    (added : addRecords today cohorts records = .ok after) (month : String) :
    countsOf after.months month =
      countsOf cohorts.months month + (records.map (contribution today month)).sum := by
  induction records generalizing cohorts with
  | nil =>
      obtain rfl := Except.ok.inj added
      exact (add_zero _).symm
  | cons record rest ih =>
      rw [addRecords, bind_eq_ok] at added
      obtain ⟨placement, placed, later⟩ := added
      rw [ih later, countsOf_add cohorts placed, List.map_cons, List.sum_cons, add_assoc]

theorem countsOf_markIncomplete (months : Registry String Cell) (incomplete : Registry String Nat)
    (month : String) : countsOf (markIncomplete months incomplete) month = countsOf months month := by
  unfold markIncomplete
  induction incomplete.rows generalizing months with
  | nil => rfl
  | cons row rest ih =>
      rw [List.foldl_cons, ih]
      cases held : months.get? row.1 with
      | none => rfl
      | some cell =>
          unfold countsOf
          simp only [Registry.get?_set]
          by_cases same : month = row.1
          · subst same
            simp [held]
          · simp [same]

/-- **The counts of a month are the sum of the contributions of the reported records.** -/
theorem cell_counts {F : Type} {store : Store} {asOf : Json F} {report : Report}
    (computed : computeReport store asOf = .ok report) (month : String) :
    countsOf report.cohorts month =
      ((reportedRecords store).map (contribution report.asOf month)).sum := by
  unfold computeReport at computed
  simp only [bind_eq_ok, pure_eq_ok] at computed
  obtain ⟨today, _, cohorts, added, rfl⟩ := computed
  have start : countsOf (expiredCohorts store).months month = 0 := by
    have none : (expiredCohorts store).months = .empty := by
      unfold expiredCohorts
      refine List.foldlRecOn (motive := fun cohorts : Cohorts => cohorts.months = .empty) _ _ rfl ?_
      intro cohorts held row _
      exact held
    rw [none]
    rfl
  show countsOf (markIncomplete cohorts.months cohorts.incompleteMonths) month = _
  rw [countsOf_markIncomplete, countsOf_addRecords added, start, zero_add]

end Aegis.Usage
