/-
# Usage.Contract — the workflow-outcomes contract

The vocabularies of the contract, the events of a snapshot, the state that their
history derives (`deriveState`) and the document of an export (`Envelope.document`).
Days are compared as days: texts `YYYY-MM-DD` are in the order of their days.
-/
import Aegis.Lib.Calendar
import Aegis.Lib.Guarded
import Aegis.Lib.JsonParse
import Aegis.Lib.SortBy
import Aegis.Lib.Vocabulary
import Mathlib.Data.Prod.Lex
import Mathlib.Data.String.Basic

namespace Aegis.Usage

open Aegis.Lib
open Aegis.Lib.Guarded

set_option autoImplicit false

/-- What the reporter and the importer raise. -/
inductive Fault
  | contractError (code message path : String)
  /-- A date past the last one or before the first one. -/
  | overflowError
  /-- A payload that is no JSON value. -/
  | typeError
  deriving DecidableEq, Repr

/-! ## Vocabularies -/

inductive Stage | discover | plan | build | validate | deliver
  deriving DecidableEq, Repr

inductive Kind | status | stage | acceptance | scopeChange | observation
  deriving DecidableEq, Repr

/-- The values of events and of the derived state. -/
inductive Value
  | delivered | failed | abandoned
  | notStarted | inProgress | complete | notApplicable | unknown
  | notAssessed | selfReportedPass | selfReportedFail
  | independentAttestedPass | independentAttestedFail
  | criteriaChanged
  | ongoing
  deriving DecidableEq, Repr

inductive Evidence | none | localChecklist | localTestRecord | localReviewRecord
  deriving DecidableEq, Repr

instance : Vocabulary Stage where
  text
    | .discover => "discover" | .plan => "plan" | .build => "build"
    | .validate => "validate" | .deliver => "deliver"
  text_injective := by
    intro left right same
    cases left <;> cases right <;> first | rfl | exact absurd same (by decide)

instance : Vocabulary Kind where
  text
    | .status => "status" | .stage => "stage" | .acceptance => "acceptance"
    | .scopeChange => "scope_change" | .observation => "observation"
  text_injective := by
    intro left right same
    cases left <;> cases right <;> first | rfl | exact absurd same (by decide)

instance : Vocabulary Value where
  text
    | .delivered => "delivered" | .failed => "failed" | .abandoned => "abandoned"
    | .notStarted => "not_started" | .inProgress => "in_progress" | .complete => "complete"
    | .notApplicable => "not_applicable" | .unknown => "unknown"
    | .notAssessed => "not_assessed"
    | .selfReportedPass => "self_reported_pass" | .selfReportedFail => "self_reported_fail"
    | .independentAttestedPass => "independent_attested_pass"
    | .independentAttestedFail => "independent_attested_fail"
    | .criteriaChanged => "criteria_changed"
    | .ongoing => "ongoing"
  text_injective := by
    intro left right same
    cases left <;> cases right <;> first | rfl | exact absurd same (by decide)

instance : Vocabulary Evidence where
  text
    | .none => "none" | .localChecklist => "local_checklist"
    | .localTestRecord => "local_test_record" | .localReviewRecord => "local_review_record"
  text_injective := by
    intro left right same
    cases left <;> cases right <;> first | rfl | exact absurd same (by decide)

/-- `STAGES`. -/
def stages : List Stage := [.discover, .plan, .build, .validate, .deliver]

def stageStatuses : List Value := [.notStarted, .inProgress, .complete, .notApplicable, .unknown]

def statuses : List Value := [.ongoing, .delivered, .failed, .abandoned, .unknown]

def acceptanceValues : List Value :=
  [.notAssessed, .selfReportedPass, .selfReportedFail, .independentAttestedPass,
    .independentAttestedFail]

def acceptanceEvidence : List Evidence :=
  [.none, .localChecklist, .localTestRecord, .localReviewRecord]

def eventKinds : List Kind := [.status, .stage, .acceptance, .scopeChange, .observation]

def terminalStatuses : List Value := [.delivered, .failed, .abandoned]

/-- `EVENT_VALUES`. -/
def eventValues : Kind → List Value
  | .status => terminalStatuses
  | .stage => stageStatuses
  | .acceptance => acceptanceValues
  | .scopeChange => [.criteriaChanged]
  | .observation => [.ongoing, .unknown]

/-- The value is an independent attestation. -/
def Value.isIndependent (value : Value) : Bool :=
  value = .independentAttestedPass || value = .independentAttestedFail

/-! ## Constants -/

def schemaName : String := "workflow-outcomes-v1"

def libraryRevision : String := "1.0.0"

def captureTier : String := "self_report"

def consentPolicyVersion : String := "1"

def reportingWindowDays : Nat := 30

def lagDays : Nat := 7

def maxSnapshotBytes : Nat := 64 * 1024

def maxTransitions : Nat := 256

def maxNestingDepth : Nat := 64

/-! ## Events and the state they derive -/

structure Event where
  eventRef : String
  kind : Kind
  effectiveDay : Day
  value : Value
  stage : Option Stage
  deriving DecidableEq

namespace Event

/-- The day and the reference, by which events are sorted. -/
def order (event : Event) : Nat ×ₗ String := toLex (event.effectiveDay.key, event.eventRef)

end Event

/-- The events of a snapshot, no two of one reference. -/
structure Transitions where
  events : List Event
  distinct : (events.map Event.eventRef).Nodup

/-- The events effective by a day, in day order. -/
def effectiveBy (transitions : List Event) (asOfDay : Day) : List Event :=
  sortBy Event.order (transitions.filter fun event => event.effectiveDay ≤ asOfDay)

/-- The last event of a kind among events in day order. -/
def lastOf (kind : Kind) (relevant : List Event) : Option Event :=
  (relevant.filter fun event => event.kind = kind).getLast?

/-- The last event of one stage. -/
def lastOfStage (stage : Stage) (relevant : List Event) : Option Event :=
  (relevant.filter fun event => event.kind = .stage ∧ event.stage = some stage).getLast?

/-- `_acceptance_events`. -/
def acceptanceEvents (transitions : List Event) (asOfDay : Day) : List Event :=
  sortBy Event.order (transitions.filter fun event =>
    event.kind = .acceptance ∧ event.effectiveDay ≤ asOfDay)

/-- `winning_acceptance`. -/
def winningAcceptance (transitions : List Event) (asOfDay : Day) : Option Event :=
  (acceptanceEvents transitions asOfDay).getLast?

structure DerivedState where
  status : Value
  deliveryDay : Option Day
  acceptance : Value
  acceptanceDay : Option Day
  /-- In the order of the stages. -/
  stageStatus : List Value
  deriving DecidableEq

/-- `derive_state`. -/
def deriveState (transitions : List Event) (applicableStages : List Stage) (asOfDay : Day) :
    DerivedState :=
  let relevant := effectiveBy transitions asOfDay
  let terminal := lastOf .status relevant
  let winner := winningAcceptance transitions asOfDay
  { status := match terminal with
      | some event => event.value
      | none => ((lastOf .observation relevant).map Event.value).getD .unknown
    deliveryDay := match terminal with
      | some event => if event.value = .delivered then some event.effectiveDay else none
      | none => none
    acceptance := (winner.map Event.value).getD .notAssessed
    acceptanceDay := winner.map Event.effectiveDay
    stageStatus := stages.map fun stage =>
      if stage ∈ applicableStages then
        ((lastOfStage stage relevant).map Event.value).getD .notStarted
      else .notApplicable }

/-! ## Snapshots and exports -/

structure Snapshot where
  workflowRef : String
  revision : Nat
  exportRef : String
  startDay : Day
  lastObservedDay : Day
  reportDueDay : Day
  applicableStages : List Stage
  criteriaFrozenBeforeWork : Bool
  criteriaContractRef : String
  stageStatus : List Value
  status : Value
  acceptance : Value
  acceptanceEvidence : Evidence
  deliveryDay : Option Day
  acceptanceDay : Option Day
  transitions : Transitions

/-- An export. The fields that the contract fixes are not kept, except the reporting
window, which is any number equal to 30. -/
structure Envelope (F : Type) where
  reportingWindowDays : Json F
  admissionRef : String
  snapshot : Snapshot

variable {F : Type}

def dayJson (day : Day) : Json F := .str day.text

def optionalDay (day : Option Day) : Json F := (day.map dayJson).getD .null

def Event.toJson (event : Event) : Json F :=
  .dict [("event_ref", .str event.eventRef), ("kind", .word event.kind),
    ("effective_day", dayJson event.effectiveDay), ("value", .word event.value),
    ("stage", (event.stage.map Json.word).getD .null)]

def stageStatusJson (values : List Value) : Json F :=
  .dict ((stages.zip values).map fun pair => (Vocabulary.text pair.1, .word pair.2))

def Snapshot.toJson (snapshot : Snapshot) : Json F :=
  .dict [("workflow_ref", .str snapshot.workflowRef), ("revision", .int snapshot.revision),
    ("export_ref", .str snapshot.exportRef), ("start_day", dayJson snapshot.startDay),
    ("last_observed_day", dayJson snapshot.lastObservedDay),
    ("report_due_day", dayJson snapshot.reportDueDay),
    ("applicable_stages", .array (snapshot.applicableStages.map Json.word)),
    ("criteria_frozen_before_work", .bool snapshot.criteriaFrozenBeforeWork),
    ("criteria_contract_ref", .str snapshot.criteriaContractRef),
    ("stage_status", stageStatusJson snapshot.stageStatus),
    ("status", .word snapshot.status), ("acceptance", .word snapshot.acceptance),
    ("acceptance_evidence", .word snapshot.acceptanceEvidence),
    ("delivery_day", optionalDay snapshot.deliveryDay),
    ("acceptance_day", optionalDay snapshot.acceptanceDay),
    ("transitions", .array (snapshot.transitions.events.map Event.toJson))]

/-- The document of an export. -/
def Envelope.document (envelope : Envelope F) : Json F :=
  .dict [("schema", .str schemaName), ("library_revision", .str libraryRevision),
    ("capture_tier", .str captureTier), ("consent_policy_version", .str consentPolicyVersion),
    ("reporting_window_days", envelope.reportingWindowDays),
    ("admission_ref", .str envelope.admissionRef), ("snapshot", envelope.snapshot.toJson)]

section Bytes

variable [JsonFloat F]

/-- The text of `canonical_bytes(payload)`. -/
def canonicalText (payload : Json F) : String := String.ofList (payload.canonical ++ ['\n'])

/-- `canonical_bytes`. -/
@[irreducible] def canonicalBytes (payload : Json F) : ByteArray := (canonicalText payload).toUTF8

end Bytes

end Aegis.Usage
