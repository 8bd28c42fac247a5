/-
# Usage.LocalStore — the recorder of one machine

`enableCapture` opts a workflow in, `recordTransition` appends one event to its history,
`attachAdmission` notes the steward's reference and `buildEnvelope` exports the history.
Arguments are JSON values; `null` stands for `None`. The references that a call draws at
random are arguments of their own. A call that raises leaves the store as it was.
-/
import Aegis.Evidence.Verifier
import Aegis.Lib.Registry
import Aegis.Usage.CentralStore
import Mathlib.Data.List.MinMax

namespace Aegis.Usage

open Aegis.Lib
open Aegis.Lib.Guarded
open Aegis.Evidence (truthy)

set_option autoImplicit false

/-! ## The store -/

/-- `random_ref(head)`. -/
structure RandomRef (head : String) where
  text : String
  wellFormed : isRef head text = true

/-- An event of the local history; an acceptance has the category of its evidence. -/
structure RecordedEvent extends Event where
  evidence : Option Evidence
  deriving DecidableEq

structure Workflow where
  workflowRef : String
  admissionRef : Option String
  capturedDay : Day
  startDay : Day
  applicableStages : List Stage
  criteriaFrozenBeforeWork : Bool
  criteriaContractRef : String
  acceptanceEvidence : Evidence
  revision : Nat
  exportRef : Option String
  lastObservedDay : Option Day
  transitions : List RecordedEvent

structure OptIn where
  enabled : Bool
  optedInDay : Day

structure LocalStore where
  optIns : Registry String OptIn
  workflows : Registry String Workflow

/-- `store["workflows"][ref] = workflow`. -/
def LocalStore.putWorkflow (store : LocalStore) (ref : String) (workflow : Workflow) : LocalStore :=
  { store with workflows := store.workflows.set ref workflow }

section Calls

variable {F : Type} [JsonFloat F]

/-! ## Opting in -/

/-- The arguments of `enable_capture`. -/
structure Enrolling (F : Type) where
  day : Json F
  startDay : Json F
  applicableStages : Json F
  criteriaFrozenBeforeWork : Json F
  workflowRef : Json F
  criteriaContractRef : Json F
  admissionRef : Json F

/-- `list(applicable_stages)`, all stages when none are given. -/
def requestedStages : Json F → Except Fault (List (Json F))
  | .null => .ok (stages.map Json.word)
  | .array items => .ok items
  | .object fields => .ok (fields.map fun field => .str field.1)
  | .str text => .ok (text.toList.map fun c => .str (String.ofList [c]))
  | _ => .error .typeError

/-- A given reference, or the drawn one. -/
def refOr {head : String} (given : Json F) (drawn : RandomRef head) (path : String) :
    Except Fault String :=
  if truthy given = true then parseRef given path head else .ok drawn.text

/-- A reference that may be missing. -/
def optionalRef (given : Json F) (path head : String) : Except Fault (Option String) :=
  match given with
  | .null => .ok none
  | _ => some <$> parseRef given path head

/-- The stages of a workflow. -/
def enrolledStages (given : Json F) : Except Fault (List Stage) := do
  let requested ← requestedStages given
  require (requested.length ≠ 0) (.contractError "invalid_stages"
    "applicable_stages needs at least one stage" "applicable_stages")
  let named ← fetch (requested.mapM (readOne stages)) (.contractError "invalid_stages"
    "applicable_stages contains a non-stage" "applicable_stages")
  require (stages.filter (· ∈ named) = named) (.contractError "invalid_stages"
    "stages must follow the fixed order" "applicable_stages")
  pure named

/-- The start and the day of capture. -/
def enrolledDays (call : Enrolling F) : Except Fault (Day × Day) := do
  let start ← parseDay call.startDay "start_day"
  let captured ← parseDay call.day "day"
  let outside : Fault := .contractError "start_outside_window"
    "a start must be acknowledged within seven days" "start_day"
  refuse (captured < start) outside
  let earliest ← fetch (captured.subDays 7) .overflowError
  refuse (start < earliest) outside
  pure (start, captured)

/-- `enable_capture`. -/
def enableCapture (store : LocalStore) (call : Enrolling F) (drawnWorkflow : RandomRef "wf-")
    (drawnContract : RandomRef "crit-") : Except Fault (Workflow × LocalStore) := do
  let frozen ← checkBool call.criteriaFrozenBeforeWork (.contractError "invalid_type"
    "criteria_frozen_before_work must be boolean" "criteria_frozen_before_work")
  let (start, captured) ← enrolledDays call
  let applicable ← enrolledStages call.applicableStages
  let ref ← refOr call.workflowRef drawnWorkflow "workflow_ref"
  refuse ((store.workflows.get? ref).isSome = true) (.contractError "workflow_exists"
    "this workflow already has local enrollment; delete-local before re-enrolling" "workflow_ref")
  let contractRef ← refOr call.criteriaContractRef drawnContract "criteria_contract_ref"
  let admissionRef ← optionalRef call.admissionRef "admission_ref" "adm-"
  let workflow : Workflow :=
    { workflowRef := ref, admissionRef, capturedDay := captured, startDay := start,
      applicableStages := applicable, criteriaFrozenBeforeWork := frozen,
      criteriaContractRef := contractRef, acceptanceEvidence := .none, revision := 0,
      exportRef := none, lastObservedDay := none, transitions := [] }
  pure (workflow, { store.putWorkflow ref workflow with
    optIns := store.optIns.set ref ⟨true, captured⟩ })

/-- `require_enabled`; the key of the workflow is returned beside it. -/
def requireEnabled (store : LocalStore) (workflowRef : Json F) : Except Fault (String × Workflow) := do
  let ref ← parseRef workflowRef "workflow_ref" "wf-"
  require ((store.optIns.get? ref).any OptIn.enabled = true) (.contractError "capture_disabled"
    "capture is off for this workflow; opt in first" ref)
  let workflow ← fetch (store.workflows.get? ref) (.contractError "unknown_workflow"
    "no local enrollment for this workflow" ref)
  pure (ref, workflow)

/-! ## Recording -/

/-- The arguments of `record_transition`. -/
structure Recording (F : Type) where
  kind : Json F
  value : Json F
  effectiveDay : Json F
  stage : Json F
  eventRef : Json F
  evidence : Json F

/-- The stage of a new event. -/
def recordedStage (applicable : List Stage) (kind : Kind) (value : Value) (stage : Json F) :
    Except Fault (Option Stage) :=
  if kind = .stage then do
    let named ← fetch (readOne stages stage)
      (.contractError "invalid_stage" "a stage event needs an allowlisted stage" "stage")
    require (named ∈ applicable) (.contractError "stage_not_applicable"
      "not-applicable stages are chosen at start" "stage")
    refuse (value = .notApplicable) (.contractError "applicability_conflict"
      "an applicable stage cannot be not_applicable" "value")
    pure (some named)
  else
    match stage with
    | .null => .ok none
    | _ => .error (.contractError "unexpected_stage" "only a stage event carries a stage" "stage")

/-- The evidence of a new event: an acceptance has a category, no other event one. -/
def recordedEvidence (kind : Kind) (value : Value) (evidence : Json F) :
    Except Fault (Option Evidence) :=
  if kind = .acceptance then do
    let given : Json F := if truthy evidence = true then evidence else .word Evidence.none
    let category ← fetch (readOne acceptanceEvidence given) (.contractError "invalid_enum"
      "acceptance evidence is not an allowlisted value" "evidence")
    refuse (value = .notAssessed ∧ category ≠ .none) (.contractError "invalid_evidence"
      "an unassessed acceptance carries no evidence category" "evidence")
    refuse (value.isIndependent = true ∧ category = .none) (.contractError "evidence_required"
      "an independently attested acceptance needs a local evidence category" "evidence")
    pure (some category)
  else
    match evidence with
    | .null => .ok none
    | _ => .error (.contractError "unexpected_evidence"
        "only an acceptance event carries an evidence category" "evidence")

/-- A given reference, which no recorded event has, or the drawn one. -/
def recordedRef (recorded : List RecordedEvent) (eventRef : Json F) (drawn : RandomRef "evt-") :
    Except Fault String :=
  match eventRef with
  | .null => .ok drawn.text
  | _ => do
      let ref ← parseRef eventRef "event_ref" "evt-"
      refuse (∃ other ∈ recorded, other.eventRef = ref)
        (.contractError "duplicate_event_ref" "event_ref repeats" "event_ref")
      pure ref

/-- The recorded events beside a new one: one value a slot, one terminal outcome, and no
observation after it. -/
def checkHistory (recorded : List RecordedEvent) (kind : Kind) (value : Value) (effective : Day)
    (stage : Option Stage) : Except Fault Unit := do
  let conflict := recorded.any fun other =>
    other.kind = kind && other.effectiveDay = effective && other.value ≠ value &&
      (kind ≠ .stage || other.stage = stage)
  refuse (conflict = true ∧ kind = .status) (.contractError "conflicting_terminal_same_day"
    "same-day terminal transitions conflict" "value")
  refuse (conflict = true) (.contractError "conflicting_same_day_transition"
    "one value per kind or stage per day is allowed" "value")
  let terminal := recorded.filter fun event => event.kind = .status
  refuse (kind = .status ∧ terminal.getLast?.any (fun event =>
      (event.value, event.effectiveDay) ≠ (value, effective)) = true)
    (.contractError "conflicting_terminal" "a terminal outcome is already recorded" "value")
  refuse (kind = .observation ∧ terminal.any (fun other => other.effectiveDay < effective) = true)
    (.contractError "observation_after_terminal" "a terminal outcome needs no further observation"
      "effective_day")
  refuse (kind = .status ∧ recorded.any (fun other =>
      other.kind = .observation && effective < other.effectiveDay) = true)
    (.contractError "observation_after_terminal"
      "a terminal outcome cannot precede a recorded observation" "effective_day")

/-- The checks of `record_transition`; the new event is returned. -/
def reviewRecording (workflow : Workflow) (call : Recording F) (drawn : RandomRef "evt-") :
    Except Fault RecordedEvent := do
  let kind ← fetch (readOne eventKinds call.kind)
    (.contractError "invalid_enum" "event kind is not allowlisted" "kind")
  let value ← fetch (readOne (eventValues kind) call.value)
    (.contractError "invalid_enum" "event value is not allowlisted for this kind" "value")
  let effective ← parseDay call.effectiveDay "effective_day"
  refuse (effective < workflow.startDay) (.contractError "event_before_start"
    "an event cannot precede start_day" "effective_day")
  let stage ← recordedStage workflow.applicableStages kind value call.stage
  let evidence ← recordedEvidence kind value call.evidence
  refuse (maxTransitions ≤ workflow.transitions.length) (.contractError "too_many_transitions"
    "at most 256 transitions per snapshot" "transitions")
  let ref ← recordedRef workflow.transitions call.eventRef drawn
  checkHistory workflow.transitions kind value effective stage
  pure ⟨⟨ref, kind, effective, value, stage⟩, evidence⟩

/-- The evidence of the latest acceptance, by day and reference. -/
def latestEvidence (recorded : List RecordedEvent) : Evidence :=
  (((recorded.filter fun event => event.kind = .acceptance).argmax
    fun event => event.toEvent.order).bind RecordedEvent.evidence).getD .none

/-- The workflow with one more event. -/
def Workflow.append (workflow : Workflow) (event : RecordedEvent) (exportRef : String) : Workflow :=
  { workflow with
    transitions := workflow.transitions ++ [event]
    acceptanceEvidence := if event.kind = .acceptance then
        latestEvidence (workflow.transitions ++ [event])
      else workflow.acceptanceEvidence
    revision := workflow.revision + 1
    exportRef := some exportRef
    lastObservedDay := match workflow.lastObservedDay with
      | none => some event.effectiveDay
      | some last => if last < event.effectiveDay then some event.effectiveDay else some last }

/-- `record_transition`. -/
def recordTransition (store : LocalStore) (workflowRef : Json F) (call : Recording F)
    (drawn : RandomRef "evt-") (drawnExport : RandomRef "exp-") :
    Except Fault (RecordedEvent × LocalStore) := do
  let (ref, workflow) ← requireEnabled store workflowRef
  let event ← reviewRecording workflow call drawn
  pure (event, store.putWorkflow ref (workflow.append event drawnExport.text))

/-! ## Admission -/

/-- The workflow with an admission; a new one takes a revision of its own. -/
def Workflow.attach (workflow : Workflow) (admissionRef exportRef : String) : Workflow :=
  if workflow.admissionRef = some admissionRef then workflow
  else { workflow with
    admissionRef := some admissionRef
    revision := workflow.revision + 1
    exportRef := some exportRef }

/-- The command `attach-admission`. -/
def attachAdmission (store : LocalStore) (workflowRef admissionRef : Json F)
    (drawnExport : RandomRef "exp-") : Except Fault LocalStore := do
  let (ref, workflow) ← requireEnabled store workflowRef
  let attached ← parseRef admissionRef "admission_ref" "adm-"
  pure (store.putWorkflow ref (workflow.attach attached drawnExport.text))

/-- The start notice of a workflow. -/
def Workflow.notice (workflow : Workflow) : Json F :=
  .dict [("workflow_ref", .str workflow.workflowRef), ("start_day", dayJson workflow.startDay),
    ("applicable_stages", .array (workflow.applicableStages.map Json.word)),
    ("criteria_frozen_before_work", .bool workflow.criteriaFrozenBeforeWork),
    ("criteria_contract_ref", .str workflow.criteriaContractRef)]

/-- The command `notice`. -/
def startNotice (store : LocalStore) (workflowRef : Json F) : Except Fault (Json F) := do
  let (_, workflow) ← requireEnabled store workflowRef
  pure workflow.notice

/-! ## Export -/

/-- The acceptance that wins by a day, with its evidence. -/
def recordedWinner (recorded : List RecordedEvent) (asOfDay : Day) : Option RecordedEvent :=
  (sortBy (fun event => event.toEvent.order) (recorded.filter fun event =>
    event.kind = .acceptance ∧ event.effectiveDay ≤ asOfDay)).getLast?

/-- The evidence that an export carries. -/
def Workflow.exportedEvidence (workflow : Workflow) (acceptance : Value) (last : Day) : Evidence :=
  match recordedWinner workflow.transitions last with
  | none => .none
  | some winner =>
      if acceptance = .notAssessed then .none
      else winner.evidence.getD workflow.acceptanceEvidence

/-- The history without the evidence. -/
def Workflow.events (workflow : Workflow) : List Event :=
  workflow.transitions.map RecordedEvent.toEvent

/-- The document of an export. -/
def Workflow.exportDocument (workflow : Workflow) (admissionRef : String) (last due : Day) : Json F :=
  let derived := deriveState workflow.events workflow.applicableStages last
  .dict [("schema", .str schemaName), ("library_revision", .str libraryRevision),
    ("capture_tier", .str captureTier), ("consent_policy_version", .str consentPolicyVersion),
    ("reporting_window_days", .int reportingWindowDays), ("admission_ref", .str admissionRef),
    ("snapshot", .dict [("workflow_ref", .str workflow.workflowRef),
      ("revision", .int workflow.revision),
      ("export_ref", (workflow.exportRef.map Json.str).getD .null),
      ("start_day", dayJson workflow.startDay), ("last_observed_day", dayJson last),
      ("report_due_day", dayJson due),
      ("applicable_stages", .array (workflow.applicableStages.map Json.word)),
      ("criteria_frozen_before_work", .bool workflow.criteriaFrozenBeforeWork),
      ("criteria_contract_ref", .str workflow.criteriaContractRef),
      ("stage_status", stageStatusJson derived.stageStatus),
      ("status", .word derived.status), ("acceptance", .word derived.acceptance),
      ("acceptance_evidence", .word (workflow.exportedEvidence derived.acceptance last)),
      ("delivery_day", optionalDay derived.deliveryDay),
      ("acceptance_day", optionalDay derived.acceptanceDay),
      ("transitions", .array (workflow.events.map Event.toJson))])]

/-- `build_envelope`. -/
def buildEnvelope (store : LocalStore) (workflowRef : Json F) : Except Fault (Json F) := do
  let (ref, workflow) ← requireEnabled store workflowRef
  refuse (workflow.transitions.length = 0) (.contractError "empty_snapshot"
    "record at least one transition before export" ref)
  let admissionRef ← fetch workflow.admissionRef (.contractError "missing_admission"
    "attach the steward-issued admission_ref before export" ref)
  let last ← fetch workflow.lastObservedDay (.contractError "invalid_date"
    "expected a day-precision date YYYY-MM-DD" "last_observed_day")
  let due ← addDays workflow.startDay reportingWindowDays
  let document := workflow.exportDocument admissionRef last due
  let _ ← validateEnvelope document
  pure document

end Calls

end Aegis.Usage
