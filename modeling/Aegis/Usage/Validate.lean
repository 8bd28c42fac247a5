/-
# Usage.Validate — strict validation of an export

`validateEnvelope` checks a document against the contract, in the order of the source,
and returns what it says as an `Envelope`; `loadsStrict` decodes the bytes of a payload.
The first violation is raised. Decoder diagnostics inside a message are left out.
-/
import Aegis.Lib.JsonWriter
import Aegis.Usage.Contract

namespace Aegis.Usage

open Aegis.Lib
open Aegis.Lib.Guarded

set_option autoImplicit false

variable {F : Type}

/-! ## Days and references -/

/-- `DAY_RE`. A digit of another script is refused either way. -/
def isDayShaped (text : String) : Bool :=
  match text.toList with
  | [a, b, c, d, '-', e, f, '-', g, h] => [a, b, c, d, e, f, g, h].all Char.isDigit
  | _ => false

/-- `parse_day`. -/
def parseDay (value : Json F) (path : String) : Except Fault Day :=
  match value with
  | .str text =>
      if isDayShaped text = true then
        fetch (Day.parse text) (.contractError "invalid_date" "not a real calendar day" path)
      else .error (.contractError "invalid_date" "expected a day-precision date YYYY-MM-DD" path)
  | _ => .error (.contractError "invalid_date" "expected a day-precision date YYYY-MM-DD" path)

def isLowerHex (c : Char) : Bool := c.isDigit || ('a' ≤ c && c ≤ 'f')

/-- A text that `REF_RE` matches and that begins with one of its five prefixes. -/
def isRef (head text : String) : Bool :=
  text.toList.take head.length == head.toList &&
    (text.toList.drop head.length).length == 32 && (text.toList.drop head.length).all isLowerHex

/-- `parse_ref`. -/
def parseRef (value : Json F) (path head : String) : Except Fault String :=
  match value with
  | .str text =>
      if isRef head text = true then .ok text
      else .error (.contractError "invalid_ref" ("expected a random reference beginning " ++ head) path)
  | _ => .error (.contractError "invalid_ref" ("expected a random reference beginning " ++ head) path)

/-! ## The shape of a document -/

def topKeys : List String :=
  ["schema", "library_revision", "capture_tier", "consent_policy_version", "reporting_window_days",
    "admission_ref", "snapshot"]

def snapshotKeys : List String :=
  ["workflow_ref", "revision", "export_ref", "start_day", "last_observed_day", "report_due_day",
    "applicable_stages", "criteria_frozen_before_work", "criteria_contract_ref", "stage_status",
    "status", "acceptance", "acceptance_evidence", "delivery_day", "acceptance_day", "transitions"]

def transitionKeys : List String := ["event_ref", "kind", "effective_day", "value", "stage"]

def stageKeys : List String := stages.map Vocabulary.text

def contractKeyNames : List String := topKeys ++ snapshotKeys ++ transitionKeys ++ stageKeys

def forbiddenKeys : List String :=
  ["prompt", "prompts", "output", "outputs", "code", "source_code", "project", "project_name",
    "repository", "repo", "path", "file", "file_path", "filename", "url", "urls", "account",
    "account_id", "email", "name", "user", "user_id", "username", "host", "hostname", "device",
    "device_id", "machine", "ip", "ip_address", "content", "content_hash", "content_sha256",
    "sha256", "hash", "reason", "reasons", "notes", "note", "memo", "free_text", "text", "message",
    "description", "title", "comment", "comments", "ticket", "issue", "branch", "commit",
    "organization", "author", "reviewer"]

/-- `key.lower()`, where it matters: of the letters outside ASCII only the Kelvin sign
has a lower case in ASCII. -/
def lower (key : String) : String :=
  String.ofList (key.toList.map fun c => if c.toNat = 0x212a then 'k' else c.toLower)

/-- `_reported_key`. -/
def reportedKey (key : String) : String :=
  if lower key ∈ forbiddenKeys then lower key
  else if key ∈ contractKeyNames then key
  else "<key>"

def childPath (path key : String) : String :=
  if path = "" then reportedKey key else path ++ "." ++ reportedKey key

mutual

/-- `_forbidden_walk`. -/
def forbiddenWalk (path : String) (depth : Nat) : Json F → Except Fault Unit
  | .object fields => do
      refuse (maxNestingDepth < depth)
        (.contractError "invalid_nesting" "the payload nesting is too deep" path)
      forbiddenFields path depth fields
  | .array items => do
      refuse (maxNestingDepth < depth)
        (.contractError "invalid_nesting" "the payload nesting is too deep" path)
      forbiddenItems path depth 0 items
  | _ =>
      refuse (maxNestingDepth < depth)
        (.contractError "invalid_nesting" "the payload nesting is too deep" path)

def forbiddenFields (path : String) (depth : Nat) : List (String × Json F) → Except Fault Unit
  | [] => .ok ()
  | (key, value) :: fields => do
      refuse (lower key ∈ forbiddenKeys)
        (.contractError "forbidden_field" "field is never part of the contract" (childPath path key))
      forbiddenWalk (childPath path key) (depth + 1) value
      forbiddenFields path depth fields

def forbiddenItems (path : String) (depth index : Nat) : List (Json F) → Except Fault Unit
  | [] => .ok ()
  | item :: items => do
      forbiddenWalk s!"{path}[{index}]" (depth + 1) item
      forbiddenItems path depth (index + 1) items

end

/-- The keys of an object; none for another value. -/
def keysOf : Json F → List String
  | .object fields => fields.map Prod.fst
  | _ => []

/-- `_exact_keys`. -/
def exactKeys (node : Json F) (allowed : List String) (path : String) : Except Fault Unit := do
  require (node.isObject = true) (.contractError "invalid_type" "expected a JSON object" path)
  require (∀ key ∈ keysOf node, key ∈ allowed)
    (.contractError "unknown_field" "the object has field(s) outside the allowlist" path)
  let missing := sortBy id (allowed.filter fun key => key ∉ keysOf node)
  require (missing = [])
    (.contractError "missing_field" ("missing field(s): " ++ ", ".intercalate missing) path)

/-- `node[key]`, of a key that the node has. -/
def field (node : Json F) (key : String) : Json F := node.getD key .null

/-! ## Transitions -/

/-- `_unique_event_refs`, over the references seen so far. -/
def uniqueEventRefs (path : String) (seen : List String) (index : Nat) :
    List (Json F) → Except Fault Unit
  | [] => .ok ()
  | event :: rest => do
      require (event.isObject = true)
        (.contractError "invalid_type" "expected a JSON object" s!"{path}[{index}]")
      match event.get? "event_ref" with
      | some (.str ref) =>
          refuse (ref ∈ seen)
            (.contractError "duplicate_event_ref" "event_ref repeats" s!"{path}[{index}]")
          uniqueEventRefs path (ref :: seen) (index + 1) rest
      | _ => .error (.contractError "invalid_ref" "event_ref is required" s!"{path}[{index}].event_ref")

/-- The stage of an event: a stage event names an applicable stage, no other names one. -/
def checkEventStage (applicable : List Stage) (kind : Kind) (value : Value) (stage : Json F)
    (path : String) : Except Fault (Option Stage) :=
  if kind = .stage then do
    let named ← fetch (readOne stages stage)
      (.contractError "invalid_stage" "a stage event needs an allowlisted stage" (path ++ ".stage"))
    require (named ∈ applicable) (.contractError "stage_not_applicable"
      "a stage event names an inapplicable stage" (path ++ ".stage"))
    refuse (value = .notApplicable) (.contractError "applicability_conflict"
      "an applicable stage cannot be not_applicable" (path ++ ".value"))
    pure (some named)
  else
    match stage with
    | .null => .ok none
    | _ => .error (.contractError "unexpected_stage" "only a stage event carries a stage"
        (path ++ ".stage"))

/-- What an event says, apart from the events before it. -/
def checkEvent (start last : Day) (applicable : List Stage) (path : String) (event : Json F) :
    Except Fault Event := do
  exactKeys event transitionKeys path
  let eventRef ← parseRef (field event "event_ref") (path ++ ".event_ref") "evt-"
  let kind ← fetch (readOne eventKinds (field event "kind"))
    (.contractError "invalid_enum" "event kind is not allowlisted" (path ++ ".kind"))
  let effectiveDay ← parseDay (field event "effective_day") (path ++ ".effective_day")
  refuse (effectiveDay < start) (.contractError "event_before_start"
    "an event cannot precede start_day" (path ++ ".effective_day"))
  refuse (last < effectiveDay) (.contractError "event_after_last_observed"
    "an event cannot follow last_observed_day" (path ++ ".effective_day"))
  let value ← fetch (readOne (eventValues kind) (field event "value"))
    (.contractError "invalid_enum" "event value is not allowlisted for this kind" (path ++ ".value"))
  let stage ← checkEventStage applicable kind value (field event "stage") path
  pure ⟨eventRef, kind, effectiveDay, value, stage⟩

/-- Two events of one kind, or one stage, on one day. -/
def Event.sameSlot (left right : Event) : Bool :=
  left.kind = right.kind && left.effectiveDay = right.effectiveDay && left.stage = right.stage

/-- An event among the earlier ones: one value a slot, and one terminal status. The values
that earlier events have in one slot are equal, so any of them stands for the last one. -/
def checkAgainst (earlier : List Event) (event : Event) (path : String) : Except Fault Unit := do
  let conflict := earlier.any fun other => other.sameSlot event && other.value ≠ event.value
  refuse (conflict = true ∧ event.kind = .status) (.contractError "conflicting_terminal_same_day"
    "same-day terminal transitions conflict" path)
  refuse (conflict = true) (.contractError "conflicting_same_day_transition"
    "one value per kind or stage per day is allowed" (path ++ ".value"))
  let first := earlier.find? fun other => other.kind = .status
  refuse (event.kind = .status ∧ (first.any fun other => other.value ≠ event.value) = true)
    (.contractError "conflicting_terminal" "only one terminal status is permitted" path)

/-- The loop over the transitions, after the `earlier` ones. -/
def checkEvents (start last : Day) (applicable : List Stage) (earlier : List Event) :
    List (Json F) → Except Fault (List Event)
  | [] => .ok earlier
  | event :: rest => do
      let path := s!"snapshot.transitions[{earlier.length}]"
      let checked ← checkEvent start last applicable path event
      checkAgainst earlier checked path
      checkEvents start last applicable (earlier ++ [checked]) rest

/-- No observation stands after a terminal status. -/
def checkObservations (events : List Event) : Except Fault Unit :=
  forM (events.zipIdx.filter fun entry => entry.1.kind = .observation) fun entry =>
    refuse ((events.any fun other =>
        other.kind = .status && decide (other.effectiveDay < entry.1.effectiveDay)) = true)
      (.contractError "observation_after_terminal" "a terminal outcome needs no further observation"
        s!"snapshot.transitions[{entry.2}]")

theorem parseRef_eq_ok {value : Json F} {path head text : String} :
    parseRef value path head = .ok text ↔ value = .str text ∧ isRef head text = true := by
  cases value with
  | str held =>
      by_cases ref : isRef head held = true
      · simp only [parseRef, if_pos ref, Except.ok.injEq, Json.str.injEq]
        constructor
        · rintro rfl
          exact ⟨rfl, ref⟩
        · exact fun same => same.1
      · simp only [parseRef, if_neg ref, reduceCtorEq, Json.str.injEq, false_iff]
        rintro ⟨rfl, isRef⟩
        exact ref isRef
  | _ => simp [parseRef]

theorem checkEvent_ref {start last : Day} {applicable : List Stage} {path : String}
    {document : Json F} {event : Event}
    (checked : checkEvent start last applicable path document = .ok event) :
    document.get? "event_ref" = some (.str event.eventRef) := by
  unfold checkEvent at checked
  simp only [bind_eq_ok, pure_eq_ok, parseRef_eq_ok] at checked
  obtain ⟨_, _, ref, ⟨held, _⟩, _, _, _, _, _, _, _, _, _, _, _, _, rfl⟩ := checked
  unfold field Json.getD at held
  cases found : document.get? "event_ref" with
  | none =>
      rw [found] at held
      cases held
  | some value =>
      rw [found] at held
      exact congrArg some held

/-- The typed events carry the references of their documents, in order. -/
theorem checkEvents_refs {start last : Day} {applicable : List Stage} {documents : List (Json F)}
    {earlier events : List Event}
    (checked : checkEvents start last applicable earlier documents = .ok events) :
    ∃ later, events = earlier ++ later ∧
      documents.map (fun document => document.get? "event_ref") =
        later.map fun event => some (.str event.eventRef) := by
  induction documents generalizing earlier with
  | nil =>
      obtain rfl := Except.ok.inj checked
      exact ⟨[], (List.append_nil _).symm, rfl⟩
  | cons document rest ih =>
      rw [checkEvents] at checked
      simp only [bind_eq_ok] at checked
      obtain ⟨event, one, _, _, others⟩ := checked
      obtain ⟨later, rfl, refs⟩ := ih others
      refine ⟨event :: later, by rw [List.append_assoc, List.singleton_append], ?_⟩
      rw [List.map_cons, List.map_cons, checkEvent_ref one, refs]

/-- The references that were not seen twice are distinct, and not the seen ones. -/
theorem uniqueEventRefs_distinct {path : String} {documents : List (Json F)} {seen refs : List String}
    {index : Nat} (unique : uniqueEventRefs path seen index documents = .ok ())
    (named : documents.map (fun document => document.get? "event_ref") =
      refs.map fun ref => some (.str ref)) :
    refs.Nodup ∧ ∀ ref ∈ refs, ref ∉ seen := by
  induction documents generalizing seen refs index with
  | nil =>
      obtain rfl : refs = [] := by simpa using named.symm
      simp
  | cons document rest ih =>
      cases refs with
      | nil => simp at named
      | cons ref refs =>
          rw [List.map_cons, List.map_cons, List.cons.injEq] at named
          rw [uniqueEventRefs, bind_eq_ok] at unique
          obtain ⟨_, _, unique⟩ := unique
          rw [named.1] at unique
          simp only [bind_eq_ok, refuse_eq_ok] at unique
          obtain ⟨_, fresh, later⟩ := unique
          obtain ⟨distinct, apart⟩ := ih later named.2
          refine ⟨List.nodup_cons.mpr ⟨fun again => ?_, distinct⟩, ?_⟩
          · exact apart ref again (List.mem_cons_self ..)
          · intro other member
            rcases List.mem_cons.mp member with rfl | deep
            · exact fresh
            · exact fun inSeen => apart other deep (List.mem_cons_of_mem _ inSeen)

theorem distinct_of_checked {start last : Day} {applicable : List Stage} {documents : List (Json F)}
    {path : String} {events : List Event}
    (unique : uniqueEventRefs path [] 0 documents = .ok ())
    (checked : checkEvents start last applicable [] documents = .ok events) :
    (events.map Event.eventRef).Nodup := by
  obtain ⟨later, same, refs⟩ := checkEvents_refs checked
  rw [List.nil_append] at same
  have named : documents.map (fun document => document.get? "event_ref") =
      (events.map Event.eventRef).map fun ref => some (.str ref) := by
    rw [refs, same, List.map_map]
    rfl
  exact (uniqueEventRefs_distinct unique named).1

/-- `snapshot["transitions"]`. -/
def checkTransitions (start last : Day) (applicable : List Stage) (transitions : Json F) :
    Except Fault Transitions :=
  match transitions with
  | .array [] => .error (.contractError "invalid_transitions" "a snapshot needs at least one transition"
      "snapshot.transitions")
  | .array documents =>
      if maxTransitions < documents.length then
        .error (.contractError "too_many_transitions" "at most 256 transitions per snapshot"
          "snapshot.transitions")
      else
        match unique : uniqueEventRefs "snapshot.transitions" [] 0 documents with
        | .error fault => .error fault
        | .ok () =>
            match checked : checkEvents start last applicable [] documents with
            | .error fault => .error fault
            | .ok events => do
                checkObservations events
                pure ⟨events, distinct_of_checked unique checked⟩
  | _ => .error (.contractError "invalid_transitions" "a snapshot needs at least one transition"
      "snapshot.transitions")

/-! ## The snapshot -/

/-- `snapshot["revision"]`. -/
def checkRevision (value : Json F) : Except Fault Nat :=
  match value with
  | .int revision =>
      if 1 ≤ revision then .ok revision.toNat
      else .error (.contractError "invalid_revision" "revision must be a positive integer"
        "snapshot.revision")
  | _ => .error (.contractError "invalid_revision" "revision must be a positive integer"
      "snapshot.revision")

/-- The start day, the last observed day and the day the report is due. -/
def checkPeriod (snapshot : Json F) : Except Fault (Day × Day × Day) := do
  let start ← parseDay (field snapshot "start_day") "snapshot.start_day"
  let last ← parseDay (field snapshot "last_observed_day") "snapshot.last_observed_day"
  let due ← parseDay (field snapshot "report_due_day") "snapshot.report_due_day"
  let expected ← fetch (start.addDays reportingWindowDays) .overflowError
  refuse (due ≠ expected) (.contractError "invalid_report_due_day"
    "report_due_day must be start_day + 30 days" "snapshot.report_due_day")
  refuse (last < start) (.contractError "invalid_last_observed_day"
    "last_observed_day precedes start_day" "snapshot.last_observed_day")
  pure (start, last, due)

def checkBool (value : Json F) (fault : Fault) : Except Fault Bool :=
  match value with
  | .bool flag => .ok flag
  | _ => .error fault

/-- A non-empty list of stages. -/
def readStages : Json F → Option (List Stage)
  | .array [] => none
  | .array items => items.mapM (readOne stages)
  | _ => none

/-- `snapshot["applicable_stages"]`. -/
def checkStages (value : Json F) : Except Fault (List Stage) := do
  let applicable ← fetch (readStages value) (.contractError "invalid_stages"
    "applicable_stages must be a non-empty subset of the five stages" "snapshot.applicable_stages")
  require applicable.Nodup (.contractError "invalid_stages" "applicable_stages repeats a stage"
    "snapshot.applicable_stages")
  require (stages.filter (· ∈ applicable) = applicable) (.contractError "invalid_stages"
    "applicable_stages must follow the fixed stage order" "snapshot.applicable_stages")
  pure applicable

/-- The status of one stage, which says whether the stage applies. -/
def checkStageStatus (applicable : List Stage) (stageStatus : Json F) (stage : Stage) :
    Except Fault Value := do
  let path := "snapshot.stage_status." ++ Vocabulary.text stage
  let value ← fetch (readOne stageStatuses (field stageStatus (Vocabulary.text stage)))
    (.contractError "invalid_enum" "stage status is not an allowlisted value" path)
  refuse (stage ∈ applicable ∧ value = .notApplicable) (.contractError "applicability_conflict"
    "an applicable stage cannot be not_applicable" path)
  refuse (stage ∉ applicable ∧ value ≠ .notApplicable) (.contractError "applicability_conflict"
    "an inapplicable stage must be not_applicable" path)
  pure value

/-- The status, the acceptance and its evidence. -/
def checkOutcome (snapshot : Json F) : Except Fault (Value × Value × Evidence) := do
  let status ← fetch (readOne statuses (field snapshot "status"))
    (.contractError "invalid_enum" "status is not an allowlisted value" "snapshot.status")
  let acceptance ← fetch (readOne acceptanceValues (field snapshot "acceptance"))
    (.contractError "invalid_enum" "acceptance is not an allowlisted value" "snapshot.acceptance")
  let evidence ← fetch (readOne acceptanceEvidence (field snapshot "acceptance_evidence"))
    (.contractError "invalid_enum" "acceptance_evidence is not an allowlisted value"
      "snapshot.acceptance_evidence")
  refuse (acceptance = .notAssessed ∧ evidence ≠ .none) (.contractError "invalid_evidence"
    "an unassessed acceptance carries no evidence category" "snapshot.acceptance_evidence")
  refuse (acceptance.isIndependent = true ∧ evidence = .none) (.contractError "evidence_required"
    "an independently attested acceptance needs a local evidence category"
    "snapshot.acceptance_evidence")
  pure (status, acceptance, evidence)

/-- A day or nothing. -/
def checkOptionalDay (snapshot : Json F) (key : String) : Except Fault (Option Day) :=
  match field snapshot key with
  | .null => .ok none
  | value => some <$> parseDay value ("snapshot." ++ key)

/-- A field of the snapshot that the transitions derive. -/
def agree {α : Type} [DecidableEq α] (claimed derived : α) (key : String) : Except Fault Unit :=
  require (claimed = derived) (.contractError "derived_mismatch"
    "snapshot field disagrees with its transition history" ("snapshot." ++ key))

/-- The derived fields agree with the history. -/
def checkDerived (snapshot : Snapshot) : Except Fault Unit := do
  let expected := deriveState snapshot.transitions.events snapshot.applicableStages
    snapshot.lastObservedDay
  agree snapshot.status expected.status "status"
  agree snapshot.deliveryDay expected.deliveryDay "delivery_day"
  agree snapshot.acceptance expected.acceptance "acceptance"
  agree snapshot.acceptanceDay expected.acceptanceDay "acceptance_day"
  require (snapshot.stageStatus = expected.stageStatus) (.contractError "derived_mismatch"
    "stage_status disagrees with its transition history" "snapshot.stage_status")
  refuse (snapshot.status = .delivered ∧ snapshot.deliveryDay = none) (.contractError
    "derived_mismatch" "a delivered outcome needs a delivery day" "snapshot.delivery_day")

/-- `payload["snapshot"]`. -/
def checkSnapshot (snapshot : Json F) : Except Fault Snapshot := do
  exactKeys snapshot snapshotKeys "snapshot"
  let workflowRef ← parseRef (field snapshot "workflow_ref") "snapshot.workflow_ref" "wf-"
  let exportRef ← parseRef (field snapshot "export_ref") "snapshot.export_ref" "exp-"
  let criteriaContractRef ←
    parseRef (field snapshot "criteria_contract_ref") "snapshot.criteria_contract_ref" "crit-"
  let revision ← checkRevision (field snapshot "revision")
  let (start, last, due) ← checkPeriod snapshot
  let frozen ← checkBool (field snapshot "criteria_frozen_before_work") (.contractError
    "invalid_type" "criteria_frozen_before_work must be boolean"
    "snapshot.criteria_frozen_before_work")
  let applicable ← checkStages (field snapshot "applicable_stages")
  exactKeys (field snapshot "stage_status") stageKeys "snapshot.stage_status"
  let stageStatus ← stages.mapM (checkStageStatus applicable (field snapshot "stage_status"))
  let (status, acceptance, evidence) ← checkOutcome snapshot
  let deliveryDay ← checkOptionalDay snapshot "delivery_day"
  let acceptanceDay ← checkOptionalDay snapshot "acceptance_day"
  let transitions ← checkTransitions start last applicable (field snapshot "transitions")
  let checked : Snapshot :=
    { workflowRef, revision, exportRef, startDay := start, lastObservedDay := last,
      reportDueDay := due, applicableStages := applicable, criteriaFrozenBeforeWork := frozen,
      criteriaContractRef, stageStatus, status, acceptance, acceptanceEvidence := evidence,
      deliveryDay, acceptanceDay, transitions }
  checkDerived checked
  pure checked

/-! ## The export -/

variable [JsonFloat F]

/-- The fields above the snapshot; the reference of the admission is returned. -/
def checkEpoch (payload : Json F) : Except Fault String := do
  require ((field payload "schema").same (.str schemaName) = true)
    (.contractError "unsupported_schema" "unsupported schema epoch; fail closed" "schema")
  require ((field payload "library_revision").same (.str libraryRevision) = true)
    (.contractError "unknown_library_revision" "library revision is not a shipped value"
      "library_revision")
  require ((field payload "capture_tier").same (.str captureTier) = true)
    (.contractError "unsupported_capture_tier" "only self_report capture exists" "capture_tier")
  require ((field payload "consent_policy_version").same (.str consentPolicyVersion) = true)
    (.contractError "unknown_consent_policy" "consent policy version is not known"
      "consent_policy_version")
  require ((field payload "reporting_window_days").same (.int reportingWindowDays) = true)
    (.contractError "invalid_horizon" "the reporting horizon is fixed at 30 days"
      "reporting_window_days")
  parseRef (field payload "admission_ref") "admission_ref" "adm-"

/-- `validate_envelope`. -/
def validateEnvelope (payload : Json F) : Except Fault (Envelope F) := do
  require (payload.isObject = true)
    (.contractError "invalid_type" "the export must be a JSON object" "")
  forbiddenWalk "" 0 payload
  exactKeys payload topKeys ""
  let admissionRef ← checkEpoch payload
  let snapshot ← checkSnapshot (field payload "snapshot")
  refuse (maxSnapshotBytes < (canonicalBytes payload).size)
    (.contractError "oversize" "snapshot exceeds the 64 KiB bound" "")
  pure ⟨field payload "reporting_window_days", admissionRef, snapshot⟩

/-! ## Decoding -/

mutual

/-- How deep the values of a value lie. -/
def nesting : Json F → Nat
  | .array items => nestingItems items
  | .object fields => nestingFields fields
  | _ => 0

def nestingItems : List (Json F) → Nat
  | [] => 0
  | item :: items => max (nesting item + 1) (nestingItems items)

def nestingFields : List (String × Json F) → Nat
  | [] => 0
  | (_, value) :: fields => max (nesting value + 1) (nestingFields fields)

end

def malformedJson : Fault := .contractError "malformed_json" "payload is not valid JSON" ""

def duplicateKey : Fault := .contractError "duplicate_key" "a JSON object repeats a key" ""

/-- `loads_strict`. -/
def loadsStrict (raw : ByteArray) : Except Fault (Json F) := do
  refuse (maxSnapshotBytes < raw.size)
    (.contractError "oversize" "payload exceeds the 64 KiB bound" "")
  let text ← fetch (String.fromUTF8? raw) (.contractError "invalid_encoding" "payload is not UTF-8" "")
  let parsed ← Json.decode malformedJson (Json.uniqueKeys duplicateKey) text.toList
  refuse (maxNestingDepth < nesting parsed)
    (.contractError "invalid_nesting" "the payload nesting is too deep" "")
  pure parsed

end Aegis.Usage
