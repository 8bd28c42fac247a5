/-
# Usage.CentralStore — admissions, imports, withdrawal and expiry

The steward's side of the contract: `issueAdmission` enrols a workflow,
`importExport` takes one export, `withdraw` and `expire` delete. A call returns the
store it leaves behind beside its result or its fault: `withdraw`, `expire` and a
workflow's first import may raise when they have already changed the store.

The hash is a parameter. The references and the capability that a call draws at random
are arguments.
-/
import Aegis.Lib.Registry
import Aegis.Usage.Validate

namespace Aegis.Usage

open Aegis.Lib
open Aegis.Lib.Guarded

set_option autoImplicit false

/-! ## The store -/

/-- The immutable enrollment. The fields that the contract fixes are not kept. -/
structure Enrollment where
  startDay : Day
  applicableStages : List Stage
  criteriaFrozenBeforeWork : Bool
  criteriaContractRef : String
  deriving DecidableEq

structure Admission where
  workflowRef : String
  verifier : String
  issuedDay : Day
  firstReceipt : Option Day
  expiresAt : Option Day
  enrollmentFingerprint : String
  enrollment : Enrollment
  deriving DecidableEq

structure Tombstone where
  workflowRef : String
  verifier : String
  expiredDay : Day
  deriving DecidableEq

/-- An accepted event and the day of its first receipt. -/
structure StampedEvent extends Event where
  firstReceiptDay : Day
  deriving DecidableEq

/-- The events of a record, no two of one reference. -/
structure StampedTransitions where
  events : List StampedEvent
  distinct : (events.map fun stamped => stamped.eventRef).Nodup

structure Record where
  workflowRef : String
  enrollment : Enrollment
  enrollmentFingerprint : String
  revision : Nat
  exportRef : String
  firstReceiptDay : Day
  lastReceiptDay : Day
  expiresAt : Day
  prospective : Bool
  lateEntries : Nat
  transitions : StampedTransitions
  canonicalExport : String

structure QuarantineEntry where
  receivedDay : Day
  code : String
  message : String
  workflowRef : String
  revision : Nat
  payload : String
  deriving DecidableEq

structure DeletionReceipt where
  deletedDay : Day
  expiresAt : Day
  deriving DecidableEq

structure Store where
  admissions : Registry String Admission
  admissionTombstones : Registry String Tombstone
  records : Registry String Record
  quarantine : List QuarantineEntry
  expiredCohorts : Registry String Nat
  deletionReceipts : Registry String DeletionReceipt
  withdrawals : Nat
  ignored : Nat

/-- `new_store`. -/
def newStore : Store :=
  { admissions := .empty, admissionTombstones := .empty, records := .empty, quarantine := [],
    expiredCohorts := .empty, deletionReceipts := .empty, withdrawals := 0, ignored := 0 }

/-- `store["admissions"][admission_ref] = admission`. -/
def Store.putAdmission (store : Store) (admissionRef : String) (admission : Admission) : Store :=
  { store with admissions := store.admissions.set admissionRef admission }

/-- `store["records"][workflow_ref] = record`. -/
def Store.putRecord (store : Store) (workflowRef : String) (record : Record) : Store :=
  { store with records := store.records.set workflowRef record }

def centralRetentionDays : Nat := 90

def pendingAdmissionDays : Nat := 7

def deletionReceiptDays : Nat := 7

def quarantineDays : Nat := 90

def prospectiveStartDays : Nat := 7

def admissionContext : String := "aegis-admission-v1"

/-- `day(value) + timedelta(days=count)`. -/
def addDays (value : Day) (count : Nat) : Except Fault Day := fetch (value.addDays count) .overflowError

section Calls

variable {F : Type} [JsonFloat F] (sha256 : ByteArray → String)

/-- `admission_verifier`. -/
def admissionVerifier (admissionRef capability : String) : String :=
  sha256 (admissionContext ++ "|" ++ admissionRef ++ "|" ++ capability).toUTF8

/-- `enrollment_fields`, with the reporting window as the envelope has it. -/
def enrollmentFields (window : Json F) (enrollment : Enrollment) : Json F :=
  .dict [("schema", .str schemaName), ("library_revision", .str libraryRevision),
    ("capture_tier", .str captureTier), ("consent_policy_version", .str consentPolicyVersion),
    ("reporting_window_days", window), ("start_day", dayJson enrollment.startDay),
    ("applicable_stages", .array (enrollment.applicableStages.map Json.word)),
    ("criteria_frozen_before_work", .bool enrollment.criteriaFrozenBeforeWork),
    ("criteria_contract_ref", .str enrollment.criteriaContractRef)]

def fingerprintOf (window : Json F) (enrollment : Enrollment) : String :=
  sha256 (String.ofList (enrollmentFields window enrollment).canonical).toUTF8

def Envelope.enrollment (envelope : Envelope F) : Enrollment :=
  { startDay := envelope.snapshot.startDay
    applicableStages := envelope.snapshot.applicableStages
    criteriaFrozenBeforeWork := envelope.snapshot.criteriaFrozenBeforeWork
    criteriaContractRef := envelope.snapshot.criteriaContractRef }

/-- `enrollment_fingerprint`. -/
def enrollmentFingerprint (envelope : Envelope F) : String :=
  fingerprintOf sha256 envelope.reportingWindowDays envelope.enrollment

/-! ## Admission -/

/-- The stages of a start notice. -/
def noticeStages (notice : Json F) : Except Fault (List Stage) :=
  match notice.getD "applicable_stages" .null with
  | .null => .ok stages
  | .array (item :: items) => do
      let fault : Fault := .contractError "invalid_stages"
        "applicable_stages must be an ordered subset of the five stages" "applicable_stages"
      let named ← fetch ((item :: items).mapM (readOne stages)) fault
      require (stages.filter (· ∈ named) = named) fault
      pure named
  | _ => .error (.contractError "invalid_stages" "applicable_stages needs at least one stage"
      "applicable_stages")

structure IssuedAdmission where
  admissionRef : String
  capability : String
  enrollmentFingerprint : String

/-- The checks of `issue_admission`: the workflow, the day of issue and the enrollment. -/
def reviewNotice (store : Store) (notice issuedDay : Json F) :
    Except Fault (String × Day × Enrollment) := do
  require (notice.isObject = true)
    (.contractError "notice_unreadable" "the start notice must be a JSON object" "notice")
  let issued ← parseDay issuedDay "day"
  let start ← parseDay (notice.getD "start_day" .null) "start_day"
  refuse (issued < start) (.contractError "start_in_future"
    "a start cannot follow its acknowledgement" "start_day")
  let earliest ← fetch (issued.subDays prospectiveStartDays) .overflowError
  refuse (start < earliest) (.contractError "start_outside_window"
    "a prospective start is at most seven days old" "start_day")
  let workflowRef ← parseRef (notice.getD "workflow_ref" .null) "workflow_ref" "wf-"
  refuse ((store.records.get? workflowRef).isSome = true) (.contractError "already_enrolled"
    "this workflow already has a central record" "workflow_ref")
  refuse (∃ existing ∈ store.admissions.values, existing.workflowRef = workflowRef)
    (.contractError "admission_exists" "an active admission already covers this workflow"
      "workflow_ref")
  let applicable ← noticeStages notice
  let frozen ← checkBool (notice.getD "criteria_frozen_before_work" .null) (.contractError
    "invalid_type" "criteria_frozen_before_work must be boolean" "criteria_frozen_before_work")
  let contractRef ← parseRef (notice.getD "criteria_contract_ref" .null) "criteria_contract_ref" "crit-"
  pure (workflowRef, issued, ⟨start, applicable, frozen, contractRef⟩)

/-- `issue_admission`, drawing the reference and the capability. -/
def issueAdmission (store : Store) (notice issuedDay : Json F) (admissionRef capability : String) :
    Store × Except Fault IssuedAdmission :=
  match reviewNotice store notice issuedDay with
  | .error fault => (store, .error fault)
  | .ok (workflowRef, issued, enrollment) =>
      let fingerprint := fingerprintOf (F := F) sha256 (.int reportingWindowDays) enrollment
      let admission : Admission :=
        { workflowRef, verifier := admissionVerifier sha256 admissionRef capability,
          issuedDay := issued, firstReceipt := none, expiresAt := none,
          enrollmentFingerprint := fingerprint, enrollment }
      (store.putAdmission admissionRef admission, .ok ⟨admissionRef, capability, fingerprint⟩)

def badCapability : Fault :=
  .contractError "bad_capability" "the admission capability does not verify" "capability"

def unknownAdmission : Fault :=
  .contractError "unknown_admission" "no active admission for this reference" "admission_ref"

/-- The capability verifies against a stored verifier. -/
def verifies (admissionRef : String) (capability : Json F) (verifier : String) : Bool :=
  match capability with
  | .str text => admissionVerifier sha256 admissionRef text == verifier
  | _ => false

/-- The workflow and the verifier of an admission, or else of a tombstone. -/
def identityOf (store : Store) (admissionRef : String) : Option (String × String) :=
  match store.admissions.get? admissionRef with
  | some admission => some (admission.workflowRef, admission.verifier)
  | none => (store.admissionTombstones.get? admissionRef).map fun tombstone =>
      (tombstone.workflowRef, tombstone.verifier)

/-- `_verify_capability`; the workflow of the admission is returned. -/
def verifyCapability (store : Store) (admissionRef capability : Json F) : Except Fault String :=
  match admissionRef with
  | .str ref => do
      let (workflowRef, verifier) ← fetch (identityOf store ref) unknownAdmission
      require (verifies sha256 ref capability verifier = true) badCapability
      pure workflowRef
  | _ => .error unknownAdmission

/-- The admission is still valid on a day. -/
def checkValidity (admission : Admission) (today : Day) : Except Fault Unit :=
  match admission.expiresAt with
  | some expiry =>
      refuse (expiry < today) (.contractError "expired_admission"
        "the admission reached its 90-day expiry" "admission_ref")
  | none => do
      let pending ← addDays admission.issuedDay pendingAdmissionDays
      refuse (pending < today) (.contractError "expired_admission"
        "an unacknowledged admission expires in seven days" "admission_ref")

/-- `_require_admission`. -/
def requireAdmission (store : Store) (admissionRef : String) (capability receiptDay : Json F) :
    Except Fault (Admission × Day) := do
  let admission ← fetch (store.admissions.get? admissionRef) unknownAdmission
  require (verifies sha256 admissionRef capability admission.verifier = true) badCapability
  let today ← parseDay receiptDay "day"
  checkValidity admission today
  pure (admission, today)

/-! ## Import -/

inductive ImportResult
  | accepted (revision : Nat) (prospective : Bool) (firstReceipt : Day)
  | updated (revision : Nat) (firstReceipt : Day)
  | duplicate (revision : Nat)
  | ignored (revision storedRevision : Nat)
  | quarantined (code : String) (revision : Nat)
  deriving DecidableEq

/-- What is imported: bytes, a document, or an object that is no JSON value. -/
inductive Payload (F : Type)
  | bytes (raw : ByteArray)
  | document (value : Json F)
  | other

/-- The bytes that are imported. -/
def Payload.raw : Payload F → Except Fault ByteArray
  | .bytes raw => .ok raw
  | .document value => .ok (canonicalBytes value)
  | .other => .error .typeError

/-- An export that passed the checks before its fingerprint is compared. -/
structure Received (F : Type) where
  document : Json F
  envelope : Envelope F
  admission : Admission
  today : Day

/-- The checks of `import_export` up to the fingerprint. -/
def receive (store : Store) (payload : Payload F) (capability receiptDay : Json F) :
    Except Fault (Received F) := do
  let raw ← payload.raw
  let document ← loadsStrict raw
  let envelope ← validateEnvelope document
  let (admission, today) ← requireAdmission sha256 store envelope.admissionRef capability receiptDay
  require (admission.workflowRef = envelope.snapshot.workflowRef) (.contractError
    "admission_mismatch" "the admission names a different workflow" "workflow_ref")
  refuse (today < admission.issuedDay) (.contractError "receipt_before_issue"
    "an export cannot be received before its admission was issued" "day")
  require (∀ event ∈ envelope.snapshot.transitions.events, event.effectiveDay ≤ today)
    (.contractError "event_after_receipt"
      "an event cannot be effective after the day its export was received" "snapshot.transitions")
  pure ⟨document, envelope, admission, today⟩

/-- `_quarantine`. -/
def quarantineExport (store : Store) (received : Received F) (code message : String) :
    Store × Except Fault ImportResult :=
  let entry : QuarantineEntry :=
    { receivedDay := received.today, code, message,
      workflowRef := received.envelope.snapshot.workflowRef,
      revision := received.envelope.snapshot.revision,
      payload := canonicalText received.document }
  ({ store with quarantine := store.quarantine ++ [entry] },
    .ok (.quarantined code received.envelope.snapshot.revision))

/-- `_stamp`. -/
def stamp (event : Event) (receiptDay : Day) : StampedEvent := ⟨event, receiptDay⟩

/-- The transitions of a snapshot, each with the day that `day` gives it. -/
def stampAll (transitions : Transitions) (day : Event → Day) : StampedTransitions :=
  ⟨transitions.events.map fun event => stamp event (day event), by
    rw [List.map_map]
    exact transitions.distinct⟩

/-- The admission after its first receipt; an expiry past the last day is not set. -/
def noted (received : Received F) : Admission :=
  { received.admission with
    firstReceipt := some received.today
    expiresAt := received.today.addDays centralRetentionDays <|> received.admission.expiresAt }

/-- The first receipt under an admission starts its retention; the day on which the record
expires is returned. The receipt is noted before the expiry is computed. -/
def acknowledge (store : Store) (received : Received F) : Store × Except Fault Day :=
  let expiry := received.today.addDays centralRetentionDays
  match received.admission.firstReceipt with
  | some _ => (store, fetch (received.admission.expiresAt <|> expiry) .overflowError)
  | none => (store.putAdmission received.envelope.admissionRef (noted received),
      fetch expiry .overflowError)

/-- The record that the first export of a workflow makes. -/
def firstRecord (received : Received F) (prospective : Bool) (expiresAt : Day) : Record :=
  { workflowRef := received.envelope.snapshot.workflowRef
    enrollment := received.admission.enrollment
    enrollmentFingerprint := enrollmentFingerprint sha256 received.envelope
    revision := received.envelope.snapshot.revision
    exportRef := received.envelope.snapshot.exportRef
    firstReceiptDay := received.today
    lastReceiptDay := received.today
    expiresAt
    prospective
    lateEntries := 0
    transitions := stampAll received.envelope.snapshot.transitions fun _ => received.today
    canonicalExport := canonicalText received.document }

/-- An export of a workflow without a record. -/
def importFirst (store : Store) (received : Received F) : Store × Except Fault ImportResult :=
  let snapshot := received.envelope.snapshot
  match addDays snapshot.startDay pendingAdmissionDays with
  | .error fault => (store, .error fault)
  | .ok lastStart =>
      let prospective := !decide (lastStart < received.today)
      match acknowledge store received with
      | (store, .error fault) => (store, .error fault)
      | (store, .ok expiresAt) =>
          let record := firstRecord sha256 received prospective expiresAt
          (store.putRecord snapshot.workflowRef record,
            .ok (.accepted snapshot.revision prospective received.today))

/-- What a higher revision does to the accepted events. -/
inductive Rewrite
  | removed
  | changed
  | kept
  deriving DecidableEq

/-- The first accepted event that a snapshot lacks or tells otherwise. -/
def rewriteOf (accepted : List StampedEvent) (incoming : List Event) : Rewrite :=
  match accepted with
  | [] => .kept
  | stored :: rest =>
      match incoming.find? fun event => event.eventRef = stored.eventRef with
      | none => .removed
      | some candidate => if candidate = stored.toEvent then rewriteOf rest incoming else .changed

/-- The day of an event's first receipt: the stored one, or that of this receipt. -/
def firstReceiptOf (accepted : List StampedEvent) (today : Day) (event : Event) : Day :=
  ((accepted.find? fun stored => stored.eventRef = event.eventRef).map
    StampedEvent.firstReceiptDay).getD today

/-- The record after a higher revision. -/
def updatedRecord (record : Record) (received : Received F) (closeDay : Day) : Record :=
  { record with
    transitions := stampAll received.envelope.snapshot.transitions
      (firstReceiptOf record.transitions.events received.today)
    revision := received.envelope.snapshot.revision
    exportRef := received.envelope.snapshot.exportRef
    lastReceiptDay := received.today
    canonicalExport := canonicalText received.document
    lateEntries := if closeDay < received.today then record.lateEntries + 1 else record.lateEntries }

/-- A higher revision of a record. -/
def importRevision (store : Store) (record : Record) (received : Received F) :
    Store × Except Fault ImportResult :=
  let snapshot := received.envelope.snapshot
  match rewriteOf record.transitions.events snapshot.transitions.events with
  | .removed => quarantineExport store received "history_rewrite"
      "an accepted event was removed by a higher revision"
  | .changed => quarantineExport store received "history_rewrite"
      "an accepted event was changed by a higher revision"
  | .kept =>
      match addDays record.enrollment.startDay (reportingWindowDays + lagDays) with
      | .error fault => (store, .error fault)
      | .ok closeDay =>
          let updated := updatedRecord record received closeDay
          (store.putRecord snapshot.workflowRef updated,
            .ok (.updated snapshot.revision record.firstReceiptDay))

/-- An export of a workflow that has a record. -/
def importLater (store : Store) (record : Record) (received : Received F) :
    Store × Except Fault ImportResult :=
  let revision := received.envelope.snapshot.revision
  if received.today < record.lastReceiptDay then
    (store, .error (.contractError "receipt_day_regression"
      "a received export cannot predate the record's last receipt" "day"))
  else if record.enrollmentFingerprint ≠ enrollmentFingerprint sha256 received.envelope then
    quarantineExport store received "enrollment_change"
      "a later revision altered immutable enrollment"
  else if revision < record.revision then
    ({ store with ignored := store.ignored + 1 }, .ok (.ignored revision record.revision))
  else if revision = record.revision then
    if record.canonicalExport = canonicalText received.document then
      (store, .ok (.duplicate revision))
    else
      quarantineExport store received "conflicting_revision"
        "the same revision carries different bytes"
  else importRevision store record received

/-- `import_export`. -/
def importExport (store : Store) (payload : Payload F) (capability receiptDay : Json F) :
    Store × Except Fault ImportResult :=
  match receive sha256 store payload capability receiptDay with
  | .error fault => (store, .error fault)
  | .ok received =>
      if enrollmentFingerprint sha256 received.envelope ≠ received.admission.enrollmentFingerprint then
        quarantineExport store received "enrollment_change"
          "the immutable enrollment fields differ from the acknowledged enrollment"
      else
        match store.records.get? received.envelope.snapshot.workflowRef with
        | none => importFirst sha256 store received
        | some record => importLater sha256 store record received

/-! ## Withdrawal -/

structure WithdrawResult where
  receiptId : String
  deletedRecords : Nat
  rawRows : Nat
  receivedDay : Day
  deriving DecidableEq

/-- The store without the records, the quarantine, the admissions and the tombstones of a
workflow. -/
def forget (store : Store) (workflowRef : String) : Store :=
  { store with
    records := store.records.erase workflowRef
    quarantine := store.quarantine.filter fun entry => entry.workflowRef ≠ workflowRef
    admissions := store.admissions.filter fun _ admission => admission.workflowRef ≠ workflowRef
    admissionTombstones := store.admissionTombstones.filter fun _ tombstone =>
      tombstone.workflowRef ≠ workflowRef }

/-- The decision day and the day on which its receipt expires. -/
def receiptDays (decisionDay : Json F) : Except Fault (Day × Day) := do
  let decided ← parseDay decisionDay "day"
  let expiry ← addDays decided deletionReceiptDays
  pure (decided, expiry)

/-- `withdraw`, drawing the id of the receipt. Everything is deleted before the decision day
is read. -/
def withdraw (store : Store) (admissionRef capability decisionDay : Json F) (receiptId : String) :
    Store × Except Fault WithdrawResult :=
  match verifyCapability sha256 store admissionRef capability with
  | .error fault => (store, .error fault)
  | .ok workflowRef =>
      let removed := if (store.records.get? workflowRef).isSome = true then 1 else 0
      let cleared := forget store workflowRef
      match receiptDays decisionDay with
      | .error fault => (cleared, .error fault)
      | .ok (decided, expiry) =>
          ({ cleared with
              deletionReceipts := cleared.deletionReceipts.set receiptId ⟨decided, expiry⟩
              withdrawals := cleared.withdrawals + 1 },
            .ok ⟨receiptId, removed, 0, decided⟩)

end Calls

/-! ## Expiry -/

/-- An admission past its expiry leaves a tombstone. -/
def bury (store : Store) (admissionRef : String) (admission : Admission) (expired : Day) : Store :=
  { store with
    admissionTombstones := store.admissionTombstones.set admissionRef
      ⟨admission.workflowRef, admission.verifier, expired⟩
    admissions := store.admissions.erase admissionRef }

/-- The day after which an admission is expired. -/
def lastValidDay (admission : Admission) : Except Fault Day :=
  match admission.expiresAt with
  | some expiry => .ok expiry
  | none => addDays admission.issuedDay pendingAdmissionDays

/-- The loop over the admissions; the expired ones are counted. -/
def expireAdmissions (now : Day) (store : Store) (removed : Nat) :
    List (String × Admission) → Store × Except Fault Nat
  | [] => (store, .ok removed)
  | (ref, admission) :: rest =>
      match lastValidDay admission with
      | .error fault => (store, .error fault)
      | .ok expiry =>
          if expiry < now then expireAdmissions now (bury store ref admission expiry) (removed + 1) rest
          else expireAdmissions now store removed rest

/-- `day[:7]`. -/
def monthOf (day : Day) : String := String.ofList (day.text.toList.take 7)

/-- The expired records leave a count of their month. -/
def expireRecords (now : Day) (store : Store) : Store × Nat :=
  let expired := store.records.values.filter fun record => decide (record.expiresAt < now)
  ({ store with
      records := store.records.filter fun _ record => !decide (record.expiresAt < now)
      expiredCohorts := expired.foldl (fun cohorts record =>
        let month := monthOf record.enrollment.startDay
        cohorts.set month ((cohorts.get? month).getD 0 + 1)) store.expiredCohorts },
    expired.length)

/-- The quarantine entries that are retained. -/
def keptQuarantine (now : Day) (entries : List QuarantineEntry) :
    Except Fault (List QuarantineEntry) := do
  let expiries ← entries.mapM fun entry => addDays entry.receivedDay quarantineDays
  pure (((entries.zip expiries).filter fun pair => decide (now ≤ pair.2)).map Prod.fst)

/-- The workflows that a record or a quarantine entry is about. -/
def linked (store : Store) : List String :=
  store.records.rows.map Prod.fst ++ store.quarantine.map QuarantineEntry.workflowRef

structure ExpireResult where
  admissions : Nat
  tombstones : Nat
  records : Nat
  quarantine : Nat
  receipts : Nat
  deriving DecidableEq

/-- The deletion receipts and the unlinked tombstones go last. -/
def purge (now : Day) (store : Store) : Store :=
  { store with
    deletionReceipts := store.deletionReceipts.filter fun _ receipt =>
      !decide (receipt.expiresAt < now)
    admissionTombstones := store.admissionTombstones.filter fun _ tombstone =>
      tombstone.workflowRef ∈ linked store }

/-- `expire`. -/
def expire {F : Type} (store : Store) (today : Json F) : Store × Except Fault ExpireResult :=
  match parseDay today "day" with
  | .error fault => (store, .error fault)
  | .ok now =>
      match expireAdmissions now store 0 store.admissions.rows with
      | (store, .error fault) => (store, .error fault)
      | (store, .ok admissions) =>
          let (store, records) := expireRecords now store
          match keptQuarantine now store.quarantine with
          | .error fault => (store, .error fault)
          | .ok kept =>
              let quarantine := store.quarantine.length - kept.length
              let store := { store with quarantine := kept }
              let purged := purge now store
              (purged, .ok
                { admissions, records, quarantine
                  receipts := store.deletionReceipts.rows.length - purged.deletionReceipts.rows.length
                  tombstones := store.admissionTombstones.rows.length -
                    purged.admissionTombstones.rows.length })

end Aegis.Usage
