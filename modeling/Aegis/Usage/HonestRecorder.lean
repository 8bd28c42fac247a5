/-
# Usage.HonestRecorder — exports of one history, imported in any order

An admission is issued from the workflow's own notice and attached; exports taken along the
recordings that follow are imported in any order and any number of times.
`Imported` says what the central store holds in between: the record is the export with the
highest revision so far. Every import is accepted, updates, is a duplicate or is ignored.
-/
import Aegis.Usage.RecorderRuns
import Aegis.Usage.Withdrawal

namespace Aegis.Usage

open Aegis.Lib
open Aegis.Lib.Guarded
open Aegis.Lib.Runs

set_option autoImplicit false

variable {F : Type} [JsonFloat F] {sha256 : ByteArray → String}

/-! ## The admission -/

/-- The enrollment that a workflow announces. -/
def Workflow.enrollment (workflow : Workflow) : Enrollment :=
  ⟨workflow.startDay, workflow.applicableStages, workflow.criteriaFrozenBeforeWork,
    workflow.criteriaContractRef⟩

omit [JsonFloat F] in
theorem field_notice (workflow : Workflow) {key : String} {value : Json F}
    (member : (key, value) ∈ ([("workflow_ref", .str workflow.workflowRef),
      ("start_day", dayJson workflow.startDay),
      ("applicable_stages", .array (workflow.applicableStages.map Json.word)),
      ("criteria_frozen_before_work", .bool workflow.criteriaFrozenBeforeWork),
      ("criteria_contract_ref", .str workflow.criteriaContractRef)] : List (String × Json F))) :
    (workflow.notice : Json F).getD key .null = value := by
  refine field_dict ?_ member
  have distinct : ["workflow_ref", "start_day", "applicable_stages", "criteria_frozen_before_work",
    "criteria_contract_ref"].Nodup := by decide
  exact distinct

omit [JsonFloat F] in
theorem noticeStages_notice {workflow : Workflow} {applicable : List Stage}
    (stages : workflow.applicableStages ≠ [])
    (read : noticeStages (workflow.notice : Json F) = .ok applicable) :
    applicable = workflow.applicableStages := by
  have isStages : (workflow.notice : Json F).getD "applicable_stages" .null =
      .array (workflow.applicableStages.map Json.word) := field_notice workflow (by simp)
  have words := readStages_words (F := F) stages
  unfold noticeStages at read
  rw [isStages] at read
  cases held : workflow.applicableStages.map (Json.word (F := F)) with
  | nil => exact absurd (List.map_eq_nil_iff.mp held) stages
  | cons first rest =>
      rw [held] at read words
      simp only [bind_eq_ok, fetch_eq_ok, require_eq_ok, pure_eq_ok] at read
      obtain ⟨named, all, _, _, rfl⟩ := read
      exact Option.some.inj (all.symm.trans words)

omit [JsonFloat F] in
/-- A notice is read as the enrollment of its workflow. -/
theorem reviewNotice_notice {central : Store} {workflow : Workflow} {issuedDay : Json F}
    {ref : String} {issued : Day} {enrollment : Enrollment}
    (stages : workflow.applicableStages ≠ [])
    (reviewed : reviewNotice central (workflow.notice : Json F) issuedDay =
      .ok (ref, issued, enrollment)) :
    ref = workflow.workflowRef ∧ enrollment = workflow.enrollment ∧
      parseDay issuedDay "day" = .ok issued ∧ central.records.get? ref = none := by
  have isRef : (workflow.notice : Json F).getD "workflow_ref" .null = .str workflow.workflowRef :=
    field_notice workflow (by simp)
  have isStart : (workflow.notice : Json F).getD "start_day" .null = dayJson workflow.startDay :=
    field_notice workflow (by simp)
  have isFrozen : (workflow.notice : Json F).getD "criteria_frozen_before_work" .null =
      .bool workflow.criteriaFrozenBeforeWork := field_notice workflow (by simp)
  have isContract : (workflow.notice : Json F).getD "criteria_contract_ref" .null =
      .str workflow.criteriaContractRef := field_notice workflow (by simp)
  unfold reviewNotice at reviewed
  rw [isRef, isStart, isFrozen, isContract] at reviewed
  simp only [bind_eq_ok, fetch_eq_ok, require_eq_ok, refuse_eq_ok, pure_eq_ok, parseRef_eq_ok,
    parseDay_dayJson, Json.str.injEq, Except.ok.injEq, Prod.mk.injEq] at reviewed
  obtain ⟨_, _, day, isDay, start, rfl, _, _, _, _, _, _, _, ⟨rfl, _⟩, _, absent, _, _, applicable,
    isApplicable, frozen, isBool, contract, ⟨rfl, _⟩, rfl, rfl, rfl⟩ := reviewed
  obtain rfl := noticeStages_notice stages isApplicable
  unfold checkBool at isBool
  obtain rfl := Except.ok.inj isBool
  exact ⟨rfl, rfl, isDay, by simpa using absent⟩

/-! ## Deliveries -/

/-- An export that is imported on a day. -/
structure Delivery (F : Type) where
  envelope : Envelope F
  payload : Payload F
  receiptDay : Day

namespace Delivery

def revision (delivery : Delivery F) : Nat := delivery.envelope.snapshot.revision

def events (delivery : Delivery F) : List Event := delivery.envelope.snapshot.transitions.events

end Delivery

/-- What the steward and the recorder agreed on. -/
structure Terms where
  workflowRef : String
  admissionRef : String
  capability : String
  enrollment : Enrollment
  issued : Day
  expiry : Day

/-- A delivery under the terms. -/
structure Delivery.Meets (delivery : Delivery F) (terms : Terms) : Prop where
  raw : delivery.payload.raw = .ok (canonicalBytes delivery.envelope.document)
  valid : delivery.envelope.Valid
  workflowRef : delivery.envelope.snapshot.workflowRef = terms.workflowRef
  admissionRef : delivery.envelope.admissionRef = terms.admissionRef
  enrollment : delivery.envelope.enrollment = terms.enrollment
  events : ∀ event ∈ delivery.events, event.effectiveDay ≤ delivery.receiptDay
  issued : terms.issued ≤ delivery.receiptDay
  expiry : delivery.receiptDay ≤ terms.expiry

/-- Two exports of one history. -/
structure Consistent (left right : Delivery F) : Prop where
  grows : left.revision < right.revision → left.events <+: right.events
  same : left.revision = right.revision → left.envelope.document = right.envelope.document

variable (sha256) in
/-- The fingerprint of the agreed enrollment. -/
def Terms.fingerprint (F : Type) [JsonFloat F] (terms : Terms) : String :=
  fingerprintOf (F := F) sha256 (.int reportingWindowDays) terms.enrollment

variable (sha256) in
/-- The admission of the terms. -/
structure Terms.Admits (F : Type) [JsonFloat F] (terms : Terms) (admission : Admission) : Prop where
  workflowRef : admission.workflowRef = terms.workflowRef
  verifier : admission.verifier = admissionVerifier sha256 terms.admissionRef terms.capability
  issued : admission.issuedDay = terms.issued
  fingerprint : admission.enrollmentFingerprint = terms.fingerprint sha256 F
  enrollment : admission.enrollment = terms.enrollment

theorem Delivery.Meets.fingerprint {delivery : Delivery F} {terms : Terms}
    (meets : delivery.Meets terms) :
    enrollmentFingerprint sha256 delivery.envelope = terms.fingerprint sha256 F := by
  unfold enrollmentFingerprint Terms.fingerprint
  rw [meets.valid.window, meets.enrollment]

/-- What is received of a delivery. -/
def Delivery.received (delivery : Delivery F) (admission : Admission) : Received F :=
  ⟨delivery.envelope.document, delivery.envelope, admission, delivery.receiptDay⟩

theorem receive_delivery {store : Store} {delivery : Delivery F} {terms : Terms}
    (meets : delivery.Meets terms) {admission : Admission}
    (held : store.admissions.get? terms.admissionRef = some admission)
    (admits : terms.Admits sha256 F admission)
    (valid : checkValidity admission delivery.receiptDay = .ok ()) :
    receive sha256 store delivery.payload (.str terms.capability) (dayJson delivery.receiptDay) =
      .ok (delivery.received admission) := by
  have verified : verifies sha256 terms.admissionRef (.str terms.capability : Json F)
      admission.verifier = true := by
    rw [admits.verifier]
    exact beq_self_eq_true _
  unfold receive requireAdmission
  simp only [bind_eq_ok, require_eq_ok, refuse_eq_ok, fetch_eq_ok, pure_eq_ok]
  refine ⟨_, meets.raw, _, loadsStrict_document meets.valid, _, validateEnvelope_document meets.valid,
    (admission, delivery.receiptDay), ?_, ⟨⟩, ?_, ⟨⟩, ?_, ⟨⟩, meets.events, rfl⟩
  · rw [meets.admissionRef]
    exact ⟨_, held, ⟨⟩, verified, _, parseDay_dayJson _ _, ⟨⟩, valid, rfl⟩
  · rw [admits.workflowRef, meets.workflowRef]
  · rw [admits.issued]
    exact Day.not_lt.mpr meets.issued

/-- The calls of an import after the checks. -/
theorem importExport_delivery {store : Store} {delivery : Delivery F} {terms : Terms}
    (meets : delivery.Meets terms) {admission : Admission}
    (held : store.admissions.get? terms.admissionRef = some admission)
    (admits : terms.Admits sha256 F admission)
    (valid : checkValidity admission delivery.receiptDay = .ok ()) :
    importExport sha256 store delivery.payload (.str terms.capability)
        (dayJson delivery.receiptDay) =
      match store.records.get? terms.workflowRef with
      | none => importFirst sha256 store (delivery.received admission)
      | some record => importLater sha256 store record (delivery.received admission) := by
  have same : ¬ enrollmentFingerprint sha256 (delivery.received admission).envelope ≠
      (delivery.received admission).admission.enrollmentFingerprint := by
    intro differs
    exact differs (meets.fingerprint.trans admits.fingerprint.symm)
  unfold importExport
  rw [receive_delivery meets held admits valid]
  simp only
  rw [if_neg same]
  show (match store.records.get? delivery.envelope.snapshot.workflowRef with
    | none => _ | some record => _) = _
  rw [meets.workflowRef]

/-! ## The record -/

variable (sha256) in
/-- After the deliveries `done`, the record is the export with the highest revision. -/
structure Imported (terms : Terms) (done : List (Delivery F)) (store : Store) (record : Record)
    (highest : Delivery F) : Prop where
  admission : ∃ admission, store.admissions.get? terms.admissionRef = some admission ∧
    terms.Admits sha256 F admission ∧ admission.expiresAt = some terms.expiry
  held : store.records.get? terms.workflowRef = some record
  member : highest ∈ done
  bound : ∀ delivery ∈ done, delivery.revision ≤ highest.revision
  revision : record.revision = highest.revision
  events : record.transitions.events.map StampedEvent.toEvent = highest.events
  canonicalExport : record.canonicalExport = canonicalText highest.envelope.document
  fingerprint : record.enrollmentFingerprint = terms.fingerprint sha256 F
  enrollment : record.enrollment = terms.enrollment
  lastReceipt : ∃ delivery ∈ done, record.lastReceiptDay = delivery.receiptDay

omit [JsonFloat F] in
theorem stampAll_events (transitions : Transitions) (day : Event → Day) :
    (stampAll transitions day).events.map StampedEvent.toEvent = transitions.events := by
  unfold stampAll
  rw [List.map_map]
  exact List.map_id _

/-- Accepted events that a snapshot repeats are kept. -/
theorem rewriteOf_kept {accepted : List StampedEvent} {incoming : List Event}
    (inside : ∀ stored ∈ accepted, stored.toEvent ∈ incoming)
    (distinct : (incoming.map Event.eventRef).Nodup) : rewriteOf accepted incoming = .kept := by
  induction accepted with
  | nil => rfl
  | cons stored rest ih =>
      have here := inside stored (List.mem_cons_self ..)
      have found : (incoming.find? fun event => event.eventRef = stored.eventRef) =
          some stored.toEvent := by
        cases search : incoming.find? fun event => event.eventRef = stored.eventRef with
        | none =>
            have nothing := List.find?_eq_none.mp search stored.toEvent here
            simp at nothing
        | some candidate =>
            have same : candidate.eventRef = stored.eventRef := by
              simpa using List.find?_some search
            rw [List.inj_on_of_nodup_map distinct (List.mem_of_find?_eq_some search) here same]
      rw [rewriteOf, found]
      simp only [if_true]
      exact ih fun other member => inside other (List.mem_cons_of_mem _ member)

/-- An import that is answered, and not with a quarantine. -/
def Answered (sha256 : ByteArray → String) (capability : String) (store : Store)
    (delivery : Delivery F) (later : Store) : Prop :=
  ∃ result, importExport sha256 store delivery.payload (.str capability)
      (dayJson delivery.receiptDay) = (later, .ok result) ∧
    ∀ code revision, result ≠ .quarantined code revision

/-- The first delivery makes the record. -/
theorem imported_first {central : Store} {terms : Terms} {first : Delivery F}
    (meets : first.Meets terms) {admission : Admission}
    (held : central.admissions.get? terms.admissionRef = some admission)
    (admits : terms.Admits sha256 F admission) (unreceived : admission.firstReceipt = none)
    (absent : central.records.get? terms.workflowRef = none)
    (pending : checkValidity admission first.receiptDay = .ok ())
    (expires : first.receiptDay.addDays centralRetentionDays = some terms.expiry)
    {windowEnd : Day}
    (window : terms.enrollment.startDay.addDays pendingAdmissionDays = some windowEnd) :
    ∃ later record, Answered sha256 terms.capability central first later ∧
      Imported sha256 terms [first] later record first := by
  have start : first.envelope.snapshot.startDay = terms.enrollment.startDay := by
    rw [← meets.enrollment]
    rfl
  have imported := importExport_delivery meets held admits pending
  rw [absent] at imported
  simp only at imported
  have made : importFirst sha256 central (first.received admission) =
      ((central.putAdmission first.envelope.admissionRef (noted (first.received admission))).putRecord
        first.envelope.snapshot.workflowRef
        (firstRecord sha256 (first.received admission) (!decide (windowEnd < first.receiptDay))
          terms.expiry),
        .ok (.accepted first.revision (!decide (windowEnd < first.receiptDay)) first.receiptDay)) := by
    have ends : addDays first.envelope.snapshot.startDay pendingAdmissionDays = .ok windowEnd := by
      rw [start, addDays, window]
      rfl
    unfold importFirst acknowledge
    simp only [Delivery.received, ends, unreceived, expires]
    rfl
  rw [made] at imported
  refine ⟨_, firstRecord sha256 (first.received admission) (!decide (windowEnd < first.receiptDay))
    terms.expiry, ⟨_, imported, by simp⟩, ?_⟩
  exact {
    admission := by
      refine ⟨noted (first.received admission), ?_, ?_, ?_⟩
      · show (central.admissions.set first.envelope.admissionRef _).get? terms.admissionRef = _
        rw [meets.admissionRef, Registry.get?_set, if_pos rfl]
      · exact ⟨admits.workflowRef, admits.verifier, admits.issued, admits.fingerprint,
          admits.enrollment⟩
      · unfold noted
        simp only [Delivery.received, expires]
        rfl
    held := by
      show (central.records.set first.envelope.snapshot.workflowRef _).get? terms.workflowRef = _
      rw [meets.workflowRef, Registry.get?_set, if_pos rfl]
    member := List.mem_singleton_self _
    bound := by
      intro delivery member
      rw [List.mem_singleton.mp member]
    revision := rfl
    events := stampAll_events _ _
    canonicalExport := rfl
    fingerprint := by
      show enrollmentFingerprint sha256 first.envelope = _
      exact meets.fingerprint
    enrollment := admits.enrollment
    lastReceipt := ⟨first, List.mem_singleton_self _, rfl⟩ }

/-- A later delivery is a duplicate, is ignored or updates the record. -/
theorem Imported.step {terms : Terms} {done : List (Delivery F)} {store : Store} {record : Record}
    {highest : Delivery F} (imported : Imported sha256 terms done store record highest)
    {next : Delivery F} (meets : next.Meets terms)
    (later : ∀ delivery ∈ done, delivery.receiptDay ≤ next.receiptDay)
    (consistent : ∀ delivery ∈ done, Consistent delivery next) {closeDay : Day}
    (closes : terms.enrollment.startDay.addDays (reportingWindowDays + lagDays) = some closeDay) :
    ∃ after recorded top, Answered sha256 terms.capability store next after ∧
      Imported sha256 terms (done ++ [next]) after recorded top := by
  obtain ⟨admission, heldAdmission, admits, expires⟩ := imported.admission
  have valid : checkValidity admission next.receiptDay = .ok () := by
    unfold checkValidity
    rw [expires]
    exact refuse_eq_ok.mpr (Day.not_lt.mpr meets.expiry)
  have call := importExport_delivery meets heldAdmission admits valid
  rw [imported.held] at call
  simp only at call
  have notBefore : ¬ next.receiptDay < record.lastReceiptDay := by
    obtain ⟨delivery, member, same⟩ := imported.lastReceipt
    rw [same]
    exact Day.not_lt.mpr (later delivery member)
  have fingerprint : ¬ record.enrollmentFingerprint ≠
      enrollmentFingerprint sha256 next.envelope := by
    intro differs
    exact differs (imported.fingerprint.trans meets.fingerprint.symm)
  have one := consistent highest imported.member
  unfold importLater Delivery.received at call
  simp only at call
  rw [if_neg notBefore, if_neg fingerprint, imported.revision] at call
  have old : ∀ delivery ∈ done ++ [next], next.revision ≤ highest.revision →
      delivery.revision ≤ highest.revision := by
    intro delivery member below
    rcases List.mem_append.mp member with earlier | new
    · exact imported.bound delivery earlier
    · rw [List.mem_singleton.mp new]
      exact below
  rcases Nat.lt_trichotomy next.revision highest.revision with lower | same | higher
  · have isLower : next.envelope.snapshot.revision < highest.revision := lower
    rw [if_pos isLower] at call
    refine ⟨_, record, highest, ⟨_, call, by simp⟩, ?_⟩
    exact { imported with
      member := List.mem_append_left _ imported.member
      bound := fun delivery member => old delivery member (Nat.le_of_lt lower)
      lastReceipt := by
        obtain ⟨delivery, member, same⟩ := imported.lastReceipt
        exact ⟨delivery, List.mem_append_left _ member, same⟩ }
  · have isSame : next.envelope.snapshot.revision = highest.revision := same
    have notLower : ¬ next.envelope.snapshot.revision < highest.revision := by omega
    have text : record.canonicalExport = canonicalText next.envelope.document := by
      rw [imported.canonicalExport, one.same same.symm]
    rw [if_neg notLower, if_pos isSame, if_pos text] at call
    refine ⟨_, record, highest, ⟨_, call, by simp⟩, ?_⟩
    exact { imported with
      member := List.mem_append_left _ imported.member
      bound := fun delivery member => old delivery member (Nat.le_of_eq same)
      lastReceipt := by
        obtain ⟨delivery, member, same⟩ := imported.lastReceipt
        exact ⟨delivery, List.mem_append_left _ member, same⟩ }
  · have isHigher : highest.revision < next.envelope.snapshot.revision := higher
    have notLower : ¬ next.envelope.snapshot.revision < highest.revision := by omega
    have notSame : ¬ next.envelope.snapshot.revision = highest.revision := by omega
    have inside : ∀ stored ∈ record.transitions.events,
        stored.toEvent ∈ next.envelope.snapshot.transitions.events := by
      intro stored member
      have repeated : stored.toEvent ∈ highest.events := by
        rw [← imported.events]
        exact List.mem_map_of_mem member
      exact (one.grows higher).subset repeated
    have kept := rewriteOf_kept inside next.envelope.snapshot.transitions.distinct
    have close : addDays record.enrollment.startDay (reportingWindowDays + lagDays) =
        .ok closeDay := by
      rw [imported.enrollment, addDays, closes]
      rfl
    rw [if_neg notLower, if_neg notSame] at call
    unfold importRevision at call
    simp only [kept, close] at call
    refine ⟨_, updatedRecord record (next.received admission) closeDay, next, ⟨_, call, by simp⟩, ?_⟩
    exact {
      admission := ⟨admission, heldAdmission, admits, expires⟩
      held := by
        show (store.records.set next.envelope.snapshot.workflowRef _).get? terms.workflowRef = _
        rw [meets.workflowRef, Registry.get?_set, if_pos rfl]
        rfl
      member := List.mem_append_right _ (List.mem_singleton_self _)
      bound := by
        intro delivery member
        rcases List.mem_append.mp member with earlier | new
        · exact Nat.le_trans (imported.bound delivery earlier) (Nat.le_of_lt higher)
        · exact Nat.le_of_eq (congrArg Delivery.revision (List.mem_singleton.mp new))
      revision := rfl
      events := stampAll_events _ _
      canonicalExport := rfl
      fingerprint := imported.fingerprint
      enrollment := imported.enrollment
      lastReceipt := ⟨next, List.mem_append_right _ (List.mem_singleton_self _), rfl⟩ }

/-- **Any order and any repetition of the deliveries is answered**, and the record is the export
with the highest revision. -/
theorem imported_run {central : Store} {terms : Terms} {first : Delivery F}
    {rest : List (Delivery F)} {later : Store} {record : Record}
    (answered : Answered sha256 terms.capability central first later)
    (imported : Imported sha256 terms [first] later record first)
    (meets : ∀ delivery ∈ first :: rest, delivery.Meets terms)
    (days : ((first :: rest).map Delivery.receiptDay).Pairwise (· ≤ ·))
    (consistent : ∀ left ∈ first :: rest, ∀ right ∈ first :: rest, Consistent left right)
    {closeDay : Day}
    (closes : terms.enrollment.startDay.addDays (reportingWindowDays + lagDays) = some closeDay) :
    ∃ last recorded top, Run (Answered sha256 terms.capability) central (first :: rest) last ∧
      Imported sha256 terms (first :: rest) last recorded top := by
  induction rest using List.reverseRecOn with
  | nil => exact ⟨later, record, first, Run.snoc .nil answered, imported⟩
  | append_singleton rest next ih =>
      have known : ∀ delivery ∈ first :: rest, delivery ∈ first :: (rest ++ [next]) := by
        intro delivery member
        rw [← List.cons_append]
        exact List.mem_append_left _ member
      have isNext : next ∈ first :: (rest ++ [next]) := by simp
      have split : ((first :: rest).map Delivery.receiptDay ++ [next.receiptDay]).Pairwise (· ≤ ·) := by
        simpa using days
      obtain ⟨ordered, -, above⟩ := List.pairwise_append.mp split
      obtain ⟨middle, held, top, run, before⟩ := ih (fun delivery member =>
        meets delivery (known delivery member)) ordered fun left isLeft right isRight =>
          consistent left (known left isLeft) right (known right isRight)
      obtain ⟨last, recorded, highest, taken, after⟩ := before.step (meets next isNext)
        (fun delivery member => above _ (List.mem_map_of_mem member) _ (List.mem_singleton_self _))
        (fun delivery member => consistent delivery (known delivery member) next isNext) closes
      refine ⟨last, recorded, highest, ?_, ?_⟩
      · rw [← List.cons_append]
        exact run.snoc taken
      · rw [← List.cons_append]
        exact after

/-! ## Exports along a history -/

/-- The store after calls. -/
def recordAll (workflowRef : String) (store : LocalStore) (calls : List (LocalCall F)) : LocalStore :=
  calls.foldl (LocalCall.run workflowRef) store

theorem recordAll_of_run {workflowRef : String} {store last : LocalStore} {calls : List (LocalCall F)}
    (run : Run (LocalStep workflowRef) store calls last) : last = recordAll workflowRef store calls := by
  induction run with
  | nil => rfl
  | snoc _ step ih =>
      obtain ⟨_, rfl⟩ := step
      rw [recordAll, List.foldl_append, List.foldl_cons, List.foldl_nil, ih]
      rfl

/-- A delivery of an export that was taken along the recordings `after`. -/
def Delivery.TakenFrom (delivery : Delivery F) (workflowRef : String) (attached : LocalStore)
    (after : List (LocalCall F)) : Prop :=
  delivery.payload.raw = .ok (canonicalBytes delivery.envelope.document) ∧
    ∃ earlier, earlier <+: after ∧
      buildEnvelope (recordAll workflowRef attached earlier) (.str workflowRef) =
        .ok delivery.envelope.document ∧
      validateEnvelope delivery.envelope.document = .ok delivery.envelope

section Taken

variable {workflowRef : String} {count : Nat} {attached final : LocalStore} {workflow : Workflow}
  {after : List (LocalCall F)}

/-- The workflow after a part of the recordings. -/
theorem enrolled_part (enrolled : Enrolled workflowRef count attached workflow)
    (recordings : ∀ call ∈ after, call.isAttach = false)
    (run : Run (LocalStep workflowRef) attached after final) {earlier : List (LocalCall F)}
    (isPrefix : earlier <+: after) :
    ∃ middle, Enrolled workflowRef count (recordAll workflowRef attached earlier) middle ∧
      Grows workflow middle := by
  obtain ⟨rest, rfl⟩ := isPrefix
  obtain ⟨middle, first, _⟩ := run.split
  rw [← recordAll_of_run first]
  exact enrolled.grows (fun call member => recordings call (List.mem_append_left _ member)) first

/-- Exports along one history are consistent. -/
theorem consistent_of_parts (enrolled : Enrolled workflowRef count attached workflow)
    (small : count < 10 ^ 19) (recordings : ∀ call ∈ after, call.isAttach = false)
    (run : Run (LocalStep workflowRef) attached after final) {left right : Delivery F}
    {earlier more : List (LocalCall F)} (isPrefix : earlier ++ more <+: after)
    (isLeft : buildEnvelope (recordAll workflowRef attached earlier) (.str workflowRef) =
      .ok left.envelope.document)
    (leftChecked : validateEnvelope left.envelope.document = .ok left.envelope)
    (isRight : buildEnvelope (recordAll workflowRef attached (earlier ++ more)) (.str workflowRef) =
      .ok right.envelope.document)
    (rightChecked : validateEnvelope right.envelope.document = .ok right.envelope) :
    Consistent left right ∧ Consistent right left := by
  have inner : earlier <+: after := (List.prefix_append earlier more).trans isPrefix
  obtain ⟨first, isFirst, _⟩ := enrolled_part enrolled recordings run inner
  obtain ⟨rest, rfl⟩ := isPrefix
  obtain ⟨middle, both, _⟩ := run.split
  obtain ⟨start, one, two⟩ := both.split
  obtain rfl := recordAll_of_run one
  have onlyMore : ∀ call ∈ more, call.isAttach = false := fun call member =>
    recordings call (List.mem_append_left _ (List.mem_append_right _ member))
  obtain ⟨second, isSecond, grown⟩ := isFirst.grows onlyMore two
  rw [recordAll_of_run both] at isSecond
  have leftExport := exportOf_buildEnvelope isFirst small isLeft leftChecked
  have rightExport := exportOf_buildEnvelope isSecond small isRight rightChecked
  have leftRevision : left.revision = first.revision := leftExport.revision
  have rightRevision : right.revision = second.revision := rightExport.revision
  have equal : first.revision = second.revision →
      left.envelope.document = right.envelope.document := by
    intro same
    obtain rfl := grown.same same
    exact document_unique isFirst isSecond isLeft isRight
  refine ⟨⟨fun _ => ?_, fun same => equal (by omega)⟩, ⟨fun lower => ?_, fun same =>
    (equal (by omega)).symm⟩⟩
  · rw [Delivery.events, Delivery.events, leftExport.events, rightExport.events]
    exact grown.events
  · have below := grown.revision
    omega

theorem consistent_taken (enrolled : Enrolled workflowRef count attached workflow)
    (small : count < 10 ^ 19) (recordings : ∀ call ∈ after, call.isAttach = false)
    (run : Run (LocalStep workflowRef) attached after final) {left right : Delivery F}
    (isLeft : left.TakenFrom workflowRef attached after)
    (isRight : right.TakenFrom workflowRef attached after) : Consistent left right := by
  obtain ⟨_, earlier, earlierPrefix, leftBuilt, leftChecked⟩ := isLeft
  obtain ⟨_, later, laterPrefix, rightBuilt, rightChecked⟩ := isRight
  rcases List.prefix_or_prefix_of_prefix earlierPrefix laterPrefix with ⟨more, rfl⟩ | ⟨more, rfl⟩
  · exact (consistent_of_parts enrolled small recordings run laterPrefix leftBuilt leftChecked
      rightBuilt rightChecked).1
  · exact (consistent_of_parts enrolled small recordings run earlierPrefix rightBuilt rightChecked
      leftBuilt leftChecked).2

end Taken

/-! ## The result -/

/-- An admission issued from the notice of a workflow and attached to it, the recordings that
follow, and deliveries of exports along them: on days in order, inside the validity of the
admission and not before an event that they tell. -/
structure Exchange (sha256 : ByteArray → String) (F : Type) [JsonFloat F] (workflowRef : String)
    (last : LocalStore) where
  workflow : Workflow
  held : last.workflows.get? workflowRef = some workflow
  central : Store
  notice : Json F
  announced : startNotice last (.str workflowRef : Json F) = .ok notice
  issuedDay : Json F
  issued : Day
  isIssued : parseDay issuedDay "day" = .ok issued
  admissionRef : String
  capability : String
  issuedStore : Store
  answer : IssuedAdmission
  issue : issueAdmission sha256 central notice issuedDay admissionRef capability =
    (issuedStore, .ok answer)
  exportRef : RandomRef "exp-"
  attached : LocalStore
  attachment : attachAdmission last (.str workflowRef : Json F) (.str admissionRef) exportRef =
    .ok attached
  after : List (LocalCall F)
  recordings : ∀ call ∈ after, call.isAttach = false
  final : LocalStore
  run : Run (LocalStep workflowRef) attached after final
  first : Delivery F
  rest : List (Delivery F)
  taken : ∀ delivery ∈ first :: rest, delivery.TakenFrom workflowRef attached after
  inOrder : ((first :: rest).map Delivery.receiptDay).Pairwise (· ≤ ·)
  afterIssue : issued ≤ first.receiptDay
  pending : Day
  isPending : issued.addDays pendingAdmissionDays = some pending
  acknowledged : first.receiptDay ≤ pending
  expiry : Day
  isExpiry : first.receiptDay.addDays centralRetentionDays = some expiry
  notExpired : ∀ delivery ∈ first :: rest, delivery.receiptDay ≤ expiry
  effective : ∀ delivery ∈ first :: rest, ∀ event ∈ delivery.events,
    event.effectiveDay ≤ delivery.receiptDay
  closeDay : Day
  isClose : workflow.startDay.addDays (reportingWindowDays + lagDays) = some closeDay

/-- What the deliveries of an exchange come to: each is answered, none with a quarantine, and
the record has the transitions of the highest revision. -/
def Exchange.Settles {workflowRef : String} {last : LocalStore}
    (exchange : Exchange sha256 F workflowRef last) : Prop :=
  ∃ store record, Run (Answered sha256 exchange.capability) exchange.issuedStore
      (exchange.first :: exchange.rest) store ∧
    store.records.get? workflowRef = some record ∧
    (∃ delivery ∈ exchange.first :: exchange.rest, delivery.revision = record.revision) ∧
    ∀ delivery ∈ exchange.first :: exchange.rest, delivery.revision ≤ record.revision ∧
      (delivery.revision = record.revision →
        record.transitions.events.map StampedEvent.toEvent = delivery.events)

section Exchange

variable {workflowRef : String} {last : LocalStore} {count : Nat}

/-- The workflow after the attachment. -/
theorem Exchange.attached_enrolled (exchange : Exchange sha256 F workflowRef last)
    (enrolled : Enrolled workflowRef count last exchange.workflow) :
    ∃ more ≤ count + 1, ∃ later, Enrolled workflowRef more exchange.attached later ∧
      later.admissionRef = some exchange.admissionRef ∧
      later.enrollment = exchange.workflow.enrollment := by
  have attachment := exchange.attachment
  unfold attachAdmission at attachment
  rw [requireEnabled_eq_ok enrolled] at attachment
  simp only [bind_eq_ok, pure_eq_ok, Except.ok.injEq, parseRef_eq_ok] at attachment
  obtain ⟨_, rfl, ref, ⟨isRef, wellFormed⟩, attached⟩ := attachment
  obtain rfl := Json.str.inj isRef
  obtain ⟨more, atMost, keeps⟩ := enrolled.recorded.attach wellFormed exchange.exportRef
  rw [← attached]
  refine ⟨more, atMost, exchange.workflow.attach exchange.admissionRef exchange.exportRef.text,
    enrolled.put ?_ keeps, ?_, ?_⟩
  all_goals
    unfold Workflow.attach
    split
  all_goals first | rfl | assumption

/-- The terms of an exchange. -/
def Exchange.terms (exchange : Exchange sha256 F workflowRef last) : Terms where
  workflowRef := workflowRef
  admissionRef := exchange.admissionRef
  capability := exchange.capability
  enrollment := exchange.workflow.enrollment
  issued := exchange.issued
  expiry := exchange.expiry

/-- The issue admits the workflow of the notice, which has no record yet. -/
theorem Exchange.issues (exchange : Exchange sha256 F workflowRef last)
    (enrolled : Enrolled workflowRef count last exchange.workflow) :
    exchange.issuedStore.records.get? workflowRef = none ∧
      ∃ admission, exchange.issuedStore.admissions.get? exchange.admissionRef = some admission ∧
        exchange.terms.Admits sha256 F admission ∧ admission.firstReceipt = none ∧
        admission.expiresAt = none := by
  have notice : exchange.notice = exchange.workflow.notice := by
    have announced := exchange.announced
    unfold startNotice at announced
    rw [requireEnabled_eq_ok enrolled] at announced
    exact (Except.ok.inj announced).symm
  have issue := exchange.issue
  rcases issueAdmission_move sha256 exchange.central exchange.notice exchange.issuedDay
    exchange.admissionRef exchange.capability with ⟨fault, _, same⟩ |
      ⟨ref, issued, enrollment, admission, reviewed, made, same⟩
  · rw [issue] at same
    cases congrArg Prod.snd same
  · rw [issue] at same
    obtain ⟨isStore, _⟩ := Prod.mk.inj same
    rw [notice] at reviewed
    obtain ⟨isRef, isEnrollment, isDay, absent⟩ :=
      reviewNotice_notice enrolled.recorded.stages reviewed
    obtain rfl := Except.ok.inj (exchange.isIssued.symm.trans isDay)
    have named : ref = workflowRef := isRef.trans enrolled.named
    rw [isStore]
    refine ⟨named ▸ absent, admission, ?_, ?_, ?_, ?_⟩
    · show (exchange.central.admissions.set exchange.admissionRef admission).get? _ = _
      rw [Registry.get?_set, if_pos rfl]
    · rw [made, isEnrollment]
      exact ⟨named, rfl, rfl, rfl, rfl⟩
    · rw [made]
    · rw [made]

/-- Every delivery of an exchange meets its terms. -/
theorem Exchange.meets (exchange : Exchange sha256 F workflowRef last)
    (enrolled : Enrolled workflowRef count last exchange.workflow) (small : count < 10 ^ 18)
    {delivery : Delivery F} (member : delivery ∈ exchange.first :: exchange.rest) :
    delivery.Meets exchange.terms := by
  obtain ⟨more, atMost, later, isAttached, isAdmission, isEnrollment⟩ :=
    exchange.attached_enrolled enrolled
  obtain ⟨raw, earlier, isPrefix, built, checked⟩ := exchange.taken delivery member
  obtain ⟨middle, isMiddle, grown⟩ :=
    enrolled_part isAttached exchange.recordings exchange.run isPrefix
  have exported := exportOf_buildEnvelope isMiddle (by omega) built checked
  have first : exchange.first.receiptDay ≤ delivery.receiptDay := by
    rcases List.mem_cons.mp member with rfl | inRest
    · exact Nat.le_refl _
    · exact (List.pairwise_cons.mp exchange.inOrder).1 _ (List.mem_map_of_mem inRest)
  exact {
    raw := raw
    valid := exported.valid
    workflowRef := exported.workflowRef.trans isMiddle.named
    admissionRef := by
      have same := exported.admissionRef
      rw [grown.admissionRef, isAdmission] at same
      exact Option.some.inj same
    enrollment := by
      show delivery.envelope.enrollment = exchange.workflow.enrollment
      rw [← isEnrollment, Envelope.enrollment, Workflow.enrollment, exported.startDay,
        exported.applicableStages, exported.criteriaFrozen, exported.criteriaContractRef,
        grown.startDay, grown.applicableStages, grown.criteriaFrozen, grown.criteriaContractRef]
    events := exchange.effective delivery member
    issued := Nat.le_trans exchange.afterIssue first
    expiry := exchange.notExpired delivery member }

theorem Exchange.settles (exchange : Exchange sha256 F workflowRef last)
    (enrolled : Enrolled workflowRef count last exchange.workflow) (small : count < 10 ^ 18) :
    exchange.Settles := by
  obtain ⟨absent, admission, heldAdmission, admits, unreceived, noExpiry⟩ :=
    exchange.issues enrolled
  obtain ⟨more, atMost, later, isAttached, _⟩ := exchange.attached_enrolled enrolled
  have meets : ∀ delivery ∈ exchange.first :: exchange.rest, delivery.Meets exchange.terms :=
    fun delivery member => exchange.meets enrolled small member
  have valid : checkValidity admission exchange.first.receiptDay = .ok () := by
    unfold checkValidity
    rw [noExpiry, admits.issued]
    simp only [bind_eq_ok, refuse_eq_ok, addDays, fetch_eq_ok]
    exact ⟨_, exchange.isPending, Day.not_lt.mpr exchange.acknowledged⟩
  obtain ⟨windowEnd, window⟩ := Day.addDays_of_le (by decide : pendingAdmissionDays ≤ _)
    exchange.isClose
  obtain ⟨middle, record, answered, imported⟩ := imported_first
    (meets _ (List.mem_cons_self ..)) heldAdmission admits unreceived absent valid exchange.isExpiry
    window
  have consistent : ∀ left ∈ exchange.first :: exchange.rest,
      ∀ right ∈ exchange.first :: exchange.rest, Consistent left right :=
    fun left isLeft right isRight => consistent_taken isAttached (by omega) exchange.recordings
      exchange.run (exchange.taken left isLeft) (exchange.taken right isRight)
  obtain ⟨store, recorded, highest, run, settled⟩ := imported_run answered imported meets
    exchange.inOrder consistent exchange.isClose
  refine ⟨store, recorded, run, settled.held, ⟨highest, settled.member, settled.revision.symm⟩, ?_⟩
  intro delivery member
  rw [settled.revision, settled.events]
  refine ⟨settled.bound delivery member, fun same => ?_⟩
  have document := (consistent delivery member highest settled.member).same same
  have envelope : delivery.envelope = highest.envelope := by
    have left := validateEnvelope_document (meets delivery member).valid
    have right := validateEnvelope_document (meets highest settled.member).valid
    rw [document] at left
    exact Except.ok.inj (left.symm.trans right)
  rw [Delivery.events, Delivery.events, envelope]

end Exchange

/-- **An honest recorder is never refused.** After any calls on an enrolled workflow, its export
is built and accepted as soon as it has an admission and a transition; and in every exchange
that begins there, each delivery is answered, none with a quarantine, and the record has the
transitions of the highest revision delivered. -/
theorem honest_recorder_never_refused {store enrolled last : LocalStore} {call : Enrolling F}
    {drawnWorkflow : RandomRef "wf-"} {drawnContract : RandomRef "crit-"} {workflow : Workflow}
    (capture : enableCapture store call drawnWorkflow drawnContract = .ok (workflow, enrolled))
    {calls : List (LocalCall F)}
    (run : Run (LocalStep workflow.workflowRef) enrolled calls last)
    (few : calls.countP LocalCall.isAttach < 10 ^ 18) :
    (∀ recorded, last.workflows.get? workflow.workflowRef = some recorded →
      recorded.admissionRef ≠ none → recorded.transitions ≠ [] →
      (recorded.startDay.addDays reportingWindowDays).isSome = true →
      ∃ envelope : Envelope F,
        buildEnvelope last (.str workflow.workflowRef) = .ok envelope.document ∧
        validateEnvelope envelope.document = .ok envelope) ∧
    ∀ exchange : Exchange sha256 F workflow.workflowRef last, exchange.Settles := by
  obtain ⟨recorded, held, enabled⟩ := enableCapture_recorded capture
  obtain ⟨count, atMost, latest, isLatest⟩ :=
    (Enrolled.mk held enabled rfl recorded).run run
  constructor
  · intro final isFinal isAdmission nonempty isDue
    obtain rfl := Option.some.inj (isLatest.held.symm.trans isFinal)
    obtain ⟨admissionRef, isAdmission⟩ := Option.ne_none_iff_exists'.mp isAdmission
    obtain ⟨due, isDue⟩ := Option.isSome_iff_exists.mp isDue
    obtain ⟨envelope, built, checked, _⟩ := buildEnvelope_enrolled (F := F) isLatest (by omega)
      isAdmission nonempty isDue
    exact ⟨envelope, built, checked⟩
  · intro exchange
    obtain rfl := Option.some.inj (isLatest.held.symm.trans exchange.held)
    exact exchange.settles isLatest (by omega)

/-! ## A sample -/

def sampleDay (day : Nat) (inMonth : 1 ≤ day ∧ day ≤ 31) : Day :=
  ⟨2026, 3, day, by decide, by decide, inMonth⟩

def sampleRandom (head : String) (wellFormed : isRef head (sampleRef head) = true) : RandomRef head :=
  ⟨sampleRef head, wellFormed⟩

def sampleEnrolling : Enrolling Budget.ZeroFloat :=
  ⟨.str "2026-03-02", .str "2026-03-01", .null, .bool true, .null, .null, .null⟩

/-- The workflow that `sampleEnrolling` enrolls. -/
def sampleWorkflow : Workflow where
  workflowRef := sampleRef "wf-"
  admissionRef := none
  capturedDay := sampleDay 2 (by decide)
  startDay := sampleDay 1 (by decide)
  applicableStages := stages
  criteriaFrozenBeforeWork := true
  criteriaContractRef := sampleRef "crit-"
  acceptanceEvidence := .none
  revision := 0
  exportRef := none
  lastObservedDay := none
  transitions := []

def sampleLocal : LocalStore :=
  ⟨Registry.empty.set (sampleRef "wf-") ⟨true, sampleDay 2 (by decide)⟩,
    Registry.empty.set (sampleRef "wf-") sampleWorkflow⟩

theorem sample_capture : enableCapture ⟨.empty, .empty⟩ sampleEnrolling
    (sampleRandom "wf-" (by decide)) (sampleRandom "crit-" (by decide)) =
      .ok (sampleWorkflow, sampleLocal) := by
  rfl

/-- A delivery on the third day. -/
def sampleRecording : LocalCall Budget.ZeroFloat :=
  .record ⟨.str "status", .str "delivered", .str "2026-03-03", .null, .null, .null⟩
    (sampleRandom "evt-" (by decide)) (sampleRandom "exp-" (by decide))

def sampleAttach : LocalCall Budget.ZeroFloat :=
  .attach (.str (sampleRef "adm-")) (sampleRandom "exp-" (by decide))

def sampleLast : LocalStore := recordAll (sampleRef "wf-") sampleLocal [sampleRecording]

theorem sample_run : Run (LocalStep sampleWorkflow.workflowRef) sampleLocal [sampleRecording] sampleLast := by
  have fresh : sampleRecording.Fresh (sampleRef "wf-") sampleLocal := by
    intro workflow held
    obtain rfl : sampleWorkflow = workflow := Option.some.inj held
    exact fun _ member => by cases member
  exact Run.snoc .nil ⟨fresh, rfl⟩

/-- The workflow after `sampleRecording`. -/
def sampleDelivered : Workflow :=
  sampleWorkflow.append ⟨⟨sampleRef "evt-", .status, sampleDay 3 (by decide), .delivered, none⟩, none⟩
    (sampleRef "exp-")

def sampleAttached : LocalStore := recordAll (sampleRef "wf-") sampleLast [sampleAttach]

/-- The issue for the sample's notice. -/
def sampleIssued : Store × Except Fault IssuedAdmission :=
  issueAdmission Budget.plainDigest newStore (sampleDelivered.notice : Json Budget.ZeroFloat)
    (.str "2026-03-02") (sampleRef "adm-") "capability"

theorem sample_enrolled : ∃ count ≤ 1, ∃ workflow,
    Enrolled (sampleRef "wf-") count sampleAttached workflow := by
  obtain ⟨recorded, held, enabled⟩ := enableCapture_recorded sample_capture
  have start : Enrolled (sampleRef "wf-") 0 sampleLocal sampleWorkflow := ⟨held, enabled, rfl, recorded⟩
  have fresh : sampleAttach.Fresh (sampleRef "wf-") sampleLast := trivial
  exact start.run (sample_run.snoc ⟨fresh, rfl⟩)

theorem sample_exchange :
    Nonempty (Exchange Budget.plainDigest Budget.ZeroFloat (sampleRef "wf-") sampleLast) := by
  obtain ⟨count, small, workflow, enrolled⟩ := sample_enrolled
  have held : sampleAttached.workflows.get? (sampleRef "wf-") =
      some (sampleDelivered.attach (sampleRef "adm-") (sampleRef "exp-")) := by rfl
  obtain rfl := Option.some.inj (enrolled.held.symm.trans held)
  have due : (sampleDelivered.attach (sampleRef "adm-") (sampleRef "exp-")).startDay.addDays
      reportingWindowDays = some (sampleDay 31 (by decide)) := by rfl
  obtain ⟨envelope, built, checked, exported⟩ := buildEnvelope_enrolled (F := Budget.ZeroFloat)
    enrolled (by omega) rfl (by decide) due
  have events : envelope.snapshot.transitions.events =
      [⟨sampleRef "evt-", .status, sampleDay 3 (by decide), .delivered, none⟩] := exported.events
  have afterIssue : sampleDay 2 (by decide) ≤ sampleDay 4 (by decide) := by decide
  have acknowledged : sampleDay 4 (by decide) ≤ sampleDay 9 (by decide) := by decide
  let expiry : Day := ⟨2026, 6, 2, by decide, by decide, by decide⟩
  have notExpired : sampleDay 4 (by decide) ≤ expiry := by decide
  have effective : sampleDay 3 (by decide) ≤ sampleDay 4 (by decide) := by decide
  exact ⟨{
    workflow := sampleDelivered
    held := by rfl
    central := newStore
    notice := sampleDelivered.notice
    announced := by rfl
    issuedDay := .str "2026-03-02"
    issued := sampleDay 2 (by decide)
    isIssued := by rfl
    admissionRef := sampleRef "adm-"
    capability := "capability"
    issuedStore := sampleIssued.1
    answer := ⟨sampleRef "adm-", "capability", fingerprintOf (F := Budget.ZeroFloat)
      Budget.plainDigest (.int reportingWindowDays) sampleDelivered.enrollment⟩
    issue := by rfl
    exportRef := sampleRandom "exp-" (by decide)
    attached := sampleAttached
    attachment := by rfl
    after := []
    recordings := by simp
    final := sampleAttached
    run := .nil
    first := ⟨envelope, .document envelope.document, sampleDay 4 (by decide)⟩
    rest := []
    taken := by
      intro delivery member
      obtain rfl := List.mem_singleton.mp member
      exact ⟨rfl, [], List.nil_prefix, built, checked⟩
    inOrder := List.pairwise_singleton _ _
    afterIssue := afterIssue
    pending := sampleDay 9 (by decide)
    isPending := by rfl
    acknowledged := acknowledged
    expiry := expiry
    isExpiry := by rfl
    notExpired := by
      intro delivery member
      obtain rfl := List.mem_singleton.mp member
      exact notExpired
    effective := by
      intro delivery member event inside
      obtain rfl := List.mem_singleton.mp member
      rw [Delivery.events, events, List.mem_singleton] at inside
      rw [inside]
      exact effective
    closeDay := ⟨2026, 4, 7, by decide, by decide, by decide⟩
    isClose := by rfl }⟩

theorem honest_recorder_of_sample :
    ∃ exchange : Exchange Budget.plainDigest Budget.ZeroFloat (sampleRef "wf-") sampleLast,
      exchange.Settles := by
  obtain ⟨exchange⟩ := sample_exchange
  exact ⟨exchange, (honest_recorder_never_refused sample_capture sample_run (by decide)).2 exchange⟩

end Aegis.Usage
