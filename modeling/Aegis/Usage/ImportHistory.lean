/-
# Usage.ImportHistory — imports never rewrite history

`Extends` is what a run of imports does to a record: accepted events stay as they were
first received, the enrollment and the retention stay, and the revision grows with every
change of the transitions. `Exported` ties the transitions of a record to the export whose
canonical text it keeps.
-/
import Aegis.Usage.Withdrawal

namespace Aegis.Usage

open Aegis.Lib
open Aegis.Lib.Guarded
open Aegis.Lib.Runs

set_option autoImplicit false

/-- A later state of a record. -/
structure Extends (earlier later : Record) : Prop where
  events : ∀ stored ∈ earlier.transitions.events, stored ∈ later.transitions.events
  enrollment : later.enrollment = earlier.enrollment
  prospective : later.prospective = earlier.prospective
  firstReceiptDay : later.firstReceiptDay = earlier.firstReceiptDay
  expiresAt : later.expiresAt = earlier.expiresAt
  lastReceiptDay : earlier.lastReceiptDay ≤ later.lastReceiptDay
  revision : earlier.revision ≤ later.revision
  changed : later.transitions ≠ earlier.transitions → earlier.revision < later.revision

namespace Extends

theorem refl (record : Record) : Extends record record :=
  ⟨fun _ member => member, rfl, rfl, rfl, rfl, Nat.le_refl _, Nat.le_refl _,
    fun change => absurd rfl change⟩

theorem trans {first second third : Record} (one : Extends first second)
    (two : Extends second third) : Extends first third where
  events := fun stored member => two.events stored (one.events stored member)
  enrollment := two.enrollment.trans one.enrollment
  prospective := two.prospective.trans one.prospective
  firstReceiptDay := two.firstReceiptDay.trans one.firstReceiptDay
  expiresAt := two.expiresAt.trans one.expiresAt
  lastReceiptDay := Nat.le_trans one.lastReceiptDay two.lastReceiptDay
  revision := Nat.le_trans one.revision two.revision
  changed := by
    intro change
    by_cases same : second.transitions = first.transitions
    · have later : third.transitions ≠ second.transitions := by
        rw [same]
        exact change
      exact Nat.lt_of_le_of_lt one.revision (two.changed later)
    · exact Nat.lt_of_lt_of_le (one.changed same) two.revision

end Extends

/-- Every record of the first store is extended in the second. -/
def ExtendsAll (store after : Store) : Prop :=
  ∀ workflowRef record, store.records.get? workflowRef = some record →
    ∃ later, after.records.get? workflowRef = some later ∧ Extends record later

theorem ExtendsAll.of_records {store after : Store} (same : after.records = store.records) :
    ExtendsAll store after := by
  intro workflowRef record held
  exact ⟨record, by rw [same]; exact held, .refl record⟩

variable {F : Type} [JsonFloat F] {sha256 : ByteArray → String}

variable (F) in
/-- The record keeps the canonical text of an export with its transitions. -/
def Exported (record : Record) : Prop :=
  ∃ (document : Json F) (envelope : Envelope F), validateEnvelope document = .ok envelope ∧
    record.canonicalExport = canonicalText document ∧
    record.revision = envelope.snapshot.revision ∧
    record.transitions.events.map StampedEvent.toEvent = envelope.snapshot.transitions.events

/-! ## A higher revision -/

theorem events_stampAll (transitions : Transitions) (day : Event → Day) :
    (stampAll transitions day).events.map StampedEvent.toEvent = transitions.events := by
  unfold stampAll
  rw [List.map_map]
  exact List.map_id _

/-- A revision that keeps the accepted events has each of them. -/
theorem mem_of_kept {accepted : List StampedEvent} {incoming : List Event}
    (kept : rewriteOf accepted incoming = .kept) : ∀ stored ∈ accepted, stored.toEvent ∈ incoming := by
  induction accepted with
  | nil => exact fun _ member => absurd member List.not_mem_nil
  | cons first rest ih =>
      rw [rewriteOf] at kept
      split at kept
      · cases kept
      · rename_i candidate found
        split at kept
        · rename_i same
          refine List.forall_mem_cons.mpr ⟨?_, ih kept⟩
          rw [← same]
          exact List.mem_of_find?_eq_some found
        · cases kept

/-- An accepted event keeps the day of its first receipt. -/
theorem firstReceiptOf_accepted {accepted : StampedTransitions} {stored : StampedEvent}
    (member : stored ∈ accepted.events) (today : Day) :
    firstReceiptOf accepted.events today stored.toEvent = stored.firstReceiptDay := by
  unfold firstReceiptOf
  cases found : accepted.events.find? fun other => other.eventRef = stored.eventRef with
  | none =>
      have := List.find?_eq_none.mp found stored member
      simp at this
  | some other =>
      have ref : other.eventRef = stored.eventRef := by simpa using List.find?_some found
      have same : other = stored := List.inj_on_of_nodup_map accepted.distinct
        (List.mem_of_find?_eq_some found) member ref
      rw [same]
      rfl

theorem extends_updatedRecord {record : Record} {received : Received F} {closeDay : Day}
    (later : record.lastReceiptDay ≤ received.today)
    (higher : record.revision < received.envelope.snapshot.revision)
    (kept : rewriteOf record.transitions.events
      received.envelope.snapshot.transitions.events = .kept) :
    Extends record (updatedRecord record received closeDay) where
  events := by
    intro stored member
    have incoming := mem_of_kept kept stored member
    have day := firstReceiptOf_accepted member received.today
    refine List.mem_map.mpr ⟨stored.toEvent, incoming, ?_⟩
    rw [day]
    rfl
  enrollment := rfl
  prospective := rfl
  firstReceiptDay := rfl
  expiresAt := rfl
  lastReceiptDay := later
  revision := Nat.le_of_lt higher
  changed := fun _ => higher

/-! ## One import -/

theorem extendsAll_putRecord {store : Store} {key : String} {record : Record}
    (extended : ∀ held, store.records.get? key = some held → Extends held record) :
    ExtendsAll store (store.putRecord key record) := by
  intro workflowRef held isHeld
  simp only [Store.putRecord, Registry.get?_set]
  by_cases same : workflowRef = key
  · subst same
    exact ⟨record, if_pos rfl, extended held isHeld⟩
  · exact ⟨held, by rw [if_neg same]; exact isHeld, .refl held⟩

variable (sha256) in
/-- **An import extends every record.** -/
theorem extendsAll_importExport (store : Store) (payload : Payload F) (capability receiptDay : Json F) :
    ExtendsAll store (importExport sha256 store payload capability receiptDay).1 := by
  have move := importExport_move sha256 store payload capability receiptDay
  revert move
  generalize importExport sha256 store payload capability receiptDay = outcome
  intro move
  cases move with
  | refused fault => exact .of_records rfl
  | noted received was overflow => exact .of_records rfl
  | quarantined received was code message => exact .of_records rfl
  | accepted received was absent prospective expiresAt receipted same =>
      have records : receipted.records = store.records := by
        rcases same with rfl | rfl <;> rfl
      intro workflowRef held isHeld
      have extended : ExtendsAll receipted (receipted.putRecord
          received.envelope.snapshot.workflowRef
          (firstRecord sha256 received prospective expiresAt)) := by
        refine extendsAll_putRecord fun other isOther => ?_
        rw [records, absent] at isOther
        cases isOther
      exact extended workflowRef held (by rw [records]; exact isHeld)
  | ignored revision storedRevision => exact .of_records rfl
  | duplicate revision => exact .of_records rfl
  | updated received was record held later higher kept closeDay closes =>
      refine extendsAll_putRecord fun other isOther => ?_
      obtain rfl := Option.some.inj (held.symm.trans isOther)
      exact extends_updatedRecord later higher kept

/-- An import creates no admission. -/
theorem admissions_importExport (store : Store) (payload : Payload F)
    (capability receiptDay : Json F) (ref : String)
    (present : ((importExport sha256 store payload capability receiptDay).1.admissions.get?
      ref).isSome = true) : (store.admissions.get? ref).isSome = true := by
  have move := importExport_move sha256 store payload capability receiptDay
  have put : ∀ received : Received F, WasReceived sha256 store receiptDay received →
      ((store.putAdmission received.envelope.admissionRef (noted received)).admissions.get?
        ref).isSome = true → (store.admissions.get? ref).isSome = true := by
    intro received was found
    simp only [Store.putAdmission, Registry.get?_set] at found
    split at found
    · rename_i same
      rw [same, was.admission]
      rfl
    · exact found
  revert move present
  generalize importExport sha256 store payload capability receiptDay = outcome
  intro present move
  cases move with
  | noted received was overflow => exact put received was present
  | accepted received was absent prospective expiresAt receipted same =>
      rcases same with rfl | rfl
      · exact present
      · exact put received was present
  | _ => exact present

/-- What an import without overflow does, by its answer. -/
theorem answer_importExport {store : Store} {payload : Payload F} {capability receiptDay : Json F}
    (inCalendar : ∀ today, parseDay receiptDay "day" = .ok today →
      (today.addDays centralRetentionDays).isSome = true) :
    (∀ fault, (importExport sha256 store payload capability receiptDay).2 = .error fault →
      (importExport sha256 store payload capability receiptDay).1 = store) ∧
    ∀ answer, (importExport sha256 store payload capability receiptDay).2 = .ok answer →
      ((∃ revision, answer = .duplicate revision) ∨
        (∃ revision storedRevision, answer = .ignored revision storedRevision) ∨
        ∃ code revision, answer = .quarantined code revision) →
      (importExport sha256 store payload capability receiptDay).1.records = store.records ∧
        (importExport sha256 store payload capability receiptDay).1.admissions =
          store.admissions := by
  have move := importExport_move sha256 store payload capability receiptDay
  revert move
  generalize importExport sha256 store payload capability receiptDay = outcome
  intro move
  cases move with
  | noted received was overflow =>
      have some := inCalendar received.today was.day
      rw [overflow] at some
      cases some
  | accepted received was absent prospective expiresAt receipted same =>
      refine ⟨fun fault raised => (by cases raised), fun answer answered silent => ?_⟩
      obtain rfl := Except.ok.inj answered
      rcases silent with ⟨_, same⟩ | ⟨_, _, same⟩ | ⟨_, _, same⟩ <;> cases same
  | updated received was record held later higher kept closeDay closes =>
      refine ⟨fun fault raised => (by cases raised), fun answer answered silent => ?_⟩
      obtain rfl := Except.ok.inj answered
      rcases silent with ⟨_, same⟩ | ⟨_, _, same⟩ | ⟨_, _, same⟩ <;> cases same
  | refused fault => exact ⟨fun _ _ => rfl, fun _ _ _ => ⟨rfl, rfl⟩⟩
  | quarantined received was code message =>
      exact ⟨fun fault raised => (by cases raised), fun _ _ _ => ⟨rfl, rfl⟩⟩
  | ignored revision storedRevision =>
      exact ⟨fun fault raised => (by cases raised), fun _ _ _ => ⟨rfl, rfl⟩⟩
  | duplicate revision => exact ⟨fun fault raised => (by cases raised), fun _ _ _ => ⟨rfl, rfl⟩⟩

/-! ## Exported records -/

variable (F) in
/-- Every record of the store is exported. -/
def ExportedAll (store : Store) : Prop :=
  ∀ workflowRef record, store.records.get? workflowRef = some record → Exported F record

theorem ExportedAll.putRecord {store : Store} (all : ExportedAll F store) {key : String}
    {record : Record} (exported : Exported F record) : ExportedAll F (store.putRecord key record) := by
  intro workflowRef found isFound
  simp only [Store.putRecord, Registry.get?_set] at isFound
  split at isFound
  · obtain rfl := Option.some.inj isFound
    exact exported
  · exact all workflowRef found isFound

theorem ExportedAll.importExport {store : Store} (all : ExportedAll F store) (payload : Payload F)
    (capability receiptDay : Json F) :
    ExportedAll F (Usage.importExport sha256 store payload capability receiptDay).1 := by
  have move := importExport_move sha256 store payload capability receiptDay
  revert move
  generalize Usage.importExport sha256 store payload capability receiptDay = outcome
  intro move
  cases move with
  | accepted received was absent prospective expiresAt receipted same =>
      have receipted' : ExportedAll F receipted := by
        rcases same with rfl | rfl <;> exact all
      exact receipted'.putRecord ⟨received.document, received.envelope, was.valid, rfl, rfl,
        events_stampAll _ _⟩
  | updated received was record held later higher kept closeDay closes =>
      exact all.putRecord ⟨received.document, received.envelope, was.valid, rfl, rfl,
        events_stampAll _ _⟩
  | _ => exact all

theorem Reachable.exported {calls : List (Call F)} {steward : Steward}
    (reachable : Reachable sha256 calls steward) : ExportedAll F steward.store := by
  refine reachable.invariant (I := fun held => ExportedAll F held.store) ?_
    (fun _ _ held => by cases held)
  rintro held call next all ⟨-, rfl⟩
  cases call with
  | issueAdmission notice issuedDay admissionRef capability =>
      rcases issueAdmission_move sha256 held.store notice issuedDay admissionRef
        capability with ⟨fault, review, same⟩ |
          ⟨enrolled, issued, enrollment, admission, review, made, same⟩
      · show ExportedAll F (Usage.issueAdmission sha256 _ _ _ _ _).1
        rw [same]
        exact all
      · show ExportedAll F (Usage.issueAdmission sha256 _ _ _ _ _).1
        rw [same]
        exact all
  | importExport payload capability receiptDay => exact all.importExport payload capability receiptDay
  | withdraw admissionRef capability decisionDay receiptId =>
      exact fun key record found => all key record ((sheds_withdraw _ _ _ _ _ _).records _ _ found)
  | expire today => exact fun key record found => all key record ((sheds_expire _ _).records _ _ found)

/-! ## Runs of imports -/

/-- The arguments of an import. -/
structure ImportCall (F : Type) where
  payload : Payload F
  capability : Json F
  receiptDay : Json F

variable (sha256) in
/-- An import, whatever it answers. -/
def importStep (store : Store) (call : ImportCall F) : Store :=
  (importExport sha256 store call.payload call.capability call.receiptDay).1

/-- A run of imports extends every record. -/
theorem extendsAll_run {store last : Store} {imports : List (ImportCall F)}
    (run : Run (fun earlier call later => importStep sha256 earlier call = later) store imports last) :
    ExtendsAll store last := by
  refine run.invariant (I := ExtendsAll store) ?_ (.of_records rfl)
  rintro earlier call _ all rfl workflowRef record held
  obtain ⟨middle, isMiddle, one⟩ := all workflowRef record held
  obtain ⟨later, isLater, two⟩ := extendsAll_importExport sha256 earlier call.payload
    call.capability call.receiptDay workflowRef middle isMiddle
  exact ⟨later, isLater, one.trans two⟩

theorem exportedAll_run {store last : Store} {imports : List (ImportCall F)}
    (all : ExportedAll F store)
    (run : Run (fun earlier call later => importStep sha256 earlier call = later) store imports last) :
    ExportedAll F last := by
  refine run.invariant (I := ExportedAll F) ?_ all
  rintro earlier call _ held rfl
  exact held.importExport call.payload call.capability call.receiptDay

theorem admissions_run {store last : Store} {imports : List (ImportCall F)}
    (run : Run (fun earlier call later => importStep sha256 earlier call = later) store imports last)
    (ref : String) (present : (last.admissions.get? ref).isSome = true) :
    (store.admissions.get? ref).isSome = true := by
  revert present
  refine run.invariant (I := fun later => (later.admissions.get? ref).isSome = true →
    (store.admissions.get? ref).isSome = true) ?_ id
  rintro earlier call _ held rfl present
  exact held (admissions_importExport earlier call.payload call.capability call.receiptDay ref present)

/-- An import that no JSON value makes. -/
def sampleImport : ImportCall Budget.ZeroFloat := ⟨.other, .str "capability", .str "2026-03-05"⟩

end Aegis.Usage
