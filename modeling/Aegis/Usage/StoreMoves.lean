/-
# Usage.StoreMoves — what one call does to the central store

One inversion for each call: `importExport_move` lists the exits of an import with what was
checked on the way, `issueAdmission_move`, `withdraw_move` and `expire_move` the others.
The run results read these, never the calls.
-/
import Aegis.Usage.CentralStore

namespace Aegis.Usage

open Aegis.Lib
open Aegis.Lib.Guarded

set_option autoImplicit false

variable {F : Type} [JsonFloat F] {sha256 : ByteArray → String}

/-- What `receive` checked. -/
structure WasReceived (sha256 : ByteArray → String) (store : Store) (receiptDay : Json F)
    (received : Received F) : Prop where
  valid : validateEnvelope received.document = .ok received.envelope
  admission : store.admissions.get? received.envelope.admissionRef = some received.admission
  workflow : received.admission.workflowRef = received.envelope.snapshot.workflowRef
  day : parseDay receiptDay "day" = .ok received.today
  validity : checkValidity received.admission received.today = .ok ()
  issued : received.admission.issuedDay ≤ received.today
  events : ∀ event ∈ received.envelope.snapshot.transitions.events,
    event.effectiveDay ≤ received.today

variable {store : Store} {receiptDay : Json F} {received : Received F}

theorem wasReceived {payload : Payload F} {capability : Json F}
    (checked : receive sha256 store payload capability receiptDay = .ok received) :
    WasReceived sha256 store receiptDay received := by
  unfold receive at checked
  simp only [bind_eq_ok, require_eq_ok, refuse_eq_ok, pure_eq_ok] at checked
  obtain ⟨_, _, document, _, envelope, valid, ⟨admission, today⟩, required, _, workflow, _, issued, _,
    events, rfl⟩ := checked
  unfold requireAdmission at required
  simp only [bind_eq_ok, require_eq_ok, fetch_eq_ok, pure_eq_ok, Prod.mk.injEq] at required
  obtain ⟨_, found, _, _, _, day, _, validity, rfl, rfl⟩ := required
  exact ⟨valid, found, workflow, day, validity, Day.not_lt.mp issued, events⟩

/-- The exits of an import. -/
inductive ImportMove (sha256 : ByteArray → String) (store : Store) (receiptDay : Json F) :
    Store × Except Fault ImportResult → Prop
  | refused (fault : Fault) : ImportMove sha256 store receiptDay (store, .error fault)
  /-- The first receipt was noted, and its expiry is past the last day. -/
  | noted (received : Received F) (was : WasReceived sha256 store receiptDay received)
      (overflow : received.today.addDays centralRetentionDays = none) :
      ImportMove sha256 store receiptDay
        (store.putAdmission received.envelope.admissionRef (noted received), .error .overflowError)
  | quarantined (received : Received F) (was : WasReceived sha256 store receiptDay received)
      (code message : String) :
      ImportMove sha256 store receiptDay (quarantineExport store received code message)
  | accepted (received : Received F) (was : WasReceived sha256 store receiptDay received)
      (absent : store.records.get? received.envelope.snapshot.workflowRef = none)
      (prospective : Bool) (expiresAt : Day) (receipted : Store)
      (same : receipted = store ∨
        receipted = store.putAdmission received.envelope.admissionRef (noted received)) :
      ImportMove sha256 store receiptDay
        (receipted.putRecord received.envelope.snapshot.workflowRef
          (firstRecord sha256 received prospective expiresAt),
          .ok (.accepted received.envelope.snapshot.revision prospective received.today))
  | ignored (revision storedRevision : Nat) :
      ImportMove sha256 store receiptDay
        ({ store with ignored := store.ignored + 1 }, .ok (.ignored revision storedRevision))
  | duplicate (revision : Nat) :
      ImportMove sha256 store receiptDay (store, .ok (.duplicate revision))
  | updated (received : Received F) (was : WasReceived sha256 store receiptDay received)
      (record : Record)
      (held : store.records.get? received.envelope.snapshot.workflowRef = some record)
      (later : record.lastReceiptDay ≤ received.today)
      (higher : record.revision < received.envelope.snapshot.revision)
      (kept : rewriteOf record.transitions.events
        received.envelope.snapshot.transitions.events = .kept)
      (closeDay : Day)
      (closes : record.enrollment.startDay.addDays (reportingWindowDays + lagDays) = some closeDay) :
      ImportMove sha256 store receiptDay
        (store.putRecord received.envelope.snapshot.workflowRef
          (updatedRecord record received closeDay),
          .ok (.updated received.envelope.snapshot.revision record.firstReceiptDay))

theorem importFirst_move (was : WasReceived sha256 store receiptDay received)
    (absent : store.records.get? received.envelope.snapshot.workflowRef = none) :
    ImportMove sha256 store receiptDay (importFirst sha256 store received) := by
  unfold importFirst
  simp only
  cases window : addDays received.envelope.snapshot.startDay pendingAdmissionDays with
  | error fault => exact .refused _
  | ok lastStart =>
      simp only
      unfold acknowledge
      cases receipt : received.admission.firstReceipt with
      | some first =>
          simp only
          cases expiry : received.admission.expiresAt <|>
              received.today.addDays centralRetentionDays with
          | none => exact .refused _
          | some expiresAt => exact .accepted received was absent _ expiresAt store (.inl rfl)
      | none =>
          simp only
          cases expiry : received.today.addDays centralRetentionDays with
          | none => exact .noted received was expiry
          | some expiresAt => exact .accepted received was absent _ expiresAt _ (.inr rfl)

theorem importRevision_move (was : WasReceived sha256 store receiptDay received) {record : Record}
    (held : store.records.get? received.envelope.snapshot.workflowRef = some record)
    (later : record.lastReceiptDay ≤ received.today)
    (higher : record.revision < received.envelope.snapshot.revision) :
    ImportMove sha256 store receiptDay (importRevision store record received) := by
  unfold importRevision
  simp only
  cases kept : rewriteOf record.transitions.events
      received.envelope.snapshot.transitions.events with
  | removed => exact .quarantined received was _ _
  | changed => exact .quarantined received was _ _
  | kept =>
      simp only
      unfold addDays
      cases closes : record.enrollment.startDay.addDays (reportingWindowDays + lagDays) with
      | none => exact .refused _
      | some closeDay => exact .updated received was record held later higher kept closeDay closes

theorem importLater_move (was : WasReceived sha256 store receiptDay received) {record : Record}
    (held : store.records.get? received.envelope.snapshot.workflowRef = some record) :
    ImportMove sha256 store receiptDay (importLater sha256 store record received) := by
  unfold importLater
  simp only
  split
  · exact .refused _
  · rename_i later
    split
    · exact .quarantined received was _ _
    · split
      · exact .ignored _ _
      · rename_i notLower
        split
        · split
          · exact .duplicate _
          · exact .quarantined received was _ _
        · rename_i other
          exact importRevision_move was held (Day.not_lt.mp later) (by omega)

variable (sha256) in
theorem importExport_move (store : Store) (payload : Payload F) (capability receiptDay : Json F) :
    ImportMove sha256 store receiptDay
      (importExport sha256 store payload capability receiptDay) := by
  unfold importExport
  split
  · exact .refused _
  · rename_i received checked
    have was := wasReceived checked
    split
    · exact .quarantined received was _ _
    · split
      · rename_i absent
        exact importFirst_move was absent
      · rename_i record held
        exact importLater_move was held

variable (sha256) in
/-- The exits of an issue. -/
theorem issueAdmission_move (store : Store) (notice issuedDay : Json F)
    (admissionRef capability : String) :
    (∃ fault, reviewNotice store notice issuedDay = .error fault ∧
      issueAdmission sha256 store notice issuedDay admissionRef capability = (store, .error fault)) ∨
    ∃ workflowRef issued enrollment, ∃ admission : Admission,
      reviewNotice store notice issuedDay = .ok (workflowRef, issued, enrollment) ∧
      admission = ⟨workflowRef, admissionVerifier sha256 admissionRef capability, issued, none, none,
        fingerprintOf (F := F) sha256 (.int reportingWindowDays) enrollment, enrollment⟩ ∧
      issueAdmission sha256 store notice issuedDay admissionRef capability =
        (store.putAdmission admissionRef admission,
          .ok ⟨admissionRef, capability, admission.enrollmentFingerprint⟩) := by
  unfold issueAdmission
  cases review : reviewNotice store notice issuedDay with
  | error fault => exact .inl ⟨fault, rfl, rfl⟩
  | ok reviewed =>
      obtain ⟨workflowRef, issued, enrollment⟩ := reviewed
      exact .inr ⟨workflowRef, issued, enrollment, _, rfl, rfl, rfl⟩

omit [JsonFloat F] in
theorem verifyCapability_eq_ok {admissionRef capability : Json F} {workflowRef : String} :
    verifyCapability sha256 store admissionRef capability = .ok workflowRef ↔
      ∃ ref verifier, admissionRef = .str ref ∧ identityOf store ref = some (workflowRef, verifier) ∧
        verifies sha256 ref capability verifier = true := by
  unfold verifyCapability
  cases admissionRef with
  | str ref =>
      simp only [bind_eq_ok, fetch_eq_ok, require_eq_ok, pure_eq_ok]
      constructor
      · rintro ⟨⟨_, verifier⟩, found, _, checked, rfl⟩
        exact ⟨ref, verifier, rfl, found, checked⟩
      · rintro ⟨_, verifier, same, found, checked⟩
        obtain rfl := Json.str.inj same
        exact ⟨_, found, ⟨⟩, checked, rfl⟩
  | _ => simp

/-! ## Deletion -/

/-- What a call that only deletes leaves: nothing new except tombstones of the admissions, and
the identity of each workflow that a record or a quarantine entry is about. -/
structure Sheds (store after : Store) : Prop where
  admissions : ∀ ref admission, after.admissions.get? ref = some admission →
    store.admissions.get? ref = some admission
  tombstones : ∀ ref tombstone, after.admissionTombstones.get? ref = some tombstone →
    store.admissionTombstones.get? ref = some tombstone ∨
      ∃ admission, store.admissions.get? ref = some admission ∧
        tombstone.workflowRef = admission.workflowRef ∧ tombstone.verifier = admission.verifier
  records : ∀ key record, after.records.get? key = some record → store.records.get? key = some record
  quarantine : ∀ entry ∈ after.quarantine, entry ∈ store.quarantine
  identity : ∀ workflowRef ∈ linked after, ∀ ref verifier,
    identityOf store ref = some (workflowRef, verifier) →
      identityOf after ref = some (workflowRef, verifier)

theorem mem_linked {workflowRef : String} :
    workflowRef ∈ linked store ↔ (∃ record, store.records.get? workflowRef = some record) ∨
      ∃ entry ∈ store.quarantine, entry.workflowRef = workflowRef := by
  unfold linked
  rw [List.mem_append, List.mem_map, List.mem_map]
  refine or_congr ⟨?_, ?_⟩ Iff.rfl
  · rintro ⟨row, member, rfl⟩
    exact ⟨row.2, Registry.mem_rows_iff.mp member⟩
  · rintro ⟨record, found⟩
    exact ⟨(workflowRef, record), Registry.mem_rows_iff.mpr found, rfl⟩

namespace Sheds

theorem refl (store : Store) : Sheds store store :=
  ⟨fun _ _ found => found, fun _ _ found => .inl found, fun _ _ found => found,
    fun _ member => member, fun _ _ _ _ known => known⟩

theorem linked_subset {store after : Store} (sheds : Sheds store after) {workflowRef : String}
    (member : workflowRef ∈ linked after) : workflowRef ∈ linked store := by
  rw [mem_linked] at member ⊢
  rcases member with ⟨record, found⟩ | ⟨entry, there, same⟩
  · exact .inl ⟨record, sheds.records _ _ found⟩
  · exact .inr ⟨entry, sheds.quarantine _ there, same⟩

theorem trans {first second third : Store} (one : Sheds first second) (two : Sheds second third) :
    Sheds first third where
  admissions := fun ref admission found => one.admissions _ _ (two.admissions _ _ found)
  tombstones := by
    intro ref tombstone found
    rcases two.tombstones ref tombstone found with earlier | ⟨admission, held, same⟩
    · exact one.tombstones ref tombstone earlier
    · exact .inr ⟨admission, one.admissions _ _ held, same⟩
  records := fun key record found => one.records _ _ (two.records _ _ found)
  quarantine := fun entry member => one.quarantine _ (two.quarantine _ member)
  identity := fun workflowRef member ref verifier known =>
    two.identity workflowRef member ref verifier
      (one.identity workflowRef (two.linked_subset member) ref verifier known)

end Sheds

/-- An admission and its tombstone have one identity. -/
theorem identityOf_bury {ref : String} {admission : Admission}
    (held : store.admissions.get? ref = some admission) (expired : Day) (asked : String) :
    identityOf (bury store ref admission expired) asked = identityOf store asked := by
  unfold identityOf bury
  simp only [Registry.get?_erase, Registry.get?_set]
  by_cases same : asked = ref
  · simp [same, held]
  · simp [same]

theorem sheds_bury {ref : String} {admission : Admission}
    (held : store.admissions.get? ref = some admission) (expired : Day) :
    Sheds store (bury store ref admission expired) where
  admissions := by
    intro asked other found
    simp only [bury, Registry.get?_erase] at found
    split at found
    · cases found
    · exact found
  tombstones := by
    intro asked tombstone found
    simp only [bury, Registry.get?_set] at found
    split at found
    · rename_i same
      obtain rfl := Option.some.inj found
      exact .inr ⟨admission, same ▸ held, rfl, rfl⟩
    · exact .inl found
  records := fun _ _ found => found
  quarantine := fun _ member => member
  identity := fun workflowRef _ asked verifier known => by
    rw [identityOf_bury held]
    exact known

/-- The loop over the admissions, each of which is still held when it is reached. -/
theorem sheds_expireAdmissions (now : Day) {rows : List (String × Admission)} (removed : Nat)
    (distinct : (rows.map Prod.fst).Nodup)
    (held : ∀ row ∈ rows, store.admissions.get? row.1 = some row.2) :
    Sheds store (expireAdmissions now store removed rows).1 := by
  induction rows generalizing store removed with
  | nil => exact .refl _
  | cons row rest ih =>
      obtain ⟨ref, admission⟩ := row
      rw [List.map_cons, List.nodup_cons] at distinct
      obtain ⟨here, later⟩ := List.forall_mem_cons.mp held
      rw [expireAdmissions]
      cases lastValidDay admission with
      | error fault => exact .refl _
      | ok expiry =>
          simp only
          split
          · refine (sheds_bury here expiry).trans (ih _ distinct.2 ?_)
            intro other member
            have apart : other.1 ≠ ref := by
              rintro rfl
              exact distinct.1 (List.mem_map.mpr ⟨other, member, rfl⟩)
            simp only [bury, Registry.get?_erase, if_neg apart]
            exact later other member
          · exact ih _ distinct.2 later

theorem sheds_expireRecords (now : Day) (store : Store) :
    Sheds store (expireRecords now store).1 where
  admissions := fun _ _ found => found
  tombstones := fun _ _ found => .inl found
  records := by
    intro key record found
    simp only [expireRecords, Registry.get?_filter, Option.filter_eq_some_iff] at found
    exact found.1
  quarantine := fun _ member => member
  identity := fun _ _ _ _ known => known

theorem keptQuarantine_subset {now : Day} {entries kept : List QuarantineEntry}
    (checked : keptQuarantine now entries = .ok kept) : ∀ entry ∈ kept, entry ∈ entries := by
  unfold keptQuarantine at checked
  simp only [bind_eq_ok, pure_eq_ok] at checked
  obtain ⟨expiries, _, rfl⟩ := checked
  intro entry member
  obtain ⟨pair, inside, rfl⟩ := List.mem_map.mp member
  exact (List.of_mem_zip (List.mem_of_mem_filter inside)).1

theorem sheds_quarantine {kept : List QuarantineEntry}
    (subset : ∀ entry ∈ kept, entry ∈ store.quarantine) :
    Sheds store { store with quarantine := kept } where
  admissions := fun _ _ found => found
  tombstones := fun _ _ found => .inl found
  records := fun _ _ found => found
  quarantine := subset
  identity := fun _ _ _ _ known => known

theorem sheds_purge (now : Day) (store : Store) : Sheds store (purge now store) where
  admissions := fun _ _ found => found
  tombstones := by
    intro ref tombstone found
    simp only [purge, Registry.get?_filter, Option.filter_eq_some_iff] at found
    exact .inl found.1
  records := fun _ _ found => found
  quarantine := fun _ member => member
  identity := by
    intro workflowRef member ref verifier known
    unfold identityOf at known ⊢
    simp only [purge, Registry.get?_filter]
    cases held : store.admissions.get? ref with
    | some admission => simpa [held] using known
    | none =>
        rw [held] at known
        simp only [Option.map_eq_some_iff, Prod.mk.injEq] at known
        obtain ⟨tombstone, found, rfl, rfl⟩ := known
        have kept : tombstone.workflowRef ∈ linked store := member
        simp [found, Option.filter, kept]

omit [JsonFloat F] in
/-- **Expiry only deletes**, also when it raises on the way. -/
theorem sheds_expire (store : Store) (today : Json F) :
    Sheds store (expire store today).1 := by
  unfold expire
  cases parseDay today "day" with
  | error fault => exact .refl _
  | ok now =>
      have first : Sheds store (expireAdmissions now store 0 store.admissions.rows).1 :=
        sheds_expireAdmissions now 0 store.admissions.distinct
          fun row member => Registry.mem_rows_iff.mp member
      simp only
      cases loop : expireAdmissions now store 0 store.admissions.rows with
      | mk buried outcome =>
          rw [loop] at first
          cases outcome with
          | error fault => exact first
          | ok admissions =>
              have second := sheds_expireRecords now buried
              simp only
              cases kept : keptQuarantine now (expireRecords now buried).1.quarantine with
              | error fault => exact first.trans second
              | ok entries =>
                  exact first.trans (second.trans
                    ((sheds_quarantine (keptQuarantine_subset kept)).trans (sheds_purge now _)))

theorem sheds_forget (store : Store) (workflowRef : String) : Sheds store (forget store workflowRef) where
  admissions := by
    intro ref admission found
    simp only [forget, Registry.get?_filter, Option.filter_eq_some_iff] at found
    exact found.1
  tombstones := by
    intro ref tombstone found
    simp only [forget, Registry.get?_filter, Option.filter_eq_some_iff] at found
    exact .inl found.1
  records := by
    intro key record found
    simp only [forget, Registry.get?_erase] at found
    split at found
    · cases found
    · exact found
  quarantine := fun entry member => List.mem_of_mem_filter member
  identity := by
    intro other member ref verifier known
    have apart : other ≠ workflowRef := by
      rcases mem_linked.mp member with ⟨record, found⟩ | ⟨entry, there, rfl⟩
      · simp only [forget, Registry.get?_erase] at found
        split at found
        · cases found
        · assumption
      · simpa using (List.mem_filter.mp there).2
    unfold identityOf at known ⊢
    simp only [forget, Registry.get?_filter]
    cases held : store.admissions.get? ref with
    | some admission =>
        rw [held] at known
        simp only [Option.some.injEq, Prod.mk.injEq] at known
        obtain ⟨rfl, rfl⟩ := known
        simp [Option.filter, apart]
    | none =>
        rw [held] at known
        simp only [Option.map_eq_some_iff, Prod.mk.injEq] at known
        obtain ⟨tombstone, found, rfl, rfl⟩ := known
        simp [found, Option.filter, apart]

variable (sha256) in
omit [JsonFloat F] in
/-- The exits of a withdrawal: everything of one workflow is deleted, or nothing. -/
theorem withdraw_move (store : Store) (admissionRef capability decisionDay : Json F)
    (receiptId : String) :
    (∃ fault, withdraw sha256 store admissionRef capability decisionDay receiptId =
      (store, .error fault)) ∨
    ∃ workflowRef, verifyCapability sha256 store admissionRef capability = .ok workflowRef ∧
      ∃ deletionReceipts withdrawals,
        (withdraw sha256 store admissionRef capability decisionDay receiptId).1 =
          { forget store workflowRef with deletionReceipts, withdrawals } ∧
        ∀ decided expiry, receiptDays decisionDay = .ok (decided, expiry) → ∃ result,
          (withdraw sha256 store admissionRef capability decisionDay receiptId).2 = .ok result := by
  unfold withdraw
  cases verified : verifyCapability sha256 store admissionRef capability with
  | error fault => exact .inl ⟨fault, rfl⟩
  | ok workflowRef =>
      refine .inr ⟨workflowRef, rfl, ?_⟩
      simp only
      cases receiptDays decisionDay with
      | error fault => exact ⟨_, _, rfl, fun _ _ same => by cases same⟩
      | ok days => exact ⟨_, _, rfl, fun _ _ _ => ⟨_, rfl⟩⟩

/-- Receipts and counters play no part in what is shed. -/
theorem Sheds.of_counters {after : Store} (sheds : Sheds store after)
    (deletionReceipts : Registry String DeletionReceipt) (withdrawals : Nat) :
    Sheds store { after with deletionReceipts, withdrawals } :=
  ⟨sheds.admissions, sheds.tombstones, sheds.records, sheds.quarantine, sheds.identity⟩

end Aegis.Usage
