/-
# Usage.Withdrawal — withdrawal is complete, final and always available

A `Steward` is a store with the list of the capabilities that were issued. Its steps are
the four calls, with any payloads, capabilities and days; an issue draws a reference that
no admission and no tombstone has.

* `Covered`: each workflow with a record or a quarantine entry has the admission or the
  tombstone of an issued capability;
* `Mentions`: some entry of the store is about a workflow.
-/
import Aegis.Budget.Restart
import Aegis.Lib.Runs
import Aegis.Usage.StoreMoves

namespace Aegis.Usage

open Aegis.Lib
open Aegis.Lib.Guarded
open Aegis.Lib.Runs

set_option autoImplicit false

/-- The calls that change a store. -/
inductive Call (F : Type)
  | issueAdmission (notice issuedDay : Json F) (admissionRef capability : String)
  | importExport (payload : Payload F) (capability receiptDay : Json F)
  | withdraw (admissionRef capability decisionDay : Json F) (receiptId : String)
  | expire (today : Json F)

/-- A reference, its capability and the workflow for which they were issued. -/
structure Issued where
  admissionRef : String
  capability : String
  workflowRef : String
  deriving DecidableEq

structure Steward where
  store : Store
  issued : List Issued

/-- Some admission, tombstone, record or quarantine entry is about the workflow. -/
def Mentions (store : Store) (workflowRef : String) : Prop :=
  (∃ ref admission, store.admissions.get? ref = some admission ∧
    admission.workflowRef = workflowRef) ∨
  (∃ ref tombstone, store.admissionTombstones.get? ref = some tombstone ∧
    tombstone.workflowRef = workflowRef) ∨
  (∃ key record, store.records.get? key = some record ∧
    (key = workflowRef ∨ record.workflowRef = workflowRef)) ∨
  ∃ entry ∈ store.quarantine, entry.workflowRef = workflowRef

section Steps

variable {F : Type} [JsonFloat F] (sha256 : ByteArray → String)

/-- The workflow that an issue enrols, when it succeeds. -/
def enrols (store : Store) : Call F → Option String
  | .issueAdmission notice issuedDay _ _ =>
      match reviewNotice store notice issuedDay with
      | .ok (workflowRef, _, _) => some workflowRef
      | .error _ => none
  | _ => none

/-- The store after a call. -/
def Call.run (store : Store) : Call F → Store
  | .issueAdmission notice issuedDay admissionRef capability =>
      (Usage.issueAdmission sha256 store notice issuedDay admissionRef capability).1
  | .importExport payload capability receiptDay =>
      (Usage.importExport sha256 store payload capability receiptDay).1
  | .withdraw admissionRef capability decisionDay receiptId =>
      (Usage.withdraw sha256 store admissionRef capability decisionDay receiptId).1
  | .expire today => (Usage.expire store today).1

/-- The capability that a call issues. -/
def Call.issues (store : Store) : Call F → List Issued
  | .issueAdmission notice issuedDay admissionRef capability =>
      match enrols store (.issueAdmission notice issuedDay admissionRef capability) with
      | some workflowRef => [⟨admissionRef, capability, workflowRef⟩]
      | none => []
  | _ => []

/-- The drawn reference of an admission is new. -/
def Call.Fresh (store : Store) : Call F → Prop
  | .issueAdmission _ _ admissionRef _ => identityOf store admissionRef = none
  | _ => True

def Step (steward : Steward) (call : Call F) (next : Steward) : Prop :=
  call.Fresh steward.store ∧
    next = ⟨call.run sha256 steward.store, call.issues steward.store ++ steward.issued⟩

/-- A run from the new store. -/
def Reachable (calls : List (Call F)) (steward : Steward) : Prop :=
  Run (Step sha256) ⟨newStore, []⟩ calls steward

end Steps

variable {F : Type} [JsonFloat F] {sha256 : ByteArray → String}

/-! ## What every run keeps -/

/-- The verifiers are those of issued capabilities, records stand under their workflow, and
each workflow with data has an identity. -/
structure Covered (sha256 : ByteArray → String) (steward : Steward) : Prop where
  admissions : ∀ ref admission, steward.store.admissions.get? ref = some admission →
    ∃ capability, ⟨ref, capability, admission.workflowRef⟩ ∈ steward.issued ∧
      admission.verifier = admissionVerifier sha256 ref capability
  tombstones : ∀ ref tombstone, steward.store.admissionTombstones.get? ref = some tombstone →
    ∃ capability, ⟨ref, capability, tombstone.workflowRef⟩ ∈ steward.issued ∧
      tombstone.verifier = admissionVerifier sha256 ref capability
  keyed : ∀ key record, steward.store.records.get? key = some record → record.workflowRef = key
  linked : ∀ workflowRef ∈ linked steward.store, ∃ ref verifier,
    identityOf steward.store ref = some (workflowRef, verifier)

theorem covered_newStore : Covered sha256 ⟨newStore, []⟩ := by
  refine ⟨?_, ?_, ?_, ?_⟩ <;> simp [newStore, linked, Registry.empty, Registry.get?]

variable {steward : Steward} {ref workflowRef : String} {store : Store} {admission : Admission}

theorem Covered.identity (covered : Covered sha256 steward) {verifier : String}
    (known : identityOf steward.store ref = some (workflowRef, verifier)) :
    ∃ capability, ⟨ref, capability, workflowRef⟩ ∈ steward.issued ∧
      verifier = admissionVerifier sha256 ref capability := by
  unfold identityOf at known
  cases held : steward.store.admissions.get? ref with
  | some admission =>
      rw [held] at known
      simp only [Option.some.injEq, Prod.mk.injEq] at known
      obtain ⟨rfl, rfl⟩ := known
      exact covered.admissions ref admission held
  | none =>
      rw [held] at known
      simp only [Option.map_eq_some_iff, Prod.mk.injEq] at known
      obtain ⟨tombstone, found, rfl, rfl⟩ := known
      exact covered.tombstones ref tombstone found

/-- A call that only deletes keeps the cover. -/
theorem Covered.sheds (covered : Covered sha256 steward) {after : Store}
    (sheds : Sheds steward.store after) : Covered sha256 ⟨after, steward.issued⟩ where
  admissions := fun ref admission found => covered.admissions ref admission
    (sheds.admissions ref admission found)
  tombstones := by
    intro ref tombstone found
    rcases sheds.tombstones ref tombstone found with earlier | ⟨admission, held, workflow, verifier⟩
    · exact covered.tombstones ref tombstone earlier
    · rw [workflow, verifier]
      exact covered.admissions ref admission held
  keyed := fun key record found => covered.keyed key record (sheds.records key record found)
  linked := by
    intro workflowRef member
    obtain ⟨ref, verifier, known⟩ := covered.linked workflowRef (sheds.linked_subset member)
    exact ⟨ref, verifier, sheds.identity workflowRef member ref verifier known⟩

/-- Data of a workflow whose admission is held. -/
theorem identityOf_admission (held : store.admissions.get? ref = some admission) :
    identityOf store ref = some (admission.workflowRef, admission.verifier) := by
  rw [identityOf, held]

/-- An admission rewritten under its reference keeps every identity. -/
theorem identityOf_putAdmission {rewritten : Admission}
    (held : store.admissions.get? ref = some admission)
    (workflow : rewritten.workflowRef = admission.workflowRef)
    (verifier : rewritten.verifier = admission.verifier) (asked : String) :
    identityOf (store.putAdmission ref rewritten) asked = identityOf store asked := by
  unfold identityOf Store.putAdmission
  simp only [Registry.get?_set]
  by_cases same : asked = ref
  · simp [same, held, workflow, verifier]
  · simp [same]

theorem Covered.putAdmission (covered : Covered sha256 steward) {rewritten : Admission}
    (held : steward.store.admissions.get? ref = some admission)
    (workflow : rewritten.workflowRef = admission.workflowRef)
    (verifier : rewritten.verifier = admission.verifier) :
    Covered sha256 ⟨steward.store.putAdmission ref rewritten, steward.issued⟩ where
  admissions := by
    intro asked found isFound
    simp only [Store.putAdmission, Registry.get?_set] at isFound
    split at isFound
    · rename_i same
      obtain rfl := Option.some.inj isFound
      rw [same, workflow, verifier]
      exact covered.admissions ref admission held
    · exact covered.admissions asked found isFound
  tombstones := covered.tombstones
  keyed := covered.keyed
  linked := by
    intro workflowRef member
    obtain ⟨asked, found, known⟩ := covered.linked workflowRef member
    exact ⟨asked, found, by rw [identityOf_putAdmission held workflow verifier]; exact known⟩

theorem Covered.putRecord (covered : Covered sha256 steward) {record : Record} {verifier : String}
    (known : identityOf steward.store ref = some (record.workflowRef, verifier)) :
    Covered sha256 ⟨steward.store.putRecord record.workflowRef record, steward.issued⟩ where
  admissions := covered.admissions
  tombstones := covered.tombstones
  keyed := by
    intro key found isFound
    simp only [Store.putRecord, Registry.get?_set] at isFound
    split at isFound
    · rename_i same
      obtain rfl := Option.some.inj isFound
      exact same.symm
    · exact covered.keyed key found isFound
  linked := by
    intro workflowRef member
    rcases mem_linked.mp member with ⟨found, isFound⟩ | quarantined
    · simp only [Store.putRecord, Registry.get?_set] at isFound
      split at isFound
      · rename_i same
        rw [same]
        exact ⟨ref, verifier, known⟩
      · exact covered.linked workflowRef (mem_linked.mpr (.inl ⟨found, isFound⟩))
    · exact covered.linked workflowRef (mem_linked.mpr (.inr quarantined))

theorem Covered.quarantine (covered : Covered sha256 steward) {received : Received F}
    {receiptDay : Json F} (was : WasReceived sha256 steward.store receiptDay received)
    (code message : String) :
    Covered sha256 ⟨(quarantineExport steward.store received code message).1, steward.issued⟩ where
  admissions := covered.admissions
  tombstones := covered.tombstones
  keyed := covered.keyed
  linked := by
    intro workflowRef member
    rcases mem_linked.mp member with recorded | ⟨entry, there, rfl⟩
    · exact covered.linked workflowRef (mem_linked.mpr (.inl recorded))
    · rcases List.mem_append.mp there with earlier | last
      · exact covered.linked _ (mem_linked.mpr (.inr ⟨entry, earlier, rfl⟩))
      · rw [List.mem_singleton.mp last]
        exact ⟨received.envelope.admissionRef, received.admission.verifier,
          (identityOf_admission was.admission).trans (by rw [was.workflow])⟩

/-- An import keeps the cover on every exit. -/
theorem Covered.importExport (covered : Covered sha256 steward) (payload : Payload F)
    (capability receiptDay : Json F) :
    Covered sha256 ⟨(Usage.importExport sha256 steward.store payload capability receiptDay).1,
      steward.issued⟩ := by
  have move := importExport_move sha256 steward.store payload capability receiptDay
  revert move
  generalize Usage.importExport sha256 steward.store payload capability receiptDay = outcome
  intro move
  cases move with
  | refused fault => exact covered
  | noted received was overflow => exact covered.putAdmission was.admission rfl rfl
  | quarantined received was code message => exact covered.quarantine was code message
  | accepted received was absent prospective expiresAt receipted same =>
      have identity : identityOf steward.store received.envelope.admissionRef =
          some (received.envelope.snapshot.workflowRef, received.admission.verifier) :=
        (identityOf_admission was.admission).trans (by rw [was.workflow])
      let record := firstRecord sha256 received prospective expiresAt
      show Covered sha256 ⟨receipted.putRecord record.workflowRef record, steward.issued⟩
      rcases same with rfl | rfl
      · exact covered.putRecord identity
      · have both : Covered sha256 ⟨steward.store.putAdmission received.envelope.admissionRef
            (noted received), steward.issued⟩ := covered.putAdmission was.admission rfl rfl
        have kept : ∀ asked, identityOf (steward.store.putAdmission received.envelope.admissionRef
            (noted received)) asked = identityOf steward.store asked :=
          identityOf_putAdmission was.admission rfl rfl
        exact both.putRecord ((kept _).trans identity)
  | ignored revision storedRevision =>
      exact ⟨covered.admissions, covered.tombstones, covered.keyed, covered.linked⟩
  | duplicate revision => exact covered
  | updated received was record held later higher kept closeDay closes =>
      have key := covered.keyed _ _ held
      have identity : identityOf steward.store received.envelope.admissionRef =
          some ((updatedRecord record received closeDay).workflowRef, received.admission.verifier) :=
        (identityOf_admission was.admission).trans (by rw [was.workflow, ← key]; rfl)
      have updated := covered.putRecord identity
      have same : (updatedRecord record received closeDay).workflowRef =
          received.envelope.snapshot.workflowRef := key
      rw [same] at updated
      exact updated

theorem Covered.issueAdmission (covered : Covered sha256 steward) {notice issuedDay : Json F}
    {admissionRef capability : String} (fresh : identityOf steward.store admissionRef = none) :
    Covered sha256
      ⟨(Usage.issueAdmission sha256 steward.store notice issuedDay admissionRef capability).1,
        (Call.issueAdmission notice issuedDay admissionRef capability).issues steward.store ++
          steward.issued⟩ := by
  rcases issueAdmission_move sha256 steward.store notice issuedDay admissionRef capability
    with ⟨fault, review, same⟩ | ⟨workflowRef, issued, enrollment, admission, review, made, same⟩
  · simp only [same, Call.issues, enrols, review, List.nil_append]
    exact covered
  · simp only [same, Call.issues, enrols, review, List.singleton_append]
    refine ⟨?_, ?_, covered.keyed, ?_⟩
    · intro asked found isFound
      simp only [Store.putAdmission, Registry.get?_set] at isFound
      split at isFound
      · rename_i sameRef
        obtain rfl := Option.some.inj isFound
        exact ⟨capability, by rw [sameRef, made]; exact List.mem_cons_self .., by rw [sameRef, made]⟩
      · obtain ⟨held, member, verifier⟩ := covered.admissions asked found isFound
        exact ⟨held, List.mem_cons_of_mem _ member, verifier⟩
    · intro asked found isFound
      obtain ⟨held, member, verifier⟩ := covered.tombstones asked found isFound
      exact ⟨held, List.mem_cons_of_mem _ member, verifier⟩
    · intro linkedRef member
      obtain ⟨asked, verifier, known⟩ := covered.linked linkedRef member
      have apart : asked ≠ admissionRef := by
        rintro rfl
        rw [fresh] at known
        cases known
      refine ⟨asked, verifier, ?_⟩
      unfold identityOf Store.putAdmission at *
      simpa only [Registry.get?_set, if_neg apart] using known

variable (sha256) in
omit [JsonFloat F] in
theorem sheds_withdraw (store : Store) (admissionRef capability decisionDay : Json F)
    (receiptId : String) :
    Sheds store (Usage.withdraw sha256 store admissionRef capability decisionDay receiptId).1 := by
  rcases withdraw_move sha256 store admissionRef capability decisionDay receiptId with
    ⟨fault, same⟩ | ⟨workflowRef, _, receipts, withdrawals, same, _⟩
  · rw [same]
    exact .refl store
  · rw [same]
    exact (sheds_forget store workflowRef).of_counters receipts withdrawals

theorem Covered.step {next : Steward} {call : Call F} (covered : Covered sha256 steward)
    (step : Step sha256 steward call next) : Covered sha256 next := by
  obtain ⟨fresh, rfl⟩ := step
  cases call with
  | issueAdmission notice issuedDay admissionRef capability => exact covered.issueAdmission fresh
  | importExport payload capability receiptDay =>
      exact covered.importExport payload capability receiptDay
  | withdraw admissionRef capability decisionDay receiptId =>
      exact covered.sheds (sheds_withdraw _ _ _ _ _ _)
  | expire today => exact covered.sheds (sheds_expire _ _)

/-- **Every run keeps the cover.** -/
theorem Reachable.covered {calls : List (Call F)} (reachable : Reachable sha256 calls steward) :
    Covered sha256 steward :=
  reachable.invariant (fun _ _ _ held step => held.step step) covered_newStore

/-! ## Absence after a withdrawal -/

theorem not_mentions_sheds {after : Store} (sheds : Sheds store after)
    (absent : ¬ Mentions store workflowRef) : ¬ Mentions after workflowRef := by
  refine fun mentioned => absent ?_
  rcases mentioned with ⟨ref, admission, held, same⟩ | ⟨ref, tombstone, held, same⟩ |
    ⟨key, record, held, same⟩ | ⟨entry, there, same⟩
  · exact .inl ⟨ref, admission, sheds.admissions _ _ held, same⟩
  · rcases sheds.tombstones ref tombstone held with earlier | ⟨admission, source, workflow, _⟩
    · exact .inr (.inl ⟨ref, tombstone, earlier, same⟩)
    · exact .inl ⟨ref, admission, source, workflow ▸ same⟩
  · exact .inr (.inr (.inl ⟨key, record, sheds.records _ _ held, same⟩))
  · exact .inr (.inr (.inr ⟨entry, sheds.quarantine _ there, same⟩))

theorem not_mentions_forget
    (keyed : ∀ key record, store.records.get? key = some record → record.workflowRef = key) :
    ¬ Mentions (forget store workflowRef) workflowRef := by
  rintro (⟨ref, admission, held, same⟩ | ⟨ref, tombstone, held, same⟩ | ⟨key, record, held, same⟩ |
    ⟨entry, there, same⟩)
  · simp [forget, same] at held
  · simp [forget, same] at held
  · simp only [forget, Registry.get?_erase] at held
    split at held
    · cases held
    · rename_i apart
      rcases same with rfl | same
      · exact apart rfl
      · exact apart ((keyed key record held).symm.trans same)
  · simp [forget, same] at there

/-- A put entry of another workflow mentions nothing new. -/
theorem not_mentions_putAdmission (absent : ¬ Mentions store workflowRef)
    (other : admission.workflowRef ≠ workflowRef) :
    ¬ Mentions (store.putAdmission ref admission) workflowRef := by
  refine fun mentioned => absent ?_
  rcases mentioned with ⟨asked, found, held, same⟩ | rest
  · simp only [Store.putAdmission, Registry.get?_set] at held
    split at held
    · obtain rfl := Option.some.inj held
      exact absurd same other
    · exact .inl ⟨asked, found, held, same⟩
  · exact .inr rest

theorem not_mentions_putRecord {key : String} {record : Record}
    (absent : ¬ Mentions store workflowRef) (otherKey : key ≠ workflowRef)
    (other : record.workflowRef ≠ workflowRef) :
    ¬ Mentions (store.putRecord key record) workflowRef := by
  refine fun mentioned => absent ?_
  rcases mentioned with admission | tombstone | ⟨asked, found, held, same⟩ | quarantined
  · exact .inl admission
  · exact .inr (.inl tombstone)
  · simp only [Store.putRecord, Registry.get?_set] at held
    split at held
    · rename_i sameKey
      obtain rfl := Option.some.inj held
      rcases same with rfl | same
      · exact absurd sameKey.symm otherKey
      · exact absurd same other
    · exact .inr (.inr (.inl ⟨asked, found, held, same⟩))
  · exact .inr (.inr (.inr quarantined))

/-- An import is about the workflow of a held admission only. -/
theorem not_mentions_importExport {payload : Payload F} {capability receiptDay : Json F}
    (keyed : ∀ key record, store.records.get? key = some record → record.workflowRef = key)
    (absent : ¬ Mentions store workflowRef) :
    ¬ Mentions (importExport sha256 store payload capability receiptDay).1 workflowRef := by
  have move := importExport_move sha256 store payload capability receiptDay
  have apart : ∀ received : Received F, WasReceived sha256 store receiptDay received →
      received.envelope.snapshot.workflowRef ≠ workflowRef := by
    intro received was same
    exact absent (.inl ⟨_, _, was.admission, was.workflow.trans same⟩)
  revert move
  generalize importExport sha256 store payload capability receiptDay = outcome
  intro move
  cases move with
  | refused fault => exact absent
  | noted received was overflow =>
      exact not_mentions_putAdmission absent (was.workflow ▸ apart received was)
  | quarantined received was code message =>
      rintro (admission | tombstone | record | ⟨entry, there, same⟩)
      · exact absent (.inl admission)
      · exact absent (.inr (.inl tombstone))
      · exact absent (.inr (.inr (.inl record)))
      · rcases List.mem_append.mp there with earlier | last
        · exact absent (.inr (.inr (.inr ⟨entry, earlier, same⟩)))
        · rw [List.mem_singleton.mp last] at same
          exact apart received was same
  | accepted received was here prospective expiresAt receipted same =>
      refine not_mentions_putRecord ?_ (apart received was) (apart received was)
      rcases same with rfl | rfl
      · exact absent
      · exact not_mentions_putAdmission absent (was.workflow ▸ apart received was)
  | ignored revision storedRevision => exact absent
  | duplicate revision => exact absent
  | updated received was record held later higher kept closeDay closes =>
      refine not_mentions_putRecord absent (apart received was) ?_
      have key : record.workflowRef = received.envelope.snapshot.workflowRef := keyed _ _ held
      exact fun same => apart received was (key.symm.trans same)

/-- A step that is no issue for a workflow does not bring it back. -/
theorem not_mentions_step {next : Steward} {call : Call F} (covered : Covered sha256 steward)
    (absent : ¬ Mentions steward.store workflowRef)
    (other : enrols steward.store call ≠ some workflowRef) (step : Step sha256 steward call next) :
    ¬ Mentions next.store workflowRef := by
  obtain ⟨_, rfl⟩ := step
  cases call with
  | issueAdmission notice issuedDay admissionRef capability =>
      rcases issueAdmission_move sha256 steward.store notice issuedDay admissionRef
        capability with ⟨fault, review, same⟩ |
          ⟨enrolled, issued, enrollment, admission, review, made, same⟩
      · show ¬ Mentions (Usage.issueAdmission sha256 _ _ _ _ _).1 workflowRef
        rw [same]
        exact absent
      · show ¬ Mentions (Usage.issueAdmission sha256 _ _ _ _ _).1 workflowRef
        rw [same]
        refine not_mentions_putAdmission absent ?_
        rw [made]
        simpa [enrols, review] using other
  | importExport payload capability receiptDay => exact not_mentions_importExport covered.keyed absent
  | withdraw admissionRef capability decisionDay receiptId =>
      exact not_mentions_sheds (sheds_withdraw _ _ _ _ _ _) absent
  | expire today => exact not_mentions_sheds (sheds_expire _ _) absent

/-- A run without an issue for a workflow does not bring it back. -/
theorem not_mentions_run {last : Steward} {calls : List (Call F)} (covered : Covered sha256 steward)
    (absent : ¬ Mentions steward.store workflowRef)
    (run : Run (fun earlier call later => enrols earlier.store call ≠ some workflowRef ∧
      Step sha256 earlier call later) steward calls last) : ¬ Mentions last.store workflowRef := by
  have both : Covered sha256 last ∧ ¬ Mentions last.store workflowRef :=
    run.invariant (I := fun held => Covered sha256 held ∧ ¬ Mentions held.store workflowRef)
      (fun earlier call later held step =>
        ⟨held.1.step step.2, not_mentions_step held.1 held.2 step.1 step.2⟩) ⟨covered, absent⟩
  exact both.2

omit [JsonFloat F] in
/-- The capability of an identity withdraws its workflow on any day with a receipt. -/
theorem withdraw_available {capability : String}
    (known : identityOf store ref = some (workflowRef, admissionVerifier sha256 ref capability))
    {decisionDay : Json F} {decided expiry : Day}
    (days : receiptDays decisionDay = .ok (decided, expiry)) (receiptId : String) :
    ∃ result, (withdraw sha256 store (.str ref) (.str capability) decisionDay receiptId).2 =
      .ok result := by
  have verified : verifyCapability sha256 store (.str ref) (.str capability : Json F) =
      .ok workflowRef :=
    verifyCapability_eq_ok.mpr ⟨ref, _, rfl, known, beq_self_eq_true _⟩
  rw [withdraw, verified]
  simp only [days]
  exact ⟨_, rfl⟩

omit [JsonFloat F] in
/-- A successful withdrawal deletes everything about the workflow of the identity. -/
theorem withdraw_complete {after : Store} {verifier receiptId : String}
    {capability decisionDay : Json F} {result : WithdrawResult}
    (keyed : ∀ key record, store.records.get? key = some record → record.workflowRef = key)
    (known : identityOf store ref = some (workflowRef, verifier))
    (withdrawn : withdraw sha256 store (.str ref) capability decisionDay receiptId =
      (after, .ok result)) : ¬ Mentions after workflowRef := by
  rcases withdraw_move sha256 store (.str ref) capability decisionDay receiptId with
    ⟨fault, same⟩ | ⟨forgotten, verified, receipts, withdrawals, same, _⟩
  · rw [withdrawn] at same
    cases same
  · obtain ⟨_, _, isRef, identity, _⟩ := verifyCapability_eq_ok.mp verified
    obtain rfl := Json.str.inj isRef
    obtain ⟨rfl, -⟩ := Prod.mk.inj (Option.some.inj (known.symm.trans identity))
    rw [withdrawn] at same
    rw [show after = _ from same]
    exact not_mentions_forget keyed

/-- **Withdrawal is complete, final and always available.** In every reachable state, a
successful withdrawal by an admission or a tombstone of a workflow leaves nothing about that
workflow, and nothing comes back before the next issue for it; and every workflow that has a
record or a quarantine entry has the admission or the tombstone of a capability issued for
it, which withdraws it on every day with a receipt. -/
theorem withdrawal_complete_final_available {calls : List (Call F)} {steward : Steward}
    (reachable : Reachable sha256 calls steward) :
    (∀ (ref workflowRef verifier receiptId : String) (capability decisionDay : Json F)
        (after : Store) (result : WithdrawResult),
      identityOf steward.store ref = some (workflowRef, verifier) →
      withdraw sha256 steward.store (.str ref) capability decisionDay receiptId =
        (after, .ok result) →
      ¬ Mentions after workflowRef ∧
      ∀ (later : List (Call F)) (last : Steward),
        Run (fun earlier call next => enrols earlier.store call ≠ some workflowRef ∧
          Step sha256 earlier call next) ⟨after, steward.issued⟩ later last →
        ¬ Mentions last.store workflowRef) ∧
    ∀ workflowRef, ((steward.store.records.get? workflowRef).isSome = true ∨
        ∃ entry ∈ steward.store.quarantine, entry.workflowRef = workflowRef) →
      ∃ ref capability, ⟨ref, capability, workflowRef⟩ ∈ steward.issued ∧
        identityOf steward.store ref =
          some (workflowRef, admissionVerifier sha256 ref capability) ∧
        ∀ (decisionDay : Json F) (decided expiry : Day) (receiptId : String),
          receiptDays decisionDay = .ok (decided, expiry) →
          ∃ result, (withdraw sha256 steward.store (.str ref) (.str capability) decisionDay
            receiptId).2 = .ok result := by
  have covered := reachable.covered
  constructor
  · intro ref workflowRef verifier receiptId capability decisionDay after result known withdrawn
    have absent := withdraw_complete covered.keyed known withdrawn
    refine ⟨absent, fun later last run => not_mentions_run ?_ absent run⟩
    have sheds := sheds_withdraw sha256 steward.store (.str ref) capability decisionDay receiptId
    rw [withdrawn] at sheds
    exact covered.sheds sheds
  · intro workflowRef data
    have member : workflowRef ∈ linked steward.store :=
      mem_linked.mpr (data.imp_left Option.isSome_iff_exists.mp)
    obtain ⟨ref, verifier, known⟩ := covered.linked workflowRef member
    obtain ⟨capability, issued, rfl⟩ := covered.identity known
    exact ⟨ref, capability, issued, known, fun decisionDay decided expiry receiptId days =>
      withdraw_available known days receiptId⟩

def sampleRef (head : String) : String := head ++ "00000000000000000000000000000000"

/-- A start notice. -/
def sampleNotice : Json Budget.ZeroFloat :=
  .dict [("workflow_ref", .str (sampleRef "wf-")), ("start_day", .str "2026-03-01"),
    ("criteria_frozen_before_work", .bool true),
    ("criteria_contract_ref", .str (sampleRef "crit-"))]

def sampleIssue : Call Budget.ZeroFloat :=
  .issueAdmission sampleNotice (.str "2026-03-02") (sampleRef "adm-") "capability"

/-- The steward after the issue of one admission. -/
def sampleSteward : Steward :=
  ⟨sampleIssue.run Budget.plainDigest newStore, sampleIssue.issues newStore⟩

theorem withdrawal_of_sample : ∃ after result,
    withdraw Budget.plainDigest sampleSteward.store (.str (sampleRef "adm-"))
      (.str "capability" : Json Budget.ZeroFloat) (.str "2026-03-05") "receipt" =
        (after, .ok result) ∧ ¬ Mentions after (sampleRef "wf-") := by
  have fresh : sampleIssue.Fresh newStore := rfl
  have reachable : Reachable Budget.plainDigest [sampleIssue] sampleSteward :=
    Run.snoc .nil ⟨fresh, rfl⟩
  have days : receiptDays (.str "2026-03-05" : Json Budget.ZeroFloat) =
      .ok (⟨2026, 3, 5, by decide, by decide, by decide⟩,
        ⟨2026, 3, 12, by decide, by decide, by decide⟩) := by rfl
  have known : identityOf sampleSteward.store (sampleRef "adm-") = some (sampleRef "wf-",
      admissionVerifier Budget.plainDigest (sampleRef "adm-") "capability") := by rfl
  obtain ⟨result, withdrawn⟩ := withdraw_available known days "receipt"
  refine ⟨_, result, Prod.ext rfl withdrawn, ?_⟩
  exact ((withdrawal_complete_final_available reachable).1 _ _ _ _ _ _ _ result known
    (Prod.ext rfl withdrawn)).1

end Aegis.Usage
