/-
# Usage.RecorderRuns — the calls of a recorder and what they export

Calls on one workflow, accepted or refused, keep `Recorded`. Recordings only extend the
history: of two stores that a run of recordings passes, the later one's workflow `Grows` from
the earlier one's, and a revision is exported in one form only.
-/
import Aegis.Lib.Runs
import Aegis.Usage.Recording

namespace Aegis.Usage

open Aegis.Lib
open Aegis.Lib.Guarded
open Aegis.Lib.Runs

set_option autoImplicit false

variable {F : Type} [JsonFloat F]

/-- A call of the recorder on a workflow, with what it draws. -/
inductive LocalCall (F : Type)
  | record (call : Recording F) (event : RandomRef "evt-") (exportRef : RandomRef "exp-")
  | attach (admissionRef : Json F) (exportRef : RandomRef "exp-")

namespace LocalCall

/-- The store after a call; a refused one leaves it as it was. -/
def run (workflowRef : String) (store : LocalStore) : LocalCall F → LocalStore
  | .record call event exportRef =>
      match recordTransition store (.str workflowRef) call event exportRef with
      | .ok (_, later) => later
      | .error _ => store
  | .attach admissionRef exportRef =>
      match attachAdmission store (.str workflowRef) admissionRef exportRef with
      | .ok later => later
      | .error _ => store

/-- A drawn event reference was not drawn before. -/
def Fresh (workflowRef : String) (store : LocalStore) : LocalCall F → Prop
  | .record _ event _ => ∀ workflow, store.workflows.get? workflowRef = some workflow →
      ∀ other ∈ workflow.transitions, other.eventRef ≠ event.text
  | .attach _ _ => True

def isAttach : LocalCall F → Bool
  | .record _ _ _ => false
  | .attach _ _ => true

end LocalCall

def LocalStep (workflowRef : String) (store : LocalStore) (call : LocalCall F)
    (later : LocalStore) : Prop :=
  call.Fresh workflowRef store ∧ call.run workflowRef store = later

/-- The workflow is enrolled, enabled and recorded. -/
structure Enrolled (workflowRef : String) (attached : Nat) (store : LocalStore)
    (workflow : Workflow) : Prop where
  held : store.workflows.get? workflowRef = some workflow
  enabled : (store.optIns.get? workflowRef).any OptIn.enabled = true
  named : workflow.workflowRef = workflowRef
  recorded : Recorded attached workflow

variable {store : LocalStore} {workflowRef : String} {workflow : Workflow}

omit [JsonFloat F] in
theorem requireEnabled_eq_ok {attached : Nat}
    (enrolled : Enrolled workflowRef attached store workflow) :
    requireEnabled store (.str workflowRef : Json F) = .ok (workflowRef, workflow) := by
  have wellFormed : isRef "wf-" workflowRef = true := enrolled.named ▸ enrolled.recorded.workflowRef
  unfold requireEnabled
  simp only [bind_eq_ok, require_eq_ok, fetch_eq_ok, pure_eq_ok]
  exact ⟨_, parseRef_eq_ok.mpr ⟨rfl, wellFormed⟩, ⟨⟩, enrolled.enabled, _, enrolled.held, rfl⟩

/-- The workflow after a step. -/
theorem Enrolled.put {attached later : Nat} {next : Workflow}
    (enrolled : Enrolled workflowRef attached store workflow)
    (named : next.workflowRef = workflow.workflowRef) (recorded : Recorded later next) :
    Enrolled workflowRef later (store.putWorkflow workflowRef next) next where
  held := by
    show (store.workflows.set workflowRef next).get? workflowRef = _
    rw [Registry.get?_set, if_pos rfl]
  enabled := enrolled.enabled
  named := named.trans enrolled.named
  recorded := recorded

/-! ## Growth -/

/-- What recordings make of a workflow. -/
structure Grows (earlier later : Workflow) : Prop where
  workflowRef : later.workflowRef = earlier.workflowRef
  admissionRef : later.admissionRef = earlier.admissionRef
  startDay : later.startDay = earlier.startDay
  applicableStages : later.applicableStages = earlier.applicableStages
  criteriaFrozen : later.criteriaFrozenBeforeWork = earlier.criteriaFrozenBeforeWork
  criteriaContractRef : later.criteriaContractRef = earlier.criteriaContractRef
  events : earlier.events <+: later.events
  revision : earlier.revision ≤ later.revision
  same : earlier.revision = later.revision → later = earlier

namespace Grows

theorem refl (workflow : Workflow) : Grows workflow workflow :=
  ⟨rfl, rfl, rfl, rfl, rfl, rfl, List.prefix_refl _, Nat.le_refl _, fun _ => rfl⟩

theorem trans {first second third : Workflow} (one : Grows first second) (two : Grows second third) :
    Grows first third where
  workflowRef := two.workflowRef.trans one.workflowRef
  admissionRef := two.admissionRef.trans one.admissionRef
  startDay := two.startDay.trans one.startDay
  applicableStages := two.applicableStages.trans one.applicableStages
  criteriaFrozen := two.criteriaFrozen.trans one.criteriaFrozen
  criteriaContractRef := two.criteriaContractRef.trans one.criteriaContractRef
  events := one.events.trans two.events
  revision := Nat.le_trans one.revision two.revision
  same := by
    intro equal
    have below := one.revision
    have above := two.revision
    rw [two.same (by omega), one.same (by omega)]

theorem append (workflow : Workflow) (event : RecordedEvent) (exportRef : String) :
    Grows workflow (workflow.append event exportRef) where
  workflowRef := rfl
  admissionRef := rfl
  startDay := rfl
  applicableStages := rfl
  criteriaFrozen := rfl
  criteriaContractRef := rfl
  events := by
    refine ⟨[event.toEvent], ?_⟩
    simp [Workflow.events, Workflow.append]
  revision := Nat.le_succ _
  same := by
    intro equal
    simp only [Workflow.append] at equal
    omega

end Grows

/-! ## Steps and runs -/

/-- A recording keeps the invariant, and the workflow grows. -/
theorem Enrolled.record {attached : Nat} (enrolled : Enrolled workflowRef attached store workflow)
    {call : Recording F} {event : RandomRef "evt-"} {exportRef : RandomRef "exp-"}
    (fresh : (LocalCall.record call event exportRef).Fresh workflowRef store) :
    ∃ later, Enrolled workflowRef attached
      ((LocalCall.record call event exportRef).run workflowRef store) later ∧ Grows workflow later := by
  unfold LocalCall.run
  simp only
  split
  · rename_i recordedEvent later recorded
    unfold recordTransition at recorded
    rw [requireEnabled_eq_ok enrolled] at recorded
    simp only [bind_eq_ok, pure_eq_ok, Except.ok.injEq, Prod.mk.injEq] at recorded
    obtain ⟨_, rfl, new, reviewed, rfl, rfl⟩ := recorded
    have keeps := enrolled.recorded.append
      (reviewRecording_eq_ok reviewed (fresh workflow enrolled.held)) exportRef
    exact ⟨_, enrolled.put rfl keeps, .append workflow new exportRef.text⟩
  · exact ⟨workflow, enrolled, .refl workflow⟩

theorem Enrolled.attach {attached : Nat} (enrolled : Enrolled workflowRef attached store workflow)
    (admissionRef : Json F) (exportRef : RandomRef "exp-") :
    ∃ count ≤ attached + 1, ∃ later, Enrolled workflowRef count
      ((LocalCall.attach admissionRef exportRef).run workflowRef store) later := by
  unfold LocalCall.run
  simp only
  split
  · rename_i later attachment
    unfold attachAdmission at attachment
    rw [requireEnabled_eq_ok enrolled] at attachment
    simp only [bind_eq_ok, pure_eq_ok, Except.ok.injEq, parseRef_eq_ok] at attachment
    obtain ⟨_, rfl, ref, ⟨_, wellFormed⟩, rfl⟩ := attachment
    obtain ⟨count, small, keeps⟩ := enrolled.recorded.attach wellFormed exportRef
    refine ⟨count, small, _, enrolled.put ?_ keeps⟩
    unfold Workflow.attach
    split <;> rfl
  · exact ⟨attached, Nat.le_succ _, workflow, enrolled⟩

/-- **Any calls on an enrolled workflow keep it recorded.** -/
theorem Enrolled.run {attached : Nat} {last : LocalStore} {calls : List (LocalCall F)}
    (enrolled : Enrolled workflowRef attached store workflow)
    (run : Run (LocalStep workflowRef) store calls last) :
    ∃ count ≤ attached + calls.countP LocalCall.isAttach, ∃ later,
      Enrolled workflowRef count last later := by
  induction run with
  | nil => exact ⟨attached, Nat.le_refl _, workflow, enrolled⟩
  | @snoc calls call middle last _ step ih =>
      obtain ⟨count, small, held, isHeld⟩ := ih
      obtain ⟨fresh, rfl⟩ := step
      rw [List.countP_append, List.countP_singleton]
      cases call with
      | record recording event exportRef =>
          obtain ⟨later, isLater, _⟩ := isHeld.record fresh
          exact ⟨count, by omega, later, isLater⟩
      | attach admissionRef exportRef =>
          obtain ⟨more, atMost, later, isLater⟩ := isHeld.attach admissionRef exportRef
          have counted : (if LocalCall.isAttach (.attach admissionRef exportRef : LocalCall F) = true
              then 1 else 0) = 1 := rfl
          exact ⟨more, by omega, later, isLater⟩

/-- Recordings only let the workflow grow. -/
theorem Enrolled.grows {attached : Nat} {last : LocalStore} {calls : List (LocalCall F)}
    (enrolled : Enrolled workflowRef attached store workflow)
    (recordings : ∀ call ∈ calls, call.isAttach = false)
    (run : Run (LocalStep workflowRef) store calls last) :
    ∃ later, Enrolled workflowRef attached last later ∧ Grows workflow later := by
  induction run with
  | nil => exact ⟨workflow, enrolled, .refl workflow⟩
  | @snoc calls call middle last _ step ih =>
      obtain ⟨held, isHeld, grown⟩ := ih fun other member =>
        recordings other (List.mem_append_left _ member)
      obtain ⟨fresh, rfl⟩ := step
      cases call with
      | record recording event exportRef =>
          obtain ⟨later, isLater, more⟩ := isHeld.record fresh
          exact ⟨later, isLater, grown.trans more⟩
      | attach admissionRef exportRef =>
          cases recordings _ (List.mem_append_right _ (List.mem_singleton_self _))

/-! ## Exports -/

/-- The export of a workflow. -/
structure ExportOf (workflow : Workflow) (envelope : Envelope F) : Prop where
  valid : envelope.Valid
  workflowRef : envelope.snapshot.workflowRef = workflow.workflowRef
  admissionRef : some envelope.admissionRef = workflow.admissionRef
  revision : envelope.snapshot.revision = workflow.revision
  events : envelope.snapshot.transitions.events = workflow.events
  startDay : envelope.snapshot.startDay = workflow.startDay
  applicableStages : envelope.snapshot.applicableStages = workflow.applicableStages
  criteriaFrozen : envelope.snapshot.criteriaFrozenBeforeWork = workflow.criteriaFrozenBeforeWork
  criteriaContractRef : envelope.snapshot.criteriaContractRef = workflow.criteriaContractRef

/-- **The exporter accepts what it builds**, and reads it as the export of the workflow. -/
theorem buildEnvelope_enrolled {attached : Nat}
    (enrolled : Enrolled workflowRef attached store workflow) (small : attached < 10 ^ 19)
    {admissionRef : String} {due : Day} (isAdmission : workflow.admissionRef = some admissionRef)
    (nonempty : workflow.transitions ≠ [])
    (isDue : workflow.startDay.addDays reportingWindowDays = some due) :
    ∃ envelope : Envelope F, buildEnvelope store (.str workflowRef) = .ok envelope.document ∧
      validateEnvelope envelope.document = .ok envelope ∧ ExportOf workflow envelope := by
  have recorded := enrolled.recorded
  obtain ⟨exportRef, isExport⟩ := Option.ne_none_iff_exists'.mp (recorded.exported nonempty)
  obtain ⟨first, member⟩ := List.exists_mem_of_ne_nil _ nonempty
  obtain ⟨last, isLast, _⟩ := recorded.observed first member
  have valid : (recorded.envelope admissionRef exportRef last due : Envelope F).Valid :=
    recorded.envelope_valid isAdmission isExport isLast nonempty isDue small
  refine ⟨recorded.envelope admissionRef exportRef last due, ?_, validateEnvelope_document valid, ?_⟩
  · unfold buildEnvelope addDays
    rw [requireEnabled_eq_ok enrolled]
    simp only [bind_eq_ok, refuse_eq_ok, fetch_eq_ok, pure_eq_ok, Except.ok.injEq]
    refine ⟨_, rfl, ⟨⟩, fun none => nonempty (List.length_eq_zero_iff.mp none), _, isAdmission, _,
      isLast, _, isDue, ?_⟩
    rw [recorded.exportDocument_eq isExport]
    exact ⟨_, validateEnvelope_document valid, rfl⟩
  · exact ⟨valid, rfl, isAdmission.symm, rfl, rfl, rfl, rfl, rfl, rfl⟩

/-- An export says what its workflow says. -/
theorem exportOf_buildEnvelope {attached : Nat}
    (enrolled : Enrolled workflowRef attached store workflow) (small : attached < 10 ^ 19)
    {envelope : Envelope F} (built : buildEnvelope store (.str workflowRef) = .ok envelope.document)
    (checked : validateEnvelope envelope.document = .ok envelope) : ExportOf workflow envelope := by
  have opened := built
  unfold buildEnvelope addDays at opened
  rw [requireEnabled_eq_ok enrolled] at opened
  simp only [bind_eq_ok, refuse_eq_ok, fetch_eq_ok, Except.ok.injEq] at opened
  obtain ⟨_, rfl, _, nonempty, admissionRef, isAdmission, last, isLast, due, isDue, _⟩ := opened
  have some : workflow.transitions ≠ [] := fun none => nonempty (by rw [none]; rfl)
  obtain ⟨same, isSame, accepted, exported⟩ :=
    buildEnvelope_enrolled (F := F) enrolled small isAdmission some isDue
  have documents : envelope.document = same.document := Except.ok.inj (built.symm.trans isSame)
  rw [documents, accepted] at checked
  exact Except.ok.inj checked ▸ exported

/-- A workflow has one export. -/
theorem document_unique {attached : Nat} {first second : LocalStore} {left right : Json F}
    (one : Enrolled workflowRef attached first workflow)
    (two : Enrolled workflowRef attached second workflow)
    (isLeft : buildEnvelope first (.str workflowRef) = .ok left)
    (isRight : buildEnvelope second (.str workflowRef) = .ok right) : left = right := by
  unfold buildEnvelope at isLeft isRight
  rw [requireEnabled_eq_ok one] at isLeft
  rw [requireEnabled_eq_ok two] at isRight
  exact Except.ok.inj (isLeft.symm.trans isRight)

end Aegis.Usage
