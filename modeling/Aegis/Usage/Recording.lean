/-
# Usage.Recording — what a recorder's history satisfies

`Recorded` is the invariant of an enrolled workflow: `reviewRecording` establishes for each
new event what `Snapshot.Valid` asks of the whole history, so the export of every recorded
workflow is accepted (`buildEnvelope_recorded`).
-/
import Aegis.Usage.Completeness
import Aegis.Usage.LocalStore

namespace Aegis.Usage

open Aegis.Lib
open Aegis.Lib.Guarded
open Aegis.Evidence (truthy)

set_option autoImplicit false

/-! ## The invariant -/

/-- The evidence of an acceptance fits its value. -/
structure Attested (event : RecordedEvent) (category : Evidence) : Prop where
  held : event.evidence = some category
  unassessed : event.value = .notAssessed → category = .none
  independent : event.value.isIndependent = true → category ≠ .none

/-- What holds of a workflow that was attached to new admissions `attached` times. -/
structure Recorded (attached : Nat) (workflow : Workflow) : Prop where
  workflowRef : isRef "wf-" workflow.workflowRef = true
  admissionRef : ∀ ref, workflow.admissionRef = some ref → isRef "adm-" ref = true
  exportRef : ∀ ref, workflow.exportRef = some ref → isRef "exp-" ref = true
  criteriaContractRef : isRef "crit-" workflow.criteriaContractRef = true
  stages : workflow.applicableStages ≠ []
  ordered : Usage.stages.filter (· ∈ workflow.applicableStages) = workflow.applicableStages
  revision : workflow.revision = workflow.transitions.length + attached
  exported : workflow.transitions ≠ [] → workflow.exportRef ≠ none
  count : workflow.transitions.length ≤ maxTransitions
  observed : ∀ event ∈ workflow.transitions, ∃ last, workflow.lastObservedDay = some last ∧
    EventValid workflow.startDay last workflow.applicableStages event.toEvent
  distinct : (workflow.events.map Event.eventRef).Nodup
  compatible : workflow.events.Pairwise Compatible
  chronology : ObservedBefore workflow.events
  attested : ∀ event ∈ workflow.transitions, event.kind = .acceptance →
    ∃ category, Attested event category

variable {F : Type} [JsonFloat F]

/-! ## Opting in -/

omit [JsonFloat F] in
theorem optionalRef_eq_ok {given : Json F} {path head : String} {found : Option String}
    (read : optionalRef given path head = .ok found) :
    ∀ ref, found = some ref → isRef head ref = true := by
  rintro ref rfl
  unfold optionalRef at read
  split at read
  · cases read
  · simp only [map_eq_ok, parseRef_eq_ok, Option.some.injEq] at read
    obtain ⟨_, ⟨_, wellFormed⟩, rfl⟩ := read
    exact wellFormed

theorem refOr_eq_ok {head path ref : String} {given : Json F} {drawn : RandomRef head}
    (read : refOr given drawn path = .ok ref) : isRef head ref = true := by
  unfold refOr at read
  split at read
  · exact (parseRef_eq_ok.mp read).2
  · obtain rfl := Except.ok.inj read
    exact drawn.wellFormed

omit [JsonFloat F] in
theorem length_of_mapM {α β : Type} {read : α → Option β} {elements : List α} {found : List β}
    (all : elements.mapM read = some found) : found.length = elements.length := by
  induction elements generalizing found with
  | nil =>
      obtain rfl := Option.some.inj all
      rfl
  | cons first rest ih =>
      rw [List.mapM_cons] at all
      simp only [Option.bind_eq_bind, Option.bind_eq_some_iff, Option.pure_def,
        Option.some.injEq] at all
      obtain ⟨_, _, later, others, rfl⟩ := all
      rw [List.length_cons, List.length_cons, ih others]

omit [JsonFloat F] in
theorem enrolledStages_eq_ok {given : Json F} {applicable : List Stage}
    (read : enrolledStages given = .ok applicable) :
    applicable ≠ [] ∧ stages.filter (· ∈ applicable) = applicable := by
  unfold enrolledStages at read
  simp only [bind_eq_ok, require_eq_ok, fetch_eq_ok, pure_eq_ok] at read
  obtain ⟨requested, _, _, nonempty, named, all, _, ordered, rfl⟩ := read
  refine ⟨?_, ordered⟩
  rintro rfl
  exact nonempty (length_of_mapM all).symm

/-- An enrolled workflow is recorded, with capture enabled. -/
theorem enableCapture_recorded {store later : LocalStore} {call : Enrolling F}
    {drawnWorkflow : RandomRef "wf-"} {drawnContract : RandomRef "crit-"} {workflow : Workflow}
    (enrolled : enableCapture store call drawnWorkflow drawnContract = .ok (workflow, later)) :
    Recorded 0 workflow ∧ later.workflows.get? workflow.workflowRef = some workflow ∧
      (later.optIns.get? workflow.workflowRef).any OptIn.enabled = true := by
  unfold enableCapture at enrolled
  simp only [bind_eq_ok, refuse_eq_ok, pure_eq_ok, Prod.mk.injEq] at enrolled
  obtain ⟨frozen, _, ⟨start, captured⟩, _, applicable, stages, ref, isWorkflow, _, _, contractRef,
    isContract, admissionRef, isAdmission, rfl, rfl⟩ := enrolled
  obtain ⟨nonempty, ordered⟩ := enrolledStages_eq_ok stages
  refine ⟨?_, ?_, ?_⟩
  · exact {
      workflowRef := refOr_eq_ok isWorkflow
      admissionRef := optionalRef_eq_ok isAdmission
      exportRef := by
        intro ref none
        cases none
      criteriaContractRef := refOr_eq_ok isContract
      stages := nonempty
      ordered := ordered
      revision := rfl
      exported := fun some => absurd rfl some
      count := Nat.zero_le _
      observed := by simp
      distinct := List.nodup_nil
      compatible := List.Pairwise.nil
      chronology := by simp [ObservedBefore, Workflow.events]
      attested := by simp }
  · show (store.workflows.set ref _).get? ref = _
    rw [Registry.get?_set, if_pos rfl]
  · show ((store.optIns.set ref _).get? ref).any OptIn.enabled = true
    rw [Registry.get?_set, if_pos rfl]
    rfl

/-! ## Recording -/

omit [JsonFloat F] in
theorem recordedStage_eq_ok {applicable : List Stage} {kind : Kind} {value : Value}
    {given : Json F} {stage : Option Stage}
    (read : recordedStage applicable kind value given = .ok stage) :
    (kind = .stage → ∃ named ∈ applicable, stage = some named ∧ value ≠ .notApplicable) ∧
      (kind ≠ .stage → stage = none) := by
  unfold recordedStage at read
  split at read
  · rename_i isStage
    simp only [bind_eq_ok, fetch_eq_ok, require_eq_ok, refuse_eq_ok, pure_eq_ok] at read
    obtain ⟨named, _, _, applies, _, other, rfl⟩ := read
    exact ⟨fun _ => ⟨named, applies, rfl, other⟩, fun not => absurd isStage not⟩
  · rename_i notStage
    split at read
    · obtain rfl := Except.ok.inj read
      exact ⟨fun isStage => absurd isStage notStage, fun _ => rfl⟩
    · cases read

theorem recordedEvidence_eq_ok {kind : Kind} {value : Value} {given : Json F}
    {evidence : Option Evidence} (read : recordedEvidence kind value given = .ok evidence)
    (isAcceptance : kind = .acceptance) : ∃ category, evidence = some category ∧
      (value = .notAssessed → category = .none) ∧
      (value.isIndependent = true → category ≠ .none) := by
  unfold recordedEvidence at read
  rw [if_pos isAcceptance] at read
  simp only [bind_eq_ok, fetch_eq_ok, refuse_eq_ok, pure_eq_ok] at read
  obtain ⟨category, _, _, unassessed, _, independent, rfl⟩ := read
  refine ⟨category, rfl, fun isUnassessed => ?_, fun attested none => independent ⟨attested, none⟩⟩
  by_contra other
  exact unassessed ⟨isUnassessed, other⟩

omit [JsonFloat F] in
theorem recordedRef_eq_ok {recorded : List RecordedEvent} {given : Json F}
    {drawn : RandomRef "evt-"} {ref : String} (read : recordedRef recorded given drawn = .ok ref)
    (fresh : ∀ other ∈ recorded, other.eventRef ≠ drawn.text) :
    isRef "evt-" ref = true ∧ ∀ other ∈ recorded, other.eventRef ≠ ref := by
  unfold recordedRef at read
  split at read
  · obtain rfl := Except.ok.inj read
    exact ⟨drawn.wellFormed, fresh⟩
  · simp only [bind_eq_ok, refuse_eq_ok, pure_eq_ok, parseRef_eq_ok] at read
    obtain ⟨_, ⟨_, wellFormed⟩, _, unused, rfl⟩ := read
    exact ⟨wellFormed, fun other member same => unused ⟨other, member, same⟩⟩

/-- What `checkHistory` lets pass. -/
structure Joins (recorded : List RecordedEvent) (event : Event) : Prop where
  slot : ∀ other ∈ recorded, other.kind = event.kind → other.effectiveDay = event.effectiveDay →
    (event.kind = .stage → other.stage = event.stage) → other.value = event.value
  terminal : event.kind = .status →
    ∀ latest, (recorded.filter fun other => other.kind = .status).getLast? = some latest →
      latest.value = event.value ∧ latest.effectiveDay = event.effectiveDay
  observation : event.kind = .observation → ∀ other ∈ recorded, other.kind = .status →
    event.effectiveDay ≤ other.effectiveDay
  status : event.kind = .status → ∀ other ∈ recorded, other.kind = .observation →
    other.effectiveDay ≤ event.effectiveDay

theorem checkHistory_eq_ok {recorded : List RecordedEvent} (event : Event)
    (checked : checkHistory recorded event.kind event.value event.effectiveDay event.stage =
      .ok ()) : Joins recorded event := by
  unfold checkHistory at checked
  simp only [bind_eq_ok, refuse_eq_ok] at checked
  obtain ⟨_, _, _, conflict, _, terminal, _, observation, status⟩ := checked
  constructor
  · intro other member kind day stage
    by_contra differs
    apply conflict
    rw [List.any_eq_true]
    refine ⟨other, member, ?_⟩
    by_cases isStage : event.kind = .stage
    · simp [kind, day, differs, isStage, stage isStage]
    · simp [kind, day, differs, isStage]
  · intro isStatus latest found
    by_contra differs
    apply terminal
    have apart : (latest.value, latest.effectiveDay) ≠ (event.value, event.effectiveDay) :=
      fun same => differs ⟨congrArg Prod.fst same, congrArg Prod.snd same⟩
    rw [found]
    exact ⟨isStatus, decide_eq_true apart⟩
  · intro isObservation other member isStatus
    by_contra late
    apply observation
    refine ⟨isObservation, ?_⟩
    rw [List.any_eq_true]
    refine ⟨other, List.mem_filter.mpr ⟨member, by simpa using isStatus⟩, ?_⟩
    simpa using Day.not_le.mp late
  · intro isStatus other member isObservation
    by_contra late
    apply status
    refine ⟨isStatus, ?_⟩
    rw [List.any_eq_true]
    refine ⟨other, member, ?_⟩
    simpa [isObservation] using Day.not_le.mp late

/-- What the checks say of a new event. -/
structure Reviewed (workflow : Workflow) (event : RecordedEvent) : Prop where
  valid : EventValid workflow.startDay event.effectiveDay workflow.applicableStages event.toEvent
  room : workflow.transitions.length < maxTransitions
  unused : ∀ other ∈ workflow.transitions, other.eventRef ≠ event.eventRef
  joins : Joins workflow.transitions event.toEvent
  attested : event.kind = .acceptance → ∃ category, Attested event category

theorem reviewRecording_eq_ok {workflow : Workflow} {call : Recording F} {drawn : RandomRef "evt-"}
    {event : RecordedEvent} (reviewed : reviewRecording workflow call drawn = .ok event)
    (fresh : ∀ other ∈ workflow.transitions, other.eventRef ≠ drawn.text) :
    Reviewed workflow event := by
  unfold reviewRecording at reviewed
  simp only [bind_eq_ok, fetch_eq_ok, refuse_eq_ok, pure_eq_ok] at reviewed
  obtain ⟨kind, _, value, isValue, effective, _, _, notBefore, stage, isStage, evidence, isEvidence,
    _, room, ref, isNamed, _, history, rfl⟩ := reviewed
  obtain ⟨named, unnamed⟩ := recordedStage_eq_ok isStage
  obtain ⟨wellFormed, unused⟩ := recordedRef_eq_ok isNamed fresh
  exact {
    valid := {
      ref := wellFormed
      notBefore := Day.not_lt.mp notBefore
      notAfter := Nat.le_refl _
      value := (readOne_eq_some.mp isValue).1
      stage := named
      noStage := unnamed }
    room := Nat.not_le.mp room
    unused := unused
    joins := checkHistory_eq_ok ⟨ref, kind, effective, value, stage⟩ history
    attested := fun isAcceptance => by
      obtain ⟨category, held, unassessed, independent⟩ := recordedEvidence_eq_ok isEvidence isAcceptance
      exact ⟨category, held, unassessed, independent⟩ }

namespace Recorded

variable {attached : Nat} {workflow : Workflow}

/-- A terminal event has the value of the last one. -/
theorem terminal_value (recorded : Recorded attached workflow) {other latest : RecordedEvent}
    (member : other ∈ workflow.transitions) (isStatus : other.kind = .status)
    (found : (workflow.transitions.filter fun event => event.kind = .status).getLast? =
      some latest) : other.value = latest.value := by
  obtain ⟨earlier, all⟩ := List.getLast?_eq_some_iff.mp found
  have inside : other ∈ earlier ++ [latest] := by
    rw [← all]
    exact List.mem_filter.mpr ⟨member, by simpa using isStatus⟩
  have latestStatus : latest.kind = .status := by
    have last : latest ∈ workflow.transitions.filter fun event => event.kind = .status := by
      rw [all]
      exact List.mem_append_right _ (List.mem_singleton_self _)
    simpa using (List.mem_filter.mp last).2
  have pairs : (earlier ++ [latest]).Pairwise fun left right =>
      Compatible left.toEvent right.toEvent := by
    rw [← all]
    exact (List.pairwise_map.mp recorded.compatible).sublist List.filter_sublist
  rcases List.mem_append.mp inside with before | last
  · exact ((List.pairwise_append.mp pairs).2.2 other before latest
      (List.mem_singleton_self _)).terminal isStatus latestStatus
  · rw [List.mem_singleton.mp last]

/-- A reviewed event is compatible with the recorded ones. -/
theorem compatible_with (recorded : Recorded attached workflow) {event other : RecordedEvent}
    (joins : Joins workflow.transitions event.toEvent) (member : other ∈ workflow.transitions) :
    Compatible other.toEvent event.toEvent where
  slot := by
    intro same
    simp only [Event.sameSlot, Bool.and_eq_true, decide_eq_true_eq] at same
    exact joins.slot other member same.1.1 same.1.2 fun _ => same.2
  terminal := by
    intro isOther isEvent
    cases found : (workflow.transitions.filter fun event => event.kind = .status).getLast? with
    | none =>
        have nothing := List.getLast?_eq_none_iff.mp found
        rw [List.filter_eq_nil_iff] at nothing
        exact absurd (by simpa using isOther) (nothing other member)
    | some latest =>
        rw [recorded.terminal_value member isOther found]
        exact (joins.terminal isEvent latest found).1

/-- A reviewed event keeps every observation before the terminal events. -/
theorem chronology_append (recorded : Recorded attached workflow) {event : RecordedEvent}
    (joins : Joins workflow.transitions event.toEvent) :
    ObservedBefore (workflow.events ++ [event.toEvent]) := by
  intro observed isObserved terminal isTerminal observes ends
  rcases List.mem_append.mp isObserved with earlier | new
  · obtain ⟨left, leftMember, rfl⟩ := List.mem_map.mp earlier
    rcases List.mem_append.mp isTerminal with later | last
    · exact recorded.chronology _ earlier _ later observes ends
    · obtain rfl := List.mem_singleton.mp last
      exact joins.status ends left leftMember observes
  · obtain rfl := List.mem_singleton.mp new
    rcases List.mem_append.mp isTerminal with later | last
    · obtain ⟨right, rightMember, rfl⟩ := List.mem_map.mp later
      exact joins.observation observes right rightMember ends
    · obtain rfl := List.mem_singleton.mp last
      rw [observes] at ends
      cases ends

end Recorded

/-- The last observed day after one more event. -/
theorem lastObservedDay_append (workflow : Workflow) (event : RecordedEvent) (exportRef : String) :
    ∃ last, (workflow.append event exportRef).lastObservedDay = some last ∧
      event.effectiveDay ≤ last ∧ ∀ earlier, workflow.lastObservedDay = some earlier → earlier ≤ last := by
  unfold Workflow.append
  simp only
  cases workflow.lastObservedDay with
  | none => exact ⟨_, rfl, Nat.le_refl _, fun _ none => by cases none⟩
  | some earlier =>
      simp only
      split
      · rename_i later
        refine ⟨_, rfl, Nat.le_refl _, fun other same => ?_⟩
        obtain rfl := Option.some.inj same
        exact Nat.le_of_lt later
      · rename_i before
        refine ⟨_, rfl, Day.not_lt.mp before, fun other same => ?_⟩
        obtain rfl := Option.some.inj same
        exact Nat.le_refl _

theorem EventValid.mono {start last later : Day} {applicable : List Stage} {event : Event}
    (valid : EventValid start last applicable event) (le : last ≤ later) :
    EventValid start later applicable event :=
  { valid with notAfter := Nat.le_trans valid.notAfter le }

/-- **A reviewed event keeps the invariant.** -/
theorem Recorded.append {attached : Nat} {workflow : Workflow}
    (recorded : Recorded attached workflow) {event : RecordedEvent}
    (reviewed : Reviewed workflow event) (exportRef : RandomRef "exp-") :
    Recorded attached (workflow.append event exportRef.text) := by
  obtain ⟨last, isLast, notAfter, grows⟩ := lastObservedDay_append workflow event exportRef.text
  have events : (workflow.append event exportRef.text).events = workflow.events ++ [event.toEvent] := by
    simp [Workflow.events, Workflow.append]
  have count := reviewed.room
  exact {
    workflowRef := recorded.workflowRef
    admissionRef := recorded.admissionRef
    exportRef := by
      intro ref same
      obtain rfl := Option.some.inj same
      exact exportRef.wellFormed
    criteriaContractRef := recorded.criteriaContractRef
    stages := recorded.stages
    ordered := recorded.ordered
    revision := by
      have before := recorded.revision
      simp only [Workflow.append, List.length_append, List.length_singleton]
      omega
    exported := fun _ none => by cases none
    count := by
      simp only [Workflow.append, List.length_append, List.length_singleton]
      omega
    observed := by
      intro other member
      refine ⟨last, isLast, ?_⟩
      rcases List.mem_append.mp member with earlier | new
      · obtain ⟨before, isBefore, valid⟩ := recorded.observed other earlier
        exact valid.mono (grows before isBefore)
      · obtain rfl := List.mem_singleton.mp new
        exact reviewed.valid.mono notAfter
    distinct := by
      rw [events, List.map_append, List.nodup_append]
      refine ⟨recorded.distinct, List.nodup_singleton _, ?_⟩
      intro left inside right isNew same
      obtain ⟨_, member, rfl⟩ := List.mem_map.mp inside
      obtain ⟨other, held, rfl⟩ := List.mem_map.mp member
      obtain rfl := List.mem_singleton.mp isNew
      exact reviewed.unused other held same
    compatible := by
      rw [events, List.pairwise_append]
      refine ⟨recorded.compatible, List.pairwise_singleton _ _, ?_⟩
      intro left inside right isNew
      obtain ⟨other, held, rfl⟩ := List.mem_map.mp inside
      obtain rfl := List.mem_singleton.mp isNew
      exact recorded.compatible_with reviewed.joins held
    chronology := by
      rw [events]
      exact recorded.chronology_append reviewed.joins
    attested := by
      intro other member
      rcases List.mem_append.mp member with earlier | new
      · exact recorded.attested other earlier
      · obtain rfl := List.mem_singleton.mp new
        exact reviewed.attested }

/-- An attachment counts when the admission is a new one. -/
theorem Recorded.attach {attached : Nat} {workflow : Workflow} (recorded : Recorded attached workflow)
    {admissionRef : String} (wellFormed : isRef "adm-" admissionRef = true)
    (exportRef : RandomRef "exp-") :
    ∃ later, later ≤ attached + 1 ∧ Recorded later (workflow.attach admissionRef exportRef.text) := by
  unfold Workflow.attach
  split
  · exact ⟨attached, Nat.le_succ _, recorded⟩
  · refine ⟨attached + 1, Nat.le_refl _, ?_⟩
    have revision := recorded.revision
    exact { recorded with
      admissionRef := by
        intro ref same
        obtain rfl := Option.some.inj same
        exact wellFormed
      exportRef := by
        intro ref same
        obtain rfl := Option.some.inj same
        exact exportRef.wellFormed
      revision := by
        show workflow.revision + 1 = workflow.transitions.length + (attached + 1)
        omega
      exported := fun _ none => by cases none }

/-! ## Export -/

omit [JsonFloat F] in
/-- The winner of the recorded events is the winner of their history. -/
theorem recordedWinner_toEvent (recorded : List RecordedEvent) (asOfDay : Day) :
    (recordedWinner recorded asOfDay).map RecordedEvent.toEvent =
      winningAcceptance (recorded.map RecordedEvent.toEvent) asOfDay := by
  unfold recordedWinner winningAcceptance acceptanceEvents
  rw [List.filter_map, sortBy_map, List.getLast?_map]
  rfl

namespace Recorded

variable {attached : Nat} {workflow : Workflow}

/-- The export of a recorded workflow. -/
def envelope (recorded : Recorded attached workflow) (admissionRef exportRef : String)
    (last due : Day) : Envelope F :=
  let derived := deriveState workflow.events workflow.applicableStages last
  { reportingWindowDays := .int reportingWindowDays
    admissionRef
    snapshot :=
      { workflowRef := workflow.workflowRef
        revision := workflow.revision
        exportRef
        startDay := workflow.startDay
        lastObservedDay := last
        reportDueDay := due
        applicableStages := workflow.applicableStages
        criteriaFrozenBeforeWork := workflow.criteriaFrozenBeforeWork
        criteriaContractRef := workflow.criteriaContractRef
        stageStatus := derived.stageStatus
        status := derived.status
        acceptance := derived.acceptance
        acceptanceEvidence := workflow.exportedEvidence derived.acceptance last
        deliveryDay := derived.deliveryDay
        acceptanceDay := derived.acceptanceDay
        transitions := ⟨workflow.events, recorded.distinct⟩ } }

omit [JsonFloat F] in
theorem exportDocument_eq (recorded : Recorded attached workflow) {exportRef : String}
    (isExport : workflow.exportRef = some exportRef) (admissionRef : String) (last due : Day) :
    (workflow.exportDocument admissionRef last due : Json F) =
      (recorded.envelope admissionRef exportRef last due).document := by
  unfold Workflow.exportDocument
  rw [isExport]
  rfl

/-- The evidence of an export fits its acceptance. -/
theorem exportedEvidence_fits (recorded : Recorded attached workflow) (last : Day) :
    let acceptance := (deriveState workflow.events workflow.applicableStages last).acceptance
    (acceptance = .notAssessed → workflow.exportedEvidence acceptance last = .none) ∧
      (acceptance.isIndependent = true → workflow.exportedEvidence acceptance last ≠ .none) := by
  have winner := recordedWinner_toEvent workflow.transitions last
  have value : (deriveState workflow.events workflow.applicableStages last).acceptance =
      ((winningAcceptance workflow.events last).map Event.value).getD .notAssessed := rfl
  intro acceptance
  change acceptance = _ at value
  unfold Workflow.exportedEvidence
  cases found : recordedWinner workflow.transitions last with
  | none =>
      rw [found] at winner
      have unassessed : acceptance = .notAssessed := by
        rw [value, Workflow.events, ← winner]
        rfl
      refine ⟨fun _ => rfl, fun independent => ?_⟩
      rw [unassessed] at independent
      cases independent
  | some event =>
      rw [found] at winner
      have isValue : acceptance = event.value := by
        rw [value, Workflow.events, ← winner]
        rfl
      obtain ⟨member, isAcceptance⟩ : event ∈ workflow.transitions ∧ event.kind = .acceptance := by
        have inside := List.mem_of_getLast? found
        rw [mem_sortBy] at inside
        obtain ⟨held, kept⟩ := List.mem_filter.mp inside
        simp only [decide_eq_true_eq] at kept
        exact ⟨held, kept.1⟩
      obtain ⟨category, attested⟩ := recorded.attested event member isAcceptance
      simp only [attested.held, Option.getD_some]
      constructor
      · intro unassessed
        rw [if_pos unassessed]
      · intro independent
        have assessed : acceptance ≠ .notAssessed := by
          intro unassessed
          rw [unassessed] at independent
          cases independent
        rw [if_neg assessed]
        exact attested.independent (isValue ▸ independent)

omit [JsonFloat F] in
theorem envelope_valid (recorded : Recorded attached workflow) {admissionRef exportRef : String}
    {last due : Day} (isAdmission : workflow.admissionRef = some admissionRef)
    (isExport : workflow.exportRef = some exportRef)
    (isLast : workflow.lastObservedDay = some last) (nonempty : workflow.transitions ≠ [])
    (isDue : workflow.startDay.addDays reportingWindowDays = some due)
    (small : attached < 10 ^ 19) :
    (recorded.envelope admissionRef exportRef last due : Envelope F).Valid := by
  obtain ⟨unassessed, independent⟩ := recorded.exportedEvidence_fits last
  have valid : ∀ event ∈ workflow.events,
      EventValid workflow.startDay last workflow.applicableStages event := by
    intro event member
    obtain ⟨other, held, rfl⟩ := List.mem_map.mp member
    obtain ⟨latest, same, one⟩ := recorded.observed other held
    obtain rfl := Option.some.inj (isLast.symm.trans same)
    exact one
  have revision := recorded.revision
  have count := recorded.count
  unfold maxTransitions at count
  have positive : 0 < workflow.transitions.length := List.length_pos_iff.mpr nonempty
  obtain ⟨first, member⟩ := List.exists_mem_of_ne_nil _ nonempty
  have observed := valid first.toEvent (List.mem_map_of_mem member)
  exact {
    window := rfl
    admissionRef := recorded.admissionRef _ isAdmission
    revision := by
      show workflow.revision < 10 ^ 20
      omega
    snapshot := {
      workflowRef := recorded.workflowRef
      exportRef := recorded.exportRef _ isExport
      criteriaContractRef := recorded.criteriaContractRef
      revision := by
        show 1 ≤ workflow.revision
        omega
      due := isDue
      observed := Nat.le_trans observed.notBefore observed.notAfter
      stages := recorded.stages
      ordered := recorded.ordered
      nonempty := fun none => nonempty (List.map_eq_nil_iff.mp none)
      count := by
        show (workflow.transitions.map RecordedEvent.toEvent).length ≤ maxTransitions
        rw [List.length_map]
        exact recorded.count
      events := valid
      compatible := recorded.compatible
      chronology := recorded.chronology
      derived := rfl
      unassessed := unassessed
      attested := independent } }

end Recorded

end Aegis.Usage
