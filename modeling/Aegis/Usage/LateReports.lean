/-
# Usage.LateReports — a late report cannot change a closed outcome

`LateExtends` is an extension of a record by events first received after its close day.
`usableEvents_lateExtends`: the events that count are the same list before and after, so
the classification is, up to the count of late events.
-/
import Aegis.Usage.ImportHistory
import Aegis.Usage.Report

namespace Aegis.Usage

open Aegis.Lib
open Aegis.Lib.Guarded
open Aegis.Lib.Runs

set_option autoImplicit false

/-- A later state of a record whose new events were first received after a day. -/
structure LateExtends (closeDay : Day) (earlier later : Record) : Prop where
  extended : Extends earlier later
  late : ∀ stored ∈ later.transitions.events,
    stored ∈ earlier.transitions.events ∨ closeDay < stored.firstReceiptDay

namespace LateExtends

variable {closeDay : Day} {earlier later : Record}

theorem refl (closeDay : Day) (record : Record) : LateExtends closeDay record record :=
  ⟨.refl record, fun _ member => .inl member⟩

theorem trans {first second third : Record} (one : LateExtends closeDay first second)
    (two : LateExtends closeDay second third) : LateExtends closeDay first third where
  extended := one.extended.trans two.extended
  late := by
    intro stored member
    rcases two.late stored member with middle | late
    · exact one.late stored middle
    · exact .inr late

end LateExtends

/-- No two events of a record are one stamped event. -/
theorem StampedTransitions.nodup (transitions : StampedTransitions) : transitions.events.Nodup :=
  transitions.distinct.of_map _

/-- The events that count are the same list. -/
theorem usableEvents_lateExtends {closeDay : Day} {earlier later : Record}
    (extended : LateExtends closeDay earlier later) (cutoff : Day) :
    usableEvents later closeDay cutoff = usableEvents earlier closeDay cutoff := by
  unfold usableEvents
  have same : (later.transitions.events.filter fun stamped : StampedEvent =>
      stamped.effectiveDay ≤ cutoff ∧ stamped.firstReceiptDay ≤ closeDay).Perm
      (earlier.transitions.events.filter fun stamped : StampedEvent =>
        stamped.effectiveDay ≤ cutoff ∧ stamped.firstReceiptDay ≤ closeDay) := by
    rw [List.perm_ext_iff_of_nodup (later.transitions.nodup.filter _)
      (earlier.transitions.nodup.filter _)]
    intro stamped
    rw [List.mem_filter, List.mem_filter]
    refine and_congr_left fun usable => ⟨fun member => ?_, extended.extended.events stamped⟩
    rcases extended.late stamped member with before | late
    · exact before
    · have onTime : stamped.firstReceiptDay ≤ closeDay := (of_decide_eq_true usable).2
      exact absurd late (Day.not_lt.mpr onTime)
  refine sortBy_congr (same.map _) ?_
  refine List.Nodup.of_map (fun key : Nat ×ₗ String => (ofLex key).2) ?_
  rw [List.map_map, List.map_map]
  exact later.transitions.distinct.sublist (List.filter_sublist.map _)

/-- The late events of the first stay late. -/
theorem lateEvents_le {closeDay : Day} {earlier later : Record} (extended : Extends earlier later) :
    (lateEvents earlier closeDay).length ≤ (lateEvents later closeDay).length := by
  have within : lateEvents earlier closeDay ⊆ lateEvents later closeDay := by
    intro stamped member
    obtain ⟨held, late⟩ := List.mem_filter.mp member
    exact List.mem_filter.mpr ⟨extended.events stamped held, late⟩
  exact (List.subperm_of_subset (earlier.transitions.nodup.filter _) within).length_le

/-- The classification before and after, up to the late events. -/
theorem classify_lateExtends {closeDay : Day} {earlier later : Record}
    (extended : LateExtends closeDay earlier later) (cutoff : Day) :
    classify later closeDay cutoff =
      { classify earlier closeDay cutoff with
        lateEvents := (classify later closeDay cutoff).lateEvents } := by
  unfold classify stageState
  simp only [usableEvents_lateExtends extended, extended.extended.enrollment]

/-! ## Imports after the close day -/

variable {F : Type} [JsonFloat F] {sha256 : ByteArray → String}

/-- An event of the update is an accepted one or first received now. -/
theorem lateExtends_updatedRecord {record : Record} {received : Received F}
    {closeDay recordClose : Day} (after : closeDay < received.today)
    (later : record.lastReceiptDay ≤ received.today)
    (higher : record.revision < received.envelope.snapshot.revision)
    (kept : rewriteOf record.transitions.events
      received.envelope.snapshot.transitions.events = .kept) :
    LateExtends closeDay record (updatedRecord record received recordClose) where
  extended := extends_updatedRecord later higher kept
  late := by
    intro stored member
    obtain ⟨event, incoming, rfl⟩ := List.mem_map.mp member
    cases found : record.transitions.events.find? fun other => other.eventRef = event.eventRef with
    | none =>
        refine .inr ?_
        show closeDay < firstReceiptOf _ _ event
        rw [firstReceiptOf, found]
        exact after
    | some accepted =>
        refine .inl ?_
        have held := List.mem_of_find?_eq_some found
        have ref : accepted.eventRef = event.eventRef := by simpa using List.find?_some found
        have same : accepted.toEvent = event :=
          List.inj_on_of_nodup_map received.envelope.snapshot.transitions.distinct
            (mem_of_kept kept accepted held) incoming ref
        have day : firstReceiptOf record.transitions.events received.today event =
            accepted.firstReceiptDay := by
          rw [firstReceiptOf, found]
          rfl
        rw [day, ← same]
        exact held

/-- Every record keeps its place and is extended by late events only. -/
def LateExtendsAll (closeDay : Day) (store after : Store) : Prop :=
  ∀ workflowRef record, store.records.get? workflowRef = some record →
    ∃ later, after.records.get? workflowRef = some later ∧ LateExtends closeDay record later

theorem LateExtendsAll.of_records {closeDay : Day} {store after : Store}
    (same : after.records = store.records) : LateExtendsAll closeDay store after := by
  intro workflowRef record held
  exact ⟨record, by rw [same]; exact held, .refl closeDay record⟩

theorem lateExtendsAll_putRecord {closeDay : Day} {store : Store} {key : String} {record : Record}
    (extended : ∀ held, store.records.get? key = some held → LateExtends closeDay held record) :
    LateExtendsAll closeDay store (store.putRecord key record) := by
  intro workflowRef held isHeld
  simp only [Store.putRecord, Registry.get?_set]
  by_cases same : workflowRef = key
  · subst same
    exact ⟨record, if_pos rfl, extended held isHeld⟩
  · exact ⟨held, by rw [if_neg same]; exact isHeld, .refl closeDay held⟩

/-- An import whose receipt day is after a day. -/
def ReceivedAfter (closeDay : Day) (call : ImportCall F) : Prop :=
  ∃ today, parseDay call.receiptDay "day" = .ok today ∧ closeDay < today

variable (sha256) in
theorem lateExtendsAll_importStep {closeDay : Day} (store : Store) {call : ImportCall F}
    (after : ReceivedAfter closeDay call) :
    LateExtendsAll closeDay store (importStep sha256 store call) := by
  obtain ⟨today, day, past⟩ := after
  have move := importExport_move sha256 store call.payload call.capability call.receiptDay
  revert move
  unfold importStep
  generalize importExport sha256 store call.payload call.capability call.receiptDay = outcome
  intro move
  cases move with
  | accepted received was absent prospective expiresAt receipted same =>
      have records : receipted.records = store.records := by
        rcases same with rfl | rfl <;> rfl
      intro workflowRef held isHeld
      have extended : LateExtendsAll closeDay receipted (receipted.putRecord
          received.envelope.snapshot.workflowRef
          (firstRecord sha256 received prospective expiresAt)) := by
        refine lateExtendsAll_putRecord fun other isOther => ?_
        rw [records, absent] at isOther
        cases isOther
      exact extended workflowRef held (by rw [records]; exact isHeld)
  | updated received was record held later higher kept recordClose closes =>
      refine lateExtendsAll_putRecord fun other isOther => ?_
      obtain rfl := Option.some.inj (held.symm.trans isOther)
      obtain rfl := Except.ok.inj (day.symm.trans was.day)
      exact lateExtends_updatedRecord past later higher kept
  | _ => exact .of_records rfl

/-- A run of imports after a day extends every record by late events only. -/
theorem lateExtendsAll_run {closeDay : Day} {store last : Store} {imports : List (ImportCall F)}
    (run : Run (fun earlier call later => ReceivedAfter closeDay call ∧
      importStep sha256 earlier call = later) store imports last) :
    LateExtendsAll closeDay store last := by
  refine run.invariant (I := LateExtendsAll closeDay store) ?_ (.of_records rfl)
  rintro earlier call _ all ⟨after, rfl⟩ workflowRef record held
  obtain ⟨middle, isMiddle, one⟩ := all workflowRef record held
  obtain ⟨later, isLater, two⟩ := lateExtendsAll_importStep sha256 earlier after
    workflowRef middle isMiddle
  exact ⟨later, isLater, one.trans two⟩

/-! ## Contributions -/

/-- The tally of a record depends on its classification; the late counters apart. -/
theorem tally_congr (earlier later : Record) (cutoff : Day) {before after : Classification}
    (same : after = { before with lateEvents := after.lateEvents }) {counter : Counter}
    (onTime : counter.isLate = false) :
    tally later after cutoff counter = tally earlier before cutoff counter := by
  rw [same]
  cases counter <;> first | rfl | cases onTime

theorem closeAndCutoff_of_enrollment {earlier later : Record}
    (same : later.enrollment = earlier.enrollment) : closeAndCutoff later = closeAndCutoff earlier := by
  unfold closeAndCutoff
  rw [same]

/-- On a day on which a closed record is retained, it is retrospective or counted. -/
theorem placementOf_closed {record : Record} {closeDay cutoff today : Day}
    (days : closeAndCutoff record = .ok (closeDay, cutoff)) (closed : closeDay ≤ today)
    (retained : today ≤ record.expiresAt) :
    placementOf today record = .ok (if record.prospective = false then .retrospective
      else .counted closeDay (tally record (classify record closeDay cutoff) cutoff)) := by
  unfold placementOf
  rw [days]
  show (if record.expiresAt < today then _ else if today < closeDay then _ else _) = _
  rw [if_neg (Day.not_lt.mpr retained), if_neg (Day.not_lt.mpr closed)]
  split <;> rfl

theorem contribution_lateExtends {closeDay firstDay secondDay : Day} {earlier later : Record}
    (extended : LateExtends closeDay earlier later)
    (closes : earlier.enrollment.startDay.addDays (reportingWindowDays + lagDays) = some closeDay)
    (firstClosed : closeDay ≤ firstDay) (firstRetained : firstDay ≤ earlier.expiresAt)
    (secondClosed : closeDay ≤ secondDay) (secondRetained : secondDay ≤ later.expiresAt)
    (month : String) {counter : Counter} (onTime : counter.isLate = false) :
    contribution secondDay month later counter = contribution firstDay month earlier counter := by
  have same := closeAndCutoff_of_enrollment extended.extended.enrollment
  cases days : closeAndCutoff earlier with
  | error fault =>
      have first : placementOf firstDay earlier = .error fault := by rw [placementOf, days]; rfl
      have second : placementOf secondDay later = .error fault := by rw [placementOf, same, days]; rfl
      rw [contribution, contribution, first, second]
  | ok pair =>
      obtain ⟨close, cutoff⟩ := pair
      obtain rfl : close = closeDay := by
        have read := days
        unfold closeAndCutoff addDays at read
        simp only [bind_eq_ok, fetch_eq_ok, pure_eq_ok, Prod.mk.injEq] at read
        obtain ⟨_, isClose, _, _, rfl, _⟩ := read
        exact Option.some.inj (isClose.symm.trans closes)
      have first := placementOf_closed days firstClosed firstRetained
      have second := placementOf_closed (same.trans days) secondClosed secondRetained
      have months : later.month = earlier.month := by
        rw [Record.month, Record.month, extended.extended.enrollment]
      rw [extended.extended.prospective] at second
      by_cases retrospective : earlier.prospective = false
      · rw [if_pos retrospective] at first second
        rw [contribution, contribution, first, second]
      · rw [if_neg retrospective] at first second
        have added := tally_congr earlier later cutoff
          (classify_lateExtends extended cutoff) onTime
        rw [contribution, contribution, first, second]
        simp only [months]
        by_cases inMonth : earlier.month = month
        · rw [if_pos inMonth, if_pos inMonth]
          exact added
        · rw [if_neg inMonth, if_neg inMonth]

theorem sampleYear : 1 ≤ 2026 ∧ 2026 ≤ 9999 := by decide

theorem sampleMonth : 1 ≤ 3 ∧ 3 ≤ 12 := by decide

/-- A record without events that started on the first of March. -/
def sampleRecord : Record where
  workflowRef := "wf"
  enrollment := ⟨⟨2026, 3, 1, sampleYear, sampleMonth, by decide⟩, stages, true, "crit"⟩
  enrollmentFingerprint := ""
  revision := 1
  exportRef := "exp"
  firstReceiptDay := ⟨2026, 3, 2, sampleYear, sampleMonth, by decide⟩
  lastReceiptDay := ⟨2026, 3, 2, sampleYear, sampleMonth, by decide⟩
  expiresAt := ⟨2026, 5, 31, sampleYear, by decide, by decide⟩
  prospective := true
  lateEntries := 0
  transitions := ⟨[], List.nodup_nil⟩
  canonicalExport := ""

/-- An import on the eighth of April, after the close day. -/
def lateImport : ImportCall Budget.ZeroFloat := ⟨.other, .null, .str "2026-04-08"⟩

/-- The close day of the sample, and the day after it. -/
def sampleClose : Day := ⟨2026, 4, 7, sampleYear, by decide, by decide⟩

def sampleAfter : Day := ⟨2026, 4, 8, sampleYear, by decide, by decide⟩

end Aegis.Usage
