/-
# Calibration.LedgerHandles — what a step does to the handle it acts on

`Workspace.step_cases` reads one step back: nothing happened, a handle was
opened, or one handle changed (`Handle.Change`) and its marks joined the
history. `handles_invariant_of` is the rule for facts about a handle and the
file that hold of every handle in every reachable workspace, stale ones
included.
-/
import Aegis.Calibration.LedgerSound

namespace Aegis.Calibration

open Aegis.Lib.Runs

set_option autoImplicit false

/-- What a step does to the handle at a position, and the marks it leaves. -/
inductive Handle.Change (digest : EventContent → String) (file : List LedgerEvent)
    (label : LedgerStep) (position : Nat) (before after : Handle) : List Mark → Prop
  | idle (idle : CalibrationLedger.Idle before.ledger after.ledger)
      (kept : after.released = before.released) :
      Change digest file label position before after []
  | release {reservationId : String}
      (ledger : after.ledger = before.ledger.releaseUnused reservationId)
      (released : after.released = before.released ++
        before.ledger.pending.filter (·.reservationId == reservationId)) :
      Change digest file label position before after
        ((before.ledger.pending.filter (·.reservationId == reservationId)).map
          fun reservation => .released reservation.reservationId)
  | lost {body : EventBody} (current : before.ledger.Current digest file)
      (idle : CalibrationLedger.Idle before.ledger after.ledger)
      (failed : after.ledger.writeFailed = true) (kept : after.released = before.released) :
      Change digest file label position before after
        [.appended (before.ledger.next digest body)]
  | opened {body : EventBody} (opening : body.isOpening = true)
      (current : before.ledger.Current digest file)
      (ledger : after.ledger = before.ledger.advanced digest body)
      (kept : after.released = before.released) :
      Change digest file label position before after
        [.appended (before.ledger.next digest body)]
  | written {disk : Disk} {operation : CalibrationLedger.Operation} {body : EventBody}
      {effect : CalibrationLedger → CalibrationLedger} (called : label = .call position disk operation)
      (act : CalibrationLedger.Act before.ledger operation body effect)
      (current : before.ledger.Current digest file)
      (ledger : after.ledger = effect (before.ledger.advanced digest body))
      (kept : after.released = before.released) :
      Change digest file label position before after
        [.appended (before.ledger.next digest body)]

variable {digest : EventContent → String}

/-- An append of the constructor, whatever the disk did. -/
theorem Handle.Change.of_opening {file : List LedgerEvent} {label : LedgerStep} {position : Nat}
    {before : Handle} {body : EventBody} (disk : Disk) (opening : body.isOpening = true)
    (next : Phase) :
    let done := before.ledger.commit digest disk file body
      fun written => (written, (.ok () : Except CalibrationError Unit))
    Handle.Change digest file label position before
      ⟨done.ledger, if done.result = .ok () then next else .lost, before.released⟩
      (marksAfter file done.file) := by
  intro done
  obtain ⟨kept, -, same | same⟩ | ⟨current, grown, ⟨same, -⟩ | ⟨same, -⟩⟩ :=
    CalibrationLedger.commit_cases digest disk before.ledger file body
      fun written => (written, (.ok () : Except CalibrationError Unit))
  · rw [show done.file = file from kept, marksAfter_self]
    refine .idle ?_ rfl
    rw [show done.ledger = before.ledger from same]
    exact .refl _
  · rw [show done.file = file from kept, marksAfter_self]
    refine .idle ?_ rfl
    rw [show done.ledger = before.ledger.failed from same]
    exact .of_failed (le_refl _)
  · rw [show done.file = file ++ [before.ledger.next digest body] from grown, marksAfter_append]
    refine .lost current ?_ ?_ rfl
    · rw [show done.ledger = before.ledger.failed from same]
      exact .of_failed (le_refl _)
    · rw [show done.ledger = before.ledger.failed from same]
      rfl
  · rw [show done.file = file ++ [before.ledger.next digest body] from grown, marksAfter_append]
    exact .opened opening current same rfl

/-- A call on a handle that is ready for calls. -/
theorem Handle.Change.of_call {file : List LedgerEvent} {position : Nat} {before after : Handle}
    {grown : List LedgerEvent} (disk : Disk) (operation : CalibrationLedger.Operation)
    (called : before.call digest disk operation file = some (after, grown)) :
    Handle.Change digest file (.call position disk operation) position before after
      (marksAfter file grown ++ ((if before.phase = .ready then dropped before.ledger operation
        else []).map fun reservation => .released reservation.reservationId)) := by
  unfold Handle.call at called
  split at called
  · rename_i ready
    obtain ⟨rfl, rfl⟩ := Prod.mk.inj (Option.some.inj called)
    rw [if_pos ready]
    by_cases releasing : ∃ reservationId, operation = .releaseUnused reservationId
    · obtain ⟨reservationId, rfl⟩ := releasing
      have unchanged : marksAfter file (before.ledger.run digest disk file
          (.releaseUnused reservationId)).file = [] := marksAfter_self _
      rw [unchanged, List.nil_append]
      exact .release rfl rfl
    · have moved := (CalibrationLedger.run_moved digest disk before.ledger file
        operation).resolve_left releasing
      have none := dropped_of_other before.ledger releasing
      rw [none, List.map_nil, List.append_nil]
      generalize (before.ledger.run digest disk file operation).ledger = after at moved ⊢
      generalize (before.ledger.run digest disk file operation).file = grown at moved ⊢
      cases moved with
      | idle idle =>
          rw [marksAfter_self]
          exact .idle idle rfl
      | lost act current idle failed =>
          rw [marksAfter_append]
          exact .lost current idle failed rfl
      | written act current =>
          rw [marksAfter_append]
          exact .written rfl act current rfl rfl
  · cases called

/-- An action of one handle on the file. -/
theorem Workspace.actOn_cases (workspace : Workspace) (position : Nat)
    (releases : Handle → List Reservation)
    (act : Handle → List LedgerEvent → Option (Handle × List LedgerEvent)) :
    workspace.actOn position releases act = workspace ∨
    ∃ handle next file, workspace.handles[position]? = some handle ∧
      act handle workspace.file = some (next, file) ∧
      workspace.actOn position releases act =
        ⟨workspace.history ++ (marksAfter workspace.file file ++
          (releases handle).map fun reservation => .released reservation.reservationId),
          workspace.handles.set position next⟩ := by
  unfold Workspace.actOn
  cases found : workspace.handles[position]? with
  | none => exact .inl rfl
  | some handle =>
      simp only
      cases acted : act handle workspace.file with
      | none => exact .inl rfl
      | some done =>
          refine .inr ⟨handle, done.1, done.2, rfl, acted, ?_⟩
          simp only [List.append_assoc]

variable (digest) in
/-- **One step read back.** -/
theorem Workspace.step_cases (workspace : Workspace) (label : LedgerStep) :
    workspace.step digest label = workspace ∨
    (∃ runId declared ledger phase,
      CalibrationLedger.open? digest runId declared workspace.file = .ok ledger ∧
      workspace.step digest label =
        { workspace with handles := workspace.handles ++ [⟨ledger, phase, []⟩] }) ∨
    ∃ position before after marks, workspace.handles[position]? = some before ∧
      before.Change digest workspace.file label position after marks ∧
      workspace.step digest label =
        ⟨workspace.history ++ marks, workspace.handles.set position after⟩ := by
  cases label with
  | load runId declared =>
      simp only [Workspace.step]
      split
      · exact .inl rfl
      · rename_i ledger opened
        exact .inr (.inl ⟨runId, declared, ledger, _, opened, rfl⟩)
  | construct position disk =>
      obtain same | ⟨handle, next, file, found, acted, same⟩ :=
        workspace.actOn_cases position (fun _ => []) (Handle.construct digest disk)
      · exact .inl same
      · refine .inr (.inr ⟨position, handle, next, _, found, ?_, same⟩)
        rw [List.map_nil, List.append_nil]
        simp only [Handle.construct] at acted
        split at acted
        · obtain ⟨rfl, rfl⟩ := Prod.mk.inj (Option.some.inj acted)
          exact .of_opening disk rfl .segmentDue
        · obtain ⟨rfl, rfl⟩ := Prod.mk.inj (Option.some.inj acted)
          exact .of_opening disk rfl .ready
        · cases acted
  | call position disk operation =>
      obtain same | ⟨handle, next, file, found, acted, same⟩ :=
        workspace.actOn_cases position
          (fun handle => if handle.phase = .ready then dropped handle.ledger operation else [])
          (Handle.call digest disk operation)
      · exact .inl same
      · exact .inr (.inr ⟨position, handle, next, _, found, .of_call disk operation acted, same⟩)
  | crash position =>
      obtain same | ⟨handle, next, file, found, acted, same⟩ :=
        workspace.actOn_cases position (fun _ => []) fun handle file =>
          some ({ handle with phase := .lost }, file)
      · exact .inl same
      · obtain ⟨rfl, rfl⟩ := Prod.mk.inj (Option.some.inj acted)
        refine .inr (.inr ⟨position, handle, _, _, found, ?_, same⟩)
        rw [marksAfter_self, List.map_nil, List.append_nil]
        exact .idle (.refl _) rfl

/-- The facts that the steps of one handle keep about it. -/
structure Kept (digest : EventContent → String) (P : List Mark → Prop)
    (C : Workspace → LedgerStep → Prop) (Q : List LedgerEvent → CalibrationLedger → Prop) :
    Prop where
  opened : ∀ history runId declared ledger, P history → Verified digest (fileOf history) →
    CalibrationLedger.open? digest runId declared (fileOf history) = .ok ledger →
      Q (fileOf history) ledger
  /-- Someone else appends an event. -/
  grows : ∀ file event (ledger : CalibrationLedger), ledger.eventSeq ≤ file.length →
    Q file ledger → Q (file ++ [event]) ledger
  idles : ∀ file before after, CalibrationLedger.Idle before after → Q file before → Q file after
  releases : ∀ file (ledger : CalibrationLedger) reservationId,
    Q file ledger → Q file (ledger.releaseUnused reservationId)
  opens : ∀ file (ledger : CalibrationLedger) body, body.isOpening = true →
    ledger.Current digest file → ledger.eventSeq = file.length → Q file ledger →
      Q (file ++ [ledger.next digest body]) (ledger.advanced digest body)
  acts : ∀ (before : Workspace) position disk operation handle body effect,
    C before (.call position disk operation) → before.handles[position]? = some handle →
    handle.ledger.Current digest before.file → handle.ledger.eventSeq = before.file.length →
    CalibrationLedger.Act handle.ledger operation body effect → Q before.file handle.ledger →
      Q (before.file ++ [handle.ledger.next digest body])
        (effect (handle.ledger.advanced digest body))

/-- **The rule for facts about handles.** What the opening establishes and every
step keeps holds of every handle in every reachable workspace; `P` is a fact
about the log that is known already. -/
theorem handles_invariant_of {P : List Mark → Prop} {C : Workspace → LedgerStep → Prop}
    {Q : List LedgerEvent → CalibrationLedger → Prop} (kept : Kept digest P C Q)
    {steps : List LedgerStep} {workspace : Workspace}
    (logs : ∀ steps workspace, Run (fun before step after => C before step ∧
      before.step digest step = after) Workspace.empty steps workspace → P workspace.history)
    (run : Run (fun before step after => C before step ∧ before.step digest step = after)
      Workspace.empty steps workspace) :
    ∀ handle ∈ workspace.handles, Q workspace.file handle.ledger := by
  have sound : ∀ {steps workspace}, Run (fun before step after => C before step ∧
      before.step digest step = after) Workspace.empty steps workspace →
        Sound digest workspace := fun run =>
    run_sound (run.invariant (I := fun state => ∃ steps, LedgerRun digest steps state)
      (fun _ label _ ⟨steps, before⟩ taken => ⟨steps ++ [label], before.snoc taken.2⟩)
      ⟨[], .nil⟩).choose_spec
  induction run with
  | nil => exact fun _ member => by cases member
  | @snoc labels label middle last before taken ih =>
      obtain ⟨met, rfl⟩ := taken
      have whole := sound before
      obtain same | ⟨runId, declared, ledger, phase, opened, same⟩ |
        ⟨position, handle, next, marks, found, change, same⟩ := middle.step_cases digest label
      · rw [same]
        exact ih
      · rw [same]
        intro handle member
        rcases List.mem_append.mp member with old | new
        · exact ih handle old
        · obtain rfl := List.mem_singleton.mp new
          exact kept.opened middle.history _ _ _ (logs _ _ before) whole.verified opened
      · have there := List.mem_of_getElem? found
        have held := ih handle there
        rw [same]
        intro other member
        have file : Workspace.file ⟨middle.history ++ marks, middle.handles.set position next⟩ =
            middle.file ++ fileOf marks := fileOf_append _ _
        rw [file]
        rcases List.mem_or_eq_of_mem_set member with old | rfl
        · have behind := (whole.handles other old).behind
          cases change with
          | idle _ _ => simpa using ih other old
          | release _ _ => simpa using ih other old
          | lost => exact kept.grows _ _ _ behind (ih other old)
          | opened => exact kept.grows _ _ _ behind (ih other old)
          | written => exact kept.grows _ _ _ behind (ih other old)
        · cases change with
          | idle idle _ => simpa using kept.idles _ _ _ idle held
          | release ledger _ =>
              rw [ledger, fileOf_releases, List.append_nil]
              exact kept.releases _ _ _ held
          | lost current idle failed _ =>
              exact kept.idles _ _ _ idle
                (kept.grows _ _ _ (whole.handles handle there).behind held)
          | opened opening current ledger _ =>
              rw [ledger]
              exact kept.opens _ _ _ opening current
                ((current_iff whole.verified).mp current).2.1 held
          | written called act current ledger _ =>
              subst called
              rw [ledger]
              exact kept.acts _ _ _ _ _ _ _ met found current
                ((current_iff whole.verified).mp current).2.1 act held

end Aegis.Calibration
