/-
# Calibration.LedgerMoves — what one call can do to a handle and the file

Every call comes down to one of three things (`run_moved`): it drops a
reservation from memory, it leaves the file and the accounting as they are, or
it appends one event. An event is only ever appended by a handle that knows the
whole file (`Current`) and after the checks of its operation (`Act`); the call
that appended it either goes on with the changed memory or is told that its
write failed, and then the handle never writes again.
-/
import Aegis.Calibration.LedgerOperations

namespace Aegis.Calibration

open Aegis.Lib.Guarded

set_option autoImplicit false

namespace CalibrationLedger

variable (digest : EventContent → String)

/-- The handle can write, and it knows the file as it is. -/
def Current (ledger : CalibrationLedger) (file : List LedgerEvent) : Prop :=
  ledger.writeFailed = false ∧
    loadVerifiedChain digest file = .ok (ledger.eventSeq, ledger.prevHash)

/-- The event the handle writes with a body. -/
def next (ledger : CalibrationLedger) (body : EventBody) : LedgerEvent :=
  sealEvent digest ledger.eventSeq ledger.prevHash ledger.runId body

@[simp] theorem next_body (ledger : CalibrationLedger) (body : EventBody) :
    (ledger.next digest body).body = body := rfl

@[simp] theorem next_runId (ledger : CalibrationLedger) (body : EventBody) :
    (ledger.next digest body).runId = ledger.runId := rfl

/-- The handle after its event is durable. -/
def advanced (ledger : CalibrationLedger) (body : EventBody) : CalibrationLedger :=
  { ledger with
    eventSeq := ledger.eventSeq + 1
    prevHash := (ledger.next digest body).eventSha256 }

/-- The handle after a write that failed. -/
def failed (ledger : CalibrationLedger) : CalibrationLedger := { ledger with writeFailed := true }

/-- The body of the event that an operation may append, and what the operation
does to the memory once the event is durable. -/
inductive Act (ledger : CalibrationLedger) :
    Operation → EventBody → (CalibrationLedger → CalibrationLedger) → Prop
  | started {request : ReserveRequest} {worstCase : Int}
      (checked : ledger.checkReserve request = .ok worstCase) :
      Act ledger (.reserve request)
        (.attemptStarted (ledger.reservationFor request worstCase)) fun written =>
          { written with
            attemptCounter := ledger.attemptCounter + 1
            pending := written.pending ++ [ledger.reservationFor request worstCase] }
  | terminal {reservation : Reservation} {report : Report} {missing : Bool} {charge : Int}
      {tokens : ProviderUsage} (reserved : reservation ∈ ledger.pending)
      (known : charged reservation report = .ok (missing, charge, tokens)) :
      Act ledger (.record reservation report)
        (.attemptTerminal (ledger.entryFor reservation report missing charge tokens))
        fun written => written.settle (ledger.entryFor reservation report missing charge tokens)
  | runState {runState : RunState} {reason detail : Option String}
      (checked : ledger.admitRunState runState = .ok ()) :
      Act ledger (.recordRunState runState reason detail)
        (.runStateTransition runState reason detail) fun written =>
          { written with runState := some runState }
  | holdout {binding : HoldoutBinding} (checked : ledger.admitHoldout binding = .ok ()) :
      Act ledger (.authorizeHoldoutTransition binding) (.holdoutTransition binding) fun written =>
        { written with
          holdoutTransition := some binding
          runState := some .holdoutActive }
  | outcome {internalRequestId outcome : String} {detail : Option String} :
      Act ledger (.recordSemanticOutcome internalRequestId outcome detail)
        (.semanticOutcome internalRequestId outcome detail) id
  | segmentBegin {stage : Stage} {at_ : Rat} (checked : ledger.admitSegment stage = .ok ()) :
      Act ledger (.beginActiveSegment stage at_) (.activeSegmentBegin stage at_) fun written =>
        { written with segments := written.segments ++ [⟨stage, at_, none⟩] }
  | segmentEnd {at_ : Rat} :
      Act ledger (.endActiveSegment at_) (.activeSegmentEnd at_) fun written =>
        { written with segments := closeLast at_ written.segments }
  | deadline {stage : Stage} {now : Option Rat} {stageSeconds totalSeconds : Rat} :
      Act ledger (.checkDeadlines stage now) (.deadlineStop stage stageSeconds totalSeconds) id

/-- Nothing that is accounted for has changed: at most a number was drawn for an
attempt that was not started, or a write failed. -/
structure Idle (before after : CalibrationLedger) : Prop where
  counter : before.attemptCounter ≤ after.attemptCounter
  healthy : after.writeFailed = false → before.writeFailed = false
  same : after = { before with
    attemptCounter := after.attemptCounter
    writeFailed := after.writeFailed }

theorem Idle.refl (ledger : CalibrationLedger) : Idle ledger ledger := ⟨le_refl _, id, rfl⟩

theorem Idle.of_failed {before : CalibrationLedger} {counter : Nat}
    (counted : before.attemptCounter ≤ counter) :
    Idle before { before with attemptCounter := counter, writeFailed := true } :=
  ⟨counted, nofun, rfl⟩

/-- What a call that may write leaves behind, whatever the disk did. -/
inductive Moved (operation : Operation) (before : CalibrationLedger) (file : List LedgerEvent) :
    CalibrationLedger → List LedgerEvent → Prop
  | idle {after : CalibrationLedger} (idle : Idle before after) : Moved operation before file after file
  | lost {body : EventBody} {effect : CalibrationLedger → CalibrationLedger}
      {after : CalibrationLedger} (act : Act before operation body effect)
      (current : before.Current digest file) (idle : Idle before after)
      (failed : after.writeFailed = true) :
      Moved operation before file after (file ++ [before.next digest body])
  | written {body : EventBody} {effect : CalibrationLedger → CalibrationLedger}
      (act : Act before operation body effect) (current : before.Current digest file) :
      Moved operation before file (effect (before.advanced digest body)) (file ++ [before.next digest body])

variable {digest} {α : Type} {disk : Disk} {ledger : CalibrationLedger} {file : List LedgerEvent}
  {body : EventBody}

variable (digest disk ledger file body) in
/-- The ways an append can end: nothing was written, the write failed on the way,
or the event is durable. Only the last one answers. -/
theorem commit_cases (finish : CalibrationLedger → CalibrationLedger × Except CalibrationError α) :
    let done := ledger.commit digest disk file body finish
    (done.file = file ∧ (∃ error, done.result = .error error) ∧
      (done.ledger = ledger ∨ done.ledger = ledger.failed)) ∨
    (ledger.Current digest file ∧ done.file = file ++ [ledger.next digest body] ∧
      (done.ledger = ledger.failed ∧ (∃ error, done.result = .error error) ∨
        done.ledger = (finish (ledger.advanced digest body)).1 ∧
          done.result = (finish (ledger.advanced digest body)).2)) := by
  unfold commit appendEvent
  by_cases broken : ledger.writeFailed = true
  · simp [broken]
  · simp only [if_neg broken]
    cases loaded : loadVerifiedChain digest file with
    | error error => cases disk <;> exact .inl ⟨rfl, ⟨_, rfl⟩, .inr rfl⟩
    | ok reached =>
        by_cases stale : reached.2 ≠ ledger.prevHash ∨ reached.1 ≠ ledger.eventSeq
        · left
          cases disk <;> simp [if_pos stale, failed]
        · have known : ledger.Current digest file := by
            push Not at stale
            exact ⟨by simpa using broken, by rw [loaded, ← stale.1, ← stale.2]⟩
          cases disk with
          | refused => exact .inl ⟨rfl, ⟨_, rfl⟩, .inr rfl⟩
          | stable =>
              simp only [if_neg stale, reduceCtorEq, if_false]
              exact .inr ⟨known, rfl, .inr ⟨rfl, rfl⟩⟩
          | unsynced =>
              simp only [if_neg stale, if_true]
              exact .inr ⟨known, rfl, .inl ⟨rfl, _, rfl⟩⟩

/-- An operation whose checks hold and that then commits one event. -/
theorem moved_of_commit {operation : Operation} {effect : CalibrationLedger → CalibrationLedger}
    {answer : Except CalibrationError α}
    (act : Act ledger operation body effect) :
    Moved digest operation ledger file
      (ledger.commit digest disk file body fun written => (effect written, answer)).ledger
      (ledger.commit digest disk file body fun written => (effect written, answer)).file := by
  obtain ⟨kept, -, same | same⟩ | ⟨current, grown, ⟨same, -⟩ | ⟨same, -⟩⟩ :=
    commit_cases digest disk ledger file body fun written => (effect written, answer)
  · rw [kept, same]
    exact .idle (.refl _)
  · rw [kept, same]
    exact .idle (.of_failed (le_refl _))
  · rw [grown, same]
    exact .lost act current (.of_failed (le_refl _)) rfl
  · rw [grown, same]
    exact .written act current

theorem reserve_moved (request : ReserveRequest) :
    Moved digest (.reserve request) ledger file (ledger.reserve digest disk file request).ledger
      (ledger.reserve digest disk file request).file := by
  unfold reserve
  cases checked : ledger.checkReserve request with
  | error _ => exact .idle (.refl _)
  | ok worstCase =>
      have act := Act.started checked
      obtain ⟨kept, -, same | same⟩ | ⟨current, grown, ⟨same, -⟩ | ⟨same, -⟩⟩ :=
        commit_cases digest disk { ledger with attemptCounter := ledger.attemptCounter + 1 } file
          (.attemptStarted (ledger.reservationFor request worstCase))
          fun written => ({ written with
            pending := written.pending ++ [ledger.reservationFor request worstCase] },
            .ok (ledger.reservationFor request worstCase))
      · simp only [kept, same]
        exact .idle ⟨Nat.le_succ _, id, rfl⟩
      · simp only [kept, same]
        exact .idle (.of_failed (Nat.le_succ _))
      · simp only [grown, same]
        exact .lost act current (.of_failed (Nat.le_succ _)) rfl
      · simp only [grown, same]
        exact .written act current

theorem record_moved (reservation : Reservation) (report : Report) :
    Moved digest (.record reservation report) ledger file
      (ledger.record digest disk file reservation report).ledger
      (ledger.record digest disk file reservation report).file := by
  unfold record
  split
  · rename_i reserved
    cases known : charged reservation report with
    | error _ => exact .idle (.refl _)
    | ok charge => exact moved_of_commit (.terminal reserved known)
  · exact .idle (.refl _)

theorem endActiveSegment_moved (at_ : Rat) :
    Moved digest (.endActiveSegment at_) ledger file
      (ledger.endActiveSegment digest disk file at_).ledger
      (ledger.endActiveSegment digest disk file at_).file := by
  unfold endActiveSegment
  split
  · exact .idle (.refl _)
  · split
    · exact .idle (.refl _)
    · exact moved_of_commit .segmentEnd

theorem checkDeadlines_moved (stage : Stage) (now : Option Rat) :
    Moved digest (.checkDeadlines stage now) ledger file
      (ledger.checkDeadlines digest disk file stage now).ledger
      (ledger.checkDeadlines digest disk file stage now).file := by
  unfold checkDeadlines
  split
  · exact .idle (.refl _)
  · split
    · exact .idle (.refl _)
    · exact moved_of_commit .deadline

variable (digest disk ledger file) in
/-- **One call.** It drops a reservation from memory, changes nothing that is
accounted for, or appends one checked event to a file the handle knows. -/
theorem run_moved (operation : Operation) :
    (∃ reservationId, operation = .releaseUnused reservationId) ∨
      Moved digest operation ledger file (ledger.run digest disk file operation).ledger
        (ledger.run digest disk file operation).file := by
  cases operation with
  | releaseUnused reservationId => exact .inl ⟨reservationId, rfl⟩
  | reserve request => exact .inr (reserve_moved request)
  | record reservation report => exact .inr (record_moved reservation report)
  | recordRunState runState reason detail =>
      right
      simp only [run, recordRunState]
      split
      · exact .idle (.refl _)
      · rename_i checked
        exact moved_of_commit (.runState checked)
  | authorizeHoldoutTransition binding =>
      right
      simp only [run, authorizeHoldoutTransition]
      split
      · exact .idle (.refl _)
      · rename_i checked
        exact moved_of_commit (.holdout checked)
  | recordSemanticOutcome internalRequestId outcome detail =>
      right
      simp only [run, recordSemanticOutcome]
      split
      · exact moved_of_commit .outcome
      · exact .idle (.refl _)
  | beginActiveSegment stage at_ =>
      right
      simp only [run, beginActiveSegment]
      split
      · exact .idle (.refl _)
      · rename_i checked
        exact moved_of_commit (.segmentBegin checked)
  | endActiveSegment at_ => exact .inr (endActiveSegment_moved at_)
  | checkDeadlines stage now => exact .inr (checkDeadlines_moved stage now)

end CalibrationLedger

end Aegis.Calibration
