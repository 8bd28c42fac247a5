/-
# Calibration.StoppedRuns — what a durable RUN_STOPPED denies

`require_active_transport` denies the stages of a run whose state is
`RUN_STOPPED`, and of one whose state is `OWNER_WAIT`. The state is whatever the
last transition wrote. `record_run_state` refuses every transition out of
`OWNER_WAIT` and none out of `RUN_STOPPED`, so a stop holds exactly as long as
nobody records `RUN_PAUSED` over it (`resumed_after_stop`) and nobody takes it
through `OWNER_WAIT` into the holdout. Over runs without these two steps a stop
is final (`stopped_stays`).
-/
import Aegis.Calibration.LedgerHandles

namespace Aegis.Calibration

open Aegis.Lib.Guarded
open Aegis.Lib.Runs

set_option autoImplicit false

/-- The transition to `RUN_STOPPED`. -/
def EventBody.isStop : EventBody → Bool
  | .runStateTransition .stopped _ _ => true
  | _ => false

def holdsStop (file : List LedgerEvent) : Bool := file.any (·.body.isStop)

@[simp] theorem holdsStop_append (earlier later : List LedgerEvent) :
    holdsStop (earlier ++ later) = (holdsStop earlier || holdsStop later) := by
  simp [holdsStop]

/-- The run states under which no stage may reach the provider. -/
def Halted (runState : Option RunState) : Prop :=
  runState = some .stopped ∨ runState = some .ownerWait

/-- The handle wrote the stop, read it when it opened the file, or had a write
that failed. -/
def CalibrationLedger.Knows (ledger : CalibrationLedger) (file : List LedgerEvent) : Prop :=
  ledger.writeFailed = true ∨ holdsStop (file.take ledger.eventSeq) = true

/-- The steps that take nothing back: no `RUN_PAUSED` recorded through a handle in
`RUN_STOPPED`, no holdout transition authorized on a log that holds a stop. -/
def KeepsStop (before : Workspace) : LedgerStep → Prop
  | .call position _ (.recordRunState .paused _ _) =>
      ∀ handle, before.handles[position]? = some handle → handle.ledger.runState ≠ some .stopped
  | .call _ _ (.authorizeHoldoutTransition _) => holdsStop before.file = false
  | _ => True

/-- A halted run denies the transport of every stage. -/
theorem Halted.denied {ledger : CalibrationLedger} (halted : Halted ledger.runState)
    (stage : Stage) : ∃ error, ledger.requireActiveTransport stage = .error error := by
  cases answer : ledger.requireActiveTransport stage with
  | error error => exact ⟨error, rfl⟩
  | ok _ =>
      have passed : ledger.runState ≠ some .stopped ∧ ledger.runState ≠ some .ownerWait := by
        unfold CalibrationLedger.requireActiveTransport at answer
        split at answer <;>
          · simp only [bind_eq_ok, refuse_eq_ok, require_eq_ok] at answer
            obtain ⟨_, _, _, _, _, notStopped, _, notWaiting, _⟩ := answer
            exact ⟨notStopped, notWaiting⟩
      rcases halted with stopped | waiting
      · exact absurd stopped passed.1
      · exact absurd waiting passed.2

theorem denied_of_failed {ledger : CalibrationLedger} (failed : ledger.writeFailed = true)
    (stage : Stage) : ∃ error, ledger.requireActiveTransport stage = .error error :=
  ⟨_, by rw [CalibrationLedger.requireActiveTransport, refuse, if_pos failed]; rfl⟩

/-! ## The log -/

/-- A log that holds a stop leaves its reader halted. -/
def LogHalted (history : List Mark) : Prop :=
  holdsStop (fileOf history) = true → Halted (replayed (fileOf history)).runState

theorem Rehydration.put_opening {body : EventBody} (opening : body.isOpening = true)
    (state : Rehydration) : state.put body = state := by
  cases body <;> simp_all [EventBody.isOpening, Rehydration.put]

theorem EventBody.isStop_of_opening {body : EventBody} (opening : body.isOpening = true) :
    body.isStop = false := by
  cases body <;> simp_all [EventBody.isOpening, EventBody.isStop]

/-- An event that moves no run state. -/
theorem LogHalted.other {history : List Mark} (held : LogHalted history) {event : LedgerEvent}
    (quiet : event.body.isStop = false)
    (same : ∀ state : Rehydration, (state.put event.body).runState = state.runState) :
    LogHalted (history ++ [.appended event]) := by
  intro holds
  rw [fileOf_append, fileOf_appended, replayed_append_singleton, same]
  apply held
  simpa [holdsStop, quiet] using holds

/-- A transition that was admitted over a stop and is not back to `RUN_PAUSED`. -/
theorem admitRunState_halted {ledger : CalibrationLedger} {runState : RunState}
    (checked : ledger.admitRunState runState = .ok ()) (halted : Halted ledger.runState)
    (kept : runState = .paused → ledger.runState ≠ some .stopped) :
    Halted (some runState) := by
  simp only [CalibrationLedger.admitRunState, bind_eq_ok, require_eq_ok, refuse_eq_ok] at checked
  obtain ⟨_, valid, _, notWaiting, _⟩ := checked
  have stopped : ledger.runState = some .stopped := halted.resolve_right notWaiting
  cases runState with
  | paused => exact absurd stopped (kept rfl)
  | stopped => exact .inl rfl
  | ownerWait => exact .inr rfl
  | holdoutActive => simp [RunState.valid] at valid
  | other name => simp [RunState.valid] at valid

variable {digest : EventContent → String}

/-- The first stop of a log is the transition just appended. -/
theorem eq_stopped_of_appended {file : List LedgerEvent} {ledger : CalibrationLedger}
    {runState : RunState} {reason detail : Option String} (before : ¬ holdsStop file = true)
    (holds : (holdsStop file || holdsStop [ledger.next digest
      (.runStateTransition runState reason detail)]) = true) : runState = .stopped := by
  rw [Bool.not_eq_true] at before
  rw [before, Bool.false_or] at holds
  cases runState with
  | stopped => rfl
  | _ => cases holds

/-- The steps that take nothing back keep the log halted. -/
theorem log_halted {steps : List LedgerStep} {workspace : Workspace}
    (run : Run (fun before step after => KeepsStop before step ∧ before.step digest step = after)
      Workspace.empty steps workspace) : LogHalted workspace.history := by
  refine (history_invariant_of (P := LogHalted) (C := KeepsStop) ?_ ?_ ?_ ?_ run).2
  · intro holds
    cases holds
  · intro history attemptId held
    unfold LogHalted
    rw [fileOf_append, fileOf_released, List.append_nil]
    exact held
  · intro history ledger released body _ opening held
    exact held.other (EventBody.isStop_of_opening opening) (fun state => by
      rw [CalibrationLedger.next_body, Rehydration.put_opening opening])
  · intro before position disk operation handle body effect met found tracks act held
    obtain ⟨_, _, _, follows⟩ := tracks
    cases act with
    | @runState runState reason detail checked =>
        intro holds
        rw [fileOf_append, fileOf_appended, replayed_append_singleton]
        show Halted (some runState)
        by_cases stopped : holdsStop (fileOf before.history) = true
        · have halted := held stopped
          rw [follows.runState] at halted
          refine admitRunState_halted checked halted ?_
          rintro rfl
          exact met handle found
        · have own : runState = .stopped := by
            rw [fileOf_append, fileOf_appended, holdsStop_append] at holds
            exact eq_stopped_of_appended stopped holds
          exact .inl (congrArg some own)
    | holdout checked =>
        intro holds
        rw [fileOf_append, fileOf_appended, holdsStop_append,
          show holdsStop (fileOf before.history) = false from met] at holds
        cases holds
    | started _ => exact held.other rfl fun _ => rfl
    | terminal _ _ => exact held.other rfl fun _ => rfl
    | outcome => exact held.other rfl fun _ => rfl
    | segmentBegin _ => exact held.other rfl fun _ => rfl
    | segmentEnd => exact held.other rfl fun _ => rfl
    | deadline => exact held.other rfl fun _ => rfl

/-! ## The handles -/

/-- A handle whose part of the log holds a stop is halted. -/
def HandleHalted (file : List LedgerEvent) (ledger : CalibrationLedger) : Prop :=
  holdsStop (file.take ledger.eventSeq) = true → Halted ledger.runState

theorem take_append_current {file : List LedgerEvent} {event : LedgerEvent} {length : Nat}
    (whole : length = file.length) : (file ++ [event]).take (length + 1) = file ++ [event] := by
  rw [whole, List.take_of_length_le (by simp)]

/-- The handle appended an event that moves no run state. -/
theorem HandleHalted.other {file : List LedgerEvent} {ledger after : CalibrationLedger}
    (held : HandleHalted file ledger) {event : LedgerEvent} (quiet : event.body.isStop = false)
    (whole : ledger.eventSeq = file.length) (seq : after.eventSeq = ledger.eventSeq + 1)
    (same : after.runState = ledger.runState) : HandleHalted (file ++ [event]) after := by
  intro holds
  rw [seq, take_append_current whole] at holds
  rw [same]
  apply held
  rw [whole, List.take_length]
  simpa [holdsStop, quiet] using holds

/-- Every handle's own part of the log is enough to halt it. -/
theorem kept_halted : Kept digest LogHalted KeepsStop HandleHalted where
  opened := by
    intro history runId declared ledger logged _ opened holds
    unfold CalibrationLedger.open? at opened
    split at opened
    · rename_i fresh
      rw [fresh, List.take_nil] at holds
      cases holds
    · rw [bind_eq_ok] at opened
      obtain ⟨_, _, rehydrated⟩ := opened
      rw [rehydrate_ok rehydrated] at holds ⊢
      apply logged
      simpa using holds
  grows := by
    intro file event ledger behind held holds
    rw [List.take_append_of_le_length behind] at holds
    exact held holds
  idles := by
    intro file before after idle held holds
    rw [idle.same] at holds ⊢
    exact held holds
  releases := fun _ _ _ held => held
  opens := by
    intro file ledger body opening _ whole held
    exact held.other (EventBody.isStop_of_opening opening) whole rfl rfl
  acts := by
    intro before position disk operation handle body effect met found current whole act held
    cases act with
    | @runState runState reason detail checked =>
        intro holds
        show Halted (some runState)
        by_cases stopped : holdsStop before.file = true
        · have halted := held (by rw [whole, List.take_length]; exact stopped)
          refine admitRunState_halted checked halted ?_
          rintro rfl
          exact met handle found
        · rw [show (CalibrationLedger.advanced digest handle.ledger
              (.runStateTransition runState reason detail)).eventSeq =
                handle.ledger.eventSeq + 1 from rfl, take_append_current whole] at holds
          rw [holdsStop_append] at holds
          have own : runState = .stopped := eq_stopped_of_appended stopped holds
          exact .inl (congrArg some own)
    | holdout checked =>
        intro holds
        rw [show (CalibrationLedger.advanced digest handle.ledger _).eventSeq =
          handle.ledger.eventSeq + 1 from rfl, take_append_current whole, holdsStop_append,
          show holdsStop before.file = false from met] at holds
        cases holds
    | started _ => exact held.other rfl whole rfl rfl
    | terminal _ _ => exact held.other rfl whole rfl rfl
    | outcome => exact held.other rfl whole rfl rfl
    | segmentBegin _ => exact held.other rfl whole rfl rfl
    | segmentEnd => exact held.other rfl whole rfl rfl
    | deadline => exact held.other rfl whole rfl rfl

/-- **A stop is final** over every run that neither records `RUN_PAUSED` through a
stopped handle nor authorizes the holdout on a stopped log: every handle that
knows of the stop denies the transport of every stage, and a handle that does
not know of it can no longer append to the log. -/
theorem stopped_stays {steps : List LedgerStep} {workspace : Workspace}
    (run : Run (fun before step after => KeepsStop before step ∧ before.step digest step = after)
      Workspace.empty steps workspace) :
    ∀ handle ∈ workspace.handles,
      (handle.ledger.Knows workspace.file →
        ∀ stage, ∃ error, handle.ledger.requireActiveTransport stage = .error error) ∧
      (holdsStop workspace.file = true → ¬ handle.ledger.Knows workspace.file →
        ¬ handle.ledger.Current digest workspace.file) := by
  have sound : Sound digest workspace :=
    run_sound (run.invariant (I := fun state => ∃ steps, LedgerRun digest steps state)
      (fun _ label _ ⟨steps, before⟩ taken => ⟨steps ++ [label], before.snoc taken.2⟩)
      ⟨[], .nil⟩).choose_spec
  intro handle member
  have halted := handles_invariant_of kept_halted (fun _ _ run => log_halted run) run handle member
  refine ⟨?_, ?_⟩
  · rintro (failed | known) stage
    · exact denied_of_failed failed stage
    · exact (halted known).denied stage
  · intro holds unknown current
    obtain ⟨_, length, _⟩ := (current_iff sound.verified).mp current
    apply unknown
    right
    rw [length, List.take_length]
    exact holds

/-- A run is stopped, and the file is opened again. -/
def stoppingSteps : List LedgerStep :=
  openingSteps "seg-0a" ++
    [.call 0 .stable (.beginActiveSegment .development 100),
      .call 0 .stable (.recordRunState .stopped (some "CAP_WOULD_BE_EXCEEDED") none),
      .load "seg-1b" false]

theorem stopped_of_sample :
    ∃ error, ((workspaceAfter sampleDigest stoppingSteps).handles.get
      ⟨1, by decide +kernel⟩).ledger.requireActiveTransport .development = .error error := by
  have run : Run (fun before step after => KeepsStop before step ∧
      before.step sampleDigest step = after) Workspace.empty stoppingSteps
        (workspaceAfter sampleDigest stoppingSteps) :=
    (((((Run.nil.snoc ⟨trivial, rfl⟩).snoc ⟨trivial, rfl⟩).snoc ⟨trivial, rfl⟩).snoc
      ⟨trivial, rfl⟩).snoc ⟨trivial, rfl⟩).snoc ⟨trivial, rfl⟩
  exact (stopped_stays run _ (List.get_mem _ _)).1 (.inr (by decide +kernel)) .development

/-! ## A pause over a stop -/

/-- With its development segment open, a run is stopped and then paused. -/
def resumingSteps : List LedgerStep :=
  openingSteps "seg-0a" ++
    [.call 0 .stable (.beginActiveSegment .development 100),
      .call 0 .stable (.recordRunState .stopped (some "CAP_WOULD_BE_EXCEEDED") none),
      .call 0 .stable (.recordRunState .paused none none)]

/-- The log holds the stop, the handle wrote it, and the transport is open again. -/
theorem resumed_after_stop :
    LedgerRun sampleDigest resumingSteps (workspaceAfter sampleDigest resumingSteps) ∧
      holdsStop (workspaceAfter sampleDigest resumingSteps).file = true ∧
      ((workspaceAfter sampleDigest resumingSteps).handles.map fun handle =>
        decide (handle.ledger.requireActiveTransport .development = .ok ())) = [true] :=
  ⟨ledgerRun_after _ _, by decide +kernel, by decide +kernel⟩

end Aegis.Calibration
