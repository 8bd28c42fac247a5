/-
# Calibration.HoldoutOnePass — the sealed holdout is run once

`reserve`, `begin_active_segment` and `authorize_holdout_transition` each check
their own part of the one-pass rule against the handle's memory. Over the log
they add up to `OnePass`: one transition, one sealed segment, every sealed
attempt after the transition and by the handle that wrote it, with the frozen
dataset and output cap, and no development work after `OWNER_WAIT`.
-/
import Aegis.Calibration.LedgerSound

namespace Aegis.Calibration

open Aegis.Lib.Guarded

set_option autoImplicit false

def EventBody.isHoldout : EventBody → Bool
  | .holdoutTransition _ => true
  | _ => false

/-- An active segment of a stage begins. -/
def EventBody.begins (stage : Stage) : EventBody → Bool
  | .activeSegmentBegin begun _ => begun == stage
  | _ => false

def EventBody.isOwnerWait : EventBody → Bool
  | .runStateTransition .ownerWait _ _ => true
  | _ => false

/-- An attempt of a stage, or an active segment of it, begins. -/
def EventBody.enters (stage : Stage) : EventBody → Bool
  | .attemptStarted reservation => reservation.stage == stage
  | .activeSegmentBegin begun _ => begun == stage
  | _ => false

/-- The event is a holdout transition of the handle `runId` that freezes what the
reservation carries. -/
def Freezes (runId : String) (reservation : Reservation) (event : LedgerEvent) : Prop :=
  event.runId = runId ∧ ∃ binding, event.body = .holdoutTransition binding ∧
    reservation.datasetSha256 = some binding.datasetSha256 ∧
      reservation.maxOutputTokens = binding.maxOutputTokens

/-- The one-pass rule of the sealed holdout, over a ledger file. -/
structure OnePass (file : List LedgerEvent) : Prop where
  transition : file.countP (·.body.isHoldout) ≤ 1
  segment : file.countP (·.body.begins .sealedHoldout) ≤ 1
  sealed : ∀ before event after reservation, file = before ++ event :: after →
    event.body = .attemptStarted reservation → reservation.stage = .sealedHoldout →
      ∃ frozen ∈ before, Freezes event.runId reservation frozen
  waiting : ∀ before event after, file = before ++ event :: after →
    event.body.enters .development = true → ∀ earlier ∈ before, earlier.body.isOwnerWait = false

variable {digest : EventContent → String} {file : List LedgerEvent}

/-! ## What the memory says about the log -/

theorem closeLast_stages (at_ : Rat) (segments : List Segment) :
    (closeLast at_ segments).map (·.stage) = segments.map (·.stage) := by
  induction segments with
  | nil => rfl
  | cons first rest ih =>
      unfold closeLast
      split
      · rw [List.map_cons, ih, List.map_cons]
      · split <;> rfl

/-- The rehydrated memory has a transition exactly when the file has one. -/
theorem replayed_holdout (file : List LedgerEvent) :
    (replayed file).holdoutTransition.isSome = file.any (·.body.isHoldout) := by
  induction file using List.reverseRecOn with
  | nil => rfl
  | append_singleton file event ih =>
      rw [replayed_append_singleton, List.any_append, ← ih]
      cases body : event.body <;> simp [Rehydration.put, EventBody.isHoldout, body]

/-- It has a segment of a stage exactly when one began in the file. -/
theorem replayed_segment (file : List LedgerEvent) (stage : Stage) :
    (replayed file).segments.any (·.stage == stage) = file.any (·.body.begins stage) := by
  have stages : ∀ segments : List Segment,
      segments.any (·.stage == stage) = (segments.map (·.stage)).any (· == stage) := by
    intro segments
    rw [List.any_map]
    rfl
  induction file using List.reverseRecOn with
  | nil => rfl
  | append_singleton file event ih =>
      rw [replayed_append_singleton, List.any_append, ← ih, stages, stages]
      cases body : event.body <;>
        simp [Rehydration.put, EventBody.begins, body, closeLast_stages]

theorem countP_eq_zero_of_any {accepts : LedgerEvent → Bool} (none : file.any accepts = false) :
    file.countP accepts = 0 := by
  rw [List.countP_eq_zero]
  simpa using none

/-- A run that has reached `OWNER_WAIT` waits, or has passed on to the holdout. -/
def Waited (file : List LedgerEvent) : Prop :=
  file.any (·.body.isOwnerWait) = true →
    (replayed file).runState = some .ownerWait ∨ (replayed file).holdoutTransition.isSome = true

/-! ## One event -/

/-- One more event keeps the rule when each part of it is either not about the
event or holds of the file before it. -/
theorem OnePass.snoc (onePass : OnePass file) {event : LedgerEvent}
    (transition : event.body.isHoldout = false ∨ file.any (·.body.isHoldout) = false)
    (segment : event.body.begins .sealedHoldout = false ∨
      file.any (·.body.begins .sealedHoldout) = false)
    (sealed : event.body.started? = none ∨ ∀ reservation, event.body = .attemptStarted reservation →
      reservation.stage = .sealedHoldout → ∃ frozen ∈ file, Freezes event.runId reservation frozen)
    (waiting : event.body.enters .development = false ∨ file.any (·.body.isOwnerWait) = false) :
    OnePass (file ++ [event]) where
  transition := by
    rw [List.countP_append, List.countP_singleton]
    rcases transition with calm | none
    · rw [calm]
      exact onePass.transition
    · rw [countP_eq_zero_of_any none]
      split <;> decide
  segment := by
    rw [List.countP_append, List.countP_singleton]
    rcases segment with calm | none
    · rw [calm]
      exact onePass.segment
    · rw [countP_eq_zero_of_any none]
      split <;> decide
  sealed before appended after reservation split started stage := by
    rcases List.eq_nil_or_concat after with rfl | ⟨after, last, rfl⟩
    · obtain ⟨rfl, same⟩ := List.append_inj' split rfl
      obtain rfl : event = appended := by simpa using same
      rcases sealed with none | sealed
      · rw [started] at none
        cases none
      · exact sealed reservation started stage
    · rw [List.concat_eq_append, ← List.cons_append, ← List.append_assoc] at split
      exact onePass.sealed before appended after reservation (List.append_inj' split rfl).1
        started stage
  waiting before appended after split enters := by
    rcases List.eq_nil_or_concat after with rfl | ⟨after, last, rfl⟩
    · obtain ⟨rfl, same⟩ := List.append_inj' split rfl
      obtain rfl : event = appended := by simpa using same
      rcases waiting with calm | never
      · rw [calm] at enters
        cases enters
      · simpa using never
    · rw [List.concat_eq_append, ← List.cons_append, ← List.append_assoc] at split
      exact onePass.waiting before appended after (List.append_inj' split rfl).1 enters

variable {ledger : CalibrationLedger} {released : List Reservation} {history : List Mark}

/-- The stage rules of `reserve`. -/
theorem admitStage_ok {request : CalibrationLedger.ReserveRequest}
    (checked : ledger.admitStage request = .ok ()) :
    (request.stage = .sealedHoldout ∧ ledger.holdoutReopened = false ∧
      ∃ binding, ledger.holdoutTransition = some binding ∧
        request.datasetSha256 = some binding.datasetSha256 ∧
          request.maxOutputTokens = binding.maxOutputTokens) ∨
    (request.stage ≠ .sealedHoldout ∧ ledger.holdoutTransition = none ∧
      ledger.runState ≠ some .ownerWait) := by
  unfold CalibrationLedger.admitStage at checked
  simp only [bind_eq_ok, require_eq_ok] at checked
  obtain ⟨_, _, checked⟩ := checked
  split at checked
  · rename_i stage
    simp only [bind_eq_ok, fetch_eq_ok, require_eq_ok, refuse_eq_ok] at checked
    obtain ⟨binding, bound, _, active, _, _, _, dataset, _, cap, _⟩ := checked
    push Not at active
    exact .inl ⟨stage, by simpa using active.2, binding, bound, dataset, cap⟩
  · rename_i stage
    rw [refuse_eq_ok] at checked
    push Not at checked
    exact .inr ⟨stage, by simpa using checked.1, checked.2⟩

theorem admitSegment_ok {stage : Stage} (checked : ledger.admitSegment stage = .ok ()) :
    (stage = .sealedHoldout ∧ ledger.segments.any (·.stage == stage) = false) ∨
    (stage ≠ .sealedHoldout ∧ ledger.holdoutTransition = none ∧
      ledger.runState ≠ some .ownerWait) := by
  unfold CalibrationLedger.admitSegment at checked
  simp only [bind_eq_ok, require_eq_ok, refuse_eq_ok] at checked
  obtain ⟨_, _, _, _, checked⟩ := checked
  split at checked
  · rename_i sealed
    rw [refuse_eq_ok] at checked
    push Not at checked
    exact .inl ⟨sealed, by simpa using checked.2.2.2⟩
  · rename_i other
    rw [refuse_eq_ok] at checked
    push Not at checked
    exact .inr ⟨other, by simpa using checked.1, checked.2⟩

/-- Without a transition and outside `OWNER_WAIT` the log never was in it. -/
theorem Waited.never (waited : Waited file) (none : (replayed file).holdoutTransition = none)
    (running : (replayed file).runState ≠ some .ownerWait) :
    file.any (·.body.isOwnerWait) = false := by
  by_contra some
  rcases waited (by simpa using some) with waits | moved
  · exact running waits
  · rw [none] at moved
    cases moved

/-- An event that neither waits nor changes the run state or the transition. -/
theorem Waited.other (waited : Waited file) {event : LedgerEvent}
    (calm : event.body.isOwnerWait = false)
    (runState : ((replayed file).put event.body).runState = (replayed file).runState)
    (holdout : ((replayed file).put event.body).holdoutTransition =
      (replayed file).holdoutTransition) : Waited (file ++ [event]) := by
  intro some
  rw [replayed_append_singleton, runState, holdout]
  exact waited (by simpa [calm] using some)

/-- Every act of a handle that follows the log keeps the rule. -/
theorem OnePass.act (onePass : OnePass (fileOf history)) (waited : Waited (fileOf history))
    (tracks : Tracks ledger released history) {operation : CalibrationLedger.Operation}
    {body : EventBody}
    {effect : CalibrationLedger → CalibrationLedger}
    (act : CalibrationLedger.Act ledger operation body effect) :
    OnePass (fileOf history ++ [ledger.next digest body]) ∧
      Waited (fileOf history ++ [ledger.next digest body]) := by
  obtain ⟨past, left, recorded, follows⟩ := tracks
  cases act with
  | @started request worstCase checked =>
      obtain ⟨-, -, stage, -⟩ := checkReserve_ok checked
      have development : request.stage ≠ .sealedHoldout →
          (fileOf history).any (·.body.isOwnerWait) = false := by
        intro other
        obtain ⟨sealed, _⟩ | ⟨_, none, running⟩ := admitStage_ok stage
        · exact absurd sealed other
        · exact waited.never (follows.holdout.trans none) (by rw [follows.runState]; exact running)
      refine ⟨onePass.snoc (.inl rfl) (.inl rfl) (.inr fun reservation started sealed => ?_) ?_,
        waited.other rfl rfl rfl⟩
      · obtain rfl := EventBody.attemptStarted.inj started
        obtain ⟨_, fresh, binding, bound, dataset, cap⟩ | ⟨other, _⟩ := admitStage_ok stage
        · obtain ⟨event, member, wrote, frozen⟩ := follows.own fresh binding bound
          exact ⟨event, member, wrote, binding, frozen, dataset, cap⟩
        · exact absurd sealed other
      · by_cases sealed : request.stage = .sealedHoldout
        · exact .inl (by simp [EventBody.enters, CalibrationLedger.reservationFor, sealed])
        · exact .inr (development sealed)
  | @runState runState reason detail checked =>
      refine ⟨onePass.snoc (.inl rfl) (.inl rfl) (.inl rfl) (.inl rfl), ?_⟩
      simp only [CalibrationLedger.admitRunState, bind_eq_ok, require_eq_ok, refuse_eq_ok]
        at checked
      obtain ⟨_, _, _, running, _⟩ := checked
      intro some
      rw [replayed_append_singleton]
      by_cases waits : runState = .ownerWait
      · exact .inl (by rw [waits]; rfl)
      · right
        have before : (fileOf history).any (·.body.isOwnerWait) = true := by
          rw [List.any_append] at some
          cases runState <;> simp_all [EventBody.isOwnerWait]
        rcases waited before with waiting | moved
        · rw [follows.runState] at waiting
          exact absurd waiting running
        · exact moved
  | @holdout binding checked =>
      refine ⟨onePass.snoc (.inr ?_) (.inl rfl) (.inl rfl) (.inl rfl), fun _ => .inr ?_⟩
      · simp only [CalibrationLedger.admitHoldout, bind_eq_ok, require_eq_ok, refuse_eq_ok]
          at checked
        obtain ⟨_, _, _, _, _, single, _⟩ := checked
        rw [← replayed_holdout, follows.holdout]
        simpa using single
      · rw [replayed_append_singleton]
        rfl
  | @segmentBegin stage at_ checked =>
      obtain ⟨rfl, single⟩ | ⟨other, none, running⟩ := admitSegment_ok checked
      · refine ⟨onePass.snoc (.inl rfl) (.inr ?_) (.inl rfl) (.inl rfl), waited.other rfl rfl rfl⟩
        rw [← replayed_segment, follows.segments]
        exact single
      · refine ⟨onePass.snoc (.inl rfl) (.inl ?_) (.inl rfl) (.inr ?_), waited.other rfl rfl rfl⟩
        · simpa [EventBody.begins] using other
        · exact waited.never (follows.holdout.trans none) (by rw [follows.runState]; exact running)
  | terminal _ _ => exact ⟨onePass.snoc (.inl rfl) (.inl rfl) (.inl rfl) (.inl rfl), waited.other rfl rfl rfl⟩
  | outcome => exact ⟨onePass.snoc (.inl rfl) (.inl rfl) (.inl rfl) (.inl rfl), waited.other rfl rfl rfl⟩
  | segmentEnd => exact ⟨onePass.snoc (.inl rfl) (.inl rfl) (.inl rfl) (.inl rfl), waited.other rfl rfl rfl⟩
  | deadline => exact ⟨onePass.snoc (.inl rfl) (.inl rfl) (.inl rfl) (.inl rfl), waited.other rfl rfl rfl⟩

/-- **The holdout is run once**, over every history of the ledger file. -/
theorem one_pass_holdout {steps : List LedgerStep} {workspace : Workspace}
    (run : LedgerRun digest steps workspace) : OnePass workspace.file := by
  have both : OnePass (fileOf workspace.history) ∧ Waited (fileOf workspace.history) := by
    refine history_invariant (P := fun history => OnePass (fileOf history) ∧ Waited (fileOf history))
      ?_ ?_ ?_ ?_ run
    · refine ⟨⟨Nat.zero_le _, Nat.zero_le _, ?_, ?_⟩, fun some => by cases some⟩
      · intro before event after reservation split
        simp at split
      · intro before event after split
        simp at split
    · intro history attemptId held
      simpa using held
    · rintro history ledger released body - opening ⟨onePass, waited⟩
      rw [fileOf_append, fileOf_appended]
      cases body with
      | genesis _ _ _ =>
          exact ⟨onePass.snoc (.inl rfl) (.inl rfl) (.inl rfl) (.inl rfl), waited.other rfl rfl rfl⟩
      | segmentOpened _ =>
          exact ⟨onePass.snoc (.inl rfl) (.inl rfl) (.inl rfl) (.inl rfl), waited.other rfl rfl rfl⟩
      | _ => cases opening
    · rintro history ledger released operation body effect tracks act ⟨onePass, waited⟩
      rw [fileOf_append, fileOf_appended]
      exact onePass.act waited tracks act
  exact both.1

/-- The reservation of the one metadata request of `sampleHoldoutSteps`. -/
def sampleMetadata : Reservation where
  reservationId := "seg-0a-att-000001"
  kind := .metadata
  logicalJudgmentId := none
  attemptNumber := 1
  estimatedInputTokens := 0
  maxOutputTokens := 0
  day := "2026-08-14"
  worstCaseChargeNanousd := 0
  datasetSha256 := none
  stage := .development
  retryOfRequestId := none

def sampleSha256 : String := "00112233445566778899aabbccddeeff00112233445566778899aabbccddeeff"

def sampleBinding : HoldoutBinding where
  freezeSha256 := sampleSha256
  datasetSha256 := sampleSha256
  auditedHeadSha := "00112233445566778899aabbccddeeff00112233"
  auditedTreeSha := "00112233445566778899aabbccddeeff00112233"
  developmentManifestSha256 := sampleSha256
  developmentSummarySha256 := sampleSha256
  maxOutputTokens := 25000

/-- One handle probes the metadata, waits for the owner, and enters the holdout. -/
def sampleHoldoutSteps : List LedgerStep :=
  openingSteps "seg-0a" ++
    [.call 0 .stable (.beginActiveSegment .development 0),
      .call 0 .stable (.reserve ⟨.metadata, none, 1, 0, 0, "2026-08-14", none, .development, none⟩),
      .call 0 .stable (.record sampleMetadata
        ⟨some authorizedModelSnapshot, some .zero, "METADATA_OK", false⟩),
      .call 0 .stable (.endActiveSegment 60),
      .call 0 .stable (.recordRunState .ownerWait none none),
      .call 0 .stable (.authorizeHoldoutTransition sampleBinding),
      .call 0 .stable (.beginActiveSegment .sealedHoldout 120),
      .call 0 .stable (.reserve ⟨.judgmentAttempt, some "item-41", 1, 1200, 25000, "2026-08-14",
        some sampleSha256, .sealedHoldout, none⟩)]

/-- The rule holds of a history that does enter the holdout. -/
theorem one_pass_of_sample :
    (workspaceAfter sampleDigest sampleHoldoutSteps).file.any (·.body.enters .sealedHoldout) = true ∧
      OnePass (workspaceAfter sampleDigest sampleHoldoutSteps).file :=
  ⟨by decide +kernel, one_pass_holdout (ledgerRun_after sampleDigest sampleHoldoutSteps)⟩

end Aegis.Calibration
