/-
# Calibration.LedgerOperations — what a caller can do with a ledger handle

`reserve` writes the `ATTEMPT_STARTED` event before anything is sent, `record`
the `ATTEMPT_TERMINAL` event afterwards; `releaseUnused` only changes memory.
Run states, the holdout transition, active segments, semantic outcomes and
deadline stops are further events of the same chain. `Operation` collects them
and `CalibrationLedger.run` is one call on one handle.
-/
import Mathlib.Algebra.Order.Ring.Unbundled.Rat
import Mathlib.Algebra.Ring.Rat
import Aegis.Calibration.Ledger
import Aegis.Lib.Decimal

namespace Aegis.Calibration

open Aegis.Lib
open Aegis.Lib.Guarded

set_option autoImplicit false

namespace CalibrationLedger

/-! ## Reserve, release, record -/

def attemptId (runId : String) (counter : Nat) : String :=
  runId ++ "-att-" ++ zeroPadded 6 counter

/-- The reservation that an admitted request gets. -/
def reservationFor (ledger : CalibrationLedger) (request : ReserveRequest) (worstCase : Int) :
    Reservation where
  reservationId := attemptId ledger.runId (ledger.attemptCounter + 1)
  kind := request.kind
  logicalJudgmentId := request.logicalJudgmentId
  attemptNumber := request.attemptNumber
  estimatedInputTokens := request.estimatedInputTokens
  maxOutputTokens := request.maxOutputTokens
  day := request.day
  worstCaseChargeNanousd := worstCase
  datasetSha256 := request.datasetSha256
  stage := request.stage
  retryOfRequestId := request.retryOfRequestId

/-- What a provider reported about one attempt. -/
structure Report where
  returnedModel : Option String
  usage : Option ProviderUsage
  outcomeKind : String
  billingUnknown : Bool
  deriving DecidableEq, Repr

/-- The charge of a report: whether telemetry is missing, the charge, the tokens. -/
def charged (reservation : Reservation) (report : Report) :
    Except CalibrationError (Bool × Int × ProviderUsage) :=
  if report.billingUnknown = true then do
    refuse (report.usage.isSome = true)
      (.ledger "billing_unknown carries NO usage claim; pass usage=None")
    pure (false, reservation.worstCaseChargeNanousd, .zero)
  else
    match report.usage with
    | none => .ok (true, reservation.worstCaseChargeNanousd, .zero)
    | some usage => do
        usage.validate
        pure (false, calculateChargeNanousd usage, usage)

/-- `judgment_ids` of `record`: the judgments of prior segments and of this one. -/
def judgmentIds (ledger : CalibrationLedger) : Finset String :=
  ledger.prior.judgmentIds ∪
    (ledger.entries.filterMap fun entry =>
      if entry.requestKind = .judgmentAttempt then entry.logicalJudgmentId else none).toFinset

/-- The totals after one more recorded attempt. -/
def cumulativeAfter (ledger : CalibrationLedger) (reservation : Reservation) (charge : Int)
    (tokens : ProviderUsage) : CumulativeSnapshot :=
  let prior := ledger.cumulative
  let isJudgment := reservation.kind = .judgmentAttempt
  let judgments :=
    match reservation.kind, reservation.logicalJudgmentId with
    | .judgmentAttempt, some judgment => insert judgment ledger.judgmentIds
    | _, _ => ledger.judgmentIds
  { judgmentsTotal := judgments.card
    attemptsTotal := prior.attemptsTotal + if isJudgment then 1 else 0
    metadataRequests := prior.metadataRequests + if isJudgment then 0 else 1
    totalExternalRequests := prior.totalExternalRequests + 1
    tokensTotal := prior.tokensTotal + tokens
    spendNanousdTotal := prior.spendNanousdTotal + charge
    daySpendNanousd := ledger.spend (some reservation.day) + charge }

/-- The entry `record` appends. -/
def entryFor (ledger : CalibrationLedger) (reservation : Reservation) (report : Report)
    (telemetryMissing : Bool) (charge : Int) (tokens : ProviderUsage) : LedgerEntry where
  internalRequestId := reservation.reservationId
  requestKind := reservation.kind
  logicalJudgmentId := reservation.logicalJudgmentId
  attemptNumber := reservation.attemptNumber
  returnedModel := report.returnedModel
  tokens := tokens
  calculatedChargeNanousd := charge
  telemetryMissing := telemetryMissing
  billingUnknown := report.billingUnknown
  retryOfRequestId := reservation.retryOfRequestId
  outcomeKind := report.outcomeKind
  day := reservation.day
  cumulative := ledger.cumulativeAfter reservation charge tokens

/-- The stops that `record` raises once the entry is durable. -/
def stopAfter (reservation : Reservation) (entry : LedgerEntry) :
    Except CalibrationError LedgerEntry := do
  refuse (entry.telemetryMissing = true)
    (.stop .budgetTelemetryUnavailable ("provider usage/billing telemetry is unavailable for " ++
        s!"{entry.internalRequestId}; the run STOPS (the entry is recorded with the worst-case reserved " ++
        "charge, explicitly marked telemetry_missing — success is never estimated)"))
  if reservation.kind = .judgmentAttempt ∧ entry.billingUnknown = false then do
    refuse (maxInputTokensPerJudgment < entry.tokens.inputTokens)
      (.stop .capWouldBeExceeded (s!"provider reported {entry.tokens.inputTokens} input tokens for " ++
        s!"{entry.internalRequestId}, above the {maxInputTokensPerJudgment}-token judgment budget; " ++
        "the attempt is recorded and the run STOPS"))
    refuse (reservation.maxOutputTokens < entry.tokens.outputTokens)
      (.stop .capWouldBeExceeded (s!"provider reported {entry.tokens.outputTokens} output tokens " ++
        s!"for {entry.internalRequestId}, above the reserved {reservation.maxOutputTokens} ceiling; " ++
        "the attempt is recorded and the run STOPS"))
  else pure ()
  refuse (maxTotalSpendNanousd < entry.cumulative.spendNanousdTotal ∨
      maxSingleDaySpendNanousd < entry.cumulative.daySpendNanousd)
    (.stop .capWouldBeExceeded ("the recorded actual charge breaches a hard spend ceiling (total " ++
        s!"{entry.cumulative.spendNanousdTotal} nano-USD, day {entry.cumulative.daySpendNanousd} " ++
        "nano-USD); the evidence is preserved and the run STOPS"))
  pure entry

variable (digest : EventContent → String)

def reserve (disk : Disk) (ledger : CalibrationLedger) (file : List LedgerEvent)
    (request : ReserveRequest) : Outcome Reservation :=
  match ledger.checkReserve request with
  | .error error => ⟨ledger, file, .error error⟩
  | .ok worstCase =>
      let reservation := ledger.reservationFor request worstCase
      let counted := { ledger with attemptCounter := ledger.attemptCounter + 1 }
      counted.commit digest disk file (.attemptStarted reservation) fun written =>
        ({ written with pending := written.pending ++ [reservation] }, .ok reservation)

/-- `release_unused`: nothing is written. -/
def releaseUnused (ledger : CalibrationLedger) (reservationId : String) : CalibrationLedger :=
  { ledger with pending := popAttempt ledger.pending reservationId }

/-- The memory once a terminal event is durable. -/
def settle (ledger : CalibrationLedger) (entry : LedgerEntry) : CalibrationLedger :=
  { ledger with
    entries := ledger.entries ++ [entry]
    pending := popAttempt ledger.pending entry.internalRequestId
    metadataOk := ledger.metadataOk || entry.metadataSuccess }

def record (disk : Disk) (ledger : CalibrationLedger) (file : List LedgerEvent)
    (reservation : Reservation) (report : Report) : Outcome LedgerEntry :=
  if reservation ∈ ledger.pending then
    match charged reservation report with
    | .error error => ⟨ledger, file, .error error⟩
    | .ok (telemetryMissing, charge, tokens) =>
        let entry := ledger.entryFor reservation report telemetryMissing charge tokens
        ledger.commit digest disk file (.attemptTerminal entry) fun written =>
          (written.settle entry, stopAfter reservation entry)
  else
    ⟨ledger, file, .error (.ledger ("record() requires the live, unconsumed reservation issued for " ++
        "this exact request (reservations are single-use)"))⟩

/-! ## Run states and the holdout transition -/

def admitRunState (ledger : CalibrationLedger) (runState : RunState) :
    Except CalibrationError Unit := do
  require (runState.valid = true) (.ledger (s!"unknown run state '{runState.text}'; the closed set " ++
        "is ('RUN_PAUSED', 'RUN_STOPPED', 'OWNER_WAIT')"))
  refuse (ledger.runState = some .ownerWait)
    (.ledger "OWNER_WAIT can only advance through the durable holdout transition")
  refuse (ledger.holdoutTransition.isSome = true ∧ runState = .ownerWait)
    (.ledger "holdout cannot return to OWNER_WAIT")

def recordRunState (disk : Disk) (ledger : CalibrationLedger) (file : List LedgerEvent)
    (runState : RunState) (reason detail : Option String) : Outcome Unit :=
  match ledger.admitRunState runState with
  | .error error => ⟨ledger, file, .error error⟩
  | .ok _ =>
      ledger.commit digest disk file (.runStateTransition runState reason detail) fun written =>
        ({ written with runState := some runState }, .ok ())

def admitHoldout (ledger : CalibrationLedger) (binding : HoldoutBinding) :
    Except CalibrationError Unit := do
  validateHoldoutBinding binding
  require (ledger.runState = some .ownerWait)
    (.ledger "holdout transition requires durable OWNER_WAIT")
  refuse (ledger.holdoutTransition.isSome = true) (.ledger "holdout transition is single-use")
  require (ledger.metadataOk = true ∧ ledger.orphans = [] ∧ ledger.pending = [])
    (.ledger "holdout transition requires METADATA_OK and no pending or orphaned attempts")
  refuse (ledger.segments.any Segment.isOpen = true) (.ledger "active segment remains open")

def authorizeHoldoutTransition (disk : Disk) (ledger : CalibrationLedger)
    (file : List LedgerEvent) (binding : HoldoutBinding) : Outcome Unit :=
  match ledger.admitHoldout binding with
  | .error error => ⟨ledger, file, .error error⟩
  | .ok _ =>
      ledger.commit digest disk file (.holdoutTransition binding) fun written =>
        ({ written with
            holdoutTransition := some binding
            runState := some .holdoutActive }, .ok ())

/-! ## Semantic outcomes -/

/-- The vocabulary of `record_semantic_outcome`. -/
def semanticOutcomeAllowed (outcome : String) : Bool :=
  outcome == "VALIDATED_PASS" || outcome == "VALIDATED_FAIL" || outcome == "VALIDATED_ABSTAIN" ||
    "JUDGE_ERROR".toList.isPrefixOf outcome.toList

def recordSemanticOutcome (disk : Disk) (ledger : CalibrationLedger) (file : List LedgerEvent)
    (internalRequestId outcome : String) (detail : Option String) : Outcome Unit :=
  if semanticOutcomeAllowed outcome = true then
    ledger.commit digest disk file (.semanticOutcome internalRequestId outcome detail)
      fun written => (written, .ok ())
  else
    ⟨ledger, file, .error (.ledger
      s!"semantic outcome '{outcome}' is outside the validated vocabulary")⟩

/-! ## Active segments and deadlines -/

def admitSegment (ledger : CalibrationLedger) (stage : Stage) : Except CalibrationError Unit := do
  require (stage.active = true) (.ledger (s!"stage '{stage.text}' can never hold active " ++
        "provider-execution time (OWNER_WAIT contributes zero by decision 26)"))
  refuse (ledger.segments.any Segment.isOpen = true) (.ledger "an active segment is already open")
  if stage = .sealedHoldout then
    refuse (ledger.holdoutTransition.isNone = true ∨ ledger.runState ≠ some .holdoutActive ∨
        ledger.holdoutReopened = true ∨ ledger.segments.any (·.stage == stage) = true)
      (.ledger "sealed holdout requires one durable transition and one segment")
  else
    refuse (ledger.holdoutTransition.isSome = true ∨ ledger.runState = some .ownerWait)
      (.ledger "development cannot resume after OWNER_WAIT")

def beginActiveSegment (disk : Disk) (ledger : CalibrationLedger) (file : List LedgerEvent)
    (stage : Stage) (at_ : Rat) : Outcome Unit :=
  match ledger.admitSegment stage with
  | .error error => ⟨ledger, file, .error error⟩
  | .ok _ =>
      ledger.commit digest disk file (.activeSegmentBegin stage at_) fun written =>
        ({ written with segments := written.segments ++ [⟨stage, at_, none⟩] }, .ok ())

def endActiveSegment (disk : Disk) (ledger : CalibrationLedger) (file : List LedgerEvent)
    (at_ : Rat) : Outcome Unit :=
  match ledger.segments.reverse.find? Segment.isOpen with
  | none => ⟨ledger, file, .error (.ledger "no active segment is open")⟩
  | some segment =>
      if at_ < segment.beginAt then
        ⟨ledger, file, .error (.ledger "segment end precedes its start")⟩
      else
        ledger.commit digest disk file (.activeSegmentEnd at_) fun written =>
          ({ written with segments := closeLast at_ written.segments }, .ok ())

/-- `_segment_seconds`. -/
def segmentSeconds (ledger : CalibrationLedger) (stage : Option Stage) (now : Option Rat) : Rat :=
  (ledger.segments.map fun segment =>
    if stage.isSome && stage != some segment.stage then 0
    else
      match segment.endAt, now with
      | some endAt, _ => endAt - segment.beginAt
      | none, some now => max 0 (now - segment.beginAt)
      | none, none => 0).sum

/-- The limit `check_deadlines` finds broken, if any. -/
def deadlineBreach (ledger : CalibrationLedger) (stage : Stage) (now : Option Rat) :
    Option String :=
  if stage.deadline?.any (· ≤ ledger.segmentSeconds (some stage) now) then
    some s!"stage {stage.text} exceeds its limit"
  else if totalRunDeadlineSeconds ≤ ledger.segmentSeconds none now then
    some "whole-run active time exceeds the limit"
  else none

def checkDeadlines (disk : Disk) (ledger : CalibrationLedger) (file : List LedgerEvent)
    (stage : Stage) (now : Option Rat) : Outcome Unit :=
  if stage.valid = false then
    ⟨ledger, file, .error (.ledger s!"unknown stage '{stage.text}'")⟩
  else
    match ledger.deadlineBreach stage now with
    | none => ⟨ledger, file, .ok ()⟩
    | some breach =>
        ledger.commit digest disk file
          (.deadlineStop stage
            (if stage.deadline?.isSome then ledger.segmentSeconds (some stage) now else 0)
            (ledger.segmentSeconds none now))
          fun written => (written, .error (.stop .deadlineExceeded
            (breach ++ "; new dispatch stops and evidence is preserved")))

/-! ## One call -/

/-- A call on a handle, with its arguments. -/
inductive Operation
  | reserve (request : ReserveRequest)
  | releaseUnused (reservationId : String)
  | record (reservation : Reservation) (report : Report)
  | recordRunState (runState : RunState) (reason detail : Option String)
  | authorizeHoldoutTransition (binding : HoldoutBinding)
  | recordSemanticOutcome (internalRequestId outcome : String) (detail : Option String)
  | beginActiveSegment (stage : Stage) (at_ : Rat)
  | endActiveSegment (at_ : Rat)
  | checkDeadlines (stage : Stage) (now : Option Rat)
  deriving DecidableEq, Repr

def Outcome.answered {α : Type} (outcome : Outcome α) : Outcome Unit :=
  ⟨outcome.ledger, outcome.file, outcome.result.map fun _ => ()⟩

/-- The call of an operation, its answer reduced to whether it raised. -/
def run (disk : Disk) (ledger : CalibrationLedger) (file : List LedgerEvent) :
    Operation → Outcome Unit
  | .reserve request => Outcome.answered (ledger.reserve digest disk file request)
  | .releaseUnused reservationId => ⟨ledger.releaseUnused reservationId, file, .ok ()⟩
  | .record reservation report =>
      Outcome.answered (ledger.record digest disk file reservation report)
  | .recordRunState runState reason detail =>
      ledger.recordRunState digest disk file runState reason detail
  | .authorizeHoldoutTransition binding =>
      ledger.authorizeHoldoutTransition digest disk file binding
  | .recordSemanticOutcome internalRequestId outcome detail =>
      ledger.recordSemanticOutcome digest disk file internalRequestId outcome detail
  | .beginActiveSegment stage at_ => ledger.beginActiveSegment digest disk file stage at_
  | .endActiveSegment at_ => ledger.endActiveSegment digest disk file at_
  | .checkDeadlines stage now => ledger.checkDeadlines digest disk file stage now

end CalibrationLedger

end Aegis.Calibration
