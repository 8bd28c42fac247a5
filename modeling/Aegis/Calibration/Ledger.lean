/-
# Calibration.Ledger — one handle on the ledger file

`CalibrationLedger` is the object a process holds: what it rehydrated from the
file when it opened it (`prior`, `orphans`), what it recorded since (`entries`)
and what it reserved and has not settled (`pending`). Every decision is taken
from these; the file is only consulted by `appendEvent`, which refuses to write
when the file is no longer what the handle last saw.

Each operation is a check of the handle's memory, one `appendEvent`, and what
the handle does once the event is durable (`commit`). An operation that raises
still has an outcome: the event may be in the file and the memory changed.
-/
import Mathlib.Algebra.Ring.Int.Defs
import Mathlib.Data.Finset.Card
import Mathlib.Logic.Function.Basic
import Mathlib.Data.List.Sort
import Aegis.Calibration.LedgerEvents

namespace Aegis.Calibration

open Aegis.Lib.Guarded

set_option autoImplicit false

/-! ## Rehydration -/

/-- `_Aggregates`: the history of prior segments. -/
structure Aggregates where
  attempts : Nat := 0
  metadata : Nat := 0
  spendTotal : Int := 0
  daySpend : String → Int := fun _ => 0
  tokens : ProviderUsage := .zero
  judgmentIds : Finset String := ∅
  attemptsByJudgment : String → Nat := fun _ => 0

namespace Aggregates

def addDay (prior : Aggregates) (day : String) (charge : Int) : Aggregates :=
  { prior with daySpend := Function.update prior.daySpend day (prior.daySpend day + charge) }

/-- The spend of one attempt. -/
def addCharge (prior : Aggregates) (day : String) (charge : Int) : Aggregates :=
  { prior with spendTotal := prior.spendTotal + charge }.addDay day charge

/-- An attempt of a judgment whose identity is no empty text. -/
def addJudgment (prior : Aggregates) : Option String → Aggregates
  | none => prior
  | some judgment =>
      if judgment = "" then prior
      else
        { prior with
          judgmentIds := insert judgment prior.judgmentIds
          attemptsByJudgment := Function.update prior.attemptsByJudgment judgment
            (prior.attemptsByJudgment judgment + 1) }

/-- The requests of a kind. -/
def requests (prior : Aggregates) : RequestKind → Nat
  | .metadata => prior.metadata
  | .judgmentAttempt => prior.attempts

/-- The spend of a day, of all days for `none`. -/
def spent (prior : Aggregates) : Option String → Int
  | none => prior.spendTotal
  | some day => prior.daySpend day

/-- One more request of its kind. -/
def addRequest (prior : Aggregates) (kind : RequestKind) (judgment : Option String) :
    Aggregates :=
  match kind with
  | .metadata => { prior with metadata := prior.metadata + 1 }
  | .judgmentAttempt => { prior with attempts := prior.attempts + 1 }.addJudgment judgment

end Aggregates

/-- An active segment; `endAt` is `none` while it is open. -/
structure Segment where
  stage : Stage
  beginAt : Rat
  endAt : Option Rat
  deriving DecidableEq, Repr

def Segment.isOpen (segment : Segment) : Bool := segment.endAt.isNone

/-- Close the last open segment, as the loops over `reversed(self._segments)` do. -/
def closeLast (at_ : Rat) : List Segment → List Segment
  | [] => []
  | first :: rest =>
      if rest.any Segment.isOpen then first :: closeLast at_ rest
      else if first.isOpen then { first with endAt := some at_ } :: rest
      else first :: rest

def isLowerHex (length : Nat) (value : String) : Bool :=
  value.toList.length == length && value.toList.all fun character =>
    "0123456789abcdef".toList.contains character

/-- `_validate_holdout_binding`. -/
def validateHoldoutBinding (binding : HoldoutBinding) : Except CalibrationError Unit := do
  require (isLowerHex 64 binding.freezeSha256 = true)
    (.ledger "freeze_sha256 must be lowercase 64-hex")
  require (isLowerHex 64 binding.datasetSha256 = true)
    (.ledger "dataset_sha256 must be lowercase 64-hex")
  require (isLowerHex 40 binding.auditedHeadSha = true)
    (.ledger "audited_head_sha must be lowercase 40-hex")
  require (isLowerHex 40 binding.auditedTreeSha = true)
    (.ledger "audited_tree_sha must be lowercase 40-hex")
  require (isLowerHex 64 binding.developmentManifestSha256 = true)
    (.ledger "development_manifest_sha256 must be lowercase 64-hex")
  require (isLowerHex 64 binding.developmentSummarySha256 = true)
    (.ledger "development_summary_sha256 must be lowercase 64-hex")
  require (holdoutMaxOutputTokensRange.1 ≤ binding.maxOutputTokens ∧
      binding.maxOutputTokens ≤ holdoutMaxOutputTokensRange.2)
    (.ledger "holdout output cap is invalid")

/-- What `_rehydrate` has read so far; `started` holds the attempts without a
terminal event, in the order they were started. -/
structure Rehydration where
  prior : Aggregates := {}
  started : List Reservation := []
  segments : List Segment := []
  runState : Option RunState := none
  holdoutTransition : Option HoldoutBinding := none

/-- `started[attempt_id] = event`. -/
def putStarted (started : List Reservation) (reservation : Reservation) : List Reservation :=
  if started.any (·.reservationId == reservation.reservationId) then
    started.map fun held =>
      if held.reservationId = reservation.reservationId then reservation else held
  else started ++ [reservation]

/-- `started.pop(attempt_id, None)`, and `self._pending.pop(attempt_id, None)`. -/
def popAttempt (attempts : List Reservation) (attemptId : String) : List Reservation :=
  attempts.filter (·.reservationId != attemptId)

/-- A terminal event's share of the history. -/
def Aggregates.addEntry (prior : Aggregates) (entry : LedgerEntry) : Aggregates :=
  let charged := prior.addCharge entry.day entry.calculatedChargeNanousd
  { charged with tokens := charged.tokens + entry.tokens }.addRequest entry.requestKind
    entry.logicalJudgmentId

/-- An orphan's share of the history: its reserved worst case. -/
def Aggregates.addOrphan (prior : Aggregates) (reservation : Reservation) : Aggregates :=
  (prior.addCharge reservation.day reservation.worstCaseChargeNanousd).addRequest
    reservation.kind reservation.logicalJudgmentId

/-- One turn of the first loop of `_rehydrate`. -/
def Rehydration.turn (state : Rehydration) (event : LedgerEvent) :
    Except CalibrationError Rehydration :=
  match event.body with
  | .attemptStarted reservation =>
      .ok { state with started := putStarted state.started reservation }
  | .attemptTerminal entry =>
      .ok { state with
        started := popAttempt state.started entry.internalRequestId
        prior := state.prior.addEntry entry }
  | .activeSegmentBegin stage at_ =>
      .ok { state with segments := state.segments ++ [⟨stage, at_, none⟩] }
  | .activeSegmentEnd at_ => .ok { state with segments := closeLast at_ state.segments }
  | .runStateTransition runState _ _ => .ok { state with runState := some runState }
  | .holdoutTransition binding => do
      refuse (state.holdoutTransition.isSome = true) (.ledger "duplicate holdout transition")
      require (state.runState = some .ownerWait)
        (.ledger "holdout transition must follow durable OWNER_WAIT")
      refuse (state.segments.any Segment.isOpen = true)
        (.ledger "holdout transition follows an open active segment")
      require (state.started = []) (.ledger "holdout transition follows unterminated attempts")
      validateHoldoutBinding binding
      pure { state with
        holdoutTransition := some binding
        runState := some .holdoutActive }
  | _ => .ok state

/-- A terminal event that records the metadata success of the exact snapshot. -/
def LedgerEntry.metadataSuccess (entry : LedgerEntry) : Bool :=
  entry.requestKind == .metadata && entry.outcomeKind == "METADATA_OK" &&
    entry.returnedModel == some authorizedModelSnapshot

def EventBody.metadataSuccess : EventBody → Bool
  | .attemptTerminal entry => entry.metadataSuccess
  | _ => false

/-! ## The handle -/

structure CalibrationLedger where
  runId : String
  entries : List LedgerEntry := []
  pending : List Reservation := []
  attemptCounter : Nat := 0
  eventSeq : Nat := 0
  prevHash : String := ""
  prior : Aggregates := {}
  orphans : List String := []
  segments : List Segment := []
  runState : Option RunState := none
  metadataOk : Bool := false
  holdoutTransition : Option HoldoutBinding := none
  holdoutReopened : Bool := false
  writeFailed : Bool := false

/-- `_rehydrate`, with the counters `__init__` sets before it. -/
def rehydrate (runId : String) (events : List LedgerEvent) :
    Except CalibrationError CalibrationLedger := do
  let state ← events.foldlM Rehydration.turn {}
  let metadataOk := events.any (·.body.metadataSuccess)
  refuse (state.holdoutTransition.isSome = true ∧ metadataOk = false)
    (.ledger "holdout transition lacks durable METADATA_OK")
  pure {
    runId := runId
    eventSeq := events.length
    prevHash := headOf events
    prior := state.started.foldl Aggregates.addOrphan state.prior
    orphans := (state.started.map (·.reservationId)).insertionSort (· ≤ ·)
    segments := state.segments
    runState := state.runState
    metadataOk := metadataOk
    holdoutTransition := state.holdoutTransition
    holdoutReopened := state.holdoutTransition.isSome }

/-- What a call leaves behind: the handle, the file and the answer. -/
structure Outcome (α : Type) where
  ledger : CalibrationLedger
  file : List LedgerEvent
  result : Except CalibrationError α

/-- What the file system does to one append: write and sync it, refuse it before
anything is written (the lock is taken, the file cannot be opened), or write it
and then fail to flush or sync. -/
inductive Disk
  | stable
  | refused
  | unsynced
  deriving DecidableEq, Repr

namespace CalibrationLedger

variable (digest : EventContent → String)

/-- `CalibrationLedger(path)` up to its first append: verify and rehydrate an
existing file, or declare a first segment. -/
def open? (runId : String) (declareFirstSegment : Bool) (file : List LedgerEvent) :
    Except CalibrationError CalibrationLedger :=
  if file = [] then do
    require (declareFirstSegment = true)
      (.ledger ("no work-package ledger exists at this path; creating a FRESH accounting history " ++
        "requires an explicit declare_first_segment=True (a silent reset of the BER-DEC-008 " ++
        "work-package totals is refused)"))
    pure { runId := runId }
  else do
    let _ ← loadVerifiedChain digest file
    rehydrate runId file

/-- `_append_event`. -/
def appendEvent (disk : Disk) (ledger : CalibrationLedger) (file : List LedgerEvent)
    (body : EventBody) : Outcome LedgerEvent :=
  if ledger.writeFailed = true then
    ⟨ledger, file, .error (.ledger "ledger write previously failed; reopen required")⟩
  else
    let event := sealEvent digest ledger.eventSeq ledger.prevHash ledger.runId body
    let failed := { ledger with writeFailed := true }
    match disk, loadVerifiedChain digest file with
    | .refused, _ => ⟨failed, file, .error .storage⟩
    | _, .error error => ⟨failed, file, .error error⟩
    | landed, .ok reached =>
        if reached.2 ≠ ledger.prevHash ∨ reached.1 ≠ ledger.eventSeq then
          ⟨failed, file, .error (.ledger "stale ledger writer; reopen required")⟩
        else if landed = .unsynced then
          ⟨failed, file ++ [event], .error .storage⟩
        else
          ⟨{ ledger with
              eventSeq := ledger.eventSeq + 1
              prevHash := event.eventSha256 },
            file ++ [event], .ok event⟩

/-- Append an event and, once it is durable, change the memory and answer. -/
def commit {α : Type} (disk : Disk) (ledger : CalibrationLedger) (file : List LedgerEvent)
    (body : EventBody)
    (finish : CalibrationLedger → CalibrationLedger × Except CalibrationError α) : Outcome α :=
  match ledger.appendEvent digest disk file body with
  | ⟨written, file, .error error⟩ => ⟨written, file, .error error⟩
  | ⟨written, file, .ok _⟩ => ⟨(finish written).1, file, (finish written).2⟩

/-! ### Opening -/

def appendGenesis (disk : Disk) (ledger : CalibrationLedger) (file : List LedgerEvent) :
    Outcome Unit :=
  ledger.commit digest disk file (.genesis workPackage authorizationId true)
    fun written => (written, .ok ())

def appendSegmentOpened (disk : Disk) (ledger : CalibrationLedger) (file : List LedgerEvent) :
    Outcome Unit :=
  ledger.commit digest disk file (.segmentOpened (ledger.eventSeq - 1))
    fun written => (written, .ok ())

/-! ### Queries -/

def hasOpenSegment (ledger : CalibrationLedger) (stage : Stage) : Bool :=
  ledger.segments.any fun segment => segment.stage == stage && segment.isOpen

/-- `require_active_transport`. -/
def requireActiveTransport (ledger : CalibrationLedger) (stage : Stage) :
    Except CalibrationError Unit := do
  refuse (ledger.writeFailed = true)
    (.stop .budgetTelemetryUnavailable "ledger persistence failed; transport is denied")
  if stage = .sealedHoldout then
    refuse (ledger.holdoutTransition.isNone = true ∨ ledger.runState ≠ some .holdoutActive ∨
        ledger.holdoutReopened = true)
      (.stop .unauthorizedExecutionStage "sealed holdout requires its durable one-pass transition")
  else
    refuse (ledger.holdoutTransition.isSome = true)
      (.stop .unauthorizedExecutionStage
        "development transport cannot resume after holdout transition")
  refuse (ledger.runState = some .stopped)
    (.stop .unauthorizedExecutionStage "RUN_STOPPED prohibits further provider interaction")
  refuse (ledger.runState = some .ownerWait)
    (.stop .unauthorizedExecutionStage "OWNER_WAIT prohibits further provider interaction")
  require (ledger.hasOpenSegment stage = true)
    (.stop .unauthorizedExecutionStage
      "provider interaction requires an open active stage segment")

def baseline (ledger : CalibrationLedger) : CumulativeSnapshot where
  judgmentsTotal := ledger.prior.judgmentIds.card
  attemptsTotal := ledger.prior.attempts
  metadataRequests := ledger.prior.metadata
  totalExternalRequests := ledger.prior.attempts + ledger.prior.metadata
  tokensTotal := ledger.prior.tokens
  spendNanousdTotal := ledger.prior.spendTotal
  daySpendNanousd := 0

def cumulative (ledger : CalibrationLedger) : CumulativeSnapshot :=
  match ledger.entries.getLast? with
  | some entry => entry.cumulative
  | none => ledger.baseline

/-- `_attempts_for`. -/
def attemptsFor (ledger : CalibrationLedger) (judgment : String) : Nat :=
  ledger.entries.countP (fun entry =>
      entry.requestKind == .judgmentAttempt && entry.logicalJudgmentId == some judgment)
    + ledger.pending.countP (fun reservation =>
      reservation.kind == .judgmentAttempt && reservation.logicalJudgmentId == some judgment)
    + ledger.prior.attemptsByJudgment judgment

/-- `_count`. -/
def count (ledger : CalibrationLedger) (kind : RequestKind) : Nat :=
  ledger.entries.countP (·.requestKind == kind) + ledger.pending.countP (·.kind == kind)
    + ledger.prior.requests kind

/-- `day is None or item.day == day`. -/
def onDay (day : Option String) (itemDay : String) : Bool :=
  day.isNone || day == some itemDay

/-- `_spend`. -/
def spend (ledger : CalibrationLedger) (day : Option String) : Int :=
  ledger.prior.spent day + ((ledger.entries.filter fun entry => onDay day entry.day).map
      (·.calculatedChargeNanousd)).sum

/-- `_pending_worst_case`. -/
def pendingWorstCase (ledger : CalibrationLedger) (day : Option String) : Int :=
  ((ledger.pending.filter fun reservation => onDay day reservation.day).map
    (·.worstCaseChargeNanousd)).sum

/-! ### Reservation -/

/-- The arguments of `reserve`. -/
structure ReserveRequest where
  kind : RequestKind
  logicalJudgmentId : Option String
  attemptNumber : Int
  estimatedInputTokens : Int
  maxOutputTokens : Int
  day : String
  datasetSha256 : Option String
  stage : Stage
  retryOfRequestId : Option String
  deriving DecidableEq, Repr

/-- The stage rules of `reserve`. -/
def admitStage (ledger : CalibrationLedger) (request : ReserveRequest) :
    Except CalibrationError Unit := do
  require (request.stage.valid = true) (.ledger s!"unknown stage '{request.stage.text}'")
  if request.stage = .sealedHoldout then do
    let transition ← fetch ledger.holdoutTransition
      (.denied "sealed holdout requires its durable one-pass transition")
    refuse (ledger.runState ≠ some .holdoutActive ∨ ledger.holdoutReopened = true)
      (.denied "sealed holdout requires its durable one-pass transition")
    refuse (request.kind = .metadata) (.denied "metadata availability is development-only")
    require (request.datasetSha256 = some transition.datasetSha256)
      (.denied "holdout dataset differs from the durable transition")
    require (request.maxOutputTokens = transition.maxOutputTokens)
      (.denied "holdout output cap differs from the durable freeze")
    require (ledger.hasOpenSegment request.stage = true)
      (.denied "holdout reservation requires its active segment")
  else
    refuse (ledger.holdoutTransition.isSome = true ∨ ledger.runState = some .ownerWait)
      (.denied "development reservation cannot bypass OWNER_WAIT or holdout transition")

/-- The rules of `reserve` for its kind of request, and the worst case. -/
def admitKind (ledger : CalibrationLedger) (request : ReserveRequest) :
    Except CalibrationError Int :=
  match request.kind with
  | .judgmentAttempt => do
      let judgment ← fetch request.logicalJudgmentId
        (.ledger "a judgment attempt requires its logical judgment id")
      refuse (judgment = "") (.ledger "a judgment attempt requires its logical judgment id")
      require ((request.datasetSha256.map (·.toList.length)) = some 64)
        (.ledger "a judgment attempt requires the 64-hex dataset identity")
      require (request.attemptNumber = 1 ∨ request.attemptNumber = 2)
        (.denied ("only the initial attempt and the ONE runner-owned retry exist " ++
        s!"(attempt_number {request.attemptNumber})"))
      refuse (maxAttemptsPerJudgment ≤ ledger.attemptsFor judgment)
        (.denied (s!"judgment '{judgment}' already used its maximum " ++
        s!"{maxAttemptsPerJudgment} transport attempts"))
      require (0 ≤ request.estimatedInputTokens ∧
          request.estimatedInputTokens ≤ maxInputTokensPerJudgment)
        (.denied (s!"estimated input tokens {request.estimatedInputTokens} exceed the " ++
        s!"{maxInputTokensPerJudgment} budget"))
      require (1 ≤ request.maxOutputTokens ∧ request.maxOutputTokens ≤ devMaxOutputTokens)
        (.denied (s!"max_output_tokens {request.maxOutputTokens} outside " ++
        s!"[1, {devMaxOutputTokens}]"))
      refuse (maxJudgmentAttempts < ledger.count .judgmentAttempt + 1)
        (.denied s!"the {maxJudgmentAttempts}-attempt ceiling would be exceeded")
      pure (worstCaseAttemptChargeNanousd request.estimatedInputTokens request.maxOutputTokens)
  | .metadata => do
      refuse (maxMetadataRequests < ledger.count .metadata + 1)
        (.denied ("exactly ONE read-only metadata availability request is authorized " ++
        "(BER-DEC-008 decision 3)"))
      pure 0

/-- Every check of `reserve`, in its order; the answer is the worst case. -/
def checkReserve (ledger : CalibrationLedger) (request : ReserveRequest) :
    Except CalibrationError Int := do
  require (ledger.orphans = [])
    (.stop .budgetTelemetryUnavailable
      ("the work-package history contains STARTED attempts with no terminal event; their billing " ++
        "is unknown and conservatively reserved — no new reservation is possible pending owner " ++
        "review or a separately lawful reconciliation"))
  refuse (request.day = "") (.ledger "day key required (UTC date)")
  ledger.admitStage request
  let worstCase ← ledger.admitKind request
  refuse (maxTotalExternalRequests < ledger.count .judgmentAttempt + ledger.count .metadata + 1)
    (.denied s!"the {maxTotalExternalRequests} total external-request ceiling would be exceeded")
  let projectedTotal := ledger.spend none + ledger.pendingWorstCase none + worstCase
  refuse (maxTotalSpendNanousd < projectedTotal)
    (.denied (s!"the USD $175 total ceiling could be exceeded (projected {projectedTotal} " ++
        "nano-USD); stopping BEFORE the cap"))
  let projectedDay := ledger.spend (some request.day) + ledger.pendingWorstCase (some request.day)
    + worstCase
  refuse (maxSingleDaySpendNanousd < projectedDay)
    (.denied (s!"the USD $175 single-day ceiling could be exceeded on {request.day} (projected " ++
        s!"{projectedDay} nano-USD)"))
  pure worstCase

end CalibrationLedger

end Aegis.Calibration
