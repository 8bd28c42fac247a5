/-
# Calibration.LedgerEvents — the event log of one work package

`calibration_ledger.py` keeps a whole work package in one append-only file. A
line is a `LedgerEvent`: a body, its position, the handle (`run_id`) that wrote
it, the hash of its predecessor and its own hash. `loadVerifiedChain` is
`_load_verified_chain`, the check every reader and every writer of the file
makes first. The hash of a line is a parameter, `digest`.

Money is in integer nano-USD. Times of segments are rationals: a double that is
no number is refused by `canonical_json` before anything is written.
-/
import Mathlib.Data.Rat.Defs
import Aegis.Lib.Guarded

namespace Aegis.Calibration

open Aegis.Lib.Guarded

set_option autoImplicit false

/-! ## Ceilings and prices -/

def maxJudgmentAttempts : Nat := 200
def maxMetadataRequests : Nat := 1
def maxTotalExternalRequests : Nat := 201
/-- The initial attempt and the one runner-owned retry. -/
def maxAttemptsPerJudgment : Nat := 2

def maxTotalSpendNanousd : Int := 175000000000
def maxSingleDaySpendNanousd : Int := 175000000000

def inputPriceNanousdPerToken : Int := 5000
def outputPriceNanousdPerToken : Int := 30000
def cachedInputPriceNanousdPerToken : Int := 500

def maxInputTokensPerJudgment : Int := 8000
def devMaxOutputTokens : Int := 25000
def holdoutMaxOutputTokensRange : Int × Int := (8192, 25000)

def devStageDeadlineSeconds : Rat := 90 * 60
def holdoutStageDeadlineSeconds : Rat := 4 * 60 * 60
def totalRunDeadlineSeconds : Rat := 6 * 60 * 60

def authorizedModelSnapshot : String := "gpt-5.5-2026-04-23"
def workPackage : String := "WP-2B-3"
def authorizationId : String := "BER-DEC-008"

/-! ## Vocabulary -/

/-- A stage name; `_VALID_STAGES` are the first three. -/
inductive Stage
  | development
  | ownerWait
  | sealedHoldout
  | other (name : String)
  deriving DecidableEq, Repr

def Stage.text : Stage → String
  | .development => "DEVELOPMENT"
  | .ownerWait => "OWNER_WAIT"
  | .sealedHoldout => "SEALED_HOLDOUT"
  | .other name => name

/-- `stage in _VALID_STAGES`. -/
def Stage.valid : Stage → Bool
  | .other _ => false
  | _ => true

/-- `stage in _ACTIVE_STAGES`. -/
def Stage.active : Stage → Bool
  | .development => true
  | .sealedHoldout => true
  | _ => false

/-- `_STAGE_DEADLINES`. -/
def Stage.deadline? : Stage → Option Rat
  | .development => some devStageDeadlineSeconds
  | .sealedHoldout => some holdoutStageDeadlineSeconds
  | _ => none

/-- A run state; `VALID_RUN_STATES` are the first three, `holdoutActive` is only
ever reached through the holdout transition. -/
inductive RunState
  | paused
  | stopped
  | ownerWait
  | holdoutActive
  | other (name : String)
  deriving DecidableEq, Repr

def RunState.text : RunState → String
  | .paused => "RUN_PAUSED"
  | .stopped => "RUN_STOPPED"
  | .ownerWait => "OWNER_WAIT"
  | .holdoutActive => "HOLDOUT_ACTIVE"
  | .other name => name

/-- `run_state in VALID_RUN_STATES`. -/
def RunState.valid : RunState → Bool
  | .paused => true
  | .stopped => true
  | .ownerWait => true
  | _ => false

inductive RequestKind
  | judgmentAttempt
  | metadata
  deriving DecidableEq, Repr

/-- The stop reasons the ledger raises. -/
inductive StopReason
  | budgetTelemetryUnavailable
  | capWouldBeExceeded
  | unauthorizedExecutionStage
  | deadlineExceeded
  deriving DecidableEq, Repr

/-- What a ledger call raises. `storage` is a lock that is taken or a file
operation that fails. -/
inductive CalibrationError
  | ledger (message : String)
  | denied (message : String)
  | stop (reason : StopReason) (message : String)
  | storage
  deriving DecidableEq, Repr

/-! ## Usage and charges -/

structure ProviderUsage where
  inputTokens : Int
  outputTokens : Int
  reasoningTokens : Int
  cachedInputTokens : Int
  deriving DecidableEq, Repr

namespace ProviderUsage

def zero : ProviderUsage := ⟨0, 0, 0, 0⟩

instance : Add ProviderUsage where
  add a b := ⟨a.inputTokens + b.inputTokens, a.outputTokens + b.outputTokens,
    a.reasoningTokens + b.reasoningTokens, a.cachedInputTokens + b.cachedInputTokens⟩

theorem add_def (a b : ProviderUsage) :
    a + b = ⟨a.inputTokens + b.inputTokens, a.outputTokens + b.outputTokens,
      a.reasoningTokens + b.reasoningTokens, a.cachedInputTokens + b.cachedInputTokens⟩ := rfl

@[simp] theorem add_zero (usage : ProviderUsage) : usage + .zero = usage := by
  simp [add_def, zero]

def validate (usage : ProviderUsage) : Except CalibrationError Unit := do
  refuse (usage.inputTokens < 0)
    (.ledger s!"input_tokens must be a non-negative integer, got {usage.inputTokens}")
  refuse (usage.outputTokens < 0)
    (.ledger s!"output_tokens must be a non-negative integer, got {usage.outputTokens}")
  refuse (usage.reasoningTokens < 0)
    (.ledger s!"reasoning_tokens must be a non-negative integer, got {usage.reasoningTokens}")
  refuse (usage.cachedInputTokens < 0)
    (.ledger s!"cached_input_tokens must be a non-negative integer, got {usage.cachedInputTokens}")
  refuse (usage.inputTokens < usage.cachedInputTokens)
    (.ledger "cached_input_tokens cannot exceed input_tokens")

end ProviderUsage

def calculateChargeNanousd (usage : ProviderUsage) : Int :=
  (usage.inputTokens - usage.cachedInputTokens) * inputPriceNanousdPerToken
    + usage.cachedInputTokens * cachedInputPriceNanousdPerToken
    + usage.outputTokens * outputPriceNanousdPerToken

def worstCaseAttemptChargeNanousd (estimatedInputTokens maxOutputTokens : Int) : Int :=
  estimatedInputTokens * inputPriceNanousdPerToken + maxOutputTokens * outputPriceNanousdPerToken

/-! ## Events -/

/-- A reservation, and with it the body of its `ATTEMPT_STARTED` event. -/
structure Reservation where
  reservationId : String
  kind : RequestKind
  logicalJudgmentId : Option String
  attemptNumber : Int
  estimatedInputTokens : Int
  maxOutputTokens : Int
  day : String
  worstCaseChargeNanousd : Int
  datasetSha256 : Option String
  stage : Stage
  retryOfRequestId : Option String
  deriving DecidableEq, Repr

structure CumulativeSnapshot where
  judgmentsTotal : Nat
  attemptsTotal : Nat
  metadataRequests : Nat
  totalExternalRequests : Nat
  tokensTotal : ProviderUsage
  spendNanousdTotal : Int
  daySpendNanousd : Int
  deriving DecidableEq, Repr

/-- A recorded attempt, the body of its `ATTEMPT_TERMINAL` event. -/
structure LedgerEntry where
  internalRequestId : String
  requestKind : RequestKind
  logicalJudgmentId : Option String
  attemptNumber : Int
  returnedModel : Option String
  tokens : ProviderUsage
  calculatedChargeNanousd : Int
  telemetryMissing : Bool
  billingUnknown : Bool
  retryOfRequestId : Option String
  outcomeKind : String
  day : String
  cumulative : CumulativeSnapshot
  deriving DecidableEq, Repr

/-- What a holdout transition freezes. -/
structure HoldoutBinding where
  freezeSha256 : String
  datasetSha256 : String
  auditedHeadSha : String
  auditedTreeSha : String
  developmentManifestSha256 : String
  developmentSummarySha256 : String
  maxOutputTokens : Int
  deriving DecidableEq, Repr

inductive EventBody
  | genesis (workPackage authorizationId : String) (declaredFirstSegment : Bool)
  | segmentOpened (priorEventCount : Nat)
  | attemptStarted (reservation : Reservation)
  | attemptTerminal (entry : LedgerEntry)
  | activeSegmentBegin (stage : Stage) (at_ : Rat)
  | activeSegmentEnd (at_ : Rat)
  | semanticOutcome (internalRequestId outcome : String) (detail : Option String)
  | deadlineStop (stage : Stage) (stageActiveSeconds totalActiveSeconds : Rat)
  | runStateTransition (runState : RunState) (reason detail : Option String)
  | holdoutTransition (binding : HoldoutBinding)
  deriving DecidableEq, Repr

/-- An event without its own hash: what the hash is taken of. -/
structure EventContent where
  eventSeq : Nat
  runId : String
  body : EventBody
  prevEventSha256 : String
  deriving DecidableEq, Repr

structure LedgerEvent extends EventContent where
  eventSha256 : String
  deriving DecidableEq, Repr

/-! ## The verified chain -/

def EventBody.isGenesis : EventBody → Bool
  | .genesis _ _ _ => true
  | _ => false

/-- The first event of a ledger and no other is the authorized `GENESIS`. -/
def checkGenesis (position : Nat) (body : EventBody) : Except CalibrationError Unit :=
  if position = 0 then
    require (body = .genesis workPackage authorizationId true)
      (.ledger "ledger must begin with the authorized GENESIS")
  else
    refuse (body.isGenesis = true) (.ledger "duplicate ledger GENESIS")

variable (digest : EventContent → String)

/-- One turn of the loop of `_load_verified_chain`: the number of events read and
the hash of the last one. -/
def verifyEvent (reached : Nat × String) (event : LedgerEvent) :
    Except CalibrationError (Nat × String) := do
  require (event.eventSeq = reached.1 + 1)
    (.ledger s!"invalid ledger sequence/kind at line {reached.1 + 1}")
  checkGenesis reached.1 event.body
  require (event.prevEventSha256 = reached.2)
    (.ledger (s!"ledger chain break at line {reached.1 + 1}: " ++
        "prev_event_sha256 does not match the prior event"))
  require (digest event.toEventContent = event.eventSha256)
    (.ledger s!"ledger event hash mismatch at line {reached.1 + 1}")
  pure (reached.1 + 1, event.eventSha256)

/-- `_load_verified_chain`: the length of the chain and its last hash. -/
def loadVerifiedChain (file : List LedgerEvent) : Except CalibrationError (Nat × String) :=
  file.foldlM (verifyEvent digest) (0, "")

/-- The hash of the last event of a file, the empty text when there is none. -/
def headOf (file : List LedgerEvent) : String :=
  (file.getLast?.map (·.eventSha256)).getD ""

@[simp] theorem headOf_nil : headOf [] = "" := rfl

@[simp] theorem headOf_append_singleton (file : List LedgerEvent) (event : LedgerEvent) :
    headOf (file ++ [event]) = event.eventSha256 := by
  simp [headOf]

/-- The file is a chain that every reader accepts. -/
def Verified (file : List LedgerEvent) : Prop :=
  loadVerifiedChain digest file = .ok (file.length, headOf file)

/-- The event a writer whose memory is at `eventSeq` and `prevHash` writes next. -/
def sealEvent (eventSeq : Nat) (prevHash runId : String) (body : EventBody) : LedgerEvent :=
  let content : EventContent := ⟨eventSeq + 1, runId, body, prevHash⟩
  { content with eventSha256 := digest content }

@[simp] theorem sealEvent_body (eventSeq : Nat) (prevHash runId : String) (body : EventBody) :
    (sealEvent digest eventSeq prevHash runId body).body = body := rfl

@[simp] theorem sealEvent_runId (eventSeq : Nat) (prevHash runId : String) (body : EventBody) :
    (sealEvent digest eventSeq prevHash runId body).runId = runId := rfl

theorem verified_nil : Verified digest [] := rfl

/-- A verified chain stays one when the writer that knows its head appends to it. -/
theorem verified_append {digest : EventContent → String} {file : List LedgerEvent}
    {runId : String} {body : EventBody} (verified : Verified digest file)
    (genesis : checkGenesis file.length body = .ok ()) :
    Verified digest (file ++ [sealEvent digest file.length (headOf file) runId body]) := by
  unfold Verified loadVerifiedChain at *
  rw [List.foldlM_append, verified]
  have turn : verifyEvent digest (file.length, headOf file)
      (sealEvent digest file.length (headOf file) runId body) =
        .ok (file.length + 1, (sealEvent digest file.length (headOf file) runId body).eventSha256) := by
    simp [verifyEvent, genesis, sealEvent]
  simp [turn, bind, Except.bind]

end Aegis.Calibration
