/-
# Live.Pipeline — the execution of a live run

`_execute` goes through the planned iterations: one subject call and one judge call
each, both reserved before they are handed to a transport and settled whatever the
transport does. A `LiveError` halts the run, the iterations after it stay UNRUN.

The transports are a sequence of replies, one for each request that is handed over.
Beside the state of the source a run keeps the history of its calls: what was
reserved, handed over and entered into the cost ledger, and where it halted.
-/
import Aegis.Live.Adapters

namespace Aegis.Live

open Aegis.Lib
open Aegis.Budget

set_option autoImplicit false

def smokeCeilingCents : Int := 200

def maxJudgeRequestBytes : Nat := 90000

inductive Happening
  | reserved (handle : ReservationHandle)
  | handed (request : ProviderRequest)
  | entered (entry : CostEntry)
  | halted (reasonCode : String)

/-- The meter, and what happened so far. -/
structure Progress (F : Type) where
  meter : CostMeter F
  history : List Happening := []

inductive Mode
  | dryRun
  | live
  deriving DecidableEq, Repr

def Mode.text : Mode → String
  | .dryRun => "DRY_RUN"
  | .live => "LIVE"

/-- One planned iteration. -/
structure Iteration (F : Type) [JsonFloat F] where
  case_ : LiveCase F
  arm : Arm
  runIndex : Nat
  subjectVendor : String

inductive ResultState
  | pass
  | fail
  | judgeError
  | unrun
  | error
  | mock
  deriving DecidableEq, Repr

structure ResultRecord where
  caseId : String
  skill : String
  arm : Arm
  runIndex : Nat
  subjectVendor : String
  resultState : ResultState
  reasonCode : Option String
  citability : String
  transportClass : String
  mode : Mode
  subject : Option SubjectResult
  deterministic : Option Deterministic
  judge : Option JudgeResult
  ruleStateIfCitable : Option ResultState

/-- The first halt of a run. -/
structure HaltPayload (F : Type) where
  error : LiveError F
  callsDispatched : Nat
  spentCents : Int
  ceilingCents : Int

/-- `_RunState` and the loop variables. -/
structure RunState (F : Type) where
  progress : Progress F
  results : List ResultRecord := []
  halt : Option (HaltPayload F) := none
  stopReason : Option String := none

namespace Pipeline

def requestedCalls (history : List Happening) : Nat :=
  history.countP fun happening =>
    match happening with
    | .handed _ => true
    | _ => false

/-- `_citability`. -/
def citability (factOrigin transportClass : String) (state : ResultState) : String :=
  if factOrigin ≠ "REAL_HOST" then "SYNTHETIC_NOT_CITABLE"
  else if transportClass ≠ "VENDOR_SDK" then "INJECTED_TRANSPORT_NOT_CITABLE"
  else if state ≠ .pass ∧ state ≠ .fail then "NO_RULE_STATE_NOT_CITABLE"
  else "REAL_HOST"

/-- `_rule_state`: deterministic graders are primary. -/
def ruleState (deterministic : Deterministic) (judge : JudgeResult) : ResultState × Option String :=
  if deterministic.status = "FAIL" then (.fail, some "DETERMINISTIC_FAIL")
  else
    match judge.verdict with
    | .error kind => (.judgeError, some (if kind = "" then "NO_VERDICT" else kind))
    | .ok .pass => (.pass, none)
    | .ok .fail => (.fail, some "JUDGE_FAIL")
    | .ok .abstain => (.judgeError, some "ABSTAIN")

section Run

variable {F : Type} [ClockFloat F] (harness : Harness) (replies : Nat → Reply F)

/-- What `_execute` is called with besides the cases. -/
structure Setup where
  mode : Mode
  config : LiveConfig
  gate : OwnerGateRecord
  transportClass : String
  smoke : Bool

/-- `_planned_calls`. -/
def plannedCalls (setup : Setup) (cases : List (LiveCase F)) : Nat :=
  if setup.smoke = true then 2
  else cases.length * 2 * setup.config.runsPerCase * setup.config.subjectVendors.length * 2

/-- The iterations of the four loops, in their order. -/
def planned (setup : Setup) (cases : List (LiveCase F)) : List (Iteration F) :=
  let cases := if setup.smoke = true then cases.take 1 else cases
  let arms := if setup.smoke = true then [Arm.withSkill] else [Arm.withSkill, Arm.baseline]
  let vendors :=
    if setup.smoke = true then setup.config.subjectVendors.take 1 else setup.config.subjectVendors
  let runIndexes := if setup.smoke = true then [1] else List.range' 1 setup.config.runsPerCase
  cases.flatMap fun case_ => arms.flatMap fun arm => runIndexes.flatMap fun runIndex =>
    vendors.map fun subjectVendor => ⟨case_, arm, runIndex, subjectVendor⟩

/-- `_result_record`. -/
def resultRecord (setup : Setup) (iteration : Iteration F) (state : ResultState)
    (reasonCode : Option String) (subject : Option SubjectResult)
    (deterministic : Option Deterministic) (judge : Option JudgeResult)
    (ruleStateIfCitable : Option ResultState) : ResultRecord where
  caseId := iteration.case_.caseId
  skill := iteration.case_.skill
  arm := iteration.arm
  runIndex := iteration.runIndex
  subjectVendor := iteration.subjectVendor
  resultState := state
  reasonCode := reasonCode
  citability := citability setup.gate.factOrigin setup.transportClass state
  transportClass := setup.transportClass
  mode := setup.mode
  subject := subject
  deterministic := deterministic
  judge := judge
  ruleStateIfCitable := ruleStateIfCitable

/-- `_enforce_input_bound`. -/
def enforceInputBound (config : LiveConfig) (request : ProviderRequest) : Except (Raised F) Unit :=
  if config.maxInputBytes < request.bytes then
    .error (.live ⟨"LiveError", "the request exceeds the configured input bound", .dict [
      ("request_id", .str request.requestId), ("request_bytes", .int request.bytes),
      ("max_input_bytes", .int config.maxInputBytes)], "INPUT_TOO_LARGE"⟩)
  else .ok ()

/-- `_settle_failed_dispatch`. -/
def settleFailedDispatch (meter : CostMeter F) (handle : ReservationHandle) (error : LiveError F) :
    CostMeter F × Except (Raised F) CostEntry :=
  let usage := error.context.getD "usage" .null
  match (usage.get? "input_tokens").bind tokenCount?, (usage.get? "output_tokens").bind tokenCount?,
      (error.context.get? "served_model").bind text? with
  | some input, some output, some servedModel =>
      meter.reconcileUngradedResponse harness.sha256Hex handle input output servedModel
        error.reasonCode error.message {
          stopReason := (error.context.get? "stop_reason").bind text?
          responseId := (error.context.get? "response_id").bind text?
          responseChars := (error.context.get? "response_chars").bind tokenCount? }
  | _, _, _ => meter.releaseUnreconciled harness.sha256Hex handle error.reasonCode error.message

/-- The meter after a settlement, and the entries that it made. -/
def settled (progress : Progress F) (meter : CostMeter F) : Progress F where
  meter := meter
  history := progress.history ++
    (meter.entries.drop progress.meter.entries.length).map Happening.entered

/-- What an adapter makes of the reply to a request. -/
def dispatched {α : Type} (role : String) (request : ProviderRequest) (reply : Reply F)
    (outcome : ProviderResponse F → Except (LiveError F) (Completed × α)) :
    Except (LiveError F) (Completed × α) :=
  match reply with
  | .response response => outcome response
  | .liveError error => .error error
  | .foreign className =>
      .error (providerTransportError s!"{role} transport raised {className}"
        (.dict [("request_id", .str request.requestId)]))

/-- One call of `_execute_one`: reserved, handed to the transport, settled. -/
def meteredCall {α : Type} (role : String) (pin : ModelPin) (request : ProviderRequest)
    (outcome : ProviderResponse F → Except (LiveError F) (Completed × α)) (progress : Progress F) :
    Progress F × Except (Raised F) (Completed × α) :=
  match progress.meter.reserve harness.sha256Hex request.requestId pin request.system.utf8ByteSize
      request.userContent.utf8ByteSize (some request.maxOutputTokens) with
  | (meter, .error raised) => ({ progress with meter := meter }, .error raised)
  | (meter, .ok handle) =>
      let handed : Progress F :=
        ⟨meter, progress.history ++ [.reserved handle, .handed request]⟩
      match dispatched role request (replies (requestedCalls progress.history)) outcome with
      | .error error =>
          match settleFailedDispatch harness meter handle error with
          | (meter, .error raised) => (settled handed meter, .error raised)
          | (meter, .ok _) => (settled handed meter, .error (.live error))
      | .ok (completed, value) =>
          match meter.reconcile harness.sha256Hex handle completed.inputTokens completed.outputTokens
              completed.servedModel with
          | (meter, .error raised) => (settled handed meter, .error raised)
          | (meter, .ok _) => (settled handed meter, .ok (completed, value))

/-- The id of a request of an iteration. -/
def requestId (iteration : Iteration F) (role : String) : String :=
  s!"{iteration.case_.caseId}:{iteration.arm.text}:run-{iteration.runIndex}:{role}:" ++
    iteration.subjectVendor

/-- The judge request, with the bounds that are checked before it is reserved. -/
def boundedJudgeRequest (setup : Setup) (pin : ModelPin) (iteration : Iteration F)
    (subject : SubjectResult) (subjectText : String) : Except (Raised F) ProviderRequest := do
  let request ← judgeRequest harness setup.config pin
    (requestId iteration "judge") iteration.case_ iteration.subjectVendor subject subjectText
  if maxJudgeRequestBytes < request.bytes then
    .error (.live ⟨"LiveError", "the encoded judge request exceeds the safe encoded-byte bound",
      .dict [("judge_request_bytes", .int request.bytes),
        ("max_judge_request_bytes", .int maxJudgeRequestBytes)], "JUDGE_REQUEST_BYTES_EXCEEDED"⟩)
  else do
    enforceInputBound setup.config request
    pure request

/-- The subject request, with the bound that is checked before it is reserved. -/
def boundedSubjectRequest (setup : Setup) (pin : ModelPin) (iteration : Iteration F) :
    Except (Raised F) ProviderRequest := do
  let request ← subjectRequest setup.config pin
    (requestId iteration "subject") iteration.case_.prompt iteration.arm
    (if iteration.arm = .withSkill then some iteration.case_.skillInstructions else none)
  enforceInputBound setup.config request
  pure request

/-- The pins of an iteration. -/
def pinsOf (judges : List (String × ModelPin)) (vendor : String) :
    Except (Raised F) (ModelPin × ModelPin) :=
  match subjectPins.lookup vendor, judges.lookup vendor with
  | some subject, some judge => .ok (subject, judge)
  | _, _ => .error (.keyError vendor)

/-- `_execute_one`. -/
def executeOne (setup : Setup) (judges : List (String × ModelPin)) (iteration : Iteration F)
    (progress : Progress F) : Progress F × Except (Raised F) ResultRecord :=
  match pinsOf judges iteration.subjectVendor with
  | .error raised => (progress, .error raised)
  | .ok (subjectPin, judgePin) =>
  match boundedSubjectRequest setup subjectPin iteration with
  | .error raised => (progress, .error raised)
  | .ok request =>
  match meteredCall harness replies "subject" subjectPin request
      (subjectOutcome harness subjectPin request) progress with
  | (progress, .error raised) => (progress, .error raised)
  | (progress, .ok (completed, subject)) =>
  let deterministic := evaluateDeterministic harness iteration.case_ completed.text
  match boundedJudgeRequest harness setup judgePin iteration subject completed.text with
  | .error raised => (progress, .error raised)
  | .ok judgeRequest =>
  match meteredCall harness replies "judge" judgePin judgeRequest
      (judgeOutcome harness judgePin iteration.case_ completed.text judgeRequest) progress with
  | (progress, .error raised) => (progress, .error raised)
  | (progress, .ok (_, judge)) =>
  let rule := ruleState deterministic judge
  match setup.mode with
  | .dryRun =>
      (progress, .ok (resultRecord setup iteration .mock (some "SYNTHETIC_MOCK_RUN") (some subject)
        (some deterministic) (some judge) (some rule.1)))
  | .live =>
      (progress, .ok (resultRecord setup iteration rule.1 rule.2 (some subject) (some deterministic)
        (some judge) none))

/-- One turn of the loop of `_execute`. -/
def turn (setup : Setup) (judges : List (String × ModelPin)) (state : RunState F)
    (iteration : Iteration F) : Except (Raised F) (RunState F) :=
  match state.stopReason with
  | some reason =>
      .ok { state with
        results := state.results ++
          [resultRecord setup iteration .unrun (some reason) none none none none] }
  | none =>
      match executeOne harness replies setup judges iteration state.progress with
      | (progress, .ok record) =>
          .ok { state with progress := progress, results := state.results ++ [record] }
      | (progress, .error (.live error)) =>
          let payload : HaltPayload F :=
            ⟨error, progress.meter.attempts, progress.meter.spentCents, progress.meter.ceilingCents⟩
          -- A call that reached the transport is a partially executed attempt.
          let attempted := state.progress.meter.attempts < progress.meter.attempts
          .ok {
            progress := { progress with history := progress.history ++ [.halted error.reasonCode] }
            results := state.results ++ [resultRecord setup iteration
              (if attempted then .error else .unrun) (some error.reasonCode) none none none none]
            halt := state.halt <|> some payload
            stopReason := some error.reasonCode }
      | (_, .error raised) => .error raised

/-- The result of `_execute`. -/
structure Outcome (F : Type) where
  mode : Mode
  status : String
  halt : Option (HaltPayload F)
  haltReasonCode : Option String
  results : List ResultRecord
  meter : CostMeter F
  plannedCalls : Nat
  transportClass : String
  smoke : Bool
  history : List Happening

/-- The ceiling of the meter of a run. -/
def ceilingCents (setup : Setup) : Int :=
  let ceiling := setup.gate.effectiveCeilingCents setup.config
  if setup.smoke = true then min ceiling smokeCeilingCents else ceiling

/-- What `_execute` returns after the loop. -/
def outcomeOf (setup : Setup) (plannedCalls : Nat) (state : RunState F) : Outcome F where
  mode := setup.mode
  status :=
    if state.stopReason.isSome = true then "HALTED"
    else if setup.mode = .dryRun then "DRY_RUN_SYNTHETIC"
    else "COMPLETED"
  halt := state.halt
  haltReasonCode := state.stopReason
  results := state.results
  meter := state.progress.meter
  plannedCalls := plannedCalls
  transportClass := setup.transportClass
  smoke := setup.smoke
  history := state.progress.history

/-- `_execute`. -/
def execute (setup : Setup) (cases : List (LiveCase F)) : Except (Raised F) (Outcome F) := do
  let calls := plannedCalls setup cases
  let meter ← CostMeter.new harness.sha256Hex (ceilingCents setup) (calls + 1 : Nat)
    setup.config.maxOutputTokens
  let judges ← authorizeJudges setup.gate setup.config
  let state ← (planned setup cases).foldlM (turn harness replies setup judges)
    { progress := { meter := meter } }
  pure (outcomeOf setup calls state)

end Run

end Pipeline

end Aegis.Live
