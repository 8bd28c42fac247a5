/-
# DeliveryControl.LifecycleRoutes — the transition table and the derived routes

`engine.py` is a deny-by-default table: `TransitionEngine.authorize` admits a
registered pair of states and never lets a terminal state change. The store
derives the resulting state of receipts, non-execution proofs, validation
applications and dependent adoptions with functions of its own, each of which
asks the engine at the end.

* `authorize_ok`: what an authorized transition satisfies;
* `authorize_terminal`: an authorized transition keeps a terminal state;
* the `_terminal` lemmas: so does each derived route.
-/
import Aegis.DeliveryControl.Contracts
import Aegis.Lib.Guarded

namespace Aegis.DeliveryControl

open Aegis.Lib.Guarded

set_option autoImplicit false

/-! ## The transition table -/

/-- `ALL_STATES`. -/
def allStates : List LifecycleState :=
  [.planned, .running, .pausing, .paused, .validating, .reconciliationRequired, .blocked,
    .failedFinal, .completed, .stopped]

/-- `TERMINAL_STATES`. -/
def terminalStates : List LifecycleState := [.completed, .failedFinal, .stopped]

/-- `NONTERMINAL_STATES`. -/
def nonterminalStates : List LifecycleState :=
  [.planned, .running, .pausing, .paused, .validating, .reconciliationRequired, .blocked]

/-- `TransitionSpec`. -/
structure TransitionSpec where
  transitionId : String
  eventKind : String
  allowedFrom : List (Option LifecycleState)
  allowedTo : List LifecycleState
  requiredGuards : List String
  eventVariants : List (String × List String)
  deriving DecidableEq, Repr

/-- `TRANSITIONS`. -/
def transitions : List TransitionSpec :=
  [⟨"T01", "PLAN_ACCEPTED", [none], [.planned],
      ["definition_valid", "acceptance_check_present"], []⟩,
    ⟨"T02", "READINESS_EVALUATED", [some .planned, some .blocked], [.planned, .blocked],
      ["history_verified", "cursor_typed"], []⟩,
    ⟨"T03", "INTENT_COMMITTED", [some .planned], [.running],
      ["ready", "fresh", "authority_current", "no_fence", "slot_available",
        "effect_binding_valid", "budget_available"], []⟩,
    ⟨"T04", "PAUSE_SETTLED", [some .planned, some .blocked], [.paused],
      ["operator_authentic"], []⟩,
    ⟨"T05", "PAUSE_REQUESTED", [some .running], [.pausing, .reconciliationRequired],
      ["operator_authentic", "attempt_owned"], []⟩,
    ⟨"T06", "PAUSE_REQUESTED", [some .running], [.pausing, .reconciliationRequired],
      ["operator_authentic", "effect_bound"], []⟩,
    ⟨"T07", "PAUSE_SETTLED", [some .pausing], [.paused, .reconciliationRequired],
      ["activity_accounted"], []⟩,
    ⟨"T08", "VALIDATION_PAUSE_REQUESTED", [some .validating],
      [.pausing, .paused, .reconciliationRequired], ["operator_authentic"], []⟩,
    ⟨"T09", "PAUSE_FENCE_RECORDED", [some .reconciliationRequired], [.reconciliationRequired],
      ["operator_authentic"],
      [("PAUSE_REQUESTED", ["effect_bound"]), ("VALIDATION_PAUSE_REQUESTED", [])]⟩,
    ⟨"T10", "RECEIPT_RECORDED", [some .running, some .pausing],
      [.validating, .pausing, .reconciliationRequired],
      ["receipt_bound", "usage_classified", "source_claim_classified"], []⟩,
    ⟨"T11", "VALIDATION_PASSED", [some .validating], [.validating, .blocked],
      ["observation_unapplied", "application_guards_met", "accounting_settled"], []⟩,
    ⟨"T12", "VALIDATION_FAILED", [some .validating], [.blocked, .failedFinal],
      ["observation_unapplied", "failure_classified", "accounting_settled"], []⟩,
    ⟨"T13", "AUTHORITY_EVALUATED", allStates.map some, allStates,
      ["authority_fact_trusted", "effective_time_compared"], []⟩,
    ⟨"T14", "RESUME_ACCEPTED", [some .paused], [.planned, .validating, .paused, .blocked],
      ["authority_current", "fresh", "indexes_complete", "owner_exclusive"], []⟩,
    ⟨"T15", "BINDING_MISMATCH", nonterminalStates.map some,
      [.paused, .blocked, .reconciliationRequired], ["binding_mismatch"], []⟩,
    ⟨"T16", "BLOCKER_RESOLVED", [some .blocked], [.planned, .validating, .paused, .completed],
      ["resolution_bound", "current_guards_met"], []⟩,
    ⟨"T17", "RECONCILIATION_RECORDED", [some .reconciliationRequired],
      [.reconciliationRequired, .paused, .blocked, .validating, .planned, .stopped, .failedFinal],
      ["proof_bound", "accounting_classified"], []⟩,
    ⟨"T18", "STOP_RECORDED", nonterminalStates.map some, [.stopped], ["stop_authorized"], []⟩,
    ⟨"T19", "STOP_RECORDED", nonterminalStates.map some, [.stopped], ["stop_authorized"], []⟩,
    ⟨"T20", "STOP_ESCALATED", [some .stopped], [.stopped],
      ["drain_outstanding", "escalation_authorized"], []⟩,
    ⟨"T21", "COMPETING_RESUME_DENIED", allStates.map some, allStates,
      ["owner_lock_unavailable"], []⟩,
    ⟨"T22", "TERMINAL_RESTART_DENIED", terminalStates.map some, terminalStates,
      ["terminal_verified"], []⟩,
    ⟨"T23", "LATE_RECEIPT_RECORDED", allStates.map some, allStates,
      ["receipt_bound", "accounting_classified"], []⟩,
    ⟨"T24", "VALIDATOR_OBSERVATION_RECORDED", allStates.map some, allStates,
      ["validator_intent_recorded", "observation_bound", "accounting_classified"], []⟩,
    ⟨"T25", "NONDISPATCH_PROVEN", allStates.map some, allStates,
      ["intent_recorded", "proof_all_paths", "accounting_classified"], []⟩,
    ⟨"T26", "TERMINAL_VALIDATION_SETTLED", [some .stopped, some .failedFinal],
      [.stopped, .failedFinal], ["terminal_verified", "validator_activity_settled"], []⟩,
    ⟨"T27", "VALIDATOR_INTENT_COMMITTED", [some .validating], [.validating, .blocked],
      ["check_declared", "prerequisites_met", "authority_current", "budget_available",
        "validator_contained", "slot_owned", "no_active_validator", "no_fence"], []⟩,
    ⟨"T28", "EFFECT_ADOPTED", [some .planned, some .blocked], [.validating],
      ["adoption_authorized", "fresh", "predecessor_settled", "slot_available",
        "effect_binding_valid"], []⟩]

/-- `TRANSITIONS.get(transition_id)`. -/
def transitionSpec? (transitionId : String) : Option TransitionSpec :=
  transitions.find? (fun spec => spec.transitionId = transitionId)

/-- `TRANSITIONS[transition_id].required_guards`, which every caller passes as satisfied. -/
def requiredGuards (transitionId : String) : List String :=
  ((transitionSpec? transitionId).map (·.requiredGuards)).getD []

/-- How an error message writes a state that may be absent. -/
def stateText : Option LifecycleState → String
  | none => "None"
  | some state => state.value

/-- `TransitionEngine.authorize`. -/
def authorize (transitionId : String) (current : Option LifecycleState)
    (resulting : LifecycleState) (satisfiedGuards : List String)
    (eventKind : Option String := none) : Except ControlError TransitionSpec := do
  let spec ← fetch (transitionSpec? transitionId)
    (ControlError.dispatchDenied ("unknown transition: " ++ transitionId))
  require (current ∈ spec.allowedFrom)
    (ControlError.dispatchDenied
      (transitionId ++ " is not allowed from " ++ stateText current))
  require (resulting ∈ spec.allowedTo)
    (ControlError.dispatchDenied (transitionId ++ " cannot result in " ++ resulting.value))
  let selected := eventKind.getD spec.eventKind
  let variantGuards := spec.eventVariants.lookup selected
  refuse (selected ≠ spec.eventKind ∧ variantGuards = none)
    (ControlError.dispatchDenied (transitionId ++ " does not authorize event " ++ selected))
  let missing := (spec.requiredGuards ++ variantGuards.getD []).filter (· ∉ satisfiedGuards)
  require (missing = [])
    (ControlError.dispatchDenied
      (transitionId ++ " is missing guards: " ++ ", ".intercalate missing.mergeSort))
  refuse (∃ state ∈ current, state.terminal ∧ resulting ≠ state)
    (ControlError.dispatchDenied "terminal lifecycle state cannot reopen or change")
  return spec

/-- An authorized transition is a registered one between registered states. -/
theorem authorize_ok {transitionId : String} {current : Option LifecycleState}
    {resulting : LifecycleState} {guards : List String} {eventKind : Option String}
    {spec : TransitionSpec}
    (authorized : authorize transitionId current resulting guards eventKind = .ok spec) :
    spec ∈ transitions ∧ spec.transitionId = transitionId ∧ current ∈ spec.allowedFrom ∧
      resulting ∈ spec.allowedTo ∧
      ∀ state, current = some state → state.terminal → resulting = state := by
  simp only [authorize, bind_eq_ok, fetch_eq_ok, require_eq_ok, refuse_eq_ok, pure_eq_ok]
    at authorized
  obtain ⟨found, registered, _, source, _, target, _, -, _, -, _, keeps, rfl⟩ := authorized
  have named : found.transitionId = transitionId := by simpa using List.find?_some registered
  refine ⟨List.mem_of_find?_eq_some registered, named, source, target, ?_⟩
  rintro state rfl terminal
  by_contra changes
  exact keeps ⟨state, rfl, terminal, changes⟩

/-- **The engine keeps terminal states.** -/
theorem authorize_terminal {transitionId : String} {state resulting : LifecycleState}
    {guards : List String} {eventKind : Option String} {spec : TransitionSpec}
    (authorized : authorize transitionId (some state) resulting guards eventKind = .ok spec)
    (terminal : state.terminal) : resulting = state :=
  (authorize_ok authorized).2.2.2.2 state rfl terminal

/-! ## The route of an effect observation -/

/-- The three ways a receipt is recorded, by event kind. -/
inductive ReceiptKind
  | receiptRecorded
  | reconciliationRecorded
  | lateReceiptRecorded
  deriving DecidableEq, Repr

namespace ReceiptKind

def eventKind : ReceiptKind → EventKind
  | receiptRecorded => .receiptRecorded
  | reconciliationRecorded => .reconciliationRecorded
  | lateReceiptRecorded => .lateReceiptRecorded

def transitionId : ReceiptKind → String
  | receiptRecorded => "T10"
  | reconciliationRecorded => "T17"
  | lateReceiptRecorded => "T23"

end ReceiptKind

/-- The state a receipt leads to, before the engine is asked. -/
def observationState (current : LifecycleState) (unresolvedBilling : Bool)
    (classification : SourceControlClassification)
    (ordinaryReceipt reconcilesCurrentDispatch : Bool) : LifecycleState :=
  if current.terminal then current
  else if reconcilesCurrentDispatch && !unresolvedBilling && classification ≠ .unknown then
    .validating
  else if !ordinaryReceipt then .reconciliationRequired
  else if unresolvedBilling || classification = .unknown then .reconciliationRequired
  else if current = .running then .validating
  else if current = .pausing then .pausing
  else .reconciliationRequired

/-- `_derive_effect_observation_route`, called with `accounting_unknown` known. -/
def deriveEffectObservationRoute (current : LifecycleState)
    (classification : SourceControlClassification)
    (accountingUnknown forceLate reconcilesCurrentDispatch : Bool) :
    Except ControlError (ReceiptKind × LifecycleState) := do
  let ordinaryReceipt := !forceLate && (current = .running || current = .pausing)
  let resulting := observationState current accountingUnknown classification ordinaryReceipt
    reconcilesCurrentDispatch
  let kind :=
    if ordinaryReceipt then ReceiptKind.receiptRecorded
    else if reconcilesCurrentDispatch then .reconciliationRecorded
    else .lateReceiptRecorded
  let _ ← authorize kind.transitionId (some current) resulting (requiredGuards kind.transitionId)
  return (kind, resulting)

theorem deriveEffectObservationRoute_terminal {current resulting : LifecycleState}
    {classification : SourceControlClassification} {accountingUnknown forceLate reconciles : Bool}
    {kind : ReceiptKind}
    (derived : deriveEffectObservationRoute current classification accountingUnknown forceLate
      reconciles = .ok (kind, resulting))
    (terminal : current.terminal) : resulting = current := by
  simp only [deriveEffectObservationRoute, bind_eq_ok, pure_eq_ok, Prod.mk.injEq] at derived
  obtain ⟨_, authorized, _, rfl⟩ := derived
  exact authorize_terminal authorized terminal

/-! ## The route of a non-execution proof -/

/-- The cursor a non-execution proof leaves when it moves the run. -/
def recoveryCursor (cursor : Option String) (validatorNonexecution : Bool) (attemptId : String) :
    Option String :=
  if validatorNonexecution then
    match cursor with
    | some text =>
        if "validator-initiation-disabled:".toList.isPrefixOf text.toList then some text
        else some LifecycleState.validating.value
    | none => some LifecycleState.validating.value
  else some ("operation-recovery:" ++ attemptId)

/-- The state and cursor of a non-execution proof, before the engine is asked. -/
def nonexecutionTarget (current : LifecycleState) (cursor : Option String)
    (contradiction uncertainty currentAttempt validatorNonexecution : Bool) (attemptId : String)
    (externalPauseActive : Bool) : LifecycleState × Option String :=
  let recovery := recoveryCursor cursor validatorNonexecution attemptId
  if (contradiction || uncertainty) && !current.terminal then
    (.reconciliationRequired, recovery)
  else if currentAttempt && !current.terminal && (current = .paused || externalPauseActive) then
    (.paused, recovery)
  else if currentAttempt && !current.terminal && current ≠ .pausing then
    (.blocked, recovery)
  else (current, cursor)

/-- `_derive_nonexecution_route`. -/
def deriveNonexecutionRoute (current : LifecycleState) (cursor : Option String)
    (contradiction uncertainty currentAttempt validatorNonexecution : Bool) (attemptId : String)
    (externalPauseActive : Bool) : Except ControlError (LifecycleState × Option String) := do
  let target := nonexecutionTarget current cursor contradiction uncertainty currentAttempt
    validatorNonexecution attemptId externalPauseActive
  let _ ← authorize "T25" (some current) target.1 (requiredGuards "T25")
  return target

theorem deriveNonexecutionRoute_terminal {current : LifecycleState} {cursor : Option String}
    {contradiction uncertainty currentAttempt validatorNonexecution : Bool} {attemptId : String}
    {externalPauseActive : Bool} {target : LifecycleState × Option String}
    (derived : deriveNonexecutionRoute current cursor contradiction uncertainty currentAttempt
      validatorNonexecution attemptId externalPauseActive = .ok target)
    (terminal : current.terminal) : target.1 = current := by
  simp only [deriveNonexecutionRoute, bind_eq_ok, pure_eq_ok] at derived
  obtain ⟨_, authorized, rfl⟩ := derived
  exact authorize_terminal authorized terminal

/-! ## The route of a validation application -/

/-- The verdict of a validator observation. -/
inductive Verdict
  | pass
  | fail
  deriving DecidableEq, Repr

def Verdict.eventKind : Verdict → EventKind
  | pass => .validationPassed
  | fail => .validationFailed

def Verdict.transitionId : Verdict → String
  | pass => "T11"
  | fail => "T12"

/-- What `_derive_validation_application_route` returns, less the transition id. -/
structure ApplicationRoute where
  verdict : Verdict
  continuationCursor : Option String
  resultingState : LifecycleState
  slotReleased : Bool
  deriving DecidableEq, Repr

/-- The route of an application, before the engine is asked. -/
def applicationRoute (verdict : Verdict) (classification : Option FailureClassification)
    (anotherPending remainingActiveValidator operationSlotCurrent accountingClosed : Bool) :
    Except ControlError ApplicationRoute :=
  match verdict, classification with
  | .pass, some _ =>
      .error (.valueError "PASS application cannot carry a classification")
  | .pass, none =>
      .ok { verdict := .pass
            continuationCursor := if anotherPending then none else some "FINALIZING"
            resultingState := if anotherPending then .validating else .blocked
            slotReleased := false }
  | .fail, none =>
      .error (.valueError "FAIL application requires a classification")
  | .fail, some .recoverable =>
      .ok { verdict := .fail
            continuationCursor := some LifecycleState.validating.value
            resultingState := .blocked
            slotReleased := false }
  | .fail, some .final =>
      .ok { verdict := .fail
            continuationCursor := none
            resultingState := .failedFinal
            slotReleased := !anotherPending && !remainingActiveValidator &&
              operationSlotCurrent && accountingClosed }

/-- `_derive_validation_application_route`. -/
def deriveValidationApplicationRoute (verdict : Verdict)
    (classification : Option FailureClassification)
    (anotherPending remainingActiveValidator operationSlotCurrent accountingClosed : Bool) :
    Except ControlError ApplicationRoute := do
  let route ← applicationRoute verdict classification anotherPending remainingActiveValidator
    operationSlotCurrent accountingClosed
  let _ ← authorize verdict.transitionId (some .validating) route.resultingState
    (requiredGuards verdict.transitionId)
  return route

/-- The slot goes only with a final failure of the current operation whose accounting is closed. -/
theorem deriveValidationApplicationRoute_released {verdict : Verdict}
    {classification : Option FailureClassification}
    {anotherPending remainingActiveValidator operationSlotCurrent accountingClosed : Bool}
    {route : ApplicationRoute}
    (derived : deriveValidationApplicationRoute verdict classification anotherPending
      remainingActiveValidator operationSlotCurrent accountingClosed = .ok route)
    (released : route.slotReleased = true) :
    route.verdict = .fail ∧ route.resultingState = .failedFinal ∧ operationSlotCurrent = true ∧
      accountingClosed = true ∧ classification = some .final := by
  simp only [deriveValidationApplicationRoute, bind_eq_ok, pure_eq_ok] at derived
  obtain ⟨_, derived, _, -, rfl⟩ := derived
  unfold applicationRoute at derived
  split at derived <;> simp only [reduceCtorEq, Except.ok.injEq] at derived <;> subst derived <;>
    simp_all

/-- A passing result neither ends the run nor releases the slot. -/
theorem deriveValidationApplicationRoute_pass {classification : Option FailureClassification}
    {anotherPending remainingActiveValidator operationSlotCurrent accountingClosed : Bool}
    {route : ApplicationRoute}
    (derived : deriveValidationApplicationRoute .pass classification anotherPending
      remainingActiveValidator operationSlotCurrent accountingClosed = .ok route) :
    route.slotReleased = false ∧ route.resultingState.terminal = false := by
  simp only [deriveValidationApplicationRoute, bind_eq_ok, pure_eq_ok] at derived
  obtain ⟨_, derived, _, -, rfl⟩ := derived
  cases classification with
  | some classification => cases derived
  | none =>
      obtain rfl := Except.ok.inj derived
      cases anotherPending <;> exact ⟨rfl, rfl⟩

/-! ## The route of a dependent adoption -/

/-- `AuthorityFactKind`, as far as the routes read it. -/
inductive AuthorityFactKind
  | ownConsumed
  | correction
  | revoked
  | other
  deriving DecidableEq, Repr

/-- `GovernedOrder`. -/
inductive GovernedOrder
  | before
  | after
  | unknown
  deriving DecidableEq, Repr

/-- `_authority_fact_route`. -/
def authorityFactRoute (current : LifecycleState) (factKind : AuthorityFactKind)
    (governedOrder : GovernedOrder) : LifecycleState :=
  if factKind = .ownConsumed ∨ factKind = .correction then current
  else if governedOrder = .after then current
  else match current with
    | .completed | .failedFinal | .stopped | .paused | .pausing | .reconciliationRequired =>
        current
    | .running | .validating => .reconciliationRequired
    | _ => .blocked

/-- The provenance of a dependent fence. -/
inductive ProvenanceKind
  | authority
  | contraryReceipt
  | nonexecution
  | terminalPolicy
  deriving DecidableEq, Repr

/-- The state `_fence_dependent_adoptions` gives a dependent run. -/
def dependentAdoptionState (current : LifecycleState) (provenance : ProvenanceKind) :
    LifecycleState :=
  if provenance ≠ .authority && !current.terminal then .reconciliationRequired
  else authorityFactRoute current .revoked .before

theorem dependentAdoptionState_terminal {current : LifecycleState} {provenance : ProvenanceKind}
    (terminal : current.terminal) : dependentAdoptionState current provenance = current := by
  cases current <;> cases provenance <;> simp_all [dependentAdoptionState, authorityFactRoute,
    LifecycleState.terminal]

end Aegis.DeliveryControl
