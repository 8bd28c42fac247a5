/-
# Graders.StateMachine — grading of recorded transitions

`graders/state_machine.py`: a recorded conversation is a chain of transitions between the states
`STEP_00` to `STEP_08`. `grade_transitions_pass_iff` says which records pass: the chain is well
formed and starts where the plan wants it, every step stays or advances by one state, no turn is out
of contract, every discovery answer is in the bank, and no window of the loop threshold repeats one
turn without progress. On such a record the state only rises, by at most one a transition
(`state_rises`).
-/
import Aegis.Graders.Base
import Aegis.Lib.LongRun

namespace Aegis.Graders

open Aegis.Lib
open Aegis.Lib.Guarded
open Aegis.Runner (IsHexDigest RunnerError)

set_option autoImplicit false

/-- `SCENARIO_A_STATES`, by their numbers. -/
abbrev ScenarioState := Fin 9

def stateText (state : ScenarioState) : String := "STEP_0" ++ Nat.repr state

def completionState : ScenarioState := 8

theorem stateText_injective : Function.Injective stateText := by
  have apart : ∀ left right, stateText left = stateText right → left = right := by
    decide +kernel
  exact fun left right => apart left right

instance : Vocabulary ScenarioState where
  text := stateText
  text_injective := stateText_injective

def allStates : List ScenarioState := List.finRange 9

theorem mem_allStates (state : ScenarioState) : state ∈ allStates := List.mem_finRange state

inductive TurnClass
  | businessDiscoveryTopic
  | previewPresentation
  | approvalRequest
  | recordingConfirmation
  | stageGateProposal
  | outOfContract
  deriving DecidableEq, Repr

namespace TurnClass

def text : TurnClass → String
  | businessDiscoveryTopic => "BUSINESS_DISCOVERY_TOPIC"
  | previewPresentation => "PREVIEW_PRESENTATION"
  | approvalRequest => "APPROVAL_REQUEST"
  | recordingConfirmation => "RECORDING_CONFIRMATION"
  | stageGateProposal => "STAGE_GATE_PROPOSAL"
  | outOfContract => "OUT_OF_CONTRACT"

instance : Vocabulary TurnClass where
  text := text
  text_injective := by
    intro left right
    cases left <;> cases right <;> decide

/-- `TURN_CLASSES`. -/
def all : List TurnClass :=
  [businessDiscoveryTopic, previewPresentation, approvalRequest, recordingConfirmation,
    stageGateProposal, outOfContract]

theorem mem_all (turn : TurnClass) : turn ∈ all := by
  cases turn <;> decide

end TurnClass

structure Transition where
  priorState : ScenarioState
  observedTurnClass : TurnClass
  selectedAnswerId : Option String
  nextState : ScenarioState
  deriving DecidableEq, Repr

def transitionKeys : List String :=
  ["prior_state", "observed_turn_class", "selected_answer_id", "next_state"]

def defaultLoopThreshold : Int := 3

def evidenceKeys : List String := ["transitions", "evidence_pointer"]

section Grading

variable {F : Type}

def Transition.toDict (transition : Transition) : Json F :=
  .dict [("prior_state", .word transition.priorState),
    ("observed_turn_class", .word transition.observedTurnClass),
    ("selected_answer_id", optional (transition.selectedAnswerId.map .str)),
    ("next_state", .word transition.nextState)]

/-- `null` or a non-empty string. -/
def readAnswer (detail : String) : Json F → Except (Raised F) (Option String)
  | .null => .ok none
  | value => (fetch (nonemptyText? value) (malformed detail)).map some

/-- `_validate_transition`. -/
def validateTransition (entry : Json F) (index : Nat) : Except (Raised F) Transition :=
  match entry with
  | .object fields => do
      require (HasKeys fields transitionKeys)
        (malformed s!"transition #{index} must carry exactly the transition keys")
      let prior ← fetch (readOne allStates (valueAt fields "prior_state"))
        (malformed s!"transition #{index}: unknown prior state")
      let next ← fetch (readOne allStates (valueAt fields "next_state"))
        (malformed s!"transition #{index}: unknown next state")
      let turn ← fetch (readOne TurnClass.all (valueAt fields "observed_turn_class"))
        (malformed s!"transition #{index}: unknown turn class")
      let answer ← readAnswer
        s!"transition #{index}: selected_answer_id must be null or a non-empty string"
        (valueAt fields "selected_answer_id")
      refuse (turn = .businessDiscoveryTopic ∧ answer = none)
        (malformed s!"transition #{index}: a discovery turn must record its selected answer id")
      pure ⟨prior, turn, answer, next⟩
  | _ => .error (malformed s!"transition #{index} must be a mapping")

/-- The list of the validated entries, from an index on. -/
def validateTransitions : List (Json F) → Nat → Except (Raised F) (List Transition)
  | [], _ => .ok []
  | entry :: later, index => do
      let transition ← validateTransition entry index
      let transitions ← validateTransitions later (index + 1)
      pure (transition :: transitions)

/-- The chain check behind a transition. -/
def checkChain : Transition → List Transition → Nat → Except (Raised F) Unit
  | _, [], _ => .ok ()
  | previous, current :: later, index => do
      require (current.priorState = previous.nextState)
        (malformed (s!"transition #{index}: chain broken — prior_state " ++
          "'" ++ stateText current.priorState ++ "' does not equal the previous next_state '" ++
          stateText previous.nextState ++ "'"))
      checkChain current later (index + 1)

/-- The checks of one step. -/
def checkStep (bank : List String) (placed : Transition × Nat) : Except (Raised F) Unit := do
  let (entry, index) := placed
  refuse (entry.observedTurnClass = .outOfContract)
    (failed .invalidTurnClass s!"transition #{index}: out-of-contract turn observed")
  refuse (entry.observedTurnClass = .businessDiscoveryTopic ∧
      entry.selectedAnswerId.all (· ∉ bank) = true)
    (failed .unknownAnswerId
      s!"transition #{index}: selected answer is not in the canonical answer bank")
  refuse (entry.priorState = completionState ∧ entry.nextState ≠ entry.priorState)
    (failed .completionViolation (s!"transition #{index}: the completed conversation " ++
      "transitioned out of " ++ stateText completionState))
  require ((entry.nextState : Nat) = entry.priorState ∨
      (entry.nextState : Nat) = entry.priorState + 1)
    (failed .prohibitedTransition (s!"transition #{index}: " ++ stateText entry.priorState ++
      " -> " ++ stateText entry.nextState ++ " is not a permitted successor"))

/-- A turn without progress. -/
def Transition.stays (transition : Transition) : Bool :=
  transition.priorState = transition.nextState

/-- The loop detector behind a transition: how many identical turns without progress stand in a row. -/
def checkLoops (threshold : Int) : Transition → Nat → List Transition → Nat → Except (Raised F) Unit
  | _, _, [], _ => .ok ()
  | previous, consecutive, current :: later, index => do
      let consecutive := if current.priorState = current.nextState ∧
          previous.priorState = previous.nextState ∧ current.priorState = previous.priorState ∧
          current.observedTurnClass = previous.observedTurnClass ∧
          current.selectedAnswerId = previous.selectedAnswerId then consecutive + 1 else 1
      refuse (threshold ≤ consecutive)
        (failed .repeatedLoop (s!"transition #{index}: {consecutive} identical no-progress turns " ++
          "(mechanically provable repeated loop)"))
      checkLoops threshold current consecutive later (index + 1)

/-- The reproduction data of a PASS. -/
def transitionsData (threshold : Int) (bank : List (String × Json F)) (transitions : List Transition) :
    List (String × Json F) :=
  [("transition_count", .int transitions.length),
    ("transitions", .array (transitions.map Transition.toDict)), ("loop_threshold", .int threshold),
    ("answer_bank_sha256", valueAt bank "sha256")]

/-- The ids of the canonical answer bank. -/
def answerIds (bank : List (String × Json F)) : List String :=
  (textList? (valueAt bank "answer_ids")).getD []

/-- The body of `grade_transitions`. -/
def gradeTransitionsBody (plan : TrustedGradingPlan F) (data : List (String × Json F)) :
    Except (Raised F) (List (String × Json F)) := do
  requireKeys data evidenceKeys evidenceKeys
  let bank ← fetch plan.answerBank (.runner (.schemaValidation
    "the trusted plan must carry the canonical answer bank for transition grading"))
  match valueAt data "transitions" with
  | .array (entry :: later) => do
      let threshold := plan.loopThreshold.getD defaultLoopThreshold
      let first ← validateTransition entry 0
      let rest ← validateTransitions later 1
      checkChain first rest 1
      require (plan.requiredStartState.all (· = stateText first.priorState) = true)
        (failed .invalidPriorState ("the recorded conversation starts at " ++
          stateText first.priorState ++ ", not the plan-required " ++
          plan.requiredStartState.getD ""))
      forM ((first :: rest).zipIdx 0) (checkStep (answerIds bank))
      checkLoops threshold first 1 rest 1
      pure (transitionsData threshold bank (first :: rest))
  | _ => .error (malformed "transitions must be a non-empty list")

variable [JsonFloat F] (trust : Trust)

/-- `grade_transitions`. -/
def gradeTransitions (plan : TrustedGradingPlan F) (evidence : List (String × Json F)) :
    Except RunnerError (GraderResult F) :=
  runGrader trust "graders.state_machine" "oracle.state_machine.transitions" plan evidence
    gradeTransitionsBody

end Grading

/-! ## What a record has to be -/

section Specification

variable {F : Type}

/-- A recorded entry is a well-formed transition. -/
structure Records (entry : Json F) (transition : Transition) : Prop where
  fields : ∃ fields, entry = .object fields ∧ HasKeys fields transitionKeys ∧
    valueAt fields "prior_state" = .word transition.priorState ∧
    valueAt fields "next_state" = .word transition.nextState ∧
    valueAt fields "observed_turn_class" = .word transition.observedTurnClass ∧
    ((valueAt fields "selected_answer_id" = .null ∧ transition.selectedAnswerId = none) ∨
      ∃ answer, valueAt fields "selected_answer_id" = .str answer ∧ answer ≠ "" ∧
        transition.selectedAnswerId = some answer)
  discovery : transition.observedTurnClass = .businessDiscoveryTopic →
    transition.selectedAnswerId ≠ none

theorem readAnswer_eq_ok {detail : String} {value : Json F} {answer : Option String} :
    readAnswer detail value = .ok answer ↔
      (value = .null ∧ answer = none) ∨
        ∃ text, value = .str text ∧ text ≠ "" ∧ answer = some text := by
  have texts : (fetch (nonemptyText? value) (malformed (F := F) detail)).map some = .ok answer ↔
      ∃ text, value = .str text ∧ text ≠ "" ∧ answer = some text := by
    cases found : nonemptyText? value with
    | none =>
        constructor
        · exact nofun
        · rintro ⟨text, same, nonempty, -⟩
          rw [nonemptyText?_eq_some.mpr ⟨same, nonempty⟩] at found
          cases found
    | some text =>
        obtain ⟨same, nonempty⟩ := nonemptyText?_eq_some.mp found
        constructor
        · intro done
          exact ⟨text, same, nonempty, (Except.ok.inj done).symm⟩
        · rintro ⟨other, isOther, -, rfl⟩
          obtain rfl := Json.str.inj (same.symm.trans isOther)
          rfl
  cases value with
  | null =>
      constructor
      · intro done
        exact .inl ⟨rfl, (Except.ok.inj done).symm⟩
      · rintro (⟨-, rfl⟩ | ⟨_, same, -⟩)
        · rfl
        · cases same
  | _ =>
      refine Iff.trans texts ⟨.inr, ?_⟩
      rintro (⟨same, -⟩ | found)
      · cases same
      · exact found

variable {index : Nat}

theorem validateTransition_eq_ok {entry : Json F} {transition : Transition} :
    validateTransition entry index = .ok transition ↔ Records entry transition := by
  unfold validateTransition
  split
  · rename_i fields
    simp only [bind_eq_ok, require_eq_ok, fetch_eq_ok, refuse_eq_ok, pure_eq_ok, readOne_eq_some,
      readAnswer_eq_ok]
    constructor
    · rintro ⟨_, keys, prior, ⟨-, isPrior⟩, next, ⟨-, isNext⟩, turn, ⟨-, isTurn⟩, answer, isAnswer, _,
        discovery, rfl⟩
      exact ⟨⟨fields, rfl, keys, isPrior, isNext, isTurn, isAnswer⟩,
        fun same none => discovery ⟨same, none⟩⟩
    · rintro ⟨⟨_, same, keys, isPrior, isNext, isTurn, isAnswer⟩, discovery⟩
      obtain rfl := Json.object.inj same
      exact ⟨⟨⟩, keys, _, ⟨mem_allStates _, isPrior⟩, _, ⟨mem_allStates _, isNext⟩, _,
        ⟨TurnClass.mem_all _, isTurn⟩, _, isAnswer, ⟨⟩, fun both => discovery both.1 both.2, rfl⟩
  · rename_i other
    constructor
    · intro read
      cases read
    · rintro ⟨⟨fields, same, -⟩, -⟩
      exact absurd same (other fields)

theorem validateTransitions_eq_ok {entries : List (Json F)} {transitions : List Transition} :
    validateTransitions entries index = .ok transitions ↔ List.Forall₂ Records entries transitions := by
  induction entries generalizing index transitions with
  | nil =>
      rw [validateTransitions, List.forall₂_nil_left_iff]
      exact ⟨fun done => (Except.ok.inj done).symm, fun none => by rw [none]⟩
  | cons entry later ih =>
      simp only [validateTransitions, bind_eq_ok, pure_eq_ok, validateTransition_eq_ok, ih]
      constructor
      · rintro ⟨transition, here, rest, each, rfl⟩
        exact .cons here each
      · rintro (_ | ⟨here, each⟩)
        exact ⟨_, here, _, each, rfl⟩

/-- Each transition starts where the one before it ended. -/
abbrev Chained (transitions : List Transition) : Prop :=
  transitions.IsChain fun previous current => current.priorState = previous.nextState

theorem checkChain_eq_ok {previous : Transition} {later : List Transition} :
    checkChain (F := F) previous later index = .ok () ↔ Chained (previous :: later) := by
  induction later generalizing previous index with
  | nil => exact ⟨fun _ => .singleton _, fun _ => rfl⟩
  | cons current later ih =>
      simp only [checkChain, bind_eq_ok, require_eq_ok, ih]
      constructor
      · rintro ⟨_, here, chained⟩
        exact .cons_cons here chained
      · intro chained
        obtain ⟨here, chained⟩ := List.isChain_cons_cons.mp chained
        exact ⟨⟨⟩, here, chained⟩

/-- A permitted step. -/
structure Permitted (bank : List String) (entry : Transition) : Prop where
  inContract : entry.observedTurnClass ≠ .outOfContract
  answered : entry.observedTurnClass = .businessDiscoveryTopic →
    ∀ answer, entry.selectedAnswerId = some answer → answer ∈ bank
  completed : entry.priorState = completionState → entry.nextState = completionState
  successor : (entry.nextState : Nat) = entry.priorState ∨
    (entry.nextState : Nat) = entry.priorState + 1

variable {bank : List String}

theorem checkStep_eq_ok {entry : Transition}
    (discovery : entry.observedTurnClass = .businessDiscoveryTopic → entry.selectedAnswerId ≠ none) :
    checkStep (F := F) bank (entry, index) = .ok () ↔ Permitted bank entry := by
  simp only [checkStep, bind_eq_ok, refuse_eq_ok, require_eq_ok]
  constructor
  · rintro ⟨_, inContract, _, answered, _, completed, successor⟩
    refine ⟨inContract, fun same answer isAnswer => ?_, fun done => ?_, successor⟩
    · by_contra unknown
      exact answered ⟨same, by simpa [isAnswer] using unknown⟩
    · by_contra left
      exact completed ⟨done, done ▸ left⟩
  · rintro ⟨inContract, answered, completed, successor⟩
    refine ⟨⟨⟩, inContract, ⟨⟩, ?_, ⟨⟩, ?_, successor⟩
    · rintro ⟨same, unknown⟩
      obtain ⟨answer, isAnswer⟩ := Option.ne_none_iff_exists'.mp (discovery same)
      rw [isAnswer] at unknown
      exact absurd (answered same answer isAnswer) (by simpa using unknown)
    · rintro ⟨done, left⟩
      exact left ((completed done).trans done.symm)

/-- The loop detector is the counter of `longRun`. -/
theorem checkLoops_eq_ok {threshold : Int} (natural : 0 ≤ threshold) {previous : Transition}
    {consecutive : Nat} {later : List Transition} :
    checkLoops (F := F) threshold previous consecutive later index = .ok () ↔
      ¬ longRun Transition.stays threshold.toNat previous consecutive later = true := by
  induction later generalizing previous consecutive index with
  | nil => exact ⟨fun _ => nofun, fun _ => rfl⟩
  | cons current later ih =>
      have stalled : (current.priorState = current.nextState ∧
          previous.priorState = previous.nextState ∧ current.priorState = previous.priorState ∧
          current.observedTurnClass = previous.observedTurnClass ∧
          current.selectedAnswerId = previous.selectedAnswerId) ↔
          current = previous ∧ current.stays = true := by
        constructor
        · rintro ⟨stays, stayed, prior, turn, answer⟩
          refine ⟨?_, by simpa [Transition.stays] using stays⟩
          cases current
          cases previous
          simp only [Transition.mk.injEq]
          exact ⟨prior, turn, answer, stays.symm.trans (prior.trans stayed)⟩
        · rintro ⟨rfl, stays⟩
          have stays : current.priorState = current.nextState := by
            simpa [Transition.stays] using stays
          exact ⟨stays, stays, rfl, rfl, rfl⟩
      simp only [checkLoops, bind_eq_ok, refuse_eq_ok, longRun, stalled, ih]
      generalize (if current = previous ∧ current.stays = true then consecutive + 1 else 1) = count
      by_cases reached : threshold.toNat ≤ count
      · rw [if_pos reached]
        constructor
        · rintro ⟨_, short, -⟩
          omega
        · intro never
          exact absurd rfl never
      · rw [if_neg reached]
        constructor
        · rintro ⟨_, _, rest⟩
          exact rest
        · exact fun rest => ⟨⟨⟩, by omega, rest⟩

/-- **The specification of a graded record.** -/
structure Specified (plan : TrustedGradingPlan F) (bank : List String)
    (evidence : List (String × Json F)) (transitions : List Transition) : Prop where
  keys : HasKeys evidence evidenceKeys
  recorded : ∃ entries, valueAt evidence "transitions" = .array entries ∧
    List.Forall₂ Records entries transitions
  nonempty : transitions ≠ []
  chained : Chained transitions
  starts : ∀ first start, transitions.head? = some first → plan.requiredStartState = some start →
    stateText first.priorState = start
  permitted : ∀ entry ∈ transitions, Permitted bank entry
  noLoop : ¬ HasWindow Transition.stays (plan.loopThreshold.getD defaultLoopThreshold).toNat
    transitions

/-- The states that a record goes through. -/
def statePath : List Transition → List ScenarioState
  | [] => []
  | first :: later => first.priorState :: (first :: later).map Transition.nextState

/-- Every state of a permitted chain lies between the one it starts in and that many states above. -/
theorem nextState_bounds {first : Transition} {later : List Transition}
    (chained : Chained (first :: later))
    (permitted : ∀ entry ∈ first :: later, Permitted bank entry) :
    ∀ state ∈ (first :: later).map Transition.nextState,
      first.priorState ≤ state ∧ (state : Nat) ≤ first.priorState + (later.length + 1) := by
  induction later generalizing first with
  | nil =>
      intro state member
      obtain rfl := List.mem_singleton.mp member
      have successor := (permitted first (List.mem_singleton.mpr rfl)).successor
      refine ⟨Fin.le_def.mpr ?_, ?_⟩ <;> omega
  | cons current later ih =>
      intro state member
      have successor := (permitted first List.mem_cons_self).successor
      obtain ⟨here, chained⟩ := List.isChain_cons_cons.mp chained
      have rest := ih chained fun entry among => permitted entry (List.mem_cons_of_mem _ among)
      rw [here] at rest
      rw [List.length_cons]
      obtain rfl | among := List.mem_cons.mp member
      · refine ⟨Fin.le_def.mpr ?_, ?_⟩ <;> omega
      · obtain ⟨least, most⟩ := rest state among
        have least := Fin.le_def.mp least
        refine ⟨Fin.le_def.mpr ?_, ?_⟩ <;> omega

/-- **The state only rises**, over the whole record by at most the number of transitions. -/
theorem state_rises {transitions : List Transition} (chained : Chained transitions)
    (permitted : ∀ entry ∈ transitions, Permitted bank entry) :
    (statePath transitions).Pairwise (· ≤ ·) ∧
      ∀ first ∈ (statePath transitions).head?, ∀ state ∈ statePath transitions,
        (state : Nat) ≤ first + transitions.length := by
  induction transitions with
  | nil => exact ⟨.nil, nofun⟩
  | cons first later ih =>
      have bounds := nextState_bounds chained permitted
      constructor
      · refine List.pairwise_cons.mpr ⟨fun state member => (bounds state member).1, ?_⟩
        cases later with
        | nil => exact List.pairwise_singleton _ _
        | cons current later =>
            -- the path of the rest starts where the first transition ended
            obtain ⟨here, chained⟩ := List.isChain_cons_cons.mp chained
            have rest := (ih chained fun entry among =>
              permitted entry (List.mem_cons_of_mem _ among)).1
            rw [statePath, here] at rest
            exact rest
      · intro start isFirst state member
        obtain rfl := Option.some.inj isFirst
        obtain rfl | among := List.mem_cons.mp member
        · omega
        · exact (bounds state among).2

/-- The checks of the plan's start state. -/
theorem startState_eq_true {plan : TrustedGradingPlan F} {first : Transition} :
    plan.requiredStartState.all (· = stateText first.priorState) = true ↔
      ∀ start, plan.requiredStartState = some start → stateText first.priorState = start := by
  cases plan.requiredStartState with
  | none => exact ⟨fun _ => nofun, fun _ => rfl⟩
  | some start =>
      rw [Option.all_some, decide_eq_true_iff]
      exact ⟨fun same _ named => same.symm.trans (Option.some.inj named),
        fun starts => (starts start rfl).symm⟩

theorem checkSteps_eq_ok {entries : List (Json F)} {transitions : List Transition}
    (recorded : List.Forall₂ Records entries transitions) :
    forM (transitions.zipIdx index) (checkStep (F := F) bank) = .ok () ↔
      ∀ entry ∈ transitions, Permitted bank entry := by
  induction recorded generalizing index with
  | nil => exact ⟨fun _ => nofun, fun _ => rfl⟩
  | cons here _ ih =>
      rw [List.zipIdx_cons, List.forM_cons, List.forall_mem_cons]
      simp only [bind_eq_ok, checkStep_eq_ok here.discovery, ih]
      constructor
      · rintro ⟨_, first, rest⟩
        exact ⟨first, rest⟩
      · rintro ⟨first, rest⟩
        exact ⟨⟨⟩, first, rest⟩

/-- **The body returns exactly on the records of the specification.** -/
theorem gradeTransitionsBody_returns_iff {plan : TrustedGradingPlan F}
    (two : 2 ≤ plan.loopThreshold.getD defaultLoopThreshold) {evidence : List (String × Json F)} :
    (∃ reproduction, gradeTransitionsBody plan evidence = .ok reproduction) ↔
      ∃ bank, plan.answerBank = some bank ∧
        ∃ transitions, Specified plan (answerIds bank) evidence transitions := by
  have noLoop : ∀ {first : Transition} {rest : List Transition},
      checkLoops (F := F) (plan.loopThreshold.getD defaultLoopThreshold) first 1 rest 1 = .ok () ↔
        ¬ HasWindow Transition.stays (plan.loopThreshold.getD defaultLoopThreshold).toNat
          (first :: rest) := by
    intro first rest
    rw [checkLoops_eq_ok (by omega), longRun_iff (by omega)]
  unfold gradeTransitionsBody
  simp only [bind_eq_ok, fetch_eq_ok]
  constructor
  · rintro ⟨reproduction, _, keys, bank, named, graded⟩
    have keys := requireKeys_eq_ok.mp keys
    refine ⟨bank, named, ?_⟩
    split at graded
    · rename_i entry later recorded
      simp only [bind_eq_ok, validateTransition_eq_ok, validateTransitions_eq_ok, require_eq_ok,
        startState_eq_true] at graded
      obtain ⟨first, here, rest, each, _, chained, _, starts, _, steps, _, loops, -⟩ := graded
      have chained := checkChain_eq_ok.mp chained
      have loops := noLoop.mp loops
      have each := List.Forall₂.cons here each
      refine ⟨first :: rest, keys, ⟨_, recorded, each⟩, List.cons_ne_nil _ _, chained, ?_,
        (checkSteps_eq_ok each).mp steps, loops⟩
      intro _ start isFirst
      obtain rfl := Option.some.inj isFirst
      exact starts start
    · cases graded
  · rintro ⟨bank, named, transitions, keys, ⟨entries, recorded, each⟩, nonempty, chained, starts,
      permitted, loops⟩
    cases each with
    | nil => exact absurd rfl nonempty
    | @cons entry first later rest here each =>
        refine ⟨transitionsData (plan.loopThreshold.getD defaultLoopThreshold) bank (first :: rest),
          ⟨⟩, requireKeys_eq_ok.mpr keys, bank, named, ?_⟩
        rw [recorded]
        simp only [bind_eq_ok, validateTransition_eq_ok, validateTransitions_eq_ok, require_eq_ok,
          startState_eq_true]
        exact ⟨first, here, rest, each, ⟨⟩, checkChain_eq_ok.mpr chained, ⟨⟩,
          fun start => starts first start rfl, ⟨⟩, (checkSteps_eq_ok (.cons here each)).mpr permitted,
          ⟨⟩, noLoop.mpr loops, rfl⟩

end Specification

section Results

variable {F : Type} [JsonFloat F] {trust : Trust} {plan : TrustedGradingPlan F}
  {evidence : List (String × Json F)}

theorem two_le_threshold (validated : plan.validate trust = .ok ()) :
    2 ≤ plan.loopThreshold.getD defaultLoopThreshold := by
  cases named : plan.loopThreshold with
  | none => decide
  | some threshold =>
      exact (TrustedGradingPlan.valid_of_validate validated).two_le_loopThreshold named

/-- **Transition grading is its specification.** -/
theorem grade_transitions_pass_iff (hex : ∀ text, IsHexDigest (trust.sha256Hex text)) :
    ((∃ result, gradeTransitions trust plan evidence = .ok result ∧ result.resultState = .pass) ↔
      Gradable trust "oracle.state_machine.transitions" plan evidence ∧
        ∃ bank, plan.answerBank = some bank ∧
          ∃ transitions, Specified plan (answerIds bank) evidence transitions) ∧
    ∀ (bank : List String) (transitions : List Transition), Specified plan bank evidence transitions →
      (statePath transitions).Pairwise (· ≤ ·) ∧
        ∀ first ∈ (statePath transitions).head?, ∀ state ∈ statePath transitions,
          (state : Nat) ≤ first + transitions.length := by
  constructor
  · unfold gradeTransitions
    rw [runGrader_pass_iff hex (by decide)]
    refine and_congr_right fun gradable => ?_
    exact gradeTransitionsBody_returns_iff (two_le_threshold gradable.validated)
  · intro bank transitions specified
    exact state_rises specified.chained specified.permitted

end Results

/-! ## A sample -/

section Sample

open Aegis.Budget (ZeroFloat)
open Aegis.Runner (emptyHash)

def sampleBank : List (String × Json ZeroFloat) :=
  [("bank_id", .str "bank"), ("version", .str "1"), ("sha256", .str emptyHash),
    ("answer_ids", .array [.str "A1"])]

def sampleTransitionPlan : TrustedGradingPlan ZeroFloat :=
  { samplePlan "SCENARIO_A_CONTROL_O"
      ["oracle.append_only.version_sequence", "oracle.state_machine.transitions"] with
    answerBank := some sampleBank
    requiredStartState := some "STEP_00"
    loopThreshold := some 2 }

/-- A discovery turn in the first state, then a step to the second. -/
def sampleTransitions : List Transition :=
  [⟨0, .businessDiscoveryTopic, some "A1", 0⟩, ⟨0, .businessDiscoveryTopic, some "A1", 1⟩]

def sampleTransitionEvidence : List (String × Json ZeroFloat) :=
  [("transitions", .array (sampleTransitions.map Transition.toDict)), ("evidence_pointer", .str "log")]

theorem gradable_sampleTransitions :
    Gradable sampleTrust "oracle.state_machine.transitions" sampleTransitionPlan
      sampleTransitionEvidence :=
  ⟨rfl, by decide, rfl, rfl, rfl⟩

theorem specified_sampleTransitions :
    Specified sampleTransitionPlan (answerIds sampleBank) sampleTransitionEvidence
      sampleTransitions := by
  have records : ∀ entry ∈ sampleTransitions, Records (F := ZeroFloat) entry.toDict entry := by
    intro entry member
    have read : validateTransition (F := ZeroFloat) entry.toDict 0 = .ok entry := by
      simp only [sampleTransitions, List.mem_cons, List.not_mem_nil, or_false] at member
      rcases member with rfl | rfl <;> rfl
    exact validateTransition_eq_ok.mp read
  refine ⟨by decide, ⟨_, rfl, ?_⟩, List.cons_ne_nil _ _, ?_, ?_, ?_, ?_⟩
  · exact List.forall₂_map_left_iff.mpr (List.forall₂_same.mpr records)
  · decide
  · intro first start isFirst isStart
    obtain rfl := Option.some.inj isFirst
    exact Option.some.inj isStart
  · have inBank : ∀ entry ∈ sampleTransitions,
        checkStep (F := ZeroFloat) (answerIds sampleBank) (entry, 0) = .ok () := by
      intro entry member
      simp only [sampleTransitions, List.mem_cons, List.not_mem_nil, or_false] at member
      rcases member with rfl | rfl <;> rfl
    intro entry member
    exact (checkStep_eq_ok (records entry member).discovery).mp (inBank entry member)
  · intro window
    have found := (longRun_iff (Nat.le_refl 2)).mpr window
    exact absurd found (by decide)

theorem sampleTransitions_pass :
    ∃ result, gradeTransitions sampleTrust sampleTransitionPlan sampleTransitionEvidence = .ok result ∧
      result.resultState = .pass :=
  (grade_transitions_pass_iff sampleTrust_hex).1.mpr
    ⟨gradable_sampleTransitions, sampleBank, rfl, sampleTransitions, specified_sampleTransitions⟩

end Sample

end Aegis.Graders
