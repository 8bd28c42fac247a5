/-
# Runner.Aggregation — the verdict on a case

`aggregation.py`: the attempts of a complete set are aggregated into one record. A strict majority of
all planned attempts decides; without one the record is inconclusive and names the blocker that
stands first in `blockerPrecedence` among those that apply.

* `aggregateOutcome_eq_ok`, `aggregateOutcome_eq_error`: what the attempts decide, by counting;
* `AggregateRecord.validate_eq_ok`: the validator accepts what was decided, and asks for a dated
  reason of an active quarantine;
* `aggregation_order_free_and_honest`: both together, in every order of the additions.
-/
import Mathlib.Data.List.Dedup
import Mathlib.Data.List.ReduceOption
import Mathlib.Data.String.Basic
import Aegis.Runner.Attempts

namespace Aegis.Runner

open Aegis.Lib
open Aegis.Lib.Guarded
open Aegis.Budget (ClockFloat)

set_option autoImplicit false

inductive AggregateVerdict
  | pass
  | fail
  | inconclusive
  deriving DecidableEq, Repr

inductive AggregateBlocker
  | none
  | error
  | judgeError
  | insufficientAttempts
  | precheckExcluded
  | budgetExhausted
  | notSelected
  deriving DecidableEq, Repr

/-- `BLOCKER_PRECEDENCE`. -/
def blockerPrecedence : List AggregateBlocker :=
  [.error, .judgeError, .insufficientAttempts, .precheckExcluded, .budgetExhausted, .notSelected]

inductive QuarantineStatus
  | active
  | inactive
  deriving DecidableEq, Repr

structure AggregateRecord where
  caseUid : String
  aggregateVerdict : AggregateVerdict
  aggregateBlocker : AggregateBlocker
  executionDegraded : Bool := false
  reasonCode : Option ReasonCode := none
  wins : Int := 0
  attemptsPlanned : Int := 0
  attemptsRun : Int := 0
  derivedFromExecutedQuorum : Bool := false
  quarantineStatus : QuarantineStatus := .inactive
  latestAggregateVerdict : Option AggregateVerdict := none
  latestAggregateBlocker : Option AggregateBlocker := none
  quarantineReason : Option String := none
  quarantineSince : Option String := none
  waiverRef : Option String := none
  schemaVersion : String := Runner.schemaVersion
  deriving DecidableEq, Repr

namespace AggregateRecord

variable (record : AggregateRecord)

/-- The checks of a verdict against the numbers it is derived from. -/
def validateVerdict : Except RunnerError Unit :=
  match record.aggregateVerdict with
  | .pass | .fail => do
      require (record.aggregateBlocker = .none)
        (.schemaValidation "PASS/FAIL aggregates carry blocker NONE")
      require (1 ≤ record.attemptsPlanned)
        (.schemaValidation "a PASS/FAIL aggregate requires attempts_planned >= 1")
      require (record.attemptsPlanned / 2 + 1 ≤ record.wins)
        (.schemaValidation (s!"a PASS/FAIL aggregate requires wins >= quorum " ++
          s!"({record.attemptsPlanned / 2 + 1} of {record.attemptsPlanned}); got wins={record.wins}"))
      require (record.wins ≤ record.attemptsRun)
        (.schemaValidation "attempts_run must cover the winning attempts")
      require (record.derivedFromExecutedQuorum = true)
        (.schemaValidation ("a PASS/FAIL aggregate requires an executed quorum; " ++
          "no code path may default an unexecuted case to PASS or FAIL"))
  | .inconclusive => do
      require (record.aggregateBlocker ≠ .none)
        (.schemaValidation "an INCONCLUSIVE aggregate must carry a non-NONE blocker")
      require (record.derivedFromExecutedQuorum = false)
        (.schemaValidation "an INCONCLUSIVE aggregate must not claim an executed quorum")
      require (record.wins = 0)
        (.schemaValidation "an INCONCLUSIVE aggregate has no wins (it reached no quorum)")

theorem validateVerdict_decided (decided : record.aggregateVerdict ≠ .inconclusive) :
    record.validateVerdict = .ok () ↔
      record.aggregateBlocker = .none ∧ 1 ≤ record.attemptsPlanned ∧
        record.attemptsPlanned / 2 + 1 ≤ record.wins ∧ record.wins ≤ record.attemptsRun ∧
        record.derivedFromExecutedQuorum = true := by
  unfold validateVerdict
  split
  case h_3 inconclusive => exact absurd inconclusive decided
  all_goals
    simp only [bind_eq_ok, require_eq_ok]
    constructor
    · rintro ⟨_, blocker, _, planned, _, wins, _, run, derived⟩
      exact ⟨blocker, planned, wins, run, derived⟩
    · rintro ⟨blocker, planned, wins, run, derived⟩
      exact ⟨⟨⟩, blocker, ⟨⟩, planned, ⟨⟩, wins, ⟨⟩, run, derived⟩

theorem validateVerdict_inconclusive (inconclusive : record.aggregateVerdict = .inconclusive) :
    record.validateVerdict = .ok () ↔
      record.aggregateBlocker ≠ .none ∧ record.derivedFromExecutedQuorum = false ∧
        record.wins = 0 := by
  unfold validateVerdict
  rw [inconclusive]
  simp only [bind_eq_ok, require_eq_ok]
  constructor
  · rintro ⟨_, blocker, _, derived, wins⟩
    exact ⟨blocker, derived, wins⟩
  · rintro ⟨blocker, derived, wins⟩
    exact ⟨⟨⟩, blocker, ⟨⟩, derived, wins⟩

/-- `has_quarantine_context`. -/
def hasQuarantineContext : Bool :=
  record.quarantineStatus = .active || record.latestAggregateVerdict.isSome ||
    record.latestAggregateBlocker.isSome || record.quarantineReason.isSome ||
    record.quarantineSince.isSome

def validateQuarantine : Except RunnerError Unit := do
  require (record.hasQuarantineContext = true →
      record.latestAggregateVerdict = some record.aggregateVerdict)
    (.schemaValidation "latest_aggregate_verdict must equal the current aggregate_verdict")
  require (record.hasQuarantineContext = true →
      record.latestAggregateBlocker = some record.aggregateBlocker)
    (.schemaValidation "latest_aggregate_blocker must equal the current aggregate_blocker")
  require (record.quarantineStatus = .active →
      record.quarantineReason.isSome = true ∧ record.quarantineSince.isSome = true)
    (.schemaValidation "an ACTIVE quarantine must carry a dated reason")

theorem validateQuarantine_eq_ok :
    record.validateQuarantine = .ok () ↔
      (record.hasQuarantineContext = true →
        record.latestAggregateVerdict = some record.aggregateVerdict) ∧
      (record.hasQuarantineContext = true →
        record.latestAggregateBlocker = some record.aggregateBlocker) ∧
      (record.quarantineStatus = .active →
        record.quarantineReason.isSome = true ∧ record.quarantineSince.isSome = true) := by
  unfold validateQuarantine
  simp only [bind_eq_ok, require_eq_ok]
  constructor
  · rintro ⟨_, verdict, _, blocker, dated⟩
    exact ⟨verdict, blocker, dated⟩
  · rintro ⟨verdict, blocker, dated⟩
    exact ⟨⟨⟩, verdict, ⟨⟩, blocker, dated⟩

def validate : Except RunnerError Unit := do
  let _ ← parseCaseUid record.caseUid
  nonNegativeInt record.wins "wins"
  nonNegativeInt record.attemptsPlanned "attempts_planned"
  nonNegativeInt record.attemptsRun "attempts_run"
  require (record.attemptsRun ≤ record.attemptsPlanned)
    (.schemaValidation "attempts_run cannot exceed attempts_planned")
  record.validateVerdict
  record.validateQuarantine
  require (record.schemaVersion = Runner.schemaVersion)
    (.schemaValidation ("schema_version must be " ++ Runner.schemaVersion))

end AggregateRecord

/-- `QuarantineMetadata`. -/
structure QuarantineMetadata where
  status : QuarantineStatus := .inactive
  reason : Option String := none
  since : Option String := none
  waiverRef : Option String := none
  deriving DecidableEq, Repr

/-- An active quarantine has a reason and a date. -/
def QuarantineMetadata.Dated (quarantine : QuarantineMetadata) : Prop :=
  quarantine.status = .active → quarantine.reason.isSome = true ∧ quarantine.since.isSome = true

instance (quarantine : QuarantineMetadata) : Decidable quarantine.Dated :=
  inferInstanceAs (Decidable (_ → _))

/-- `quorum_for`. -/
def quorumFor (nAttempts : Int) : Except RunnerError Int := do
  refuse (nAttempts < 1) (.aggregation "N must be an int >= 1")
  pure (nAttempts / 2 + 1)

section Attempts

variable {F : Type}

/-- `counts[state]`. -/
def stateCount (attempts : List (AttemptRecord F)) (state : AttemptState) : Nat :=
  attempts.countP fun attempt => attempt.attemptState = state

/-- The reasons of the attempts in a state, each once. -/
def reasonsOf (attempts : List (AttemptRecord F)) (state : AttemptState) :
    List (Option ReasonCode) :=
  ((attempts.filter fun attempt => attempt.attemptState = state).map
    AttemptRecord.errorReasonCode).dedup

/-- `sorted(reasons, key=lambda r: r.value)`. -/
def sortedReasons (reasons : List ReasonCode) : List ReasonCode := sortBy ReasonCode.text reasons

/-- The blocker and the reason of a case without a quorum. -/
def blockerOf (caseUid : String) (attempts : List (AttemptRecord F)) :
    Except RunnerError (AggregateBlocker × Option ReasonCode) :=
  let unrunReasons := reasonsOf attempts .unrun
  if 0 < stateCount attempts .error then
    .ok (.error, (attempts.find? fun attempt => attempt.attemptState = .error).bind
      AttemptRecord.errorReasonCode)
  else if 0 < stateCount attempts .judgeError then .ok (.judgeError, none)
  else if 0 < stateCount attempts .pass + stateCount attempts .fail then
    .ok (.insufficientAttempts, none)
  else if ∃ reason ∈ ReasonCode.precheck, some reason ∈ unrunReasons then
    .ok (.precheckExcluded,
      (sortedReasons (unrunReasons.reduceOption.filter (· ∈ ReasonCode.precheck))).head?)
  else if some .budgetCap ∈ unrunReasons then .ok (.budgetExhausted, some .budgetCap)
  else if ∀ reason ∈ unrunReasons, reason = some .notSelected ∨ reason = none then
    .ok (.notSelected, some .notSelected)
  else
    .error (.aggregation (caseUid ++ ": UNRUN attempts carry unmapped reason(s) [" ++
      ", ".intercalate ((sortedReasons unrunReasons.reduceOption).map fun reason =>
        "'" ++ reason.text ++ "'") ++
      "]; the blocker precedence does not classify them, so aggregation fails closed rather " ++
      "than mislabel the cause"))

/-- What the attempts decide. -/
structure Outcome where
  verdict : AggregateVerdict
  blocker : AggregateBlocker
  reason : Option ReasonCode := none
  degraded : Bool := false
  wins : Int := 0
  fromQuorum : Bool := false
  deriving DecidableEq, Repr

/-- `non_verdict_present`. -/
def nonVerdictPresent (attempts : List (AttemptRecord F)) : Bool :=
  decide (0 < stateCount attempts .error) || decide (0 < stateCount attempts .judgeError) ||
    decide (0 < stateCount attempts .unrun)

def aggregateOutcome (caseUid : String) (quorum : Int) (attempts : List (AttemptRecord F)) :
    Except RunnerError Outcome :=
  if quorum ≤ stateCount attempts .pass then
    .ok { verdict := .pass, blocker := .none, wins := stateCount attempts .pass
          degraded := nonVerdictPresent attempts, fromQuorum := true }
  else if quorum ≤ stateCount attempts .fail then
    .ok { verdict := .fail, blocker := .none, wins := stateCount attempts .fail
          degraded := nonVerdictPresent attempts, fromQuorum := true }
  else do
    let (blocker, reason) ← blockerOf caseUid attempts
    pure { verdict := .inconclusive, blocker := blocker, reason := reason }

/-- The record of an outcome; the latest result is always the one just computed. -/
def recordOf (caseUid : String) (n : Int) (attempts : List (AttemptRecord F))
    (quarantine : QuarantineMetadata) (outcome : Outcome) : AggregateRecord where
  caseUid := caseUid
  aggregateVerdict := outcome.verdict
  aggregateBlocker := outcome.blocker
  executionDegraded := outcome.degraded
  reasonCode := outcome.reason
  wins := outcome.wins
  attemptsPlanned := n
  attemptsRun := n - stateCount attempts .unrun
  derivedFromExecutedQuorum := outcome.fromQuorum
  quarantineStatus := quarantine.status
  latestAggregateVerdict := some outcome.verdict
  latestAggregateBlocker := some outcome.blocker
  quarantineReason := quarantine.reason
  quarantineSince := quarantine.since
  waiverRef := quarantine.waiverRef

/-- `aggregate_case`. -/
def aggregateCase (attemptSet : AttemptSet F) (nAttempts : Option Int)
    (quarantine : Option QuarantineMetadata) : Except RunnerError AggregateRecord := do
  let attempts := attemptSet.attempts
  let n := nAttempts.getD attemptSet.attemptsPlanned
  require (n = attemptSet.attemptsPlanned)
    (.aggregation s!"N={n} disagrees with attempts_planned={attemptSet.attemptsPlanned}")
  require ((attempts.length : Int) = n)
    (.aggregation (s!"aggregation requires every planned attempt to be recorded " ++
      s!"({attempts.length} of {n}); planned-but-unlaunched attempts are recorded UNRUN, " ++
      "never omitted"))
  let quorum ← quorumFor n
  let outcome ← aggregateOutcome attemptSet.caseUid quorum attempts
  let record := recordOf attemptSet.caseUid n attempts (quarantine.getD {}) outcome
  record.validate
  pure record

end Attempts

/-! ## What the attempts decide -/

section Decision

variable {F : Type}

/-- More than half of all planned attempts are in a state. -/
def Majority (attempts : List (AttemptRecord F)) (n : Int) (state : AttemptState) : Prop :=
  n < 2 * stateCount attempts state

/-- An attempt that was not run, with its reason. -/
def UnrunFor (attempts : List (AttemptRecord F)) (reason : ReasonCode) : Prop :=
  ∃ attempt ∈ attempts, attempt.attemptState = .unrun ∧ attempt.errorReasonCode = some reason

/-- When a blocker applies to a case without a majority. -/
def Applies (attempts : List (AttemptRecord F)) : AggregateBlocker → Prop
  | .none => False
  | .error => ∃ attempt ∈ attempts, attempt.attemptState = .error
  | .judgeError => ∃ attempt ∈ attempts, attempt.attemptState = .judgeError
  | .insufficientAttempts =>
      ∃ attempt ∈ attempts, attempt.attemptState = .pass ∨ attempt.attemptState = .fail
  | .precheckExcluded => ∃ reason ∈ ReasonCode.precheck, UnrunFor attempts reason
  | .budgetExhausted => UnrunFor attempts .budgetCap
  | .notSelected => ∀ reason, UnrunFor attempts reason → reason = .notSelected

/-- The blocker applies, and none that stands before it in the precedence does. -/
def HighestBlocker (attempts : List (AttemptRecord F)) (blocker : AggregateBlocker) : Prop :=
  ∃ higher lower, blockerPrecedence = higher ++ blocker :: lower ∧ Applies attempts blocker ∧
    ∀ other ∈ higher, ¬ Applies attempts other

/-- A reason that no blocker stands for. -/
def ReasonCode.Unmapped (reason : ReasonCode) : Prop :=
  reason ∉ precheck ∧ reason ≠ budgetCap ∧ reason ≠ notSelected

/-- No quorum, no error, no judge error, no executed verdict, and only unmapped reasons beside
not-selected ones. -/
structure Unclassified (attempts : List (AttemptRecord F)) (n : Int) : Prop where
  noQuorum : ¬ Majority attempts n .pass ∧ ¬ Majority attempts n .fail
  noError : ∀ attempt ∈ attempts, attempt.attemptState ≠ .error
  noJudgeError : ∀ attempt ∈ attempts, attempt.attemptState ≠ .judgeError
  noVerdict : ∀ attempt ∈ attempts, attempt.attemptState ≠ .pass ∧ attempt.attemptState ≠ .fail
  unmapped : ∃ reason, UnrunFor attempts reason ∧ reason.Unmapped
  others : ∀ reason, UnrunFor attempts reason → reason.Unmapped ∨ reason = .notSelected

variable {attempts : List (AttemptRecord F)}

theorem stateCount_pos {state : AttemptState} :
    0 < stateCount attempts state ↔ ∃ attempt ∈ attempts, attempt.attemptState = state := by
  simp [stateCount, List.countP_pos_iff]

theorem some_mem_reasonsOf {state : AttemptState} {reason : Option ReasonCode} :
    reason ∈ reasonsOf attempts state ↔
      ∃ attempt ∈ attempts, attempt.attemptState = state ∧ attempt.errorReasonCode = reason := by
  simp only [reasonsOf, List.mem_dedup, List.mem_map, List.mem_filter, decide_eq_true_eq, and_assoc]

/-- A case without a majority is blocked by the highest blocker that applies; none does when the
reasons are unclassified. -/
theorem blockerOf_cases (attempts : List (AttemptRecord F)) (caseUid : String) :
    (∃ blocker reason, blockerOf caseUid attempts = .ok (blocker, reason) ∧
      HighestBlocker attempts blocker ∧ blocker ≠ .none) ∨
    ((∃ error, blockerOf caseUid attempts = .error error) ∧
      (∀ blocker ∈ blockerPrecedence, ¬ Applies attempts blocker)) := by
  unfold blockerOf
  by_cases error : 0 < stateCount attempts .error
  · rw [if_pos error]
    exact .inl ⟨_, _, rfl, ⟨[], _, rfl, stateCount_pos.mp error, by simp⟩, by decide⟩
  rw [if_neg error]
  have noError : ¬ Applies attempts .error := fun applies => error (stateCount_pos.mpr applies)
  by_cases judgeError : 0 < stateCount attempts .judgeError
  · rw [if_pos judgeError]
    refine .inl ⟨_, _, rfl, ⟨[.error], _, rfl, stateCount_pos.mp judgeError, ?_⟩, by decide⟩
    simpa using noError
  rw [if_neg judgeError]
  have noJudgeError : ¬ Applies attempts .judgeError :=
    fun applies => judgeError (stateCount_pos.mpr applies)
  by_cases executed : 0 < stateCount attempts .pass + stateCount attempts .fail
  · rw [if_pos executed]
    have applies : Applies attempts .insufficientAttempts := by
      rcases Nat.eq_zero_or_pos (stateCount attempts .pass) with none | some
      · obtain ⟨attempt, member, state⟩ := stateCount_pos.mp
          (show 0 < stateCount attempts .fail by omega)
        exact ⟨attempt, member, .inr state⟩
      · obtain ⟨attempt, member, state⟩ := stateCount_pos.mp some
        exact ⟨attempt, member, .inl state⟩
    refine .inl ⟨_, _, rfl, ⟨[.error, .judgeError], _, rfl, applies, ?_⟩, by decide⟩
    simpa using ⟨noError, noJudgeError⟩
  rw [if_neg executed]
  have noVerdict : ¬ Applies attempts .insufficientAttempts := by
    rintro ⟨attempt, member, state | state⟩
    · have := stateCount_pos.mpr ⟨attempt, member, state⟩
      omega
    · have := stateCount_pos.mpr ⟨attempt, member, state⟩
      omega
  by_cases excluded : ∃ reason ∈ ReasonCode.precheck, some reason ∈ reasonsOf attempts .unrun
  · rw [if_pos excluded]
    have applies : Applies attempts .precheckExcluded := by
      obtain ⟨reason, listed, member⟩ := excluded
      exact ⟨reason, listed, some_mem_reasonsOf.mp member⟩
    refine .inl ⟨_, _, rfl,
      ⟨[.error, .judgeError, .insufficientAttempts], _, rfl, applies, ?_⟩, by decide⟩
    simpa using ⟨noError, noJudgeError, noVerdict⟩
  rw [if_neg excluded]
  have noPrecheck : ¬ Applies attempts .precheckExcluded := by
    rintro ⟨reason, listed, unrun⟩
    exact excluded ⟨reason, listed, some_mem_reasonsOf.mpr unrun⟩
  by_cases budget : some .budgetCap ∈ reasonsOf attempts .unrun
  · rw [if_pos budget]
    refine .inl ⟨_, _, rfl, ⟨[.error, .judgeError, .insufficientAttempts, .precheckExcluded], _, rfl,
      some_mem_reasonsOf.mp budget, ?_⟩, by decide⟩
    simpa using ⟨noError, noJudgeError, noVerdict, noPrecheck⟩
  rw [if_neg budget]
  have noBudget : ¬ Applies attempts .budgetExhausted :=
    fun applies => budget (some_mem_reasonsOf.mpr applies)
  by_cases only : ∀ reason ∈ reasonsOf attempts .unrun, reason = some .notSelected ∨ reason = none
  · rw [if_pos only]
    have applies : Applies attempts .notSelected := by
      intro reason unrun
      rcases only _ (some_mem_reasonsOf.mpr unrun) with same | none
      · exact Option.some.inj same
      · cases none
    refine .inl ⟨_, _, rfl, ⟨[.error, .judgeError, .insufficientAttempts, .precheckExcluded,
      .budgetExhausted], _, rfl, applies, ?_⟩, by decide⟩
    simpa using ⟨noError, noJudgeError, noVerdict, noPrecheck, noBudget⟩
  · rw [if_neg only]
    have noOther : ¬ Applies attempts .notSelected := by
      intro applies
      apply only
      intro reason member
      obtain ⟨attempt, held, state, same⟩ := some_mem_reasonsOf.mp member
      cases reason with
      | none => exact .inr rfl
      | some reason => exact .inl (congrArg some (applies reason ⟨attempt, held, state, same⟩))
    refine .inr ⟨⟨_, rfl⟩, ?_⟩
    simp only [blockerPrecedence, List.forall_mem_cons]
    exact ⟨noError, noJudgeError, noVerdict, noPrecheck, noBudget, noOther, by simp⟩

/-- No blocker applies exactly to unclassified attempts. -/
theorem unclassified_iff {n : Int} :
    Unclassified attempts n ↔
      (¬ Majority attempts n .pass ∧ ¬ Majority attempts n .fail) ∧
        ∀ blocker ∈ blockerPrecedence, ¬ Applies attempts blocker := by
  constructor
  · intro unclassified
    refine ⟨unclassified.noQuorum, ?_⟩
    simp only [blockerPrecedence, List.forall_mem_cons]
    refine ⟨?_, ?_, ?_, ?_, ?_, ?_, by simp⟩
    · rintro ⟨attempt, member, state⟩
      exact unclassified.noError attempt member state
    · rintro ⟨attempt, member, state⟩
      exact unclassified.noJudgeError attempt member state
    · rintro ⟨attempt, member, state | state⟩
      · exact (unclassified.noVerdict attempt member).1 state
      · exact (unclassified.noVerdict attempt member).2 state
    · rintro ⟨reason, listed, unrun⟩
      rcases unclassified.others reason unrun with unmapped | rfl
      · exact unmapped.1 listed
      · revert listed
        decide
    · intro unrun
      rcases unclassified.others _ unrun with unmapped | same
      · exact unmapped.2.1 rfl
      · cases same
    · intro applies
      obtain ⟨reason, unrun, unmapped⟩ := unclassified.unmapped
      exact unmapped.2.2 (applies reason unrun)
  · rintro ⟨noQuorum, none⟩
    simp only [blockerPrecedence, List.forall_mem_cons] at none
    obtain ⟨noError, noJudgeError, noVerdict, noPrecheck, noBudget, noOther, -⟩ := none
    have mapped : ∀ reason, UnrunFor attempts reason → reason ≠ .notSelected → reason.Unmapped := by
      intro reason unrun other
      refine ⟨fun listed => noPrecheck ⟨reason, listed, unrun⟩, ?_, other⟩
      rintro rfl
      exact noBudget unrun
    refine ⟨noQuorum, fun attempt member state => noError ⟨attempt, member, state⟩,
      fun attempt member state => noJudgeError ⟨attempt, member, state⟩,
      fun attempt member => ⟨fun state => noVerdict ⟨attempt, member, .inl state⟩,
        fun state => noVerdict ⟨attempt, member, .inr state⟩⟩, ?_, ?_⟩
    · by_contra all
      apply noOther
      intro reason unrun
      by_contra other
      exact all ⟨reason, unrun, mapped reason unrun other⟩
    · intro reason unrun
      by_cases same : reason = .notSelected
      · exact .inr same
      · exact .inl (mapped reason unrun same)

/-- Every attempt is counted in one state. -/
theorem stateCount_sum (attempts : List (AttemptRecord F)) :
    stateCount attempts .pass + stateCount attempts .fail + stateCount attempts .error +
      stateCount attempts .judgeError + stateCount attempts .unrun = attempts.length := by
  induction attempts with
  | nil => rfl
  | cons attempt later ih =>
      simp only [stateCount, List.countP_cons, List.length_cons] at ih ⊢
      rw [← ih]
      cases attempt.attemptState <;> simp <;> omega

/-- A quorum is a majority. -/
theorem quorum_le_iff {n : Int} {state : AttemptState} :
    n / 2 + 1 ≤ stateCount attempts state ↔ Majority attempts n state := by
  unfold Majority
  omega

theorem not_both {n : Int} (complete : (attempts.length : Int) = n) :
    ¬ (Majority attempts n .pass ∧ Majority attempts n .fail) := by
  rintro ⟨pass, fail⟩
  have sum := stateCount_sum attempts
  unfold Majority at pass fail
  omega

theorem nonVerdictPresent_iff :
    nonVerdictPresent attempts = true ↔
      ∃ attempt ∈ attempts, attempt.attemptState ≠ .pass ∧ attempt.attemptState ≠ .fail := by
  unfold nonVerdictPresent
  simp only [Bool.or_eq_true, decide_eq_true_eq, stateCount_pos]
  constructor
  · rintro ((⟨attempt, member, state⟩ | ⟨attempt, member, state⟩) | ⟨attempt, member, state⟩)
    all_goals exact ⟨attempt, member, by simp [state], by simp [state]⟩
  · rintro ⟨attempt, member, noPass, noFail⟩
    cases state : attempt.attemptState with
    | pass => exact absurd state noPass
    | fail => exact absurd state noFail
    | error => exact .inl (.inl ⟨attempt, member, state⟩)
    | judgeError => exact .inl (.inr ⟨attempt, member, state⟩)
    | unrun => exact .inr ⟨attempt, member, state⟩

/-- An outcome and the attempts it was decided from. -/
inductive Decides (attempts : List (AttemptRecord F)) (n : Int) : Outcome → Prop
  | pass (majority : Majority attempts n .pass) :
      Decides attempts n
        { verdict := .pass, blocker := .none, wins := stateCount attempts .pass
          degraded := nonVerdictPresent attempts, fromQuorum := true }
  | fail (none : ¬ Majority attempts n .pass) (majority : Majority attempts n .fail) :
      Decides attempts n
        { verdict := .fail, blocker := .none, wins := stateCount attempts .fail
          degraded := nonVerdictPresent attempts, fromQuorum := true }
  | blocked (noPass : ¬ Majority attempts n .pass) (noFail : ¬ Majority attempts n .fail)
      (blocker : AggregateBlocker) (reason : Option ReasonCode)
      (highest : HighestBlocker attempts blocker) (named : blocker ≠ .none) :
      Decides attempts n { verdict := .inconclusive, blocker := blocker, reason := reason }

/-- **What the attempts decide**, unless they are unclassified. -/
theorem aggregateOutcome_cases (attempts : List (AttemptRecord F)) (caseUid : String) (n : Int) :
    (∃ outcome, aggregateOutcome caseUid (n / 2 + 1) attempts = .ok outcome ∧
      Decides attempts n outcome ∧ ¬ Unclassified attempts n) ∨
    ((∃ error, aggregateOutcome caseUid (n / 2 + 1) attempts = .error error) ∧
      Unclassified attempts n) := by
  unfold aggregateOutcome
  by_cases pass : Majority attempts n .pass
  · rw [if_pos (quorum_le_iff.mpr pass)]
    exact .inl ⟨_, rfl, .pass pass, fun unclassified => unclassified.noQuorum.1 pass⟩
  rw [if_neg fun least => pass (quorum_le_iff.mp least)]
  by_cases fail : Majority attempts n .fail
  · rw [if_pos (quorum_le_iff.mpr fail)]
    exact .inl ⟨_, rfl, .fail pass fail, fun unclassified => unclassified.noQuorum.2 fail⟩
  rw [if_neg fun least => fail (quorum_le_iff.mp least)]
  rcases blockerOf_cases attempts caseUid with ⟨blocker, reason, found, highest, named⟩ |
    ⟨⟨error, raised⟩, none⟩
  · refine .inl ⟨_, by rw [found]; rfl, .blocked pass fail blocker reason highest named, ?_⟩
    intro unclassified
    obtain ⟨higher, lower, order, applies, -⟩ := highest
    refine (unclassified_iff.mp unclassified).2 blocker ?_ applies
    rw [order]
    exact List.mem_append_right _ List.mem_cons_self
  · exact .inr ⟨⟨error, by rw [raised]; rfl⟩, unclassified_iff.mpr ⟨⟨pass, fail⟩, none⟩⟩

/-- **The validator accepts what was decided**, with a dated reason for an active quarantine. -/
theorem validate_recordOf {n : Int} {caseUid : String} {parts : CaseUidParts} {outcome : Outcome}
    (parsed : parseCaseUid caseUid = .ok parts) (planned : 1 ≤ n)
    (complete : (attempts.length : Int) = n) (decided : Decides attempts n outcome)
    (quarantine : QuarantineMetadata) :
    (recordOf caseUid n attempts quarantine outcome).validate = .ok () ↔ quarantine.Dated := by
  have sum := stateCount_sum attempts
  have verdict : (recordOf caseUid n attempts quarantine outcome).validateVerdict = .ok () := by
    cases decided with
    | pass majority =>
        have quorum := quorum_le_iff.mpr majority
        refine (AggregateRecord.validateVerdict_decided _ (by simp [recordOf])).mpr
          ⟨rfl, planned, quorum, ?_, rfl⟩
        show (stateCount attempts .pass : Int) ≤ n - stateCount attempts .unrun
        omega
    | fail none majority =>
        have quorum := quorum_le_iff.mpr majority
        refine (AggregateRecord.validateVerdict_decided _ (by simp [recordOf])).mpr
          ⟨rfl, planned, quorum, ?_, rfl⟩
        show (stateCount attempts .fail : Int) ≤ n - stateCount attempts .unrun
        omega
    | blocked noPass noFail blocker reason highest named =>
        exact (AggregateRecord.validateVerdict_inconclusive _ rfl).mpr ⟨named, rfl, rfl⟩
  have wins : 0 ≤ outcome.wins := by
    cases decided <;> simp
  have dated : (recordOf caseUid n attempts quarantine outcome).validateQuarantine = .ok () ↔
      quarantine.Dated := by
    rw [AggregateRecord.validateQuarantine_eq_ok]
    exact ⟨fun checked => checked.2.2, fun dated => ⟨fun _ => rfl, fun _ => rfl, dated⟩⟩
  rw [← dated]
  unfold AggregateRecord.validate nonNegativeInt
  simp only [bind_eq_ok, require_eq_ok]
  constructor
  · rintro ⟨_, -, _, -, _, -, _, -, _, -, _, -, _, accepted, -⟩
    exact accepted
  · intro accepted
    exact ⟨parts, parsed, ⟨⟩, wins, ⟨⟩, by simp only [recordOf]; omega, ⟨⟩,
      by simp only [recordOf]; omega, ⟨⟩, by simp only [recordOf]; omega, ⟨⟩, verdict, ⟨⟩, accepted,
      rfl⟩

/-! ## The record -/

/-- What a record says of the attempts it was aggregated from. -/
structure Honest (attempts : List (AttemptRecord F)) (n : Int) (record : AggregateRecord) : Prop where
  pass : record.aggregateVerdict = .pass ↔ Majority attempts n .pass
  fail : record.aggregateVerdict = .fail ↔ Majority attempts n .fail
  notBoth : ¬ (Majority attempts n .pass ∧ Majority attempts n .fail)
  inconclusive : ¬ Majority attempts n .pass → ¬ Majority attempts n .fail →
    record.aggregateVerdict = .inconclusive ∧ HighestBlocker attempts record.aggregateBlocker
  degraded : record.executionDegraded = true ↔
    (Majority attempts n .pass ∨ Majority attempts n .fail) ∧
      ∃ attempt ∈ attempts, attempt.attemptState ≠ .pass ∧ attempt.attemptState ≠ .fail
  validates : record.validate = .ok ()

theorem honest_recordOf {n : Int} {caseUid : String} {outcome : Outcome}
    {quarantine : QuarantineMetadata} (complete : (attempts.length : Int) = n)
    (decided : Decides attempts n outcome)
    (validates : (recordOf caseUid n attempts quarantine outcome).validate = .ok ()) :
    Honest attempts n (recordOf caseUid n attempts quarantine outcome) := by
  have apart := not_both complete
  have present : nonVerdictPresent attempts = true ↔ _ := nonVerdictPresent_iff
  cases decided with
  | pass majority =>
      have noFail : ¬ Majority attempts n .fail := fun fail => apart ⟨majority, fail⟩
      refine ⟨by simp [recordOf, majority], by simp [recordOf, noFail], apart,
        fun none => absurd majority none, ?_, validates⟩
      rw [← present]
      simp [recordOf, majority]
  | fail none majority =>
      refine ⟨by simp [recordOf, none], by simp [recordOf, majority], apart,
        fun _ none => absurd majority none, ?_, validates⟩
      rw [← present]
      simp [recordOf, majority]
  | blocked noPass noFail blocker reason highest named =>
      refine ⟨by simp [recordOf, noPass], by simp [recordOf, noFail], apart,
        fun _ _ => ⟨rfl, highest⟩, ?_, validates⟩
      simp [recordOf, noPass, noFail]

section Order

variable {left right : List (AttemptRecord F)} {n : Int}

theorem Majority.perm {state : AttemptState} (same : left.Perm right) :
    Majority left n state ↔ Majority right n state := by
  unfold Majority stateCount
  rw [same.countP_eq]

theorem UnrunFor.perm {reason : ReasonCode} (same : left.Perm right) :
    UnrunFor left reason ↔ UnrunFor right reason := by
  simp only [UnrunFor, same.mem_iff]

theorem Applies.perm {blocker : AggregateBlocker} (same : left.Perm right) :
    Applies left blocker ↔ Applies right blocker := by
  cases blocker <;> simp only [Applies, UnrunFor.perm same, same.mem_iff]

theorem HighestBlocker.perm {blocker : AggregateBlocker} (same : left.Perm right) :
    HighestBlocker left blocker ↔ HighestBlocker right blocker := by
  simp only [HighestBlocker, Applies.perm same]

theorem Unclassified.perm (same : left.Perm right) :
    Unclassified left n ↔ Unclassified right n := by
  simp only [unclassified_iff, Majority.perm same, Applies.perm same]

theorem Honest.perm {record : AggregateRecord} (same : left.Perm right)
    (honest : Honest left n record) : Honest right n record where
  pass := honest.pass.trans (Majority.perm same)
  fail := honest.fail.trans (Majority.perm same)
  notBoth both := honest.notBoth ⟨(Majority.perm same).mpr both.1, (Majority.perm same).mpr both.2⟩
  inconclusive noPass noFail := by
    obtain ⟨verdict, highest⟩ := honest.inconclusive (fun pass => noPass ((Majority.perm same).mp pass))
      (fun fail => noFail ((Majority.perm same).mp fail))
    exact ⟨verdict, (HighestBlocker.perm same).mp highest⟩
  degraded := by
    rw [honest.degraded, Majority.perm same, Majority.perm same]
    simp only [same.mem_iff]
  validates := honest.validates

end Order

variable [ClockFloat F]

/-- A case of a set that is complete: its uid is parsed with the first attempt. -/
theorem AttemptSet.exists_parts {runId caseUid : String} {n : Int} {added : List (AttemptRecord F)}
    {attemptSet : AttemptSet F} (collected : AttemptSet.collect runId caseUid n added = .ok attemptSet)
    (complete : (added.length : Int) = n) :
    ∃ parts, parseCaseUid attemptSet.caseUid = .ok parts := by
  obtain ⟨planned, all, -, case, -, -⟩ := AttemptSet.collect_eq_ok.mp collected
  cases added with
  | nil =>
      simp only [List.length_nil] at complete
      omega
  | cons first later =>
      have belongs := all first List.mem_cons_self
      have valid := AttemptRecord.valid_of_validate belongs.valid
      rw [case, ← belongs.case]
      exact valid.caseUid

/-- **Aggregation is order-free and honest.** For a complete set of validated attempts the record is
the same in every order of the additions and honest about them; there is none exactly when the
attempts are unclassified or an active quarantine has no dated reason. -/
theorem aggregation_order_free_and_honest {runId caseUid : String} {n : Int}
    {added : List (AttemptRecord F)} {attemptSet : AttemptSet F}
    (collected : AttemptSet.collect runId caseUid n added = .ok attemptSet)
    (complete : (added.length : Int) = n) (nAttempts : Option Int) (named : nAttempts.getD n = n)
    (quarantine : Option QuarantineMetadata) :
    (∀ other, added.Perm other → ∃ otherSet,
      AttemptSet.collect runId caseUid n other = .ok otherSet ∧
        aggregateCase otherSet nAttempts quarantine = aggregateCase attemptSet nAttempts quarantine) ∧
    (∀ record, aggregateCase attemptSet nAttempts quarantine = .ok record → Honest added n record) ∧
    ((∃ error, aggregateCase attemptSet nAttempts quarantine = .error error) ↔
      Unclassified added n ∨ ¬ (quarantine.getD {}).Dated) := by
  obtain ⟨parts, parsed⟩ := attemptSet.exists_parts collected complete
  obtain ⟨planned, -, -, -, plan, rows⟩ := AttemptSet.collect_eq_ok.mp collected
  have same : attemptSet.attempts.Perm added := rows ▸ attemptSet.attempts_perm
  have length : (attemptSet.attempts.length : Int) = n := by rw [same.length_eq, complete]
  -- the checks before the decision pass
  have decided : aggregateCase attemptSet nAttempts quarantine =
      (aggregateOutcome attemptSet.caseUid (n / 2 + 1) attemptSet.attempts >>= fun outcome => do
        let record := recordOf attemptSet.caseUid n attemptSet.attempts (quarantine.getD {}) outcome
        record.validate
        pure record) := by
    unfold aggregateCase quorumFor require refuse
    simp only [plan, named, if_pos, length, if_neg (show ¬ n < 1 by omega)]
    rfl
  refine ⟨?_, ?_, ?_⟩
  · intro other perm
    obtain ⟨otherSet, otherCollected, case, otherPlan, attempts⟩ :=
      AttemptSet.collect_perm perm collected
    refine ⟨otherSet, otherCollected, ?_⟩
    unfold aggregateCase
    rw [case, otherPlan, attempts]
  · intro record aggregated
    rw [decided] at aggregated
    simp only [bind_eq_ok, pure_eq_ok] at aggregated
    obtain ⟨outcome, found, _, validates, rfl⟩ := aggregated
    rcases aggregateOutcome_cases attemptSet.attempts attemptSet.caseUid n with
      ⟨other, known, decides, -⟩ | ⟨⟨error, raised⟩, -⟩
    · obtain rfl : outcome = other := Except.ok.inj (found.symm.trans known)
      exact (honest_recordOf length decides validates).perm same
    · rw [raised] at found
      cases found
  · rw [decided, ← Unclassified.perm same]
    rcases aggregateOutcome_cases attemptSet.attempts attemptSet.caseUid n with
      ⟨outcome, found, decides, classified⟩ | ⟨⟨error, raised⟩, unclassified⟩
    · have accepts := validate_recordOf parsed planned length decides (quarantine.getD {})
      rw [found]
      show (∃ error, ((recordOf attemptSet.caseUid n attemptSet.attempts (quarantine.getD {})
        outcome).validate >>= fun _ => pure _) = .error error) ↔ _
      rw [← accepts]
      cases (recordOf attemptSet.caseUid n attemptSet.attempts (quarantine.getD {})
          outcome).validate with
      | ok _ =>
          constructor
          · rintro ⟨_, raised⟩
            cases raised
          · rintro (unclassified | refused)
            · exact absurd unclassified classified
            · exact absurd rfl refused
      | error raised =>
          exact ⟨fun _ => .inr (fun accepted => by cases accepted), fun _ => ⟨raised, rfl⟩⟩
    · rw [raised]
      exact ⟨fun _ => .inl unclassified, fun _ => ⟨error, rfl⟩⟩

end Decision

/-! ## A sample -/

open Aegis.Budget (ZeroFloat)

def sampleUid : String := "planner::behavior_eval::BE-01::" ++ emptyHash

/-- An attempt of the sample case. -/
def sampleAttempt (repetitionNumber : Int) (state : AttemptState) (reason : Option ReasonCode) :
    AttemptRecord ZeroFloat where
  runId := "run-1"
  caseUid := sampleUid
  repetitionNumber := repetitionNumber
  attemptState := state
  errorReasonCode := reason

/-- Two passes and an error. -/
def sampleAttempts : List (AttemptRecord ZeroFloat) :=
  [sampleAttempt 3 .pass none, sampleAttempt 1 .pass none,
    sampleAttempt 2 .error (some .fixtureSetupFailed)]

theorem parseCaseUid_sampleUid :
    parseCaseUid sampleUid = .ok ⟨"planner", .behaviorEval, "BE-01", emptyHash⟩ := by
  rfl

theorem belongs_sampleAttempt {repetitionNumber : Int} {state : AttemptState}
    {reason : Option ReasonCode} {n : Int} (least : 1 ≤ repetitionNumber)
    (planned : repetitionNumber ≤ n)
    (accepted : (sampleAttempt repetitionNumber state reason).validateState = .ok ()) :
    AttemptSet.Belongs "run-1" sampleUid n (sampleAttempt repetitionNumber state reason) := by
  refine ⟨?_, rfl, rfl, planned⟩
  unfold AttemptRecord.validate
  simp only [bind_eq_ok, require_eq_ok]
  exact ⟨⟨⟩, show "run-1" ≠ "" by decide, _, parseCaseUid_sampleUid, ⟨⟩, least, ⟨⟩, accepted, ⟨⟩, rfl, rfl⟩

theorem sample_aggregation :
    ∃ attemptSet, AttemptSet.collect "run-1" sampleUid 3 sampleAttempts = .ok attemptSet ∧
      (∀ record, aggregateCase attemptSet none none = .ok record →
        Honest sampleAttempts 3 record) := by
  have collected : AttemptSet.collect "run-1" sampleUid 3 sampleAttempts =
      .ok ⟨"run-1", sampleUid, 3, ⟨sampleAttempts, by decide⟩⟩ := by
    refine AttemptSet.collect_eq_ok.mpr ⟨by decide, ?_, rfl, rfl, rfl, rfl⟩
    simp only [sampleAttempts, List.forall_mem_cons]
    exact ⟨belongs_sampleAttempt (by decide) (by decide) rfl,
      belongs_sampleAttempt (by decide) (by decide) rfl,
      belongs_sampleAttempt (by decide) (by decide) rfl, by simp⟩
  exact ⟨_, collected, (aggregation_order_free_and_honest collected rfl none rfl none).2.1⟩

/-- A complete set with a quorum: an active quarantine without a dated reason raises. -/
theorem undated_quarantine_raises :
    ∃ attemptSet, AttemptSet.collect "run-1" sampleUid 1 [sampleAttempt 1 .pass none] =
        .ok attemptSet ∧
      (∃ error, aggregateCase attemptSet none (some { status := .active }) = .error error) ∧
      ¬ Unclassified [sampleAttempt 1 .pass none] 1 := by
  have collected : AttemptSet.collect "run-1" sampleUid 1 [sampleAttempt 1 .pass none] =
      .ok ⟨"run-1", sampleUid, 1, ⟨[sampleAttempt 1 .pass none], by decide⟩⟩ := by
    refine AttemptSet.collect_eq_ok.mpr ⟨by decide, ?_, rfl, rfl, rfl, rfl⟩
    exact List.forall_mem_singleton.mpr (belongs_sampleAttempt (by decide) (by decide) rfl)
  refine ⟨_, collected, ⟨_, rfl⟩, fun unclassified => ?_⟩
  exact unclassified.noQuorum.1 (show (1 : Int) < 2 * (1 : Nat) by decide)

end Aegis.Runner
