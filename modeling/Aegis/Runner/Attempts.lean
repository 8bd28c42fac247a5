/-
# Runner.Attempts — attempts of a case and their set

`models.py` and `aggregation.py`: an attempt is a validated record of one repetition of one case. An
`AttemptSet` holds the attempts of one case in one run and refuses a second record of a repetition,
so its attempts are those that were added, in the order of their repetitions
(`collect_eq_ok`).
-/
import Aegis.Lib.SortBy
import Aegis.Lib.Table
import Aegis.Runner.Identity

namespace Aegis.Runner

open Aegis.Lib
open Aegis.Lib.Guarded
open Aegis.Budget (ClockFloat Seconds)

set_option autoImplicit false

inductive AttemptState
  | pass
  | fail
  | error
  | judgeError
  | unrun
  deriving DecidableEq, Repr

inductive ReasonCode
  | ambiguousActivation
  | missingPrerequisite
  | missingFixture
  | fixtureSetupFailed
  | incompatibleInvocationMode
  | unjudgeableAssertion
  | budgetCap
  | evidenceIntegrityFailure
  | liveDispatchDisabled
  | notSelected
  deriving DecidableEq, Repr

namespace ReasonCode

def text : ReasonCode → String
  | ambiguousActivation => "AMBIGUOUS_ACTIVATION"
  | missingPrerequisite => "MISSING_PREREQUISITE"
  | missingFixture => "MISSING_FIXTURE"
  | fixtureSetupFailed => "FIXTURE_SETUP_FAILED"
  | incompatibleInvocationMode => "INCOMPATIBLE_INVOCATION_MODE"
  | unjudgeableAssertion => "UNJUDGEABLE_ASSERTION"
  | budgetCap => "BUDGET_CAP"
  | evidenceIntegrityFailure => "EVIDENCE_INTEGRITY_FAILURE"
  | liveDispatchDisabled => "LIVE_DISPATCH_DISABLED"
  | notSelected => "NOT_SELECTED"

/-- `PRECHECK_REASON_CODES`. -/
def precheck : List ReasonCode :=
  [missingPrerequisite, missingFixture, incompatibleInvocationMode, unjudgeableAssertion]

end ReasonCode

def monetaryUnknown : String := "UNKNOWN"

def schemaVersion : String := "1.0.0-wp2b1"

/-- The buckets of a usage, each from a dimension to an amount. -/
structure CostUsage where
  reservedMax : List (String × Int) := []
  actual : List (String × Int) := []
  released : List (String × Int) := []
  /-- A text or cents. -/
  monetary : String ⊕ Int := .inl monetaryUnknown

/-- `_non_negative_int`. -/
def nonNegativeInt (value : Int) (where_ : String) : Except RunnerError Unit :=
  require (0 ≤ value) (.schemaValidation (where_ ++ " must be a non-negative int"))

/-- One bucket of `CostUsage.validate`. -/
def CostUsage.validateBucket (name : String) (bucket : List (String × Int)) :
    Except RunnerError Unit :=
  bucket.forM fun item => nonNegativeInt item.2 ("CostUsage." ++ name ++ "[" ++ item.1 ++ "]")

def CostUsage.validate (usage : CostUsage) : Except RunnerError Unit := do
  validateBucket "reserved_max" usage.reservedMax
  validateBucket "actual" usage.actual
  validateBucket "released" usage.released
  match usage.monetary with
  | .inl text => require (text = monetaryUnknown) (.schemaValidation "monetary string must be 'UNKNOWN'")
  | .inr cents => nonNegativeInt cents "CostUsage.monetary"

/-- `_finite_number` of a duration, and that it is not negative. -/
def validateDuration {F : Type} [ClockFloat F] (duration : Seconds F) : Except RunnerError Unit := do
  require (JsonFloat.finite duration.toFloat = true)
    (.schemaValidation "duration_seconds must be finite")
  require (ClockFloat.atLeast duration.toFloat (ClockFloat.ofInt 0) = true)
    (.schemaValidation "duration_seconds must be >= 0")

structure AttemptRecord (F : Type) where
  runId : String
  caseUid : String
  repetitionNumber : Int
  attemptState : AttemptState
  errorReasonCode : Option ReasonCode := none
  assertionResults : List (Json F) := []
  costUsage : CostUsage := {}
  durationSeconds : Option (Seconds F) := none
  schemaVersion : String := Runner.schemaVersion

namespace AttemptRecord

variable {F : Type}

/-- The part of `validate` that reads the state and the reason. -/
def validateState (attempt : AttemptRecord F) : Except RunnerError Unit :=
  match attempt.attemptState with
  | .unrun => do
      require (attempt.assertionResults.isEmpty = true)
        (.schemaValidation "an UNRUN attempt cannot carry assertion results (it never ran)")
      require (attempt.errorReasonCode ≠ none)
        (.schemaValidation "an UNRUN attempt must carry the reason it was not run")
  | .pass | .fail =>
      require (attempt.errorReasonCode = none)
        (.schemaValidation "a PASS/FAIL attempt must not carry an error reason code")
  | .error =>
      require (attempt.errorReasonCode ≠ none)
        (.schemaValidation "an ERROR attempt must carry a reason code")
  | .judgeError => .ok ()

variable [ClockFloat F]

def validate (attempt : AttemptRecord F) : Except RunnerError Unit := do
  require (attempt.runId ≠ "") (.schemaValidation "run_id required")
  let _ ← parseCaseUid attempt.caseUid
  require (1 ≤ attempt.repetitionNumber) (.schemaValidation "repetition_number must be >= 1")
  attempt.validateState
  attempt.costUsage.validate
  match attempt.durationSeconds with
  | none => .ok ()
  | some duration => validateDuration duration
  require (attempt.schemaVersion = Runner.schemaVersion)
    (.schemaValidation ("schema_version must be " ++ Runner.schemaVersion))

/-- A validated attempt. -/
structure Valid (attempt : AttemptRecord F) : Prop where
  caseUid : ∃ parts, parseCaseUid attempt.caseUid = .ok parts
  repetition : 1 ≤ attempt.repetitionNumber
  unrun : attempt.attemptState = .unrun → attempt.errorReasonCode ≠ none
  failed : attempt.attemptState = .error → attempt.errorReasonCode ≠ none

theorem valid_of_validate {attempt : AttemptRecord F} (validated : attempt.validate = .ok ()) :
    attempt.Valid := by
  unfold validate at validated
  obtain ⟨_, -, parts, parsed, _, repetition, _, state, -⟩ := by
    simpa only [bind_eq_ok, require_eq_ok] using validated
  unfold validateState at state
  refine ⟨⟨parts, parsed⟩, repetition, fun unrun => ?_, fun failed => ?_⟩
  · rw [unrun] at state
    obtain ⟨_, -, reason⟩ := by simpa only [bind_eq_ok, require_eq_ok] using state
    exact reason
  · rw [failed] at state
    simpa only [require_eq_ok] using state

end AttemptRecord

/-! ## The set of a case -/

/-- A set holds one attempt a repetition. -/
instance {F : Type} : Constrained (AttemptRecord F) where
  Conflict left right := left.repetitionNumber = right.repetitionNumber
  decidable _ _ := inferInstanceAs (Decidable (_ = _))
  symm _ _ same := same.symm

/-- `AttemptSet`. -/
structure AttemptSet (F : Type) where
  runId : String
  caseUid : String
  attemptsPlanned : Int
  recorded : Table (AttemptRecord F) := .empty

namespace AttemptSet

variable {F : Type}

/-- `AttemptSet(run_id, case_uid, attempts_planned)`. -/
def new (runId caseUid : String) (attemptsPlanned : Int) : Except RunnerError (AttemptSet F) := do
  refuse (attemptsPlanned < 1) (.aggregation "attempts_planned must be >= 1")
  pure ⟨runId, caseUid, attemptsPlanned, .empty⟩

/-- `attempts`: in the order of their repetitions. -/
def attempts (attemptSet : AttemptSet F) : List (AttemptRecord F) :=
  sortBy AttemptRecord.repetitionNumber attemptSet.recorded.rows

theorem attempts_perm (attemptSet : AttemptSet F) :
    attemptSet.attempts.Perm attemptSet.recorded.rows :=
  perm_sortBy _

variable [ClockFloat F]

def add (attemptSet : AttemptSet F) (attempt : AttemptRecord F) :
    Except RunnerError (AttemptSet F) := do
  attempt.validate
  require (attempt.runId = attemptSet.runId ∧ attempt.caseUid = attemptSet.caseUid)
    (.aggregation "attempt identity does not belong to the set")
  refuse (attemptSet.attemptsPlanned < attempt.repetitionNumber)
    (.aggregation (s!"repetition {attempt.repetitionNumber} exceeds planned " ++
      s!"{attemptSet.attemptsPlanned}"))
  let recorded ← attemptSet.recorded.insert attempt
    (.duplicateAttempt ("attempt already recorded; replacement attempts are forbidden " ++
      "(no retry-until-green)"))
  pure { attemptSet with recorded := recorded }

/-- What an added attempt was checked for. -/
structure Belongs (runId caseUid : String) (attemptsPlanned : Int) (attempt : AttemptRecord F) :
    Prop where
  valid : attempt.validate = .ok ()
  run : attempt.runId = runId
  case : attempt.caseUid = caseUid
  planned : attempt.repetitionNumber ≤ attemptsPlanned

theorem add_eq_ok {attemptSet next : AttemptSet F} {attempt : AttemptRecord F} :
    attemptSet.add attempt = .ok next ↔
      Belongs attemptSet.runId attemptSet.caseUid attemptSet.attemptsPlanned attempt ∧
        (∀ held ∈ attemptSet.recorded.rows, held.repetitionNumber ≠ attempt.repetitionNumber) ∧
        ∃ recorded, recorded.rows = attemptSet.recorded.rows ++ [attempt] ∧
          next = { attemptSet with recorded := recorded } := by
  unfold add
  simp only [bind_eq_ok, require_eq_ok, refuse_eq_ok, pure_eq_ok, Table.insert_eq_ok]
  constructor
  · rintro ⟨_, valid, _, ⟨run, case⟩, _, planned, recorded, ⟨fresh, rows⟩, rfl⟩
    exact ⟨⟨valid, run, case, by omega⟩, fresh, recorded, rows, rfl⟩
  · rintro ⟨⟨valid, run, case, planned⟩, fresh, recorded, rows, rfl⟩
    exact ⟨⟨⟩, valid, ⟨⟩, ⟨run, case⟩, ⟨⟩, by omega, recorded, ⟨fresh, rows⟩, rfl⟩

/-- A new set to which attempts were added in this order. -/
def collect (runId caseUid : String) (attemptsPlanned : Int) (added : List (AttemptRecord F)) :
    Except RunnerError (AttemptSet F) := do
  let attemptSet ← new runId caseUid attemptsPlanned
  added.foldlM add attemptSet

theorem foldlM_add_eq_ok {added : List (AttemptRecord F)} :
    ∀ {attemptSet next : AttemptSet F}, added.foldlM add attemptSet = .ok next ↔
      (∀ attempt ∈ added, Belongs attemptSet.runId attemptSet.caseUid attemptSet.attemptsPlanned
        attempt) ∧
        ∃ recorded, recorded.rows = attemptSet.recorded.rows ++ added ∧
          next = { attemptSet with recorded := recorded } := by
  induction added with
  | nil =>
      intro attemptSet next
      simp only [List.foldlM_nil, pure_eq_ok, List.append_nil]
      constructor
      · rintro rfl
        exact ⟨by simp, attemptSet.recorded, rfl, rfl⟩
      · rintro ⟨-, recorded, rows, rfl⟩
        rw [Table.ext rows]
  | cons attempt later ih =>
      intro attemptSet next
      rw [List.foldlM_cons, bind_eq_ok]
      constructor
      · rintro ⟨middle, here, rest⟩
        obtain ⟨belongs, -, recorded, rows, rfl⟩ := add_eq_ok.mp here
        obtain ⟨all, last, lastRows, rfl⟩ := ih.mp rest
        refine ⟨List.forall_mem_cons.mpr ⟨belongs, all⟩, last, ?_, rfl⟩
        rw [lastRows, rows, List.append_assoc, List.singleton_append]
      · rintro ⟨all, last, lastRows, rfl⟩
        obtain ⟨belongs, later⟩ := List.forall_mem_cons.mp all
        have unique := last.unique
        rw [lastRows, ← List.singleton_append, ← List.append_assoc] at unique
        have before := (List.pairwise_append.mp unique).1
        have fresh := (List.pairwise_append.mp before).2.2
        have added := add_eq_ok.mpr ⟨belongs, fun held member =>
          fresh held member attempt (List.mem_singleton.mpr rfl), ⟨_, before⟩, rfl, rfl⟩
        refine ⟨_, added, ih.mpr ⟨later, last, ?_, rfl⟩⟩
        rw [lastRows, List.append_assoc, List.singleton_append]

/-- **A set holds exactly the attempts that were added.** They are added one after another when
each belongs to the set and no two are of one repetition. -/
theorem collect_eq_ok {runId caseUid : String} {attemptsPlanned : Int}
    {added : List (AttemptRecord F)} {attemptSet : AttemptSet F} :
    collect runId caseUid attemptsPlanned added = .ok attemptSet ↔
      1 ≤ attemptsPlanned ∧
        (∀ attempt ∈ added, Belongs runId caseUid attemptsPlanned attempt) ∧
        attemptSet.runId = runId ∧ attemptSet.caseUid = caseUid ∧
        attemptSet.attemptsPlanned = attemptsPlanned ∧ attemptSet.recorded.rows = added := by
  unfold collect new
  simp only [bind_eq_ok, refuse_eq_ok, pure_eq_ok]
  constructor
  · rintro ⟨_, ⟨_, planned, rfl⟩, added⟩
    obtain ⟨all, recorded, rows, rfl⟩ := foldlM_add_eq_ok.mp added
    exact ⟨by omega, all, rfl, rfl, rfl, rows⟩
  · rintro ⟨planned, all, rfl, rfl, rfl, rows⟩
    exact ⟨_, ⟨⟨⟩, by omega, rfl⟩, foldlM_add_eq_ok.mpr ⟨all, attemptSet.recorded, rows, rfl⟩⟩

/-- **The order of the additions does not matter.** -/
theorem collect_perm {runId caseUid : String} {attemptsPlanned : Int}
    {added other : List (AttemptRecord F)} {attemptSet : AttemptSet F} (same : added.Perm other)
    (collected : collect runId caseUid attemptsPlanned added = .ok attemptSet) :
    ∃ otherSet, collect runId caseUid attemptsPlanned other = .ok otherSet ∧
      otherSet.caseUid = attemptSet.caseUid ∧
      otherSet.attemptsPlanned = attemptSet.attemptsPlanned ∧
      otherSet.attempts = attemptSet.attempts := by
  obtain ⟨planned, all, run, case, plan, rows⟩ := collect_eq_ok.mp collected
  have unique : other.Pairwise fun left right : AttemptRecord F => ¬ Conflict left right := by
    have held := attemptSet.recorded.unique
    rw [rows] at held
    exact held.perm same fun apart back => apart (Constrained.symm _ _ back)
  refine ⟨⟨runId, caseUid, attemptsPlanned, ⟨other, unique⟩⟩, ?_, case.symm, plan.symm, ?_⟩
  · exact collect_eq_ok.mpr ⟨planned, fun attempt member => all attempt (same.mem_iff.mpr member),
      rfl, rfl, rfl, rfl⟩
  · unfold attempts
    rw [rows]
    refine sortBy_congr same.symm ?_
    rw [List.nodup_iff_pairwise_ne, List.pairwise_map]
    exact unique

end AttemptSet

end Aegis.Runner
