/-
# Judge.StructuredVerdict — the schema of a judge verdict

`StructuredVerdict.from_dict` and `validate` of `judge/verdict.py`. The record is built from a
decoded object whose fields may hold any JSON value, and validated afterwards; the checks raise a
`SchemaValidationError`, except that the membership test of `control_id` hashes the value.

* `fromDict_ok`: an accepted object is coherent;
* `fromDict_raises_iff`: the object whose `control_id` is a list or an object, and only that one,
  raises something else.
-/
import Aegis.Judge.Interface
import Aegis.Judge.Verdicts
import Aegis.Lib.PythonJson

namespace Aegis.Judge

open Aegis.Lib
open Aegis.Lib.Guarded

set_option autoImplicit false

structure StructuredVerdict where
  verdictId : String
  requestId : String
  controlId : String
  verdict : JudgeVerdictState
  reasonCode : JudgeVerdictReason
  evidenceRefs : List String
  rubricId : String
  rubricVersion : String
  rubricSha256 : String
  judgeId : String
  judgeVersion : String
  inputManifestSha256 : String
  failureMode : Option FailureMode
  offendingSpan : Option String
  deriving DecidableEq, Repr

/-- `_KEYS`. -/
def structuredKeys : List String :=
  ["verdict_id", "request_id", "control_id", "verdict", "failure_mode", "offending_span",
    "reason_code", "evidence_refs", "rubric_id", "rubric_version", "rubric_sha256", "judge_id",
    "judge_version", "input_manifest_sha256", "schema_version"]

def offendingSpanMaxChars : Nat := 500

/-- `VERDICT_ID_PATTERN`. -/
def VerdictIdPattern (text : String) : Prop :=
  1 ≤ text.toList.length ∧ text.toList.length ≤ 128 ∧
    ∀ c ∈ text.toList, c.isAlphanum = true ∨ c ∈ ['.', '_', ':', '-']

instance (text : String) : Decidable (VerdictIdPattern text) :=
  inferInstanceAs (Decidable (_ ∧ _))

section Schema

variable {F : Type}

/-- A record before its validation: any value in a field that is not an enumeration. -/
structure Draft (F : Type) where
  verdictId : Json F
  requestId : Json F
  controlId : Json F
  verdict : JudgeVerdictState
  reasonCode : JudgeVerdictReason
  evidenceRefs : List (Json F)
  rubricId : Json F
  rubricVersion : Json F
  rubricSha256 : Json F
  judgeId : Json F
  judgeVersion : Json F
  inputManifestSha256 : Json F
  failureMode : Option FailureMode
  offendingSpan : Json F
  schemaVersion : Json F

/-- `isinstance(value, str) and bool(value)`. -/
def nonEmptyText? (value : Json F) : Option String := value.text?.filter (· ≠ "")

def nonEmptyField (value : Json F) (field : String) : Except Fault String :=
  fetch (nonEmptyText? value) (.runnerError (field ++ " must be non-empty"))

def sha256Field (value : Json F) (field : String) : Except Fault String :=
  fetch (value.text?.filter fun text => IsSha256 text)
    (.runnerError (field ++ " must be a 64-hex SHA-256"))

/-- `self.control_id in VALID_CONTROL_IDS` hashes the value. -/
def controlField (value : Json F) : Except Fault String := do
  require (value.hashable = true) .typeError
  fetch (value.text?.filter (· ∈ validControlIds))
    (.runnerError "control_id must be a Scenario A control A-Q")

/-- `offending_span`, bounded unless it is `None`. -/
def spanField : Json F → Except Fault (Option String)
  | .null => .ok none
  | value => do
      let span ← fetch (value.text?.filter (·.toList.length ≤ offendingSpanMaxChars))
        (.runnerError "offending_span is bounded to 500 chars (no unbounded free-form field)")
      pure (some span)

def isNone : Json F → Bool
  | .null => true
  | _ => false

/-- The checks on a state together with the fields it requires. -/
def Draft.coherence (draft : Draft F) : Except Fault Unit :=
  match draft.verdict with
  | .pass => do
      require (draft.failureMode = none) (.runnerError "PASS carries no failure_mode")
      require (isNone draft.offendingSpan = true) (.runnerError "PASS carries no offending_span")
      require (draft.reasonCode = .meetsRubric)
        (.runnerError "PASS requires reason MEETS_RUBRIC")
      require (draft.evidenceRefs.isEmpty = false) (.runnerError "PASS requires evidence refs")
  | .fail => do
      require (draft.failureMode ≠ none) (.runnerError "FAIL requires an explicit failure_mode")
      require (draft.reasonCode = .violatesRubric)
        (.runnerError "FAIL requires reason VIOLATES_RUBRIC")
      require (draft.evidenceRefs.isEmpty = false) (.runnerError "FAIL requires evidence refs")
  | .abstain => do
      require (draft.failureMode = none) (.runnerError "ABSTAIN carries no failure_mode")
      require (isNone draft.offendingSpan = true)
        (.runnerError "ABSTAIN carries no offending_span")
      require (draft.reasonCode = .insufficientEvidence)
        (.runnerError "ABSTAIN requires reason INSUFFICIENT_EVIDENCE")

/-- The six names that come first. -/
structure Names where
  verdictId : String
  requestId : String
  rubricId : String
  rubricVersion : String
  judgeId : String
  judgeVersion : String

def Draft.names (draft : Draft F) : Except Fault Names := do
  let verdictId ← nonEmptyField draft.verdictId "verdict_id"
  let requestId ← nonEmptyField draft.requestId "request_id"
  let rubricId ← nonEmptyField draft.rubricId "rubric_id"
  let rubricVersion ← nonEmptyField draft.rubricVersion "rubric_version"
  let judgeId ← nonEmptyField draft.judgeId "judge_id"
  let judgeVersion ← nonEmptyField draft.judgeVersion "judge_version"
  pure ⟨verdictId, requestId, rubricId, rubricVersion, judgeId, judgeVersion⟩

/-- The checks of `validate` after the one of `control_id`. -/
def Draft.afterControl (draft : Draft F) (names : Names) (controlId : String) :
    Except Fault StructuredVerdict := do
  require (VerdictIdPattern names.verdictId) (.runnerError
    ("verdict_id must be a bounded identifier (1-128 chars of [A-Za-z0-9._:-]); " ++
      "it is never a free-form field"))
  let rubricSha256 ← sha256Field draft.rubricSha256 "rubric_sha256"
  let inputManifestSha256 ← sha256Field draft.inputManifestSha256 "input_manifest_sha256"
  let evidenceRefs ← fetch (draft.evidenceRefs.mapM nonEmptyText?)
    (.runnerError "evidence_refs must be a tuple of non-empty strings")
  draft.coherence
  let offendingSpan ← spanField draft.offendingSpan
  require (draft.schemaVersion.text? = some gradingSchemaVersion)
    (.runnerError ("schema_version must be " ++ gradingSchemaVersion))
  pure { verdictId := names.verdictId, requestId := names.requestId, controlId
         verdict := draft.verdict, reasonCode := draft.reasonCode, evidenceRefs
         rubricId := names.rubricId, rubricVersion := names.rubricVersion, rubricSha256
         judgeId := names.judgeId, judgeVersion := names.judgeVersion, inputManifestSha256
         failureMode := draft.failureMode, offendingSpan }

/-- `validate`: the record with the types it was checked to have. -/
def Draft.validate (draft : Draft F) : Except Fault StructuredVerdict := do
  let names ← draft.names
  let controlId ← controlField draft.controlId
  draft.afterControl names controlId

/-- `StrictEnum.parse`. -/
def parseEnum {α : Type} [Vocabulary α] (members : List α) (name : String) (value : Json F) :
    Except Fault α :=
  fetch (readOne members value) (.runnerError (name ++ ": unknown value"))

/-- `FailureMode.parse(value) if value is not None else None`. -/
def parseFailureMode : Json F → Except Fault (Option FailureMode)
  | .null => .ok none
  | value => some <$> parseEnum FailureMode.all "FailureMode" value

/-- The record of `from_dict` before `validate`. -/
def draftOf (fields : List (String × Json F)) : Except Fault (Draft F) := do
  let value (key : String) := (Json.object fields).getD key .null
  require (∀ key ∈ fields.map Prod.fst, key ∈ structuredKeys)
    (.runnerError "StructuredVerdict: unknown keys")
  require (∀ key ∈ structuredKeys, key ∈ fields.map Prod.fst)
    (.runnerError "StructuredVerdict: missing keys")
  let evidenceRefs ← fetch (value "evidence_refs").items?
    (.runnerError "evidence_refs must be a JSON list, never a string")
  let verdict ← parseEnum JudgeVerdictState.all "JudgeVerdictState" (value "verdict")
  let failureMode ← parseFailureMode (value "failure_mode")
  let reasonCode ← parseEnum JudgeVerdictReason.all "JudgeVerdictReason" (value "reason_code")
  pure { verdictId := value "verdict_id", requestId := value "request_id"
         controlId := value "control_id", verdict, failureMode
         offendingSpan := value "offending_span", reasonCode, evidenceRefs
         rubricId := value "rubric_id", rubricVersion := value "rubric_version"
         rubricSha256 := value "rubric_sha256", judgeId := value "judge_id"
         judgeVersion := value "judge_version"
         inputManifestSha256 := value "input_manifest_sha256"
         schemaVersion := value "schema_version" }

def StructuredVerdict.fromDict (fields : List (String × Json F)) : Except Fault StructuredVerdict := do
  let draft ← draftOf fields
  draft.validate

/-! ## What is accepted -/

theorem Draft.coherence_ok {draft : Draft F} (checked : draft.coherence = .ok ()) :
    Coherent draft.verdict draft.reasonCode draft.failureMode := by
  unfold Draft.coherence at checked
  unfold Coherent
  cases state : draft.verdict with
  | pass =>
      simp only [state, bind_eq_ok, require_eq_ok] at checked
      obtain ⟨_, noMode, _, -, _, reason, -⟩ := checked
      exact ⟨noMode, reason⟩
  | fail =>
      simp only [state, bind_eq_ok, require_eq_ok] at checked
      obtain ⟨_, mode, _, reason, -⟩ := checked
      exact ⟨mode, reason⟩
  | abstain =>
      simp only [state, bind_eq_ok, require_eq_ok] at checked
      obtain ⟨_, noMode, _, -, reason⟩ := checked
      exact ⟨noMode, reason⟩

/-- **An accepted object is coherent.** -/
theorem StructuredVerdict.fromDict_ok {fields : List (String × Json F)} {verdict : StructuredVerdict}
    (accepted : fromDict fields = .ok verdict) :
    Coherent verdict.verdict verdict.reasonCode verdict.failureMode := by
  unfold fromDict at accepted
  obtain ⟨draft, -, validated⟩ := bind_eq_ok.mp accepted
  simp only [Draft.validate, Draft.afterControl, bind_eq_ok, pure_eq_ok] at validated
  obtain ⟨_, -, _, -, _, -, _, -, _, -, _, -, _, coherent, _, -, _, -, rfl⟩ := validated
  exact Draft.coherence_ok coherent

/-! ## What is raised -/

theorem raises_nonEmptyField (value : Json F) (field : String) :
    Raises IsRunnerError (nonEmptyField value field) :=
  raises_fetch _ (Fault.isRunnerError _)

theorem raises_names (draft : Draft F) : Raises IsRunnerError draft.names := by
  refine (raises_nonEmptyField _ _).bind fun _ => (raises_nonEmptyField _ _).bind fun _ =>
    (raises_nonEmptyField _ _).bind fun _ => (raises_nonEmptyField _ _).bind fun _ =>
    (raises_nonEmptyField _ _).bind fun _ => (raises_nonEmptyField _ _).bind fun _ => raises_pure _

theorem raises_coherence (draft : Draft F) : Raises IsRunnerError draft.coherence := by
  have check : ∀ (condition : Prop) [Decidable condition] (message : String),
      Raises IsRunnerError (require.{0, 0} condition (.runnerError message)) :=
    fun condition _ message => raises_require condition (Fault.isRunnerError message)
  unfold Draft.coherence
  cases draft.verdict with
  | pass => exact (check _ _).bind fun _ => (check _ _).bind fun _ => (check _ _).bind fun _ => check _ _
  | fail => exact (check _ _).bind fun _ => (check _ _).bind fun _ => check _ _
  | abstain => exact (check _ _).bind fun _ => (check _ _).bind fun _ => check _ _

theorem raises_spanField (value : Json F) : Raises IsRunnerError (spanField value) := by
  unfold spanField
  split
  · exact raises_pure _
  · exact (raises_fetch _ (Fault.isRunnerError _)).bind fun _ => raises_pure _

theorem raises_parseEnum {α : Type} [Vocabulary α] (members : List α) (name : String)
    (value : Json F) : Raises IsRunnerError (parseEnum members name value) :=
  raises_fetch _ (Fault.isRunnerError _)

theorem raises_parseFailureMode (value : Json F) : Raises IsRunnerError (parseFailureMode value) := by
  unfold parseFailureMode
  split
  · exact raises_pure _
  · rw [map_eq_pure_bind]
    exact (raises_parseEnum _ _ _).bind fun _ => raises_pure _

theorem raises_draftOf (fields : List (String × Json F)) : Raises IsRunnerError (draftOf fields) :=
  (raises_require _ (Fault.isRunnerError _)).bind fun _ =>
    (raises_require _ (Fault.isRunnerError _)).bind fun _ =>
    (raises_fetch _ (Fault.isRunnerError _)).bind fun _ => (raises_parseEnum _ _ _).bind fun _ =>
    (raises_parseFailureMode _).bind fun _ => (raises_parseEnum _ _ _).bind fun _ => raises_pure _

theorem controlField_error {value : Json F} {fault : Fault} (other : ¬ IsRunnerError fault) :
    controlField value = .error fault ↔ value.hashable = false ∧ fault = .typeError := by
  unfold controlField
  cases hashed : value.hashable with
  | true =>
      constructor
      · intro raised
        exact absurd (raises_fetch _ (Fault.isRunnerError _) _ raised) other
      · rintro ⟨none, -⟩
        cases none
  | false =>
      constructor
      · intro raised
        exact ⟨rfl, (Except.error.inj raised).symm⟩
      · rintro ⟨-, rfl⟩
        rfl

theorem raises_afterControl (draft : Draft F) (names : Names) (controlId : String) :
    Raises IsRunnerError (draft.afterControl names controlId) :=
  (raises_require _ (Fault.isRunnerError _)).bind fun _ =>
    (raises_fetch _ (Fault.isRunnerError _)).bind fun _ =>
    (raises_fetch _ (Fault.isRunnerError _)).bind fun _ =>
    (raises_fetch _ (Fault.isRunnerError _)).bind fun _ => (raises_coherence draft).bind fun _ =>
    (raises_spanField _).bind fun _ => (raises_require _ (Fault.isRunnerError _)).bind fun _ =>
    raises_pure _

/-- The validation raises something else only where it hashes `control_id`. -/
theorem Draft.validate_error {draft : Draft F} {fault : Fault} (other : ¬ IsRunnerError fault) :
    draft.validate = .error fault ↔
      (∃ names, draft.names = .ok names) ∧ draft.controlId.hashable = false ∧
        fault = .typeError := by
  unfold Draft.validate
  rw [bind_eq_error_later (raises_names draft) other]
  constructor
  · rintro ⟨names, read, raised⟩
    rw [bind_eq_error_first (raises_afterControl draft names) other, controlField_error other] at raised
    exact ⟨⟨names, read⟩, raised⟩
  · rintro ⟨⟨names, read⟩, raised⟩
    refine ⟨names, read, ?_⟩
    rw [bind_eq_error_first (raises_afterControl draft names) other, controlField_error other]
    exact raised

/-- The object whose `control_id` cannot be hashed, and whose fields before that test are well
formed. -/
structure UnhashableControl (fields : List (String × Json F)) : Prop where
  keys : ∀ key, key ∈ fields.map Prod.fst ↔ key ∈ structuredKeys
  refs : ∃ items, (Json.object fields).getD "evidence_refs" .null = .array items
  state : ∃ state : JudgeVerdictState, (Json.object fields).getD "verdict" .null = .word state
  failure : ∃ mode : Option FailureMode,
    (Json.object fields).getD "failure_mode" .null = FailureMode.json mode
  reason : ∃ reason : JudgeVerdictReason,
    (Json.object fields).getD "reason_code" .null = .word reason
  names : ∀ key ∈ ["verdict_id", "request_id", "rubric_id", "rubric_version", "judge_id",
    "judge_version"], ∃ text, text ≠ "" ∧ (Json.object fields).getD key .null = .str text
  control : ((Json.object fields).getD "control_id" .null).hashable = false

theorem text?_eq_some {value : Json F} {text : String} :
    value.text? = some text ↔ value = .str text := by
  cases value <;> simp [Json.text?]

theorem nonEmptyField_ok {value : Json F} {field text : String} :
    nonEmptyField value field = .ok text ↔ text ≠ "" ∧ value = .str text := by
  unfold nonEmptyField nonEmptyText?
  rw [fetch_eq_ok, Option.filter_eq_some_iff, text?_eq_some, decide_eq_true_eq]
  exact and_comm

theorem items?_eq_some {value : Json F} {items : List (Json F)} :
    value.items? = some items ↔ value = .array items := by
  cases value <;> simp [Json.items?]

theorem parseFailureMode_ok {value : Json F} {mode : Option FailureMode} :
    parseFailureMode value = .ok mode ↔ value = FailureMode.json mode := by
  constructor
  · intro read
    unfold parseFailureMode at read
    split at read
    · rw [← Except.ok.inj read]
      rfl
    · obtain ⟨found, named, rfl⟩ := map_eq_ok.mp read
      exact (readOne_eq_some.mp (fetch_eq_ok.mp named)).2
  · rintro rfl
    cases mode with
    | none => rfl
    | some mode =>
        exact map_eq_ok.mpr ⟨mode, fetch_eq_ok.mpr (readOne_word (FailureMode.mem_all mode)), rfl⟩

theorem Draft.names_ok {draft : Draft F} :
    (∃ names, draft.names = .ok names) ↔
      ∀ value ∈ [draft.verdictId, draft.requestId, draft.rubricId, draft.rubricVersion,
        draft.judgeId, draft.judgeVersion], ∃ text, text ≠ "" ∧ value = .str text := by
  simp only [Draft.names, bind_eq_ok, pure_eq_ok, nonEmptyField_ok, List.forall_mem_cons,
    List.not_mem_nil, false_implies, implies_true, and_true]
  constructor
  · rintro ⟨_, _, first, _, second, _, third, _, fourth, _, fifth, _, sixth, -⟩
    exact ⟨⟨_, first⟩, ⟨_, second⟩, ⟨_, third⟩, ⟨_, fourth⟩, ⟨_, fifth⟩, ⟨_, sixth⟩⟩
  · rintro ⟨⟨_, first⟩, ⟨_, second⟩, ⟨_, third⟩, ⟨_, fourth⟩, ⟨_, fifth⟩, ⟨_, sixth⟩⟩
    exact ⟨_, _, first, _, second, _, third, _, fourth, _, fifth, _, sixth, rfl⟩

/-- **An object raises something other than a `RunnerError` exactly when the membership test hashes
a list or an object.** -/
theorem StructuredVerdict.fromDict_error {fields : List (String × Json F)} {fault : Fault}
    (other : ¬ IsRunnerError fault) :
    fromDict fields = .error fault ↔ UnhashableControl fields ∧ fault = .typeError := by
  unfold fromDict
  rw [bind_eq_error_later (raises_draftOf fields) other]
  simp only [Draft.validate_error other, Draft.names_ok]
  constructor
  · rintro ⟨draft, drafted, names, control, rfl⟩
    simp only [draftOf, bind_eq_ok, pure_eq_ok, require_eq_ok, fetch_eq_ok, items?_eq_some,
      parseFailureMode_ok, parseEnum, readOne_eq_some] at drafted
    obtain ⟨_, known, _, needed, items, refs, state, ⟨-, isState⟩, mode, failure, reason,
      ⟨-, isReason⟩, rfl⟩ := drafted
    refine ⟨⟨fun key => ⟨known key, needed key⟩, ⟨items, refs⟩, ⟨state, isState⟩, ⟨mode, failure⟩,
      ⟨reason, isReason⟩, ?_, control⟩, rfl⟩
    simpa only [List.forall_mem_cons, List.not_mem_nil, false_implies, implies_true,
      and_true] using names
  · rintro ⟨⟨keys, ⟨items, refs⟩, ⟨state, isState⟩, ⟨mode, failure⟩, ⟨reason, isReason⟩, names,
      control⟩, rfl⟩
    simp only [draftOf, bind_eq_ok, pure_eq_ok, require_eq_ok, fetch_eq_ok, items?_eq_some,
      parseFailureMode_ok, parseEnum, readOne_eq_some]
    refine ⟨_, ⟨⟨⟩, fun key => (keys key).mp, ⟨⟩, fun key => (keys key).mpr, items, refs, state,
      ⟨JudgeVerdictState.mem_all state, isState⟩, mode, failure, reason,
      ⟨JudgeVerdictReason.mem_all reason, isReason⟩, rfl⟩, ?_, control, trivial⟩
    simpa only [List.forall_mem_cons, List.not_mem_nil, false_implies, implies_true,
      and_true] using names

end Schema

end Aegis.Judge
