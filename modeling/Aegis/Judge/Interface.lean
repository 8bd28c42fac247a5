/-
# Judge.Interface — requests and responses of a judge

`judge/interface.py`: the pinned identity of a judge, a judgment request and the response of a
dispatch. `validate` raises a `SchemaValidationError` on a record that is not well formed.
-/
import Aegis.Lib.Guarded
import Mathlib.Data.String.Basic

namespace Aegis.Judge

open Aegis.Lib.Guarded

set_option autoImplicit false

/-- What the judge modules raise. Every `RunnerError` they raise is a `SchemaValidationError` or, of
the same family, a `CanonicalizationError`; the values quoted in a message are left out. -/
inductive Fault
  | runnerError (message : String)
  | typeError
  | recursionError
  deriving DecidableEq, Repr

/-- A `RunnerError`. -/
def IsRunnerError (fault : Fault) : Prop := ∃ message, fault = .runnerError message

theorem Fault.isRunnerError (message : String) : IsRunnerError (.runnerError message) :=
  ⟨message, rfl⟩

theorem not_isRunnerError_typeError : ¬ IsRunnerError .typeError := by
  rintro ⟨_, same⟩
  cases same

theorem not_isRunnerError_recursionError : ¬ IsRunnerError .recursionError := by
  rintro ⟨_, same⟩
  cases same

def gradingSchemaVersion : String := "1.0.0-wp2b2"

/-- `VALID_CONTROL_IDS`. -/
def validControlIds : List String :=
  "ABCDEFGHIJKLMNOPQ".toList.map fun letter => "SCENARIO_A_CONTROL_" ++ String.singleton letter

/-- 64 hexadecimal digits in lower case. -/
def IsSha256 (text : String) : Prop :=
  text.toList.length = 64 ∧ ∀ c ∈ text.toList, c ∈ "0123456789abcdef".toList

instance (text : String) : Decidable (IsSha256 text) :=
  inferInstanceAs (Decidable (_ ∧ _))

/-- `_require_str` of a text. -/
def requireStr (value field : String) : Except Fault Unit :=
  require (value ≠ "") (.runnerError (field ++ " must be non-empty"))

/-- `_require_sha256` of a text. -/
def requireSha256 (value field : String) : Except Fault Unit :=
  require (IsSha256 value) (.runnerError (field ++ " must be a 64-hex SHA-256"))

inductive TransportOutcome
  | ok
  | timeout
  | transportError
  | refused
  | malformedOutput
  deriving DecidableEq, Repr

structure JudgeIdentity where
  judgeId : String
  judgeVersion : String
  modelIdentifier : String
  providerIdentifier : String
  policyVersion : String
  policySha256 : String
  deriving DecidableEq, Repr

def JudgeIdentity.validate (identity : JudgeIdentity) : Except Fault Unit := do
  requireStr identity.judgeId "judge_id"
  requireStr identity.judgeVersion "judge_version"
  requireStr identity.modelIdentifier "model_identifier"
  requireStr identity.providerIdentifier "provider_identifier"
  requireStr identity.policyVersion "policy_version"
  requireSha256 identity.policySha256 "policy_sha256"

structure JudgeRequest where
  requestId : String
  controlId : String
  judge : JudgeIdentity
  rubricId : String
  rubricVersion : String
  rubricSha256 : String
  envelopeSha256 : String
  inputManifestSha256 : String
  assertionUid : Option String := none
  calibrationDatasetId : Option String := none
  calibrationDatasetVersion : Option String := none
  calibrationDatasetSha256 : Option String := none
  schemaVersion : String := gradingSchemaVersion
  deriving DecidableEq, Repr

namespace JudgeRequest

def validateUid (request : JudgeRequest) : Except Fault Unit :=
  match request.assertionUid with
  | none => pure ()
  | some uid => requireStr uid "assertion_uid"

/-- The identity of the calibration dataset is complete or absent. -/
def validateDataset (request : JudgeRequest) : Except Fault Unit :=
  match request.calibrationDatasetId, request.calibrationDatasetVersion,
    request.calibrationDatasetSha256 with
  | none, none, none => pure ()
  | some _, some _, some digest => requireSha256 digest "calibration_dataset_sha256"
  | _, _, _ =>
      .error (.runnerError "calibration dataset identity must be complete or absent")

def validate (request : JudgeRequest) : Except Fault Unit := do
  requireStr request.requestId "request_id"
  require (request.controlId ∈ validControlIds)
    (.runnerError "control_id must be a Scenario A control A-Q")
  request.judge.validate
  requireStr request.rubricId "rubric_id"
  requireStr request.rubricVersion "rubric_version"
  requireSha256 request.rubricSha256 "rubric_sha256"
  requireSha256 request.envelopeSha256 "envelope_sha256"
  requireSha256 request.inputManifestSha256 "input_manifest_sha256"
  request.validateUid
  request.validateDataset
  require (request.schemaVersion = gradingSchemaVersion)
    (.runnerError ("schema_version must be " ++ gradingSchemaVersion))

end JudgeRequest

structure JudgeResponse where
  requestId : String
  responseId : String
  transportOutcome : TransportOutcome
  rawOutput : Option String
  deriving DecidableEq, Repr

def JudgeResponse.validate (response : JudgeResponse) : Except Fault Unit := do
  requireStr response.requestId "request_id"
  requireStr response.responseId "response_id"

/-! ## What the checks raise -/

theorem raises_requireStr (value field : String) : Raises IsRunnerError (requireStr value field) :=
  raises_require _ (Fault.isRunnerError _)

theorem raises_requireSha256 (value field : String) :
    Raises IsRunnerError (requireSha256 value field) :=
  raises_require _ (Fault.isRunnerError _)

theorem JudgeIdentity.raises_validate (identity : JudgeIdentity) :
    Raises IsRunnerError identity.validate :=
  (raises_requireStr _ _).bind fun _ => (raises_requireStr _ _).bind fun _ =>
    (raises_requireStr _ _).bind fun _ => (raises_requireStr _ _).bind fun _ =>
    (raises_requireStr _ _).bind fun _ => raises_requireSha256 _ _

theorem JudgeRequest.raises_validateUid (request : JudgeRequest) :
    Raises IsRunnerError request.validateUid := by
  unfold JudgeRequest.validateUid
  cases request.assertionUid with
  | none => exact raises_pure _
  | some uid => exact raises_requireStr _ _

theorem JudgeRequest.raises_validateDataset (request : JudgeRequest) :
    Raises IsRunnerError request.validateDataset := by
  unfold JudgeRequest.validateDataset
  split
  · exact raises_pure _
  · exact raises_requireSha256 _ _
  · intro fault raised
    exact Except.error.inj raised ▸ Fault.isRunnerError _

theorem JudgeRequest.raises_validate (request : JudgeRequest) :
    Raises IsRunnerError request.validate := by
  refine (raises_requireStr _ _).bind fun _ =>
    (raises_require _ (Fault.isRunnerError _)).bind fun _ =>
    request.judge.raises_validate.bind fun _ => (raises_requireStr _ _).bind fun _ =>
    (raises_requireStr _ _).bind fun _ => (raises_requireSha256 _ _).bind fun _ => ?_
  exact (raises_requireSha256 _ _).bind fun _ => (raises_requireSha256 _ _).bind fun _ =>
    request.raises_validateUid.bind fun _ => request.raises_validateDataset.bind fun _ =>
    raises_require _ (Fault.isRunnerError _)

end Aegis.Judge
