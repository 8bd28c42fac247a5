/-
# Judge.Binding — the envelope that a request binds

`judge/envelope.py`: `validateRequestEnvelopeBinding` compares a request with an envelope, and the
envelope with the trusted grading contract and the closed rubric registry. A mismatch is a
`RunnerError`. The criteria of the envelope's rubric go through `list(..)`, which raises a
`TypeError` on a value that is not iterable.
-/
import Aegis.Judge.Interface
import Aegis.Lib.PythonJson

namespace Aegis.Judge

open Aegis.Lib
open Aegis.Lib.Guarded

set_option autoImplicit false

/-- A rubric of `judge/rubric.py`. -/
structure Rubric where
  rubricId : String
  rubricVersion : String
  question : String
  passCriteria : List String
  failCriteria : List String
  nonClaim : String

/-- What the binding reads of a control of the grading contract. -/
structure ScenarioAControl where
  controlId : String
  requirement : String
  classification : String
  semanticRubricRef : Option String

/-- What the binding reads of the grading contract. -/
structure GradingContract where
  controls : List ScenarioAControl
  contractHash : String

/-- The trusted sources: the grading contract, the rubric registry and the hash of a text. -/
structure Trusted where
  contract : GradingContract
  rubrics : List Rubric
  sha256Hex : String → String

def envelopeVersion : String := "1.0.0-wp2b2"

/-- `ALLOWED_EVIDENCE_KEYS`. -/
def allowedEvidenceKeys : List String :=
  ["transcript", "deterministic_evidence", "activation_evidence", "recording_evidence"]

section Binding

variable {F : Type} [JsonFloat F]

omit [JsonFloat F] in
def Rubric.toDict (rubric : Rubric) : Json F :=
  .dict [("rubric_id", .str rubric.rubricId), ("rubric_version", .str rubric.rubricVersion),
    ("question", .str rubric.question),
    ("pass_criteria", .array (rubric.passCriteria.map .str)),
    ("fail_criteria", .array (rubric.failCriteria.map .str)),
    ("non_claim", .str rubric.nonClaim)]

namespace Trusted

variable (trusted : Trusted)

/-- `sha256_of_obj`. -/
def sha256OfObj (value : Json F) : Except Fault String := do
  require (value.finite = true ∧ value.convertible = true)
    (.runnerError "cannot be canonicalized")
  pure (trusted.sha256Hex (String.ofList value.canonical))

/-- `rubric_sha256`: a rubric of texts is canonical JSON. -/
def rubricSha256 (F : Type) [JsonFloat F] (rubric : Rubric) : String :=
  trusted.sha256Hex (String.ofList (rubric.toDict : Json F).canonical)

/-- `get_rubric`. -/
def getRubric (rubricRef : String) : Except Fault Rubric :=
  fetch (trusted.rubrics.find? fun rubric => rubric.rubricId = rubricRef)
    (.runnerError "unknown rubric; the rubric registry is closed")

end Trusted

/-- `mapping.get(key)` is the text. -/
def HasText (fields : List (String × Json F)) (key text : String) : Prop :=
  ((Json.object fields).getD key .null).text? = some text

omit [JsonFloat F] in
instance (fields : List (String × Json F)) (key text : String) : Decidable (HasText fields key text) :=
  inferInstanceAs (Decidable (_ = _))

/-- The dictionary under a key. -/
def section? (fields : List (String × Json F)) (key : String) : Option (List (String × Json F)) :=
  ((Json.object fields).getD key .null).fields?

/-- `list(mapping.get(key, []))` is the list of the texts. -/
def criteria (fields : List (String × Json F)) (key : String) (texts : List String) :
    Except Fault Bool := do
  let items ← fetch ((Json.object fields).getD key (.array [])).pythonList .typeError
  pure (items.mapM Json.text? = some texts)

variable (trusted : Trusted) (request : JudgeRequest) (envelope : List (String × Json F))

/-- The checks of the request against the envelope: the envelope's rubric and its control context. -/
def bindRequest : Except Fault (List (String × Json F) × List (String × Json F)) := do
  request.validate
  require (HasText envelope "envelope_version" envelopeVersion)
    (.runnerError "envelope version is not compatible")
  require (request.schemaVersion = gradingSchemaVersion)
    (.runnerError "request schema_version incompatible")
  let digest ← trusted.sha256OfObj (.object envelope)
  require (request.envelopeSha256 = digest)
    (.runnerError "request.envelope_sha256 does not match the actual envelope")
  require (HasText envelope "input_manifest_sha256" request.inputManifestSha256)
    (.runnerError
      "request.input_manifest_sha256 does not match the envelope's stage-A manifest hash")
  let mismatch := Fault.runnerError "request rubric identity does not match the envelope rubric"
  let rubric ← fetch (section? envelope "rubric") mismatch
  require (HasText rubric "rubric_id" request.rubricId ∧
    HasText rubric "rubric_version" request.rubricVersion ∧
    HasText rubric "rubric_sha256" request.rubricSha256) mismatch
  require (HasText envelope "policy_version" request.judge.policyVersion ∧
    HasText envelope "policy_sha256" request.judge.policySha256)
    (.runnerError "request judge policy identity does not match the envelope")
  let context ← fetch (section? envelope "control_context")
    (.runnerError "envelope has no trusted control context")
  require (HasText context "control_id" request.controlId)
    (.runnerError "request control does not match the envelope control context")
  pure (rubric, context)

/-- The checks of the control context against the trusted contract: the trusted rubric. -/
def bindContext (context : List (String × Json F)) : Except Fault Rubric := do
  require (HasText context "contract_sha256" trusted.contract.contractHash)
    (.runnerError
      "envelope control-context contract hash does not match the current trusted grading contract")
  let absent := Fault.runnerError "no semantic component in the contract"
  let control ← fetch
    (trusted.contract.controls.find? fun control => control.controlId = request.controlId) absent
  let rubricRef ← fetch control.semanticRubricRef absent
  require (HasText context "requirement" control.requirement ∧
    HasText context "classification" control.classification ∧
    HasText context "semantic_rubric_ref" rubricRef)
    (.runnerError
      "envelope control context does not equal the trusted contract's control content")
  trusted.getRubric rubricRef

/-- The checks before the criteria: the envelope's rubric and the trusted one. -/
def bindIdentities : Except Fault (List (String × Json F) × Rubric) := do
  let bound ← bindRequest trusted request envelope
  let rubric ← bindContext trusted request bound.2
  require (HasText bound.1 "rubric_id" rubric.rubricId ∧
    HasText bound.1 "rubric_version" rubric.rubricVersion ∧
    HasText bound.1 "rubric_sha256" (trusted.rubricSha256 F rubric) ∧
    HasText bound.1 "question" rubric.question)
    (.runnerError "envelope rubric body does not equal the trusted closed-registry rubric")
  pure (bound.1, rubric)

/-- The criteria of the envelope's rubric against those of the trusted one. -/
def compareCriteria (rubric : List (String × Json F)) (trustedRubric : Rubric) :
    Except Fault Unit := do
  let substituted :=
    Fault.runnerError "envelope rubric body does not equal the trusted closed-registry rubric"
  let pass ← criteria rubric "pass_criteria" trustedRubric.passCriteria
  require (pass = true) substituted
  let fail ← criteria rubric "fail_criteria" trustedRubric.failCriteria
  require (fail = true) substituted

/-- The keys of the untrusted data are evidence keys. -/
def checkEvidenceKeys : Except Fault Unit := do
  let outside := Fault.runnerError "envelope evidence keys are outside the closed set"
  let data ← fetch (section? envelope "untrusted_data") outside
  require (∀ key ∈ data.map Prod.fst, key ∈ allowedEvidenceKeys) outside

/-- `validate_request_envelope_binding`. -/
def validateRequestEnvelopeBinding : Except Fault Unit := do
  let bound ← bindIdentities trusted request envelope
  compareCriteria bound.1 bound.2
  checkEvidenceKeys envelope

/-- `tuple(envelope["untrusted_data"])` of a bound envelope. -/
def untrustedKeys : List String :=
  ((section? envelope "untrusted_data").getD []).map Prod.fst

/-! ## What the binding raises -/

variable {trusted request envelope}

theorem raises_bindRequest : Raises IsRunnerError (bindRequest trusted request envelope) := by
  have check : ∀ (condition : Prop) [Decidable condition] (message : String),
      Raises IsRunnerError (require.{0, 0} condition (.runnerError message)) :=
    fun condition _ message => raises_require condition (Fault.isRunnerError message)
  have digest : Raises IsRunnerError (trusted.sha256OfObj (.object envelope)) :=
    (check _ _).bind fun _ => raises_pure _
  refine request.raises_validate.bind fun _ => (check _ _).bind fun _ => (check _ _).bind fun _ =>
    digest.bind fun _ => (check _ _).bind fun _ => (check _ _).bind fun _ => ?_
  exact (raises_fetch _ (Fault.isRunnerError _)).bind fun _ => (check _ _).bind fun _ =>
    (check _ _).bind fun _ => (raises_fetch _ (Fault.isRunnerError _)).bind fun _ =>
    (check _ _).bind fun _ => raises_pure _

omit [JsonFloat F] in
theorem raises_bindContext (context : List (String × Json F)) :
    Raises IsRunnerError (bindContext trusted request context) :=
  (raises_require _ (Fault.isRunnerError _)).bind fun _ =>
    (raises_fetch _ (Fault.isRunnerError _)).bind fun _ =>
    (raises_fetch _ (Fault.isRunnerError _)).bind fun _ =>
    (raises_require _ (Fault.isRunnerError _)).bind fun _ =>
    raises_fetch _ (Fault.isRunnerError _)

theorem raises_bindIdentities : Raises IsRunnerError (bindIdentities trusted request envelope) :=
  raises_bindRequest.bind fun _ => (raises_bindContext _).bind fun _ =>
    (raises_require _ (Fault.isRunnerError _)).bind fun _ => raises_pure _

/-- `list(mapping.get(key, []))` raises no `TypeError`. -/
def Iterable (fields : List (String × Json F)) (key : String) : Prop :=
  ((Json.object fields).getD key (.array [])).pythonList.isSome = true

omit [JsonFloat F] in
theorem criteria_error {fields : List (String × Json F)} {key : String} {texts : List String}
    {fault : Fault} :
    criteria fields key texts = .error fault ↔ ¬ Iterable fields key ∧ fault = .typeError := by
  unfold criteria Iterable
  cases ((Json.object fields).getD key (.array [])).pythonList with
  | none =>
      constructor
      · intro raised
        exact ⟨Bool.false_ne_true, (Except.error.inj raised).symm⟩
      · rintro ⟨-, rfl⟩
        rfl
  | some items =>
      constructor
      · intro raised
        cases raised
      · rintro ⟨none, -⟩
        exact absurd rfl none

/-- The criteria that are compared can be listed. -/
structure CriteriaListed (rubric : List (String × Json F)) (trustedRubric : Rubric) : Prop where
  pass : Iterable rubric "pass_criteria"
  fail : criteria rubric "pass_criteria" trustedRubric.passCriteria = .ok true →
    Iterable rubric "fail_criteria"

omit [JsonFloat F] in
theorem compareCriteria_error {rubric : List (String × Json F)} {trustedRubric : Rubric}
    {fault : Fault} (other : ¬ IsRunnerError fault) :
    compareCriteria rubric trustedRubric = .error fault ↔
      ¬ CriteriaListed rubric trustedRubric ∧ fault = .typeError := by
  unfold compareCriteria
  cases compared : criteria rubric "pass_criteria" trustedRubric.passCriteria with
  | error found =>
      obtain ⟨unlisted, rfl⟩ := criteria_error.mp compared
      constructor
      · intro raised
        exact ⟨fun listed => unlisted listed.pass, (Except.error.inj raised).symm⟩
      · rintro ⟨-, rfl⟩
        rfl
  | ok same =>
      have pass : Iterable rubric "pass_criteria" := by
        by_contra unlisted
        rw [criteria_error.mpr ⟨unlisted, rfl⟩] at compared
        cases compared
      cases same with
      | false =>
          constructor
          · intro raised
            exact absurd ⟨_, (Except.error.inj raised).symm⟩ other
          · rintro ⟨unlisted, -⟩
            refine absurd ⟨pass, fun equal => ?_⟩ unlisted
            rw [compared] at equal
            cases equal
      | true =>
          show (criteria rubric "fail_criteria" trustedRubric.failCriteria >>= _) = _ ↔ _
          rw [bind_eq_error_first (fun _ => raises_require _ (Fault.isRunnerError _)) other,
            criteria_error]
          refine and_congr_left fun _ => not_congr ?_
          exact ⟨fun fail => ⟨pass, fun _ => fail⟩, fun listed => listed.fail compared⟩

/-- The binding raises something other than a `RunnerError` only where it lists the criteria. -/
theorem validateRequestEnvelopeBinding_error {fault : Fault} (other : ¬ IsRunnerError fault) :
    validateRequestEnvelopeBinding trusted request envelope = .error fault ↔
      ∃ bound, bindIdentities trusted request envelope = .ok bound ∧
        ¬ CriteriaListed bound.1 bound.2 ∧ fault = .typeError := by
  have keys : Raises IsRunnerError (checkEvidenceKeys envelope) :=
    (raises_fetch _ (Fault.isRunnerError _)).bind fun _ =>
      raises_require _ (Fault.isRunnerError _)
  unfold validateRequestEnvelopeBinding
  rw [bind_eq_error_later raises_bindIdentities other]
  refine exists_congr fun bound => and_congr_right fun _ => ?_
  rw [bind_eq_error_first (fun _ => keys) other, compareCriteria_error other]

end Binding

end Aegis.Judge
