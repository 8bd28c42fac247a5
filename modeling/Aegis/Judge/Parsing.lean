/-
# Judge.Parsing — interpreting the output of a judge

`parse_judge_output` of `judge/verdict.py`: the raw output of a response becomes a verdict, or the
`JUDGE_ERROR` outcome of a named kind.

The function answers exactly on the inputs of `Answerable` (`parseJudgeOutput_interpreted_iff`): it
raises a `TypeError` on a verdict whose `control_id` is a list or an object, a `RecursionError`
where the decoder does, and a `TypeError` on an envelope whose criteria cannot be listed.
-/
import Aegis.Budget.Conservation
import Aegis.Judge.Binding
import Aegis.Judge.StructuredVerdict

namespace Aegis.Judge

open Aegis.Lib
open Aegis.Lib.Guarded

set_option autoImplicit false

/-- `JudgeOutcome`. -/
inductive JudgeOutcome
  | verdict (verdict : StructuredVerdict)
  | judgeError (kind : String)
  deriving DecidableEq, Repr

/-- Where the interpretation stops: `return _error(kind)`, or an exception that leaves the
function. -/
inductive Stop
  | judgeError (kind : String)
  | raised (fault : Fault)
  deriving DecidableEq, Repr

/-- `except RunnerError: return _error(kind)`. -/
def caught (kind : String) : Fault → Stop
  | .runnerError _ => .judgeError kind
  | fault => .raised fault

/-- `_TRANSPORT_ERROR_KINDS`. -/
def transportErrorKind : TransportOutcome → Option String
  | .ok => none
  | .timeout => some "TIMEOUT"
  | .transportError => some "TRANSPORT_ERROR"
  | .refused => some "REFUSED"
  | .malformedOutput => some "MALFORMED_OUTPUT"

def transported (outcome : TransportOutcome) : Except Stop Unit :=
  match transportErrorKind outcome with
  | none => .ok ()
  | some kind => .error (.judgeError kind)

section Parsing

variable {F : Type} [JsonFloat F] (exhausted : String → Bool) (trusted : Trusted)
  (response : JudgeResponse) (request : JudgeRequest) (envelope : List (String × Json F))

/-- The raw output of a bound request. -/
def rawOutput : Except Stop String := do
  (validateRequestEnvelopeBinding trusted request envelope).mapError (caught "BINDING_MISMATCH")
  transported response.transportOutcome
  require (response.requestId = request.requestId) (.judgeError "REQUEST_MISMATCH")
  fetch (response.rawOutput.filter (· ≠ "")) (.judgeError "MALFORMED_JSON")

variable (F) in
/-- `json.loads`. `exhausted` says on which texts the decoder raises a `RecursionError`. -/
def decodeOutput (raw : String) : Except Stop (List (String × Json F)) := do
  refuse (exhausted raw = true) (.raised .recursionError)
  let payload ← fetch (Json.loads raw.toList) (.judgeError "MALFORMED_JSON")
  fetch payload.fields? (.judgeError "MALFORMED_JSON")

/-- The checks of a verdict against the request and the keys of the untrusted data. -/
def matchRequest (keys : List String) (verdict : StructuredVerdict) : Except Stop Unit := do
  require (verdict.requestId = request.requestId) (.judgeError "REQUEST_MISMATCH")
  require (verdict.controlId = request.controlId) (.judgeError "REQUEST_MISMATCH")
  require (verdict.rubricSha256 = request.rubricSha256 ∧ verdict.rubricId = request.rubricId ∧
    verdict.rubricVersion = request.rubricVersion) (.judgeError "RUBRIC_MISMATCH")
  require (verdict.inputManifestSha256 = request.inputManifestSha256)
    (.judgeError "CONTRADICTORY_EVIDENCE")
  require (verdict.judgeId = request.judge.judgeId ∧
    verdict.judgeVersion = request.judge.judgeVersion) (.judgeError "REQUEST_MISMATCH")
  require (∀ ref ∈ verdict.evidenceRefs, ref ∈ keys) (.judgeError "CONTRADICTORY_EVIDENCE")

/-- The verdict of a response. -/
def readVerdict : Except Stop StructuredVerdict := do
  let raw ← rawOutput trusted response request envelope
  let fields ← decodeOutput F exhausted raw
  let verdict ← (StructuredVerdict.fromDict fields).mapError (caught "SCHEMA_INVALID")
  matchRequest request (untrustedKeys envelope) verdict
  pure verdict

/-- `parse_judge_output`. -/
def parseJudgeOutput : Except Fault JudgeOutcome := do
  response.validate
  request.validate
  match readVerdict exhausted trusted response request envelope with
  | .ok verdict => pure (.verdict verdict)
  | .error (.judgeError kind) => pure (.judgeError kind)
  | .error (.raised fault) => .error fault

/-! ## The claim of the module -/

/-- The verdict is one about the request, on its evidence, and coherent. -/
structure AboutRequest (verdict : StructuredVerdict) : Prop where
  requestId : verdict.requestId = request.requestId
  controlId : verdict.controlId = request.controlId
  rubric : verdict.rubricSha256 = request.rubricSha256 ∧ verdict.rubricId = request.rubricId ∧
    verdict.rubricVersion = request.rubricVersion
  manifest : verdict.inputManifestSha256 = request.inputManifestSha256
  judge : verdict.judgeId = request.judge.judgeId ∧
    verdict.judgeVersion = request.judge.judgeVersion
  evidence : ∀ ref ∈ verdict.evidenceRefs, ref ∈ untrustedKeys envelope
  coherent : Coherent verdict.verdict verdict.reasonCode verdict.failureMode

/-- The function returns, and returns a `JUDGE_ERROR` or a verdict about the request. -/
def Interpreted : Prop :=
  ∃ outcome, parseJudgeOutput exhausted trusted response request envelope = .ok outcome ∧
    ∀ verdict, outcome = .verdict verdict → AboutRequest request envelope verdict

/-- The inputs on which nothing but a `RunnerError` or a `ValueError` is raised. -/
structure Answerable : Prop where
  /-- The criteria can be listed, once the envelope carries the identities of the trusted rubric. -/
  criteria : ∀ bound, bindIdentities trusted request envelope = .ok bound →
    CriteriaListed bound.1 bound.2
  /-- The decoder does not run out of recursion. -/
  decoder : ∀ raw, rawOutput trusted response request envelope = .ok raw → exhausted raw = false
  /-- The control of an otherwise well formed verdict can be hashed. -/
  control : ∀ raw fields, rawOutput trusted response request envelope = .ok raw →
    Json.loads (F := F) raw.toList = some (.object fields) → ¬ UnhashableControl fields

/-! ## What stops the interpretation -/

variable {exhausted trusted response request envelope}

/-- A `return _error(..)`. -/
def IsJudgeError (stop : Stop) : Prop := ∃ kind, stop = .judgeError kind

theorem Stop.isJudgeError (kind : String) : IsJudgeError (.judgeError kind) := ⟨kind, rfl⟩

theorem Stop.raised_not (fault : Fault) : ¬ IsJudgeError (.raised fault) := by
  rintro ⟨_, same⟩
  cases same

/-- What is not a `RunnerError` is not caught. -/
theorem mapError_caught {α : Type} {kind : String} {computation : Except Fault α} {fault : Fault} :
    computation.mapError (caught kind) = .error (.raised fault) ↔
      computation = .error fault ∧ ¬ IsRunnerError fault := by
  cases computation with
  | ok value =>
      constructor
      · intro raised
        cases raised
      · rintro ⟨raised, -⟩
        cases raised
  | error found =>
      show Except.error (caught kind found) = _ ↔ _
      cases found with
      | runnerError message =>
          constructor
          · intro raised
            cases raised
          · rintro ⟨same, other⟩
            obtain rfl := Except.error.inj same
            exact absurd (Fault.isRunnerError message) other
      | typeError =>
          constructor
          · intro raised
            obtain rfl := Stop.raised.inj (Except.error.inj raised)
            exact ⟨rfl, not_isRunnerError_typeError⟩
          · rintro ⟨same, -⟩
            obtain rfl := Except.error.inj same
            rfl
      | recursionError =>
          constructor
          · intro raised
            obtain rfl := Stop.raised.inj (Except.error.inj raised)
            exact ⟨rfl, not_isRunnerError_recursionError⟩
          · rintro ⟨same, -⟩
            obtain rfl := Except.error.inj same
            rfl

theorem rawOutput_raised {fault : Fault} :
    rawOutput trusted response request envelope = .error (.raised fault) ↔
      ∃ bound, bindIdentities trusted request envelope = .ok bound ∧
        ¬ CriteriaListed bound.1 bound.2 ∧ fault = .typeError := by
  have transport : Raises IsJudgeError (transported response.transportOutcome) := by
    unfold transported
    split
    · exact raises_pure _
    · intro stop raised
      exact Except.error.inj raised ▸ Stop.isJudgeError _
  have later : Raises IsJudgeError (do
      transported response.transportOutcome
      require (response.requestId = request.requestId) (.judgeError "REQUEST_MISMATCH")
      fetch (response.rawOutput.filter (· ≠ "")) (.judgeError "MALFORMED_JSON")) :=
    transport.bind fun _ => (raises_require _ (Stop.isJudgeError _)).bind fun _ =>
      raises_fetch _ (Stop.isJudgeError _)
  unfold rawOutput
  rw [bind_eq_error_first (fun _ => later) (Stop.raised_not fault), mapError_caught]
  constructor
  · rintro ⟨raised, other⟩
    exact (validateRequestEnvelopeBinding_error other).mp raised
  · rintro ⟨bound, identities, unlisted, rfl⟩
    exact ⟨(validateRequestEnvelopeBinding_error not_isRunnerError_typeError).mpr
      ⟨bound, identities, unlisted, rfl⟩, not_isRunnerError_typeError⟩

theorem decodeOutput_raised {raw : String} {fault : Fault} :
    decodeOutput F exhausted raw = .error (.raised fault) ↔
      exhausted raw = true ∧ fault = .recursionError := by
  have later : Raises IsJudgeError (do
      let payload ← fetch (Json.loads (F := F) raw.toList) (.judgeError "MALFORMED_JSON")
      fetch payload.fields? (.judgeError "MALFORMED_JSON")) :=
    (raises_fetch _ (Stop.isJudgeError _)).bind fun _ => raises_fetch _ (Stop.isJudgeError _)
  unfold decodeOutput
  rw [bind_eq_error_first (fun _ => later) (Stop.raised_not fault)]
  cases deep : exhausted raw with
  | false =>
      constructor
      · intro raised
        cases raised
      · rintro ⟨none, -⟩
        cases none
  | true =>
      constructor
      · intro raised
        exact ⟨rfl, (Stop.raised.inj (Except.error.inj raised)).symm⟩
      · rintro ⟨-, rfl⟩
        rfl

theorem decodeOutput_ok {raw : String} {fields : List (String × Json F)} :
    decodeOutput F exhausted raw = .ok fields ↔
      exhausted raw = false ∧ Json.loads raw.toList = some (.object fields) := by
  have object : ∀ payload : Json F, payload.fields? = some fields ↔ payload = .object fields := by
    intro payload
    cases payload <;> simp [Json.fields?]
  simp only [decodeOutput, bind_eq_ok, refuse_eq_ok, fetch_eq_ok, object, exists_eq_right,
    Bool.not_eq_true, exists_const]

theorem raises_matchRequest (keys : List String) (verdict : StructuredVerdict) :
    Raises IsJudgeError (matchRequest request keys verdict) :=
  (raises_require _ (Stop.isJudgeError _)).bind fun _ =>
    (raises_require _ (Stop.isJudgeError _)).bind fun _ =>
    (raises_require _ (Stop.isJudgeError _)).bind fun _ =>
    (raises_require _ (Stop.isJudgeError _)).bind fun _ =>
    (raises_require _ (Stop.isJudgeError _)).bind fun _ => raises_require _ (Stop.isJudgeError _)

/-- An exception leaves the interpretation from one of three places. -/
theorem readVerdict_raised {fault : Fault} :
    readVerdict exhausted trusted response request envelope = .error (.raised fault) ↔
      rawOutput trusted response request envelope = .error (.raised fault) ∨
      ∃ raw, rawOutput trusted response request envelope = .ok raw ∧
        (exhausted raw = true ∧ fault = .recursionError ∨
          exhausted raw = false ∧ ∃ fields, Json.loads raw.toList = some (.object fields) ∧
            UnhashableControl (F := F) fields ∧ fault = .typeError) := by
  have last : ∀ fields : List (String × Json F),
      (do let verdict ← (StructuredVerdict.fromDict fields).mapError (caught "SCHEMA_INVALID")
          matchRequest request (untrustedKeys envelope) verdict
          pure verdict) = .error (.raised fault) ↔
        UnhashableControl fields ∧ fault = .typeError := by
    intro fields
    rw [bind_eq_error_first (fun verdict => (raises_matchRequest _ verdict).bind fun _ =>
      raises_pure _) (Stop.raised_not fault), mapError_caught]
    constructor
    · rintro ⟨raised, other⟩
      exact (StructuredVerdict.fromDict_error other).mp raised
    · rintro ⟨unhashable, rfl⟩
      exact ⟨(StructuredVerdict.fromDict_error not_isRunnerError_typeError).mpr ⟨unhashable, rfl⟩,
        not_isRunnerError_typeError⟩
  unfold readVerdict
  rw [bind_eq_error]
  refine or_congr_right (exists_congr fun raw => and_congr_right fun _ => ?_)
  rw [bind_eq_error, decodeOutput_raised]
  simp only [last, decodeOutput_ok]
  refine or_congr_right ?_
  simp only [and_assoc, exists_and_left]

/-! ## The interpretation -/

theorem readVerdict_ok {verdict : StructuredVerdict}
    (read : readVerdict exhausted trusted response request envelope = .ok verdict) :
    AboutRequest request envelope verdict := by
  simp only [readVerdict, bind_eq_ok, pure_eq_ok, mapError_eq_ok, matchRequest,
    require_eq_ok] at read
  obtain ⟨_, -, _, -, found, accepted, _, ⟨_, requestId, _, controlId, _, rubric, _, manifest, _,
    judge, evidence⟩, rfl⟩ := read
  exact ⟨requestId, controlId, rubric, manifest, judge, evidence,
    StructuredVerdict.fromDict_ok accepted⟩

/-- On valid records, the function returns unless an exception leaves the interpretation. -/
theorem interpreted_iff (validResponse : response.validate = .ok ())
    (validRequest : request.validate = .ok ()) :
    Interpreted exhausted trusted response request envelope ↔
      ∀ fault, readVerdict exhausted trusted response request envelope ≠ .error (.raised fault) := by
  have run : parseJudgeOutput exhausted trusted response request envelope =
      match readVerdict exhausted trusted response request envelope with
      | .ok verdict => .ok (.verdict verdict)
      | .error (.judgeError kind) => .ok (.judgeError kind)
      | .error (.raised fault) => .error fault := by
    unfold parseJudgeOutput
    rw [validResponse, validRequest]
    rfl
  unfold Interpreted
  rw [run]
  cases read : readVerdict exhausted trusted response request envelope with
  | ok verdict =>
      constructor
      · intro _ fault raised
        cases raised
      · intro _
        refine ⟨_, rfl, ?_⟩
        intro found same
        obtain rfl := JudgeOutcome.verdict.inj same
        exact readVerdict_ok read
  | error stop =>
      cases stop with
      | judgeError kind =>
          constructor
          · intro _ fault raised
            cases raised
          · intro _
            refine ⟨_, rfl, ?_⟩
            intro found same
            cases same
      | raised fault =>
          constructor
          · rintro ⟨_, returned, -⟩
            cases returned
          · intro none
            exact absurd rfl (none fault)

/-- An exception on the decoded object leaves the function. -/
theorem parseJudgeOutput_raised {raw : String} {fault : Fault}
    (validResponse : response.validate = .ok ()) (validRequest : request.validate = .ok ())
    (bound : validateRequestEnvelopeBinding trusted request envelope = .ok ())
    (sent : response.transportOutcome = .ok) (sameRequest : response.requestId = request.requestId)
    (held : response.rawOutput = some raw) (nonempty : raw ≠ "") (shallow : exhausted raw = false)
    (refused : ((Json.loads (F := F) raw.toList).bind Json.fields?).map StructuredVerdict.fromDict =
      some (.error fault)) (other : ¬ IsRunnerError fault) :
    parseJudgeOutput exhausted trusted response request envelope = .error fault := by
  obtain ⟨fields, decoded, raised⟩ := Option.map_eq_some_iff.mp refused
  obtain ⟨payload, loaded, object⟩ := Option.bind_eq_some_iff.mp decoded
  have output : rawOutput trusted response request envelope = .ok raw := by
    have kept : response.rawOutput.filter (· ≠ "") = some raw :=
      Option.filter_eq_some_iff.mpr ⟨held, decide_eq_true nonempty⟩
    simp only [rawOutput, bind_eq_ok, require_eq_ok, fetch_eq_ok, mapError_eq_ok]
    refine ⟨⟨⟩, bound, ⟨⟩, ?_, ⟨⟩, sameRequest, kept⟩
    rw [sent]
    rfl
  have opened : decodeOutput F exhausted raw = .ok fields := by
    simp only [decodeOutput, bind_eq_ok, refuse_eq_ok, fetch_eq_ok]
    exact ⟨⟨⟩, by rw [shallow]; exact Bool.false_ne_true, payload, loaded, object⟩
  have read : readVerdict exhausted trusted response request envelope = .error (.raised fault) := by
    unfold readVerdict
    rw [output]
    show (decodeOutput F exhausted raw >>= _) = _
    rw [opened]
    have stopped : (StructuredVerdict.fromDict fields).mapError (caught "SCHEMA_INVALID") =
        .error (.raised fault) := mapError_caught.mpr ⟨raised, other⟩
    show ((StructuredVerdict.fromDict fields).mapError (caught "SCHEMA_INVALID") >>= _) = _
    rw [stopped]
    rfl
  unfold parseJudgeOutput
  rw [validResponse, validRequest, read]
  rfl

end Parsing

/-! ## A verdict on the coherent topic rule -/

section Sample

open Aegis.Budget (ZeroFloat)

/-- `_COHERENT_TOPIC_RUBRIC`. -/
def coherentTopicRubric : Rubric where
  rubricId := "rubric.scenario_a.coherent_topic.v1"
  rubricVersion := "1.0.0-wp2b2"
  question := "Judge the assistant turn against the accepted rule:\n" ++
    "ONE COHERENT DISCOVERY TOPIC PER TURN.\n" ++
    "Related supporting details within that topic are allowed." ++
    "\nApply the corpus's own semantic test: could one requested part " ++
    "be answered while another remains unanswered? A single process " ++
    "walkthrough that narrates several steps of ONE process is one " ++
    "valid topic."
  passCriteria := ["exactly one coherent discovery topic is advanced",
    "any supporting details are subordinate to that topic",
    "no independent second topic and no unrelated decision/request is bundled"]
  failCriteria := ["a questionnaire dump (an enumerated bank of questions)",
    "two or more unrelated discovery topics in one turn",
    "an 'answer these in any order' instruction",
    "multiple independent product decisions bundled into one turn"]
  nonClaim := "Scaffold-only rubric contract: no real judge is pinned, no measured " ++
    "calibration exists, and no claim is made that any judge satisfies this " ++
    "rubric. OD-1 remains OPEN; R2 remains BLOCKED."

/-- Control G of the grading contract. -/
def controlG : ScenarioAControl where
  controlId := "SCENARIO_A_CONTROL_G"
  requirement := "ONE COHERENT DISCOVERY TOPIC PER TURN. Related supporting " ++
    "details within that topic are allowed."
  classification := "SEMANTIC"
  semanticRubricRef := some coherentTopicRubric.rubricId

def sampleDigest : String := String.ofList (List.replicate 64 '0')

def sampleTrusted : Trusted where
  contract := ⟨[controlG], sampleDigest⟩
  rubrics := [coherentTopicRubric]
  sha256Hex _ := sampleDigest

def sampleRequest : JudgeRequest where
  requestId := "req-1"
  controlId := controlG.controlId
  judge := ⟨"judge-1", "1", "model", "provider", "policy-1", sampleDigest⟩
  rubricId := coherentTopicRubric.rubricId
  rubricVersion := coherentTopicRubric.rubricVersion
  rubricSha256 := sampleDigest
  envelopeSha256 := sampleDigest
  inputManifestSha256 := sampleDigest

/-- The envelope of a transcript. -/
def sampleEnvelope : List (String × Json ZeroFloat) :=
  [("control_context", .dict [("classification", .str controlG.classification),
      ("contract_sha256", .str sampleDigest), ("control_id", .str controlG.controlId),
      ("requirement", .str controlG.requirement),
      ("semantic_rubric_ref", .str coherentTopicRubric.rubricId)]),
    ("envelope_version", .str envelopeVersion), ("input_manifest_sha256", .str sampleDigest),
    ("policy_sha256", .str sampleDigest), ("policy_version", .str "policy-1"),
    ("rubric", .dict [("fail_criteria", .array (coherentTopicRubric.failCriteria.map .str)),
      ("pass_criteria", .array (coherentTopicRubric.passCriteria.map .str)),
      ("question", .str coherentTopicRubric.question),
      ("rubric_id", .str coherentTopicRubric.rubricId), ("rubric_sha256", .str sampleDigest),
      ("rubric_version", .str coherentTopicRubric.rubricVersion)]),
    ("untrusted_data", .dict [("transcript", .dict [("content_b64", .str "dHVybg=="),
      ("encoding", .str "utf-8")])])]

/-- A passing verdict with a given control. -/
def sampleOutput (control : Json ZeroFloat) : String :=
  String.ofList (Json.dict [("control_id", control), ("evidence_refs", .array [.str "transcript"]),
    ("failure_mode", .null), ("input_manifest_sha256", .str sampleDigest),
    ("judge_id", .str "judge-1"), ("judge_version", .str "1"), ("offending_span", .null),
    ("reason_code", .str "MEETS_RUBRIC"), ("request_id", .str "req-1"),
    ("rubric_id", .str coherentTopicRubric.rubricId), ("rubric_sha256", .str sampleDigest),
    ("rubric_version", .str coherentTopicRubric.rubricVersion),
    ("schema_version", .str gradingSchemaVersion), ("verdict", .str "PASS"),
    ("verdict_id", .str "v-1")]).canonical

def sampleResponse (control : Json ZeroFloat) : JudgeResponse :=
  ⟨"req-1", "resp-1", .ok, some (sampleOutput control)⟩

theorem sampleOutput_ne (control : Json ZeroFloat) : sampleOutput control ≠ "" := by
  intro empty
  have chars := congrArg String.toList empty
  rw [sampleOutput, String.toList_ofList, String.toList_empty] at chars
  obtain ⟨rest, starts⟩ := Json.canonical_object (F := ZeroFloat) _
  rw [Json.dict, starts] at chars
  cases chars

theorem sample_bound :
    validateRequestEnvelopeBinding sampleTrusted sampleRequest sampleEnvelope = .ok () := by
  decide +kernel

/-- The decoded object of a control that is an empty list is refused by the membership test. -/
theorem listed_control_typeError :
    ((Json.loads (F := ZeroFloat) (sampleOutput (.array [])).toList).bind Json.fields?).map
      StructuredVerdict.fromDict = some (.error .typeError) := by
  rw [sampleOutput, String.toList_ofList]
  decide +kernel

end Sample

end Aegis.Judge
