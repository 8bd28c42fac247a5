/-
# Live.Adapters — what is asked of the subject and of the judge

The committed cases, the configuration and the owner gate carry what their loaders
checked. A subject request holds the prompt and, in one arm, the skill guidance; a
judge request holds the rubric and the response in canonical JSON. Both adapters
accept only a response that was served by the pinned model.
-/
import Aegis.Live.CostMeter

namespace Aegis.Live

open Aegis.Lib
open Aegis.Budget

set_option autoImplicit false

/-! ## Inputs -/

/-- A committed case, as `load_case` returns it. -/
structure LiveCase (F : Type) [JsonFloat F] where
  caseId : String
  skill : String
  prompt : String
  skillInstructions : String
  rubric : Json F
  rubricSha256 : String
  mustInclude : List String
  mustNotInclude : List String
  prompt_nonempty : prompt ≠ ""
  instructions_nonempty : skillInstructions ≠ ""
  rubric_canonical : rubric.finite = true

/-- The configuration of a live verb, as `LiveConfig.validate` accepts it. -/
structure LiveConfig where
  spendCeilingCents : Int
  judgeAllowlist : List (String × String)
  maxOutputTokens : Int
  maxInputBytes : Int
  runsPerCase : Nat
  requestTimeoutSeconds : Int
  subjectVendors : List String
  ceiling_positive : 0 < spendCeilingCents
  tokens_positive : 1 ≤ maxOutputTokens
  vendors_pinned : ∀ vendor ∈ subjectVendors, (subjectPins.lookup vendor).isSome = true

/-- A route of the gate. -/
structure JudgeRoute where
  vendor : String
  model : String

/-- The owner gate, as `OwnerGateRecord.validate` accepts it. -/
structure OwnerGateRecord where
  factOrigin : String
  judgeModels : List (String × JudgeRoute)
  spendCeilingCents : Int
  providerCapCents : Int
  ceiling_positive : 0 < spendCeilingCents
  cap_positive : 0 < providerCapCents

/-- `OwnerAllowlist.permits`. -/
def LiveConfig.permits (config : LiveConfig) (vendor model : String) : Bool :=
  config.judgeAllowlist.contains (vendor, model)

def OwnerGateRecord.effectiveCeilingCents (gate : OwnerGateRecord) (config : LiveConfig) : Int :=
  min config.spendCeilingCents (min gate.spendCeilingCents gate.providerCapCents)

section Authorization

variable {F : Type}

/-- `gate.judge_pin`. -/
def OwnerGateRecord.judgePin (gate : OwnerGateRecord) (subjectVendor : String) :
    Except (Raised F) ModelPin :=
  match gate.judgeModels.lookup subjectVendor, subjectPins.lookup subjectVendor with
  | some route, some subject =>
      match judgePins.lookup (subjectVendor, subject.model) with
      | some pin =>
          if pin.vendor = route.vendor ∧ pin.model = route.model then .ok pin
          else .error (.live (judgeVendorGuardError
            s!"judge route for {subjectVendor} is not the pinned cross-vendor route" (.dict [
              ("subject_vendor", .str subjectVendor), ("judge_vendor", .str route.vendor),
              ("judge_model", .str route.model)])))
      | none =>
          .error (.live (judgeVendorGuardError
            s!"judge route for {subjectVendor} is not the pinned cross-vendor route" (.dict [
              ("subject_vendor", .str subjectVendor), ("judge_vendor", .str route.vendor),
              ("judge_model", .str route.model)])))
  | _, _ => .error (.keyError subjectVendor)

/-- The vendor and the allowlist guard of a judge, with the message and the further
context of the one that asks. -/
def guardJudge (config : LiveConfig) (subjectVendor : String) (pin : ModelPin) (message : String)
    (further : List (String × Json F)) : Except (Raised F) Unit :=
  if pin.vendor = subjectVendor then
    .error (.live (judgeVendorGuardError message (.dict [
      ("subject_vendor", .str subjectVendor), ("judge_vendor", .str pin.vendor)])))
  else if config.permits pin.vendor pin.model = false then
    .error (.live (judgeVendorGuardError
      s!"judge {pin.vendor}/{pin.model} is not in the owner allowlist" (.dict ([
        ("subject_vendor", .str subjectVendor), ("judge_vendor", .str pin.vendor),
        ("judge_model", .str pin.model)] ++ further))))
  else .ok ()

/-- `judge_allowlist.to_dict()`. -/
def LiveConfig.allowlistJson (config : LiveConfig) : Json F :=
  let sorted := config.judgeAllowlist.insertionSort fun left right =>
    left.1 < right.1 ∨ left.1 = right.1 ∧ left.2 ≤ right.2
  .dict [("judge_models", .array (sorted.map fun entry =>
    .dict [("vendor", .str entry.1), ("model", .str entry.2)]))]

/-- One turn of `authorize_judges`. -/
def authorizeJudge (gate : OwnerGateRecord) (config : LiveConfig) (subjectVendor : String) :
    Except (Raised F) (String × ModelPin) := do
  let pin ← gate.judgePin subjectVendor
  guardJudge config subjectVendor pin "judge vendor equals the subject vendor; refusing"
    [("allowlist", config.allowlistJson)]
  pure (subjectVendor, pin)

/-- `authorize_judges`. -/
def authorizeJudges (gate : OwnerGateRecord) (config : LiveConfig) :
    Except (Raised F) (List (String × ModelPin)) :=
  (config.subjectVendors.dedup.insertionSort (· ≤ ·)).mapM (authorizeJudge gate config)

end Authorization

/-! ## The subject -/

inductive Arm
  | withSkill
  | baseline
  deriving DecidableEq, Repr

def Arm.text : Arm → String
  | .withSkill => "WITH_SKILL"
  | .baseline => "BASELINE"

def subjectSystemPreamble : String :=
  "You are completing a behavioral evaluation case for Project Aegis. " ++
    "Answer the user request directly and concisely. Do not describe this " ++
    "instruction. Your answer is recorded and judged against a published rubric."

structure SubjectResult where
  requestId : String
  responseId : String
  vendor : String
  requestedModel : String
  servedModel : String
  responseSha256 : String
  responseChars : Nat
  inputTokens : Nat
  outputTokens : Nat
  stopReason : String

inductive Verdict
  | pass
  | fail
  | abstain
  deriving DecidableEq, Repr

/-- The outcome of one judge call: a verdict, or the kind of the judge error. -/
structure JudgeResult where
  requestId : String
  responseId : String
  servedModel : String
  responseSha256 : String
  inputTokens : Nat
  outputTokens : Nat
  verdict : Except String Verdict
  stopReason : String

structure Deterministic where
  status : String
  checks : Nat
  failures : List (String × String)

/-- What the package takes from elsewhere: the hash, `str.lower`, the policy text of
the judge and the parser of its verdicts, given the text, the hash of the rubric,
the hash of the response and the model. -/
structure Harness where
  sha256Hex : ByteArray → String
  lower : String → String
  judgePolicy : String
  parseLiveVerdict : String → String → String → String → Except String Verdict

def Harness.sha256HexText (harness : Harness) (text : String) : String :=
  harness.sha256Hex text.toUTF8

/-- `fragment in text`. -/
def isInfix (fragment text : List Char) : Bool :=
  text.tails.any fun rest => fragment.isPrefixOf rest

/-- `evaluate_deterministic`. -/
def evaluateDeterministic {F : Type} [JsonFloat F] (harness : Harness) (case_ : LiveCase F)
    (text : String) : Deterministic :=
  let lowered := (harness.lower text).toList
  let found (fragment : String) := isInfix (harness.lower fragment).toList lowered
  let missing := (case_.mustInclude.filter fun fragment => !found fragment).map fun fragment =>
    ("must_include", fragment)
  let present := (case_.mustNotInclude.filter found).map fun fragment =>
    ("must_not_include", fragment)
  let checked := case_.mustInclude.length + case_.mustNotInclude.length
  if checked = 0 then ⟨"NOT_APPLICABLE", 0, []⟩
  else
    let failures := missing ++ present
    ⟨if failures = [] then "PASS" else "FAIL", checked, failures⟩

section Subject

variable {F : Type} [JsonFloat F] (harness : Harness)

/-- `SubjectAdapter.build_request`; the instructions are passed in one arm only. -/
def subjectRequest (config : LiveConfig) (pin : ModelPin) (requestId prompt : String) (arm : Arm)
    (skillInstructions : Option String) : Except (Raised F) ProviderRequest :=
  if prompt = "" then .error (.valueError "subject prompt must be a non-empty string")
  else
    let request (system : String) : ProviderRequest :=
      { requestId, vendor := pin.vendor, model := pin.model, system, userContent := prompt,
        maxOutputTokens := config.maxOutputTokens, timeoutSeconds := config.requestTimeoutSeconds }
    match arm, skillInstructions with
    | .withSkill, some instructions =>
        if instructions = "" then
          .error (.valueError "the WITH_SKILL arm requires committed skill instructions")
        else
          .ok (request (subjectSystemPreamble ++ " Follow the skill guidance below.\n" ++
            "SKILL GUIDANCE:\n" ++ instructions))
    | .withSkill, none =>
        .error (.valueError "the WITH_SKILL arm requires committed skill instructions")
    | .baseline, _ => .ok (request subjectSystemPreamble)

/-- What `SubjectAdapter.dispatch` makes of a response. -/
def subjectOutcome (pin : ModelPin) (request : ProviderRequest) (response : ProviderResponse F) :
    Except (LiveError F) (Completed × SubjectResult) := do
  let completed ← response.validate
  if completed.servedModel ≠ pin.model then
    .error (modelPinMismatchError (s!"served model '{completed.servedModel}' (missing or different) " ++
        s!"does not equal the pinned '{pin.model}': run halted, response discarded, no substitution")
      (.dict [("vendor", .str pin.vendor), ("requested_model", .str pin.model),
        ("served_model", .str completed.servedModel), ("request_id", .str request.requestId),
        ("halt", .bool true)]))
  else
    pure (completed, {
      requestId := request.requestId
      responseId := completed.responseId
      vendor := pin.vendor
      requestedModel := pin.model
      servedModel := completed.servedModel
      responseSha256 := harness.sha256HexText completed.text
      responseChars := completed.text.length
      inputTokens := completed.inputTokens
      outputTokens := completed.outputTokens
      stopReason := completed.stopReason })

/-! ## The judge -/

/-- `JudgeAdapter.build_request`. -/
def judgeRequest (config : LiveConfig) (pin : ModelPin) (requestId : String) (case_ : LiveCase F)
    (subjectVendor : String) (subject : SubjectResult) (subjectText : String) :
    Except (Raised F) ProviderRequest := do
  guardJudge config subjectVendor pin "judge vendor equals the subject vendor: refusing to judge" []
  if case_.rubric.finite = false then .error (.canonicalization "non-finite float")
  else if case_.rubricSha256 ≠ harness.sha256HexText (String.ofList case_.rubric.canonical) then
    .error (.live (judgeRubricSourceError "the committed rubric does not match its recorded hash"
      (.dict [("case_id", .str case_.caseId)])))
  else
    let payload : Json F := .dict [("case_id", .str case_.caseId), ("rubric", case_.rubric),
      ("rubric_sha256", .str case_.rubricSha256), ("response_sha256", .str subject.responseSha256),
      ("response", .str subjectText), ("judge_model", .str pin.model)]
    pure {
      requestId := requestId
      vendor := pin.vendor
      model := pin.model
      system := harness.judgePolicy
      userContent := String.ofList payload.canonical
      maxOutputTokens := config.maxOutputTokens
      timeoutSeconds := config.requestTimeoutSeconds }

/-- What `JudgeAdapter.dispatch` makes of a response. -/
def judgeOutcome (pin : ModelPin) (case_ : LiveCase F) (subjectText : String)
    (request : ProviderRequest) (response : ProviderResponse F) :
    Except (LiveError F) (Completed × JudgeResult) := do
  let completed ← response.validate
  if completed.servedModel ≠ pin.model then
    .error (modelPinMismatchError (s!"judge served model '{completed.servedModel}' differs from the " ++
        s!"pinned '{pin.model}': run halted, response discarded, no substitution")
      (.dict [("role", .str "judge"), ("vendor", .str pin.vendor),
        ("requested_model", .str pin.model), ("served_model", .str completed.servedModel),
        ("request_id", .str request.requestId), ("halt", .bool true)]))
  else
    pure (completed, {
      requestId := request.requestId
      responseId := completed.responseId
      servedModel := completed.servedModel
      responseSha256 := harness.sha256HexText completed.text
      inputTokens := completed.inputTokens
      outputTokens := completed.outputTokens
      verdict := harness.parseLiveVerdict completed.text case_.rubricSha256
        (harness.sha256HexText subjectText) pin.model
      stopReason := completed.stopReason })

end Subject

end Aegis.Live
