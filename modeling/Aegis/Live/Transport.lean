/-
# Live.Transport — the boundary that a provider call crosses

Requests and responses of one provider call, the errors of the live package and
the pinned models. What a transport does with a request is its own affair: it
returns a response, raises a `LiveError` or raises anything else (`Reply`). The
fields of a response are arbitrary values until `validate` has looked at them.
-/
import Aegis.Lib.JsonParse
import Aegis.Lib.TextLines

namespace Aegis.Live

open Aegis.Lib

set_option autoImplicit false

/-! ## Errors -/

/-- A `LiveError`, with the name of its class. -/
structure LiveError (F : Type) where
  error : String
  message : String
  context : Json F
  reasonCode : String

/-- Whatever a function of the package raises. -/
inductive Raised (F : Type)
  | live (error : LiveError F)
  | valueError (message : String)
  | keyError (key : String)
  | canonicalization (message : String)

section Errors

variable {F : Type}

def costCeilingHaltError (message : String) (context : Json F) : LiveError F :=
  ⟨"CostCeilingHaltError", message, context, "BUDGET_CAP"⟩

def providerTransportError (message : String) (context : Json F) : LiveError F :=
  ⟨"ProviderTransportError", message, context, "TRANSPORT_ERROR"⟩

def modelPinMismatchError (message : String) (context : Json F) : LiveError F :=
  ⟨"ModelPinMismatchError", message, context, "MODEL_PIN_MISMATCH"⟩

def judgeVendorGuardError (message : String) (context : Json F) : LiveError F :=
  ⟨"JudgeVendorGuardError", message, context, "JUDGE_VENDOR_GUARD"⟩

def judgeRubricSourceError (message : String) (context : Json F) : LiveError F :=
  ⟨"JudgeRubricSourceError", message, context, "JUDGE_RUBRIC_SOURCE"⟩

end Errors

/-! ## Pinned models -/

/-- One strict model pin with its prices in cents for a million tokens. -/
structure ModelPin where
  vendor : String
  model : String
  inputCentsPerMtok : Nat
  outputCentsPerMtok : Nat
  deriving DecidableEq, Repr

/-- `SUBJECT_PINS`. -/
def subjectPins : List (String × ModelPin) :=
  [("anthropic", ⟨"anthropic", "claude-sonnet-5-5", 200, 1000⟩),
    ("openai", ⟨"openai", "gpt-6-astra", 1000, 5000⟩)]

/-- `JUDGE_PINS`, by the vendor and the model of the subject. -/
def judgePins : List ((String × String) × ModelPin) :=
  [(("anthropic", "claude-sonnet-5-5"), ⟨"openai", "gpt-6-astra", 1000, 5000⟩),
    (("openai", "gpt-6-astra"), ⟨"anthropic", "claude-sonnet-5-5", 200, 1000⟩)]

/-! ## Requests and responses -/

structure ProviderRequest where
  requestId : String
  vendor : String
  model : String
  system : String
  userContent : String
  maxOutputTokens : Int
  timeoutSeconds : Int
  deriving DecidableEq, Repr

/-- `len(request.system.encode("utf-8")) + len(request.user_content.encode("utf-8"))`. -/
def ProviderRequest.bytes (request : ProviderRequest) : Nat :=
  request.system.utf8ByteSize + request.userContent.utf8ByteSize

structure ProviderUsage (F : Type) where
  inputTokens : Json F
  outputTokens : Json F

/-- A response as a transport returns it; no usage stands for one that is no
`ProviderUsage`. -/
structure ProviderResponse (F : Type) where
  responseId : Json F
  servedModel : Json F
  text : Json F
  usage : Option (ProviderUsage F)
  stopReason : Json F

/-- What a transport does with a request. -/
inductive Reply (F : Type)
  | response (response : ProviderResponse F)
  | liveError (error : LiveError F)
  /-- An exception of any other class. -/
  | foreign (className : String)

/-- A response that was validated. -/
structure Completed where
  responseId : String
  servedModel : String
  text : String
  inputTokens : Nat
  outputTokens : Nat
  stopReason : String

section Validation

variable {F : Type}

/-- The value of a token count: an `int`, no `bool`, not negative. -/
def tokenCount? : Json F → Option Nat
  | .int value => if 0 ≤ value then some value.toNat else none
  | _ => none

def text? : Json F → Option String
  | .str text => some text
  | _ => none

def ProviderUsage.toDict (usage : ProviderUsage F) : Json F :=
  .dict [("input_tokens", usage.inputTokens), ("output_tokens", usage.outputTokens)]

/-- `usage.validate()`, with the two counts. -/
def ProviderUsage.validate (usage : ProviderUsage F) : Except (LiveError F) (Nat × Nat) :=
  let evidence : Json F := .dict [("usage", usage.toDict)]
  match tokenCount? usage.inputTokens, tokenCount? usage.outputTokens with
  | some input, some output => .ok (input, output)
  | none, _ =>
      .error (providerTransportError "usage.input_tokens must be a non-negative int" evidence)
  | _, none =>
      .error (providerTransportError "usage.output_tokens must be a non-negative int" evidence)

/-- The fields of `_evidence()`. -/
def ProviderResponse.evidence (response : ProviderResponse F) : List (String × Json F) :=
  [("response_id", response.responseId), ("served_model", response.servedModel),
    ("stop_reason", response.stopReason),
    ("response_chars", ((text? response.text).map fun text => .int text.length).getD .null)] ++
    match response.usage with
    | none => []
    | some usage => [("usage", usage.toDict)]

/-- `COMPLETE_STOP_REASONS`. -/
def completeStopReasons : List String := ["end_turn", "stop_sequence", "completed", "stop"]

/-- `not text.strip()`. -/
def blankText (text : String) : Bool := text.toList.all isBlank

/-- `response.validate(require_model=False)`, with the fields as it found them. -/
def ProviderResponse.validate (response : ProviderResponse F) :
    Except (LiveError F) Completed :=
  match text? response.responseId with
  | none =>
      .error (providerTransportError "response_id must be a string" (.dict response.evidence))
  | some responseId =>
  match text? response.servedModel with
  | none =>
      .error (providerTransportError "the served model field must be a string"
        (.dict response.evidence))
  | some servedModel =>
  match (text? response.text).filter fun text => !blankText text with
  | none =>
      .error (providerTransportError "the provider returned empty or non-string response text"
        (.dict (response.evidence ++ [("empty_response_text", .bool true)])))
  | some text =>
  -- Lowering ASCII letters is enough: no other letter is lowered into these words.
  match (text? response.stopReason).filter fun reason =>
      completeStopReasons.contains reason.toLower with
  | none =>
      .error (providerTransportError ("the provider response is not clearly complete; a partial, " ++
        "failed or unknown response is not graded or judged")
        (.dict (response.evidence ++ [("response_incomplete", .bool true)])))
  | some stopReason =>
  match response.usage with
  | none =>
      .error (providerTransportError "response usage must be ProviderUsage"
        (.dict response.evidence))
  | some usage => do
      let counts ← usage.validate
      pure ⟨responseId, servedModel, text, counts.1, counts.2, stopReason⟩

end Validation

end Aegis.Live
