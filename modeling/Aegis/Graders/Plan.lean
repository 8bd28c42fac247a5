/-
# Graders.Plan — trusted grading plans

`graders/plan.py`: a plan is the trusted side of a grading: which control is graded, by which oracles,
and against which criteria. `TrustedGradingPlan.validate` checks it against the grading contract and
against its own hash. Of the contract a plan reads which oracles a control requires and the hash.
-/
import Aegis.Runner.Identity

namespace Aegis.Graders

open Aegis.Lib
open Aegis.Lib.Guarded
open Aegis.Runner (RunnerError parseCaseUid)

set_option autoImplicit false

def gradingSchemaVersion : String := "1.0.0-wp2b2"

def gradingStackVersion : String := "0.1.0-wp2b2"

def contractVersion : String := "1.0.0-wp2b2"

/-- The required oracles of the controls A to Q. -/
def controlOracles : List (String × List String) :=
  [("SCENARIO_A_CONTROL_A", ["oracle.controls.workspace_role"]),
    ("SCENARIO_A_CONTROL_B", ["oracle.controls.stage_zero"]),
    ("SCENARIO_A_CONTROL_C", []),
    ("SCENARIO_A_CONTROL_D", ["oracle.hashing.preview_vs_created"]),
    ("SCENARIO_A_CONTROL_E", ["oracle.approval.boundary"]),
    ("SCENARIO_A_CONTROL_F", ["oracle.activation.typed_target"]),
    ("SCENARIO_A_CONTROL_G", []),
    ("SCENARIO_A_CONTROL_H", ["oracle.controls.questionnaire_dump"]),
    ("SCENARIO_A_CONTROL_I", []),
    ("SCENARIO_A_CONTROL_J", ["oracle.mutation.category_scan"]),
    ("SCENARIO_A_CONTROL_K", ["oracle.mutation.category_scan"]),
    ("SCENARIO_A_CONTROL_L", ["oracle.mutation.category_scan"]),
    ("SCENARIO_A_CONTROL_M", ["oracle.mutation.category_scan", "oracle.mutation.zero_commit"]),
    ("SCENARIO_A_CONTROL_N", ["oracle.mutation.category_scan"]),
    ("SCENARIO_A_CONTROL_O",
      ["oracle.append_only.version_sequence", "oracle.state_machine.transitions"]),
    ("SCENARIO_A_CONTROL_P", ["oracle.controls.evidence_capture"]),
    ("SCENARIO_A_CONTROL_Q", ["oracle.controls.metadata_capture"])]

/-- `VALID_CONTROL_IDS`. -/
def validControlIds : List String := controlOracles.map Prod.fst

/-- `ORACLE_IDS`. -/
def oracleIds : List String :=
  ["oracle.state_machine.transitions", "oracle.approval.boundary", "oracle.mutation.category_scan",
    "oracle.mutation.zero_commit", "oracle.append_only.version_sequence",
    "oracle.hashing.preview_vs_created", "oracle.activation.typed_target",
    "oracle.controls.workspace_role", "oracle.controls.stage_zero",
    "oracle.controls.questionnaire_dump", "oracle.controls.evidence_capture",
    "oracle.controls.metadata_capture"]

/-- What the graders take from outside: the hash of a text and the hash of the contract. -/
structure Trust where
  sha256Hex : String → String
  contractHash : String

section Values

variable {F : Type}

/-- A non-empty `str`. -/
def nonemptyText? : Json F → Option String
  | .str text => if text = "" then none else some text
  | _ => none

theorem nonemptyText?_eq_some {value : Json F} {text : String} :
    nonemptyText? value = some text ↔ value = .str text ∧ text ≠ "" := by
  cases value with
  | str held =>
      show (if held = "" then none else some held) = some text ↔ _
      by_cases empty : held = ""
      · rw [if_pos empty]
        constructor
        · exact nofun
        · rintro ⟨same, nonempty⟩
          exact absurd (Json.str.inj same ▸ empty) nonempty
      · rw [if_neg empty]
        constructor
        · intro same
          obtain rfl := Option.some.inj same
          exact ⟨rfl, empty⟩
        · rintro ⟨same, -⟩
          rw [Json.str.inj same]
  | _ => exact ⟨nofun, nofun⟩

/-- A `list` of non-empty `str`. -/
def textList? : Json F → Option (List String)
  | .array items => items.mapM nonemptyText?
  | _ => none

theorem ne_empty_of_mem_mapM {items : List (Json F)} {texts : List String}
    (read : items.mapM nonemptyText? = some texts) : ∀ text ∈ texts, text ≠ "" := by
  induction items generalizing texts with
  | nil =>
      obtain rfl := Option.some.inj read
      exact nofun
  | cons item rest ih =>
      rw [List.mapM_cons] at read
      simp only [bind, Option.bind_eq_some_iff, pure, Option.some.injEq] at read
      obtain ⟨text, here, later, each, rfl⟩ := read
      exact List.forall_mem_cons.mpr ⟨(nonemptyText?_eq_some.mp here).2, ih each⟩

theorem ne_empty_of_mem_textList? {value : Json F} {texts : List String}
    (read : textList? value = some texts) : ∀ text ∈ texts, text ≠ "" := by
  cases value with
  | array items => exact ne_empty_of_mem_mapM read
  | _ => cases read

/-- `_require_str_list`. -/
def requireStrList (value : Json F) (where_ : String) (allowEmpty : Bool) :
    Except RunnerError (List String) := do
  let texts ← fetch (textList? value)
    (.schemaValidation (where_ ++ " must be a JSON list of non-empty strings"))
  require (allowEmpty = true ∨ texts ≠ []) (.schemaValidation (where_ ++ " must not be empty"))
  pure texts

/-- `set(mapping) == keys`. -/
def HasKeys (fields : List (String × Json F)) (keys : List String) : Prop :=
  (∀ field ∈ fields, field.1 ∈ keys) ∧ ∀ key ∈ keys, key ∈ fields.map Prod.fst

instance (fields : List (String × Json F)) (keys : List String) : Decidable (HasKeys fields keys) :=
  inferInstanceAs (Decidable (_ ∧ _))

/-- `mapping[key]`, of a key that is there. -/
def valueAt (fields : List (String × Json F)) (key : String) : Json F :=
  (Dict.get? fields key).getD .null

/-- The value of an optional field. -/
def optional : Option (Json F) → Json F
  | none => .null
  | some value => value

end Values

def expectedTargetKeys : List String := ["target_kind", "target_name", "invocation_mode"]

def answerBankKeys : List String := ["bank_id", "version", "sha256", "answer_ids"]

def semanticGateKeys : List String :=
  ["spec_acceptance_id", "spec_owner_completion_id", "stage2_owner_ids", "stage3_snapshot_id",
    "forbidden_snapshot_ids"]

def idSections : List String := ["State snapshots", "Decision log", "Approvals"]

def workspaceRoles : List String := ["consumer", "source_library"]

structure TrustedGradingPlan (F : Type) where
  planId : String
  caseUid : String
  controlId : String
  contractVersion : String
  contractSha256 : String
  requiredOracleIds : List String
  trustedSourceRefs : Json F
  planSha256 : String
  expectedTarget : Option (List (String × Json F)) := none
  answerBank : Option (List (String × Json F)) := none
  requiredStartState : Option String := none
  loopThreshold : Option Int := none
  requiredGateIds : Option (List String) := none
  semanticGates : Option (List (String × Json F)) := none
  expectedFinalIds : Option (List (String × Json F)) := none
  expectedWorkspaceRole : Option String := none
  expectedStageZero : Option Bool := none
  approvalLifecycleVersion : Option String := none
  planVersion : String := gradingSchemaVersion
  schemaVersion : String := gradingSchemaVersion

namespace TrustedGradingPlan

variable {F : Type} (plan : TrustedGradingPlan F)

/-- `_content_dict`. -/
def content : Json F :=
  .dict ([("plan_id", .str plan.planId), ("plan_version", .str plan.planVersion),
    ("case_uid", .str plan.caseUid), ("control_id", .str plan.controlId),
    ("contract_version", .str plan.contractVersion), ("contract_sha256", .str plan.contractSha256),
    ("required_oracle_ids", .array (plan.requiredOracleIds.map .str)),
    ("trusted_source_refs", plan.trustedSourceRefs),
    ("expected_target", optional (plan.expectedTarget.map .object)),
    ("answer_bank", optional (plan.answerBank.map .object)),
    ("required_start_state", optional (plan.requiredStartState.map .str)),
    ("loop_threshold", optional (plan.loopThreshold.map .int)),
    ("required_gate_ids", optional (plan.requiredGateIds.map fun ids => .array (ids.map .str))),
    ("semantic_gates", optional (plan.semanticGates.map .object)),
    ("expected_final_ids", optional (plan.expectedFinalIds.map .object)),
    ("expected_workspace_role", optional (plan.expectedWorkspaceRole.map .str)),
    ("expected_stage_zero", optional (plan.expectedStageZero.map .bool)),
    ("schema_version", .str plan.schemaVersion)] ++
    match plan.approvalLifecycleVersion with
    | none => []
    | some version => [("approval_lifecycle_version", .str version)])

/-- The checks against the contract. -/
def validateContract (trust : Trust) : Except RunnerError Unit := do
  require (plan.controlId ∈ validControlIds)
    (.schemaValidation "control_id must be a Scenario A control A-Q")
  require (plan.contractVersion = Graders.contractVersion)
    (.schemaValidation ("contract_version must be " ++ Graders.contractVersion))
  require (plan.contractSha256 = trust.contractHash)
    (.schemaValidation ("contract_sha256 does not match the current grading contract " ++
      "(the plan is bound to the contract it was authored against)"))
  require (controlOracles.lookup plan.controlId = some plan.requiredOracleIds)
    (.schemaValidation (plan.controlId ++
      ": plan required_oracle_ids must equal the contract's"))
  forM plan.requiredOracleIds fun oracleId =>
    require (oracleId ∈ oracleIds) (.schemaValidation "unknown oracle id")

def validateExpectedTarget : Except RunnerError Unit :=
  match plan.expectedTarget with
  | none => .ok ()
  | some target => do
      require (HasKeys target expectedTargetKeys)
        (.schemaValidation ("expected_target must carry exactly " ++
          "\x7btarget_kind, target_name, invocation_mode\x7d"))
      require ((nonemptyText? (valueAt target "target_kind")).any fun text =>
          text = "skill" || text = "subagent")
        (.schemaValidation "TargetKind: unknown value")
      require ((nonemptyText? (valueAt target "invocation_mode")).any fun text =>
          text = "model_selected" || text = "explicit_skill_invocation" ||
            text = "delegated_subagent")
        (.schemaValidation "InvocationMode: unknown value")
      require ((nonemptyText? (valueAt target "target_name")).isSome = true)
        (.schemaValidation "expected_target.target_name required")

/-- `sha256_of_obj` of a list of texts. -/
def textsSha256 [JsonFloat F] (trust : Trust) (texts : List String) : String :=
  trust.sha256Hex (String.ofList (Json.array (texts.map .str) : Json F).canonical)

def validateAnswerBank [JsonFloat F] (trust : Trust) : Except RunnerError Unit :=
  match plan.answerBank with
  | none => .ok ()
  | some bank => do
      require (HasKeys bank answerBankKeys)
        (.schemaValidation ("answer_bank must carry exactly " ++
          "\x7bbank_id, version, sha256, answer_ids\x7d"))
      require ((nonemptyText? (valueAt bank "bank_id")).isSome = true)
        (.schemaValidation "answer_bank.bank_id required")
      require ((nonemptyText? (valueAt bank "version")).isSome = true)
        (.schemaValidation "answer_bank.version required")
      let answerIds ← requireStrList (valueAt bank "answer_ids") "answer_bank.answer_ids" false
      require ((valueAt bank "sha256").text? = some (textsSha256 (F := F) trust answerIds))
        (.schemaValidation ("answer_bank.sha256 does not match the canonical hash of answer_ids " ++
          "(bank identity is hash-bound)"))

def validateStartState : Except RunnerError Unit :=
  match plan.requiredStartState with
  | none => .ok ()
  | some state =>
      require ("STEP_".toList <+: state.toList)
        (.schemaValidation "required_start_state must be a Scenario A state id")

def validateLoopThreshold : Except RunnerError Unit :=
  match plan.loopThreshold with
  | none => .ok ()
  | some threshold => require (2 ≤ threshold) (.schemaValidation "loop_threshold must be an int >= 2")

def validateGateIds : Except RunnerError Unit :=
  match plan.requiredGateIds with
  | none => .ok ()
  | some ids => do
      let _ ← requireStrList (F := F) (.array (ids.map .str)) "required_gate_ids" false

def validateSemanticGates : Except RunnerError Unit :=
  match plan.semanticGates with
  | none => .ok ()
  | some gates => do
      require (HasKeys gates semanticGateKeys)
        (.schemaValidation "semantic_gates must carry exactly the gate keys")
      forM ["spec_acceptance_id", "spec_owner_completion_id", "stage3_snapshot_id"] fun key =>
        require ((nonemptyText? (valueAt gates key)).isSome = true)
          (.schemaValidation ("semantic_gates." ++ key ++ " must be a non-empty string"))
      forM ["stage2_owner_ids", "forbidden_snapshot_ids"] fun key => do
        let _ ← requireStrList (valueAt gates key) ("semantic_gates." ++ key) true

def validateFinalIds : Except RunnerError Unit :=
  match plan.expectedFinalIds with
  | none => .ok ()
  | some sections => do
      require (∀ field ∈ sections, field.1 ∈ idSections)
        (.schemaValidation "expected_final_ids sections must be within the id sections")
      forM sections fun field => do
        let _ ← requireStrList field.2 ("expected_final_ids['" ++ field.1 ++ "']") false

def validateLifecycle : Except RunnerError Unit :=
  match plan.approvalLifecycleVersion with
  | none => .ok ()
  | some version => do
      require (version = "1.0.0") (.schemaValidation "unsupported approval_lifecycle_version")
      require ("oracle.approval.boundary" ∈ plan.requiredOracleIds)
        (.schemaValidation "approval lifecycle requires the approval oracle")

def validate [JsonFloat F] (trust : Trust) : Except RunnerError Unit := do
  require (plan.planId ≠ "") (.schemaValidation "plan_id required")
  let _ ← parseCaseUid plan.caseUid
  plan.validateContract trust
  let _ ← requireStrList plan.trustedSourceRefs "trusted_source_refs" false
  plan.validateExpectedTarget
  plan.validateAnswerBank trust
  plan.validateStartState
  plan.validateLoopThreshold
  plan.validateGateIds
  plan.validateSemanticGates
  plan.validateFinalIds
  require (plan.expectedWorkspaceRole.all (· ∈ workspaceRoles))
    (.schemaValidation "expected_workspace_role must be one of the workspace roles")
  require (plan.planVersion = gradingSchemaVersion ∧ plan.schemaVersion = gradingSchemaVersion)
    (.schemaValidation ("plan/schema version must be " ++ gradingSchemaVersion))
  require (plan.content.finite = true ∧ plan.content.convertible = true)
    (.canonicalization "plan content")
  plan.validateLifecycle
  require (plan.planSha256 = trust.sha256Hex (String.ofList plan.content.canonical))
    (.schemaValidation ("plan_sha256 does not match the plan content " ++
      "(tampered or mis-built trusted plan)"))

variable {plan}

/-- What a validated plan was checked for, each part by its own check. -/
structure Valid [JsonFloat F] (trust : Trust) (plan : TrustedGradingPlan F) : Prop where
  caseUid : ∃ parts, parseCaseUid plan.caseUid = .ok parts
  contract : plan.validateContract trust = .ok ()
  answerBank : plan.validateAnswerBank trust = .ok ()
  loopThreshold : plan.validateLoopThreshold = .ok ()
  gateIds : plan.validateGateIds = .ok ()
  semanticGates : plan.validateSemanticGates = .ok ()
  lifecycle : plan.validateLifecycle = .ok ()
  hash : plan.planSha256 = trust.sha256Hex (String.ofList plan.content.canonical)

theorem valid_of_validate [JsonFloat F] {trust : Trust} (validated : plan.validate trust = .ok ()) :
    plan.Valid trust := by
  unfold validate at validated
  simp only [bind_eq_ok, require_eq_ok] at validated
  obtain ⟨_, -, parts, parsed, _, contract, _, -, _, -, _, answerBank, _, -, _, loopThreshold, _,
    gateIds, _, semanticGates, _, -, _, -, _, -, _, -, _, lifecycle, hash⟩ := validated
  exact ⟨⟨parts, parsed⟩, contract, answerBank, loopThreshold, gateIds, semanticGates, lifecycle,
    hash⟩

namespace Valid

variable [JsonFloat F] {trust : Trust} (valid : plan.Valid trust)

include valid

theorem controlId_mem : plan.controlId ∈ validControlIds := by
  have checked := valid.contract
  unfold validateContract at checked
  simp only [bind_eq_ok, require_eq_ok] at checked
  exact checked.choose_spec.1

theorem oracleId_mem {oracleId : String} (required : oracleId ∈ plan.requiredOracleIds) :
    oracleId ∈ oracleIds := by
  have checked := valid.contract
  unfold validateContract at checked
  simp only [bind_eq_ok, require_eq_ok, forM_eq_ok] at checked
  obtain ⟨_, -, _, -, _, -, _, -, each⟩ := checked
  exact each oracleId required

theorem two_le_loopThreshold {threshold : Int} (named : plan.loopThreshold = some threshold) :
    2 ≤ threshold := by
  have checked := valid.loopThreshold
  unfold validateLoopThreshold at checked
  rw [named] at checked
  exact require_eq_ok.mp checked

/-- The single gate ids are there. -/
theorem exists_gateText {gates : List (String × Json F)} (named : plan.semanticGates = some gates)
    {key : String} (single : key ∈ ["spec_acceptance_id", "spec_owner_completion_id",
      "stage3_snapshot_id"]) :
    ∃ text, nonemptyText? (valueAt gates key) = some text := by
  have checked := valid.semanticGates
  unfold validateSemanticGates at checked
  rw [named] at checked
  simp only [bind_eq_ok, require_eq_ok] at checked
  obtain ⟨_, -, _, each, -⟩ := checked
  have found := forM_eq_ok.mp each key single
  exact Option.isSome_iff_exists.mp (require_eq_ok.mp found)

end Valid

end TrustedGradingPlan

end Aegis.Graders
