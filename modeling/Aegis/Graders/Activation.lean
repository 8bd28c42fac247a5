/-
# Graders.Activation — which recorded activation satisfies the expected target

`graders/activation.py`: the evidence is a forest of recorded nodes of three tiers. A Tier-1 event
identifies an activation, a Tier-2 signature does when it was promoted with its approval reference,
prose never does. The grader flattens the forest and goes through a cascade of checks;
`verdict` says what the cascade comes to, in terms of which identifying nodes there are, and
`grade_activation_of_identifying` is the result: the tree shape, the order and the nodes that do not
identify have no part in it.
-/
import Aegis.Evidence.Verifier
import Aegis.Graders.Base
import Aegis.Lib.Forest
import Aegis.Lib.Grouping

namespace Aegis.Graders

open Aegis.Lib
open Aegis.Lib.Guarded
open Aegis.Evidence (truthy)
open Aegis.Runner (IsHexDigest RunnerError)

set_option autoImplicit false

inductive TargetKind
  | skill
  | subagent
  deriving DecidableEq, Repr

inductive InvocationMode
  | modelSelected
  | explicitSkillInvocation
  | delegatedSubagent
  deriving DecidableEq, Repr

/-- `EVIDENCE_TIERS`. -/
inductive EvidenceTier
  | tier1
  | tier2
  | tier3
  deriving DecidableEq, Repr

namespace TargetKind

def text : TargetKind → String
  | skill => "skill"
  | subagent => "subagent"

instance : Vocabulary TargetKind where
  text := text
  text_injective := by
    intro left right
    cases left <;> cases right <;> decide

def all : List TargetKind := [skill, subagent]

theorem mem_all (kind : TargetKind) : kind ∈ all := by
  cases kind <;> decide

end TargetKind

namespace InvocationMode

def text : InvocationMode → String
  | modelSelected => "model_selected"
  | explicitSkillInvocation => "explicit_skill_invocation"
  | delegatedSubagent => "delegated_subagent"

instance : Vocabulary InvocationMode where
  text := text
  text_injective := by
    intro left right
    cases left <;> cases right <;> decide

def all : List InvocationMode := [modelSelected, explicitSkillInvocation, delegatedSubagent]

theorem mem_all (mode : InvocationMode) : mode ∈ all := by
  cases mode <;> decide

end InvocationMode

namespace EvidenceTier

def text : EvidenceTier → String
  | tier1 => "TIER1_STRUCTURED_EVENT"
  | tier2 => "TIER2_OUTPUT_SIGNATURE"
  | tier3 => "TIER3_PROSE"

instance : Vocabulary EvidenceTier where
  text := text
  text_injective := by
    intro left right
    cases left <;> cases right <;> decide

def all : List EvidenceTier := [tier1, tier2, tier3]

theorem mem_all (tier : EvidenceTier) : tier ∈ all := by
  cases tier <;> decide

end EvidenceTier

def recordedSynthetic : String := "RECORDED_SYNTHETIC"

def activationKeys : List String := ["observed_nodes", "evidence_pointer"]

def nodeAllowedKeys : List String :=
  ["target_kind", "target_name", "evidence_tier", "invocation_mode", "source", "tier2_promoted",
    "promotion_ref", "children", "note"]

/-- What the grader reads of a validated node, its children apart. -/
structure ObservedNode (F : Type) where
  targetKind : TargetKind
  targetName : String
  evidenceTier : EvidenceTier
  invocationMode : Option InvocationMode
  tier2Promoted : Bool
  promotionRef : Json F
  /-- The value under `children` can be iterated: validation lets every falsy one pass. -/
  iterable : Bool

/-- An expected target. -/
structure ExpectedTarget where
  kind : TargetKind
  name : String
  mode : InvocationMode
  deriving DecidableEq, Repr

section Grading

variable {F : Type} [JsonFloat F]

/-- `_ambiguous`. -/
def ambiguous (kind detail : String) : Raised F :=
  .error .ambiguousActivation detail [("ambiguity_kind", .str kind)]

/-- `null` or a mode. -/
def readMode (path : String) : Json F → Except (Raised F) (Option InvocationMode)
  | .null => .ok none
  | value => (fetch (readOne InvocationMode.all value)
      (malformed (path ++ ": InvocationMode: unknown value"))).map some

/-- `node.get("tier2_promoted", False)`, a `bool`. -/
def readPromoted (path : String) : Option (Json F) → Except (Raised F) Bool
  | none => .ok false
  | some (.bool value) => .ok value
  | some _ => .error (malformed (path ++ ": tier2_promoted must be a boolean"))

/-- A value under `children` that a `for` goes through: a list, or an empty text or mapping. -/
def childrenIterable : Option (Json F) → Bool
  | none => true
  | some (.array _) => true
  | some (.object _) => true
  | some (.str _) => true
  | some _ => false

/-- The checks of `_validate_node` on a node itself. -/
def validateLabel (fields : List (String × Json F)) (path : String) :
    Except (Raised F) (ObservedNode F) := do
  require (∀ field ∈ fields, field.1 ∈ nodeAllowedKeys) (malformed (path ++ ": unknown keys"))
  let kind ← fetch (readOne TargetKind.all (valueAt fields "target_kind"))
    (malformed (path ++ ": TargetKind: unknown value"))
  let name ← fetch (nonemptyText? (valueAt fields "target_name"))
    (malformed (path ++ ": target_name required"))
  let tier ← fetch (readOne EvidenceTier.all (valueAt fields "evidence_tier"))
    (malformed (path ++ ": unknown evidence tier"))
  require ((valueAt fields "source").text? = some recordedSynthetic)
    (malformed (path ++ ": evidence source must be " ++ recordedSynthetic ++
      " in this non-live phase"))
  let mode ← readMode path (valueAt fields "invocation_mode")
  let promoted ← readPromoted path (Dict.get? fields "tier2_promoted")
  pure ⟨kind, name, tier, mode, promoted, valueAt fields "promotion_ref",
    childrenIterable (Dict.get? fields "children")⟩

mutual

/-- `_validate_node`. -/
def validateNode : Json F → String → Except (Raised F) (Lib.Tree (ObservedNode F))
  | .object fields, path => do
      let label ← validateLabel fields path
      let children ← validateChildren fields path
      pure (.node label children)
  | _, path => .error (malformed (path ++ " must be a mapping"))

/-- The value under `children`, of a falsy one no child. -/
def validateChildren : List (String × Json F) → String →
    Except (Raised F) (List (Lib.Tree (ObservedNode F)))
  | [], _ => .ok []
  | (key, value) :: later, path =>
      if key = "children" then validateChildList value path else validateChildren later path

def validateChildList : Json F → String → Except (Raised F) (List (Lib.Tree (ObservedNode F)))
  | .array items, path => validateNodes items (path ++ ".children") 0
  | value, path =>
      if truthy value = true then .error (malformed (path ++ ": children must be a list"))
      else .ok []

/-- The nodes of a list, from an index on. -/
def validateNodes : List (Json F) → String → Nat → Except (Raised F) (List (Lib.Tree (ObservedNode F)))
  | [], _, _ => .ok []
  | item :: later, path, index => do
      let node ← validateNode item s!"{path}[{index}]"
      let nodes ← validateNodes later path (index + 1)
      pure (node :: nodes)

end

/-- `_flatten`: iterating a `children` that is no iterable raises. -/
def flatten (nodes : List (Lib.Tree (ObservedNode F))) : Except (Raised F) (List (ObservedNode F)) := do
  require (∀ node ∈ Lib.Tree.labelsOf nodes, node.iterable = true)
    (.runner (.typeError "object is not iterable"))
  pure (Lib.Tree.labelsOf nodes)

namespace ObservedNode

variable (node : ObservedNode F)

/-- A Tier-2 signature that claims promotion without its reference. -/
def claimsUnproven : Bool :=
  node.evidenceTier = .tier2 && node.tier2Promoted && !truthy node.promotionRef

/-- `_is_identifying`. -/
def isIdentifying : Bool :=
  if node.evidenceTier = .tier1 then true
  else if node.evidenceTier = .tier2 ∧ node.tier2Promoted = true then truthy node.promotionRef
  else false

omit [JsonFloat F] in
/-- `(node["target_kind"], node["target_name"])`. -/
def identity : TargetKind × String := (node.targetKind, node.targetName)

end ObservedNode

/-- `by_identity`: the modes that the nodes of one kind and name state. -/
def byIdentity (identifying : List (ObservedNode F)) :
    List ((TargetKind × String) × List (Option InvocationMode)) :=
  groupBy ObservedNode.identity ObservedNode.invocationMode identifying

/-- The end of the cascade: the first identifying node of the expected name and kind. -/
def matchTarget (expected : ExpectedTarget) (identifying : List (ObservedNode F)) :
    Except (Raised F) (ObservedNode F) :=
  let nameMatches := identifying.filter fun node => node.targetName = expected.name
  let fullMatches := nameMatches.filter fun node => node.targetKind = expected.kind
  match nameMatches with
  | [] => .error (failed .targetNameMismatch
      "no activation-identifying evidence for the expected target")
  | first :: _ =>
      match fullMatches with
      | [] => .error (failed .targetKindMismatch ("a " ++ first.targetKind.text ++
          " activation never satisfies a " ++ expected.kind.text ++
          " expectation, even for the same name"))
      | matched :: _ =>
          if matched.invocationMode = some expected.mode then .ok matched
          else .error (failed .invocationModeMismatch
            "observed invocation mode does not satisfy the expected mode")

/-- The cascade of `grade_activation` over the flattened nodes. -/
def decideActivation (expected : ExpectedTarget) (flat : List (ObservedNode F)) :
    Except (Raised F) (ObservedNode F) := do
  refuse (∃ node ∈ flat, node.claimsUnproven = true)
    (ambiguous "unproven_promotion_claim" ("a Tier-2 signature claims promotion without its " ++
      "owner-approval reference; the claim is not usable"))
  let identifying := flat.filter ObservedNode.isIdentifying
  refuse (identifying = [] ∧ flat ≠ [] ∧ ∀ node ∈ flat, node.evidenceTier = .tier3)
    (ambiguous "prose_only" ("only Tier-3 prose evidence exists; prose is a claim, " ++
      "never activation-identifying"))
  refuse (identifying = [])
    (ambiguous "insufficient_evidence" ("no activation-identifying signal exists " ++
      "(no Tier-1 event, no promoted Tier-2 signature)"))
  refuse (∃ node ∈ identifying, node.invocationMode = none)
    (ambiguous "mode_unrepresented" ("an identifying node does not represent its invocation mode " ++
      "explicitly"))
  refuse (∃ group ∈ byIdentity identifying, 1 < group.2.length)
    (ambiguous "conflicting_signals" "identifying signals disagree on invocation mode")
  matchTarget expected identifying

/-- The reproduction data of a PASS. -/
def activationData (items : List (Json F)) (matched : ObservedNode F) : List (String × Json F) :=
  [("observed_nodes", .array items),
    ("matched_node", .dict [("target_kind", .word matched.targetKind),
      ("target_name", .str matched.targetName), ("evidence_tier", .word matched.evidenceTier),
      ("invocation_mode", optional (matched.invocationMode.map .word))]),
    ("r1_non_claim", .str ("Recorded synthetic evidence only; R1 real-host activation " ++
      "observability remains UNAVAILABLE/UNKNOWN"))]

/-- The expected target of a plan, as the body reads it. -/
def readExpected (plan : TrustedGradingPlan F) : Except (Raised F) ExpectedTarget := do
  let target ← fetch plan.expectedTarget (.runner (.schemaValidation
    "the trusted plan must carry the expected activation target"))
  let kind ← fetch (readOne TargetKind.all (valueAt target "target_kind"))
    (.runner (.unknownEnumValue "TargetKind"))
  let mode ← fetch (readOne InvocationMode.all (valueAt target "invocation_mode"))
    (.runner (.unknownEnumValue "InvocationMode"))
  let name ← fetch (nonemptyText? (valueAt target "target_name")) (.runner (.keyError "target_name"))
  pure ⟨kind, name, mode⟩

/-- The body of `grade_activation`. -/
def gradeActivationBody (plan : TrustedGradingPlan F) (data : List (String × Json F)) :
    Except (Raised F) (List (String × Json F)) := do
  requireKeys data activationKeys activationKeys
  let expected ← readExpected plan
  match valueAt data "observed_nodes" with
  | .array items => do
      let nodes ← validateNodes items "observed_nodes" 0
      let flat ← flatten nodes
      let matched ← decideActivation expected flat
      pure (activationData items matched)
  | _ => .error (malformed "observed_nodes must be a list")

variable (trust : Trust)

/-- `grade_activation`. -/
def gradeActivation (plan : TrustedGradingPlan F) (evidence : List (String × Json F)) :
    Except RunnerError (GraderResult F) :=
  runGrader trust "graders.activation" "oracle.activation.typed_target" plan evidence
    gradeActivationBody

end Grading

/-! ## What the cascade comes to -/

section Verdict

variable {F : Type} [JsonFloat F]

namespace ObservedNode

variable {node : ObservedNode F}

/-- Activation-identifying evidence: a Tier-1 event, or a promoted Tier-2 signature with its
reference. -/
def Identifying (node : ObservedNode F) : Prop :=
  node.evidenceTier = .tier1 ∨
    (node.evidenceTier = .tier2 ∧ node.tier2Promoted = true ∧ truthy node.promotionRef = true)

/-- A promotion that is claimed without a reference. -/
def Unproven (node : ObservedNode F) : Prop :=
  node.evidenceTier = .tier2 ∧ node.tier2Promoted = true ∧ truthy node.promotionRef = false

theorem isIdentifying_iff : node.isIdentifying = true ↔ node.Identifying := by
  unfold isIdentifying Identifying
  cases node.evidenceTier <;> cases node.tier2Promoted <;> simp

theorem claimsUnproven_iff : node.claimsUnproven = true ↔ node.Unproven := by
  simp [claimsUnproven, Unproven, and_assoc]

end ObservedNode

/-- The identifying evidence of the nodes is unambiguous. -/
structure Unambiguous (nodes : List (ObservedNode F)) : Prop where
  proven : ∀ node ∈ nodes, ¬ node.Unproven
  stated : ∀ node ∈ nodes, node.Identifying → node.invocationMode ≠ none
  agree : ∀ left ∈ nodes, ∀ right ∈ nodes, left.Identifying → right.Identifying →
    left.targetKind = right.targetKind → left.targetName = right.targetName →
    left.invocationMode = right.invocationMode

/-- Some node identifies an activation. -/
def Evidenced (nodes : List (ObservedNode F)) : Prop := ∃ node ∈ nodes, node.Identifying

/-- Some identifying node has the expected name. -/
def Named (expected : ExpectedTarget) (nodes : List (ObservedNode F)) : Prop :=
  ∃ node ∈ nodes, node.Identifying ∧ node.targetName = expected.name

/-- Some identifying node has the expected kind and name. -/
def Typed (expected : ExpectedTarget) (nodes : List (ObservedNode F)) : Prop :=
  ∃ node ∈ nodes, node.Identifying ∧ node.targetKind = expected.kind ∧
    node.targetName = expected.name

/-- Some identifying node has exactly the expected kind, name and mode. -/
def Satisfied (expected : ExpectedTarget) (nodes : List (ObservedNode F)) : Prop :=
  ∃ node ∈ nodes, node.Identifying ∧ node.targetKind = expected.kind ∧
    node.targetName = expected.name ∧ node.invocationMode = some expected.mode

open Classical in
/-- What the grader decides, said of the identifying nodes alone. -/
noncomputable def verdict (expected : ExpectedTarget) (nodes : List (ObservedNode F)) :
    GraderResultState × Option GradingReasonCode :=
  if Unambiguous nodes ∧ Evidenced nodes then
    if Satisfied expected nodes then (.pass, none)
    else if Typed expected nodes then (.fail, some .invocationModeMismatch)
    else if Named expected nodes then (.fail, some .targetKindMismatch)
    else (.fail, some .targetNameMismatch)
  else (.error, some .ambiguousActivation)

/-- A node that the verdict reads. -/
def ObservedNode.Telling (node : ObservedNode F) : Prop := node.Identifying ∨ node.Unproven

/-- Two lists with the same telling nodes. -/
def SameEvidence (nodes nodes' : List (ObservedNode F)) : Prop :=
  ∀ node : ObservedNode F, node.Telling → (node ∈ nodes ↔ node ∈ nodes')

namespace SameEvidence

variable {nodes nodes' : List (ObservedNode F)} (same : SameEvidence nodes nodes')

include same

theorem symm : SameEvidence nodes' nodes := fun node telling => (same node telling).symm

/-- What an identifying node is asked for is asked of both lists. -/
theorem exists_iff {P : ObservedNode F → Prop} :
    (∃ node ∈ nodes, node.Identifying ∧ P node) ↔ ∃ node ∈ nodes', node.Identifying ∧ P node :=
  exists_congr fun node => by
    constructor
    · rintro ⟨member, identifying, holds⟩
      exact ⟨(same node (.inl identifying)).mp member, identifying, holds⟩
    · rintro ⟨member, identifying, holds⟩
      exact ⟨(same node (.inl identifying)).mpr member, identifying, holds⟩

theorem unambiguous (known : Unambiguous nodes) : Unambiguous nodes' := by
  obtain ⟨proven, stated, agree⟩ := known
  refine ⟨fun node member unproven => ?_, fun node member identifying => ?_,
    fun left isLeft right isRight leftId rightId => ?_⟩
  · exact proven node ((same node (.inr unproven)).mpr member) unproven
  · exact stated node ((same node (.inl identifying)).mpr member) identifying
  · exact agree left ((same left (.inl leftId)).mpr isLeft) right
      ((same right (.inl rightId)).mpr isRight) leftId rightId

/-- **The verdict depends on the telling nodes only.** -/
theorem verdict_eq (expected : ExpectedTarget) : verdict expected nodes = verdict expected nodes' := by
  have unambiguous : Unambiguous nodes ↔ Unambiguous nodes' :=
    ⟨same.unambiguous, same.symm.unambiguous⟩
  have evidenced : Evidenced nodes ↔ Evidenced nodes' := by
    unfold Evidenced
    simpa only [and_true] using same.exists_iff (P := fun _ => True)
  have named : Named expected nodes ↔ Named expected nodes' := same.exists_iff
  have typed : Typed expected nodes ↔ Typed expected nodes' := same.exists_iff
  have satisfied : Satisfied expected nodes ↔ Satisfied expected nodes' := same.exists_iff
  unfold verdict
  rw [propext unambiguous, propext evidenced, propext named, propext typed, propext satisfied]

end SameEvidence

theorem sameEvidence_of_perm {nodes nodes' : List (ObservedNode F)} (perm : nodes.Perm nodes') :
    SameEvidence nodes nodes' := fun _ _ => perm.mem_iff

/-- A node that tells nothing may come or go. -/
theorem sameEvidence_of_perm_cons {nodes nodes' : List (ObservedNode F)} {extra : ObservedNode F}
    (untold : ¬ extra.Telling) (perm : nodes'.Perm (extra :: nodes)) : SameEvidence nodes nodes' := by
  intro node telling
  rw [perm.mem_iff, List.mem_cons]
  refine (or_iff_right fun same => untold ?_).symm
  exact same ▸ telling

section States

variable {expected : ExpectedTarget} {nodes : List (ObservedNode F)}

theorem evidenced_of_satisfied (satisfied : Satisfied expected nodes) : Evidenced nodes := by
  obtain ⟨node, member, identifying, -⟩ := satisfied
  exact ⟨node, member, identifying⟩

theorem verdict_pass_iff :
    (verdict expected nodes).1 = .pass ↔ Unambiguous nodes ∧ Satisfied expected nodes := by
  unfold verdict
  by_cases usable : Unambiguous nodes ∧ Evidenced nodes
  · rw [if_pos usable]
    by_cases satisfied : Satisfied expected nodes
    · rw [if_pos satisfied]
      exact ⟨fun _ => ⟨usable.1, satisfied⟩, fun _ => rfl⟩
    · rw [if_neg satisfied]
      refine ⟨fun pass => ?_, fun both => absurd both.2 satisfied⟩
      split_ifs at pass
  · rw [if_neg usable]
    exact ⟨nofun, fun both => absurd ⟨both.1, evidenced_of_satisfied both.2⟩ usable⟩

theorem verdict_fail_iff :
    (verdict expected nodes).1 = .fail ↔
      Unambiguous nodes ∧ Evidenced nodes ∧ ¬ Satisfied expected nodes := by
  unfold verdict
  by_cases usable : Unambiguous nodes ∧ Evidenced nodes
  · rw [if_pos usable]
    by_cases satisfied : Satisfied expected nodes
    · rw [if_pos satisfied]
      exact ⟨nofun, fun ⟨_, _, not⟩ => absurd satisfied not⟩
    · rw [if_neg satisfied]
      refine ⟨fun _ => ⟨usable.1, usable.2, satisfied⟩, fun _ => ?_⟩
      split_ifs <;> rfl
  · rw [if_neg usable]
    exact ⟨nofun, fun ⟨unambiguous, evidenced, _⟩ => absurd ⟨unambiguous, evidenced⟩ usable⟩

theorem verdict_error_iff :
    (verdict expected nodes).1 = .error ↔ ¬ (Unambiguous nodes ∧ Evidenced nodes) := by
  unfold verdict
  by_cases usable : Unambiguous nodes ∧ Evidenced nodes
  · rw [if_pos usable]
    refine ⟨fun error => ?_, fun not => absurd usable not⟩
    split_ifs at error
  · rw [if_neg usable]
    exact ⟨fun _ => usable, fun _ => rfl⟩

end States

/-! ## The cascade computes the verdict -/

section Cascade

variable {expected : ExpectedTarget} {flat : List (ObservedNode F)}

theorem mem_identifying {node : ObservedNode F} :
    node ∈ flat.filter ObservedNode.isIdentifying ↔ node ∈ flat ∧ node.Identifying := by
  rw [List.mem_filter, ObservedNode.isIdentifying_iff]

omit [JsonFloat F] in
theorem filter_ne_nil_iff {P : ObservedNode F → Bool} :
    flat.filter P ≠ [] ↔ ∃ node ∈ flat, P node = true := by
  rw [Ne, List.filter_eq_nil_iff]
  push Not
  rfl

theorem evidenced_iff : Evidenced flat ↔ flat.filter ObservedNode.isIdentifying ≠ [] := by
  simp only [filter_ne_nil_iff, ObservedNode.isIdentifying_iff, Evidenced]

/-- Two identifying nodes of one kind and name that state different modes. -/
theorem conflicting_iff :
    (∃ group ∈ byIdentity (flat.filter ObservedNode.isIdentifying), 1 < group.2.length) ↔
      ∃ left ∈ flat, ∃ right ∈ flat, left.Identifying ∧ right.Identifying ∧
        left.targetKind = right.targetKind ∧ left.targetName = right.targetName ∧
          left.invocationMode ≠ right.invocationMode := by
  rw [byIdentity, exists_crowded_iff]
  simp only [mem_identifying, ObservedNode.identity, Prod.mk.injEq]
  constructor
  · rintro ⟨left, ⟨isLeft, leftId⟩, right, ⟨isRight, rightId⟩, ⟨kind, name⟩, apart⟩
    exact ⟨left, isLeft, right, isRight, leftId, rightId, kind, name, apart⟩
  · rintro ⟨left, isLeft, right, isRight, leftId, rightId, kind, name, apart⟩
    exact ⟨left, ⟨isLeft, leftId⟩, right, ⟨isRight, rightId⟩, ⟨kind, name⟩, apart⟩

/-- The checks before the match refuse what is ambiguous, always with the same reason. -/
theorem decideActivation_cases (expected : ExpectedTarget) (flat : List (ObservedNode F)) :
    (¬ (Unambiguous flat ∧ Evidenced flat) ∧
      ∃ kind detail, decideActivation expected flat = .error (ambiguous kind detail)) ∨
    ((Unambiguous flat ∧ Evidenced flat) ∧ decideActivation expected flat =
      matchTarget expected (flat.filter ObservedNode.isIdentifying)) := by
  unfold decideActivation
  by_cases unproven : ∃ node ∈ flat, node.claimsUnproven = true
  · refine .inl ⟨fun usable => ?_, _, _, by rw [refuse, if_pos unproven]; rfl⟩
    obtain ⟨node, member, claims⟩ := unproven
    exact usable.1.proven node member (ObservedNode.claimsUnproven_iff.mp claims)
  rw [refuse, if_neg unproven]
  by_cases prose : flat.filter ObservedNode.isIdentifying = [] ∧ flat ≠ [] ∧
      ∀ node ∈ flat, node.evidenceTier = .tier3
  · exact .inl ⟨fun usable => evidenced_iff.mp usable.2 prose.1, _, _,
      by simp only [refuse, if_pos prose]; rfl⟩
  by_cases none : flat.filter ObservedNode.isIdentifying = []
  · exact .inl ⟨fun usable => evidenced_iff.mp usable.2 none, _, _,
      by simp only [refuse, if_neg prose, if_pos none]; rfl⟩
  by_cases unstated : ∃ node ∈ flat.filter ObservedNode.isIdentifying, node.invocationMode = .none
  · refine .inl ⟨fun usable => ?_, _, _,
      by simp only [refuse, if_neg prose, if_neg none, if_pos unstated]; rfl⟩
    obtain ⟨node, member, missing⟩ := unstated
    obtain ⟨member, identifying⟩ := mem_identifying.mp member
    exact usable.1.stated node member identifying missing
  by_cases conflicting : ∃ group ∈ byIdentity (flat.filter ObservedNode.isIdentifying),
      1 < group.2.length
  · refine .inl ⟨fun usable => ?_, _, _,
      by simp only [refuse, if_neg prose, if_neg none, if_neg unstated, if_pos conflicting]; rfl⟩
    obtain ⟨left, isLeft, right, isRight, leftId, rightId, kind, name, apart⟩ :=
      conflicting_iff.mp conflicting
    exact apart (usable.1.agree left isLeft right isRight leftId rightId kind name)
  refine .inr ⟨⟨⟨fun node member claims => ?_, fun node member identifying missing => ?_,
    fun left isLeft right isRight leftId rightId kind name => ?_⟩, evidenced_iff.mpr none⟩,
    by simp only [refuse, if_neg prose, if_neg none, if_neg unstated, if_neg conflicting]; rfl⟩
  · exact unproven ⟨node, member, ObservedNode.claimsUnproven_iff.mpr claims⟩
  · exact unstated ⟨node, mem_identifying.mpr ⟨member, identifying⟩, missing⟩
  · by_contra apart
    exact conflicting (conflicting_iff.mpr
      ⟨left, isLeft, right, isRight, leftId, rightId, kind, name, apart⟩)

/-- The state and the reason of what a body does. -/
def ruling {α : Type} : Except (Raised F) α → Option (GraderResultState × Option GradingReasonCode)
  | .ok _ => some (.pass, none)
  | .error (.fail reason _ _) => some (.fail, some reason)
  | .error (.error reason _ _) => some (.error, some reason)
  | .error (.runner _) => none

/-- **The first full match stands for all of them.** -/
theorem ruling_matchTarget (unambiguous : Unambiguous flat) (evidenced : Evidenced flat) :
    ruling (matchTarget expected (flat.filter ObservedNode.isIdentifying)) =
      some (verdict expected flat) := by
  have named : Named expected flat ↔ (flat.filter ObservedNode.isIdentifying).filter
      (fun node => node.targetName = expected.name) ≠ [] := by
    rw [filter_ne_nil_iff]
    simp only [mem_identifying, decide_eq_true_eq, Named, and_assoc]
  have full : ∀ {node : ObservedNode F}, node ∈ ((flat.filter ObservedNode.isIdentifying).filter
      (fun node => node.targetName = expected.name)).filter
        (fun node => node.targetKind = expected.kind) ↔
      node ∈ flat ∧ node.Identifying ∧ node.targetKind = expected.kind ∧
        node.targetName = expected.name := by
    intro node
    simp only [List.mem_filter (p := fun node : ObservedNode F => decide (_ = _)), mem_identifying,
      decide_eq_true_eq]
    tauto
  unfold matchTarget verdict
  rw [if_pos ⟨unambiguous, evidenced⟩]
  dsimp only
  split
  · rename_i none
    have unnamed : ¬ Named expected flat := fun held => named.mp held none
    have untyped : ¬ Typed expected flat := fun ⟨node, member, identifying, _, name⟩ =>
      unnamed ⟨node, member, identifying, name⟩
    have unsatisfied : ¬ Satisfied expected flat := fun ⟨node, member, identifying, kind, name, _⟩ =>
      untyped ⟨node, member, identifying, kind, name⟩
    rw [if_neg unsatisfied, if_neg untyped, if_neg unnamed]
    rfl
  · rename_i first later some
    have held : Named expected flat := named.mpr (some ▸ List.cons_ne_nil _ _)
    split
    · rename_i none
      have untyped : ¬ Typed expected flat := by
        rintro ⟨node, member, identifying, kind, name⟩
        exact List.not_mem_nil (none ▸ full.mpr ⟨member, identifying, kind, name⟩)
      have unsatisfied : ¬ Satisfied expected flat := fun ⟨node, member, identifying, kind, name, _⟩ =>
        untyped ⟨node, member, identifying, kind, name⟩
      rw [if_neg unsatisfied, if_neg untyped, if_pos held]
      rfl
    · rename_i matched others found
      obtain ⟨member, identifying, kind, name⟩ := full.mp (found ▸ List.mem_cons_self)
      by_cases same : matched.invocationMode = .some expected.mode
      · rw [if_pos same, if_pos ⟨matched, member, identifying, kind, name, same⟩]
        rfl
      · -- every other full match states the mode of the first
        have unsatisfied : ¬ Satisfied expected flat := by
          rintro ⟨node, among, alsoId, alsoKind, alsoName, mode⟩
          exact same ((unambiguous.agree matched member node among identifying alsoId
            (kind.trans alsoKind.symm) (name.trans alsoName.symm)).trans mode)
        rw [if_neg same, if_neg unsatisfied, if_pos ⟨matched, member, identifying, kind, name⟩]
        rfl

/-- **The cascade is the verdict.** -/
theorem ruling_decideActivation (expected : ExpectedTarget) (flat : List (ObservedNode F)) :
    ruling (decideActivation expected flat) = some (verdict expected flat) := by
  rcases decideActivation_cases expected flat with ⟨unusable, kind, detail, decided⟩ |
    ⟨⟨unambiguous, evidenced⟩, decided⟩
  · rw [decided, verdict, if_neg unusable]
    rfl
  · rw [decided, ruling_matchTarget unambiguous evidenced]

end Cascade

end Verdict

/-! ## Recorded forests -/

section Spelled

variable {F : Type} [JsonFloat F]

/-- A recorded mapping states what a label holds. -/
structure States (fields : List (String × Json F)) (label : ObservedNode F) : Prop where
  known : ∀ field ∈ fields, field.1 ∈ nodeAllowedKeys
  kind : valueAt fields "target_kind" = .word label.targetKind
  name : valueAt fields "target_name" = .str label.targetName ∧ label.targetName ≠ ""
  tier : valueAt fields "evidence_tier" = .word label.evidenceTier
  source : valueAt fields "source" = .str recordedSynthetic
  mode : (valueAt fields "invocation_mode" = .null ∧ label.invocationMode = none) ∨
    ∃ mode : InvocationMode, valueAt fields "invocation_mode" = .word mode ∧
      label.invocationMode = some mode
  promoted : (Dict.get? fields "tier2_promoted" = none ∧ label.tier2Promoted = false) ∨
    Dict.get? fields "tier2_promoted" = some (.bool label.tier2Promoted)
  reference : label.promotionRef = valueAt fields "promotion_ref"
  iterable : label.iterable = true

/-- No children: none recorded, or an empty text or mapping. -/
def Childless (fields : List (String × Json F)) : Prop :=
  Dict.get? fields "children" = none ∨ Dict.get? fields "children" = some (.str "") ∨
    Dict.get? fields "children" = some (.object [])

mutual

/-- A recorded value is a well-formed node, with its children to any depth. -/
def Spelled : Lib.Tree (ObservedNode F) → Json F → Prop
  | .node label children, value => ∃ fields, value = .object fields ∧ States fields label ∧
      ((Childless fields ∧ children = []) ∨
        ∃ items, Dict.get? fields "children" = some (.array items) ∧ SpelledAll children items)

/-- A recorded list is a well-formed forest. -/
def SpelledAll : List (Lib.Tree (ObservedNode F)) → List (Json F) → Prop
  | [], [] => True
  | tree :: later, item :: items => Spelled tree item ∧ SpelledAll later items
  | _, _ => False

end

omit [JsonFloat F] in
theorem validateLabel_of_states {fields : List (String × Json F)} {label : ObservedNode F}
    (states : States fields label)
    (iterable : childrenIterable (Dict.get? fields "children") = true) (path : String) :
    validateLabel fields path = .ok label := by
  obtain ⟨known, kind, ⟨name, nonempty⟩, tier, source, mode, promoted, reference, same⟩ := states
  have modeRead : readMode path (valueAt fields "invocation_mode") = .ok label.invocationMode := by
    rcases mode with ⟨null, none⟩ | ⟨mode, word, some⟩
    · rw [null, none]
      rfl
    · rw [word, some]
      show Except.map _ (fetch (readOne InvocationMode.all (.word mode)) _) = _
      rw [readOne_eq_some.mpr ⟨mode.mem_all, rfl⟩]
      rfl
  have promotedRead : readPromoted path (Dict.get? fields "tier2_promoted") =
      .ok label.tier2Promoted := by
    rcases promoted with ⟨none, false⟩ | some
    · rw [none, false]
      rfl
    · rw [some]
      rfl
  unfold validateLabel
  simp only [bind_eq_ok, require_eq_ok, fetch_eq_ok, pure_eq_ok]
  refine ⟨⟨⟩, known, _, readOne_eq_some.mpr ⟨label.targetKind.mem_all, kind⟩, _,
    nonemptyText?_eq_some.mpr ⟨name, nonempty⟩, _,
    readOne_eq_some.mpr ⟨label.evidenceTier.mem_all, tier⟩, ⟨⟩, by rw [source]; rfl, _, modeRead, _,
    promotedRead, ?_⟩
  rw [iterable, ← reference, ← same]

theorem validateChildren_eq (fields : List (String × Json F)) (path : String) :
    validateChildren fields path = match Dict.get? fields "children" with
      | none => .ok []
      | some value => validateChildList value path := by
  induction fields with
  | nil => rw [validateChildren]; rfl
  | cons field later ih =>
      obtain ⟨key, value⟩ := field
      rw [validateChildren, Dict.get?_cons]
      by_cases same : key = "children"
      · rw [if_pos same, if_pos same.symm]
      · rw [if_neg same, if_neg (Ne.symm same), ih]

theorem validateChildren_of_childless {fields : List (String × Json F)} (childless : Childless fields)
    (path : String) : validateChildren fields path = .ok [] ∧
      childrenIterable (Dict.get? fields "children") = true := by
  rw [validateChildren_eq]
  rcases childless with none | text | mapping
  · rw [none]
    exact ⟨rfl, rfl⟩
  · rw [text]
    exact ⟨rfl, rfl⟩
  · rw [mapping]
    exact ⟨rfl, rfl⟩

mutual

theorem validateNode_of_recorded : ∀ (tree : Lib.Tree (ObservedNode F)) {value : Json F} (path : String),
    Spelled tree value → validateNode value path = .ok tree ∧
      ∀ node ∈ tree.labels, node.iterable = true
  | .node label children, value, path, recorded => by
      rw [Spelled] at recorded
      obtain ⟨fields, rfl, states, kids⟩ := recorded
      rw [validateNode, Lib.Tree.labels_node, List.forall_mem_cons]
      simp only [bind_eq_ok, pure_eq_ok]
      rcases kids with ⟨childless, rfl⟩ | ⟨items, held, each⟩
      · obtain ⟨none, iterable⟩ := validateChildren_of_childless childless path
        refine ⟨⟨label, validateLabel_of_states states iterable path, [], none, rfl⟩,
          states.iterable, ?_⟩
        rw [Lib.Tree.labelsOf]
        exact fun _ member => absurd member List.not_mem_nil
      · obtain ⟨read, iterable⟩ := validateNodes_of_recorded children (path ++ ".children") 0 each
        refine ⟨⟨label, validateLabel_of_states states (by rw [held]; rfl) path, children, ?_, rfl⟩,
          states.iterable, iterable⟩
        rw [validateChildren_eq, held]
        show validateChildList (.array items) path = _
        rw [validateChildList, read]

theorem validateNodes_of_recorded : ∀ (trees : List (Lib.Tree (ObservedNode F))) {items : List (Json F)}
    (path : String) (index : Nat), SpelledAll trees items →
      validateNodes items path index = .ok trees ∧ ∀ node ∈ Lib.Tree.labelsOf trees, node.iterable = true
  | [], [], path, index, _ => by
      rw [validateNodes, Lib.Tree.labelsOf]
      exact ⟨rfl, fun _ member => absurd member List.not_mem_nil⟩
  | tree :: later, item :: items, path, index, recorded => by
      rw [SpelledAll] at recorded
      obtain ⟨here, rest⟩ := recorded
      obtain ⟨read, iterable⟩ := validateNode_of_recorded tree s!"{path}[{index}]" here
      obtain ⟨reads, iterables⟩ := validateNodes_of_recorded later path (index + 1) rest
      rw [validateNodes, Lib.Tree.labelsOf_cons, List.forall_mem_append]
      simp only [bind_eq_ok, pure_eq_ok]
      exact ⟨⟨tree, read, later, reads, rfl⟩, iterable, iterables⟩

end

end Spelled

section Results

variable {F : Type} [JsonFloat F] {trust : Trust} {plan : TrustedGradingPlan F}
  {evidence : List (String × Json F)} {forest : List (Lib.Tree (ObservedNode F))}

/-- Observed evidence that records a forest of well-formed nodes. -/
structure Observes (evidence : List (String × Json F)) (forest : List (Lib.Tree (ObservedNode F))) :
    Prop where
  keys : HasKeys evidence activationKeys
  recorded : ∃ items, valueAt evidence "observed_nodes" = .array items ∧ SpelledAll forest items

/-- The target that a plan expects. -/
def ExpectedTarget.StatedBy (expected : ExpectedTarget) (plan : TrustedGradingPlan F) : Prop :=
  ∃ target, plan.expectedTarget = some target ∧
    valueAt target "target_kind" = .word expected.kind ∧
    valueAt target "target_name" = .str expected.name ∧
    valueAt target "invocation_mode" = .word expected.mode

theorem expectedTarget_checked (validated : plan.validate trust = .ok ()) :
    plan.validateExpectedTarget = .ok () := by
  unfold TrustedGradingPlan.validate at validated
  simp only [bind_eq_ok] at validated
  obtain ⟨_, -, _, -, _, -, _, -, _, checked, -⟩ := validated
  exact checked

/-- **A validated plan with an expected target states one that the body reads.** -/
theorem exists_statedBy (validated : plan.validate trust = .ok ())
    (planned : plan.expectedTarget ≠ none) :
    ∃ expected : ExpectedTarget, expected.StatedBy plan ∧ readExpected plan = .ok expected := by
  obtain ⟨target, held⟩ := Option.ne_none_iff_exists'.mp planned
  have checked := expectedTarget_checked validated
  unfold TrustedGradingPlan.validateExpectedTarget at checked
  rw [held] at checked
  simp only [bind_eq_ok, require_eq_ok] at checked
  obtain ⟨_, -, _, kindText, _, modeText, nameText⟩ := checked
  obtain ⟨name, nameRead⟩ := Option.isSome_iff_exists.mp nameText
  have kindRead : ∃ kind, readOne TargetKind.all (valueAt target "target_kind") = some kind := by
    obtain ⟨text, read, which⟩ := (Option.any_eq_true _ _).mp kindText
    obtain ⟨isText, -⟩ := nonemptyText?_eq_some.mp read
    rw [isText]
    simp only [Bool.or_eq_true, decide_eq_true_eq] at which
    rcases which with rfl | rfl
    · exact ⟨.skill, rfl⟩
    · exact ⟨.subagent, rfl⟩
  have modeRead : ∃ mode, readOne InvocationMode.all (valueAt target "invocation_mode") =
      some mode := by
    obtain ⟨text, read, which⟩ := (Option.any_eq_true _ _).mp modeText
    obtain ⟨isText, -⟩ := nonemptyText?_eq_some.mp read
    rw [isText]
    simp only [Bool.or_eq_true, decide_eq_true_eq] at which
    rcases which with (rfl | rfl) | rfl
    · exact ⟨.modelSelected, rfl⟩
    · exact ⟨.explicitSkillInvocation, rfl⟩
    · exact ⟨.delegatedSubagent, rfl⟩
  obtain ⟨kind, kindRead⟩ := kindRead
  obtain ⟨mode, modeRead⟩ := modeRead
  refine ⟨⟨kind, name, mode⟩, ⟨target, held, (readOne_eq_some.mp kindRead).2,
    (nonemptyText?_eq_some.mp nameRead).1, (readOne_eq_some.mp modeRead).2⟩, ?_⟩
  unfold readExpected
  simp only [bind_eq_ok, fetch_eq_ok, pure_eq_ok]
  exact ⟨target, held, kind, kindRead, mode, modeRead, name, nameRead, rfl⟩

omit [JsonFloat F] in
/-- A ruling is the state and the reason of the outcome. -/
theorem exists_outcome {done : Except (Raised F) (List (String × Json F))}
    {state : GraderResultState} {reason : Option GradingReasonCode}
    (ruled : ruling done = some (state, reason)) :
    ∃ reproduction, outcomeOf done = .ok (state, reason, reproduction) := by
  unfold ruling at ruled
  split at ruled
  · cases ruled
    exact ⟨_, rfl⟩
  · cases ruled
    exact ⟨_, rfl⟩
  · cases ruled
    exact ⟨_, rfl⟩
  · cases ruled

omit [JsonFloat F] in
theorem ruling_map {α β : Type} (f : α → β) (done : Except (Raised F) α) :
    ruling (done.map f) = ruling done := by
  rcases done with (_ | _ | _) | _ <;> rfl

/-- **A recorded forest is graded by the verdict over its nodes.** -/
theorem gradeActivation_verdict (hex : ∀ text, IsHexDigest (trust.sha256Hex text))
    {expected : ExpectedTarget} (read : readExpected plan = .ok expected)
    (gradable : Gradable trust "oracle.activation.typed_target" plan evidence)
    (observes : Observes evidence forest) :
    ∃ result, gradeActivation trust plan evidence = .ok result ∧
      result.resultState = (verdict expected (Lib.Tree.labelsOf forest)).1 ∧
      result.reasonCode = (verdict expected (Lib.Tree.labelsOf forest)).2 := by
  obtain ⟨keys, items, held, recorded⟩ := observes
  obtain ⟨nodes, iterable⟩ := validateNodes_of_recorded forest "observed_nodes" 0 recorded
  have flat : flatten forest = .ok (Lib.Tree.labelsOf forest) := by
    unfold flatten
    exact bind_eq_ok.mpr ⟨⟨⟩, require_eq_ok.mpr iterable, rfl⟩
  have body : gradeActivationBody plan evidence =
      (decideActivation expected (Lib.Tree.labelsOf forest)).map (activationData items) := by
    unfold gradeActivationBody
    rw [requireKeys_eq_ok.mpr keys, read, held]
    dsimp only [bind, Except.bind]
    rw [nodes]
    dsimp only
    rw [flat]
    rfl
  have ruled : ruling (gradeActivationBody plan evidence) =
      some (verdict expected (Lib.Tree.labelsOf forest)) := by
    rw [body, ruling_map, ruling_decideActivation]
  obtain ⟨reproduction, outcome⟩ := exists_outcome ruled
  exact runGrader_of_outcome hex (by decide) gradable outcome

/-- What may be done to a forest without touching its evidence. -/
inductive Rearranged : List (Lib.Tree (ObservedNode F)) → List (Lib.Tree (ObservedNode F)) → Prop
  | siblings {before after : List (Lib.Tree (ObservedNode F))} (permuted : Lib.Tree.Permuted before after) :
      Rearranged before after
  | subtree {before after : List (Lib.Tree (ObservedNode F))} (moved : Lib.Tree.Moved before after) :
      Rearranged before after
  | added {before after : List (Lib.Tree (ObservedNode F))} (leaf : ObservedNode F)
      (corroborating : leaf.evidenceTier = .tier3 ∨
        (leaf.evidenceTier = .tier2 ∧ leaf.tier2Promoted = false))
      (grafted : Lib.Tree.Grafted (.node leaf []) before after) : Rearranged before after
  | removed {before after : List (Lib.Tree (ObservedNode F))} (leaf : ObservedNode F)
      (corroborating : leaf.evidenceTier = .tier3 ∨
        (leaf.evidenceTier = .tier2 ∧ leaf.tier2Promoted = false))
      (grafted : Lib.Tree.Grafted (.node leaf []) after before) : Rearranged before after

theorem not_telling_of_corroborating {leaf : ObservedNode F}
    (corroborating : leaf.evidenceTier = .tier3 ∨
      (leaf.evidenceTier = .tier2 ∧ leaf.tier2Promoted = false)) : ¬ leaf.Telling := by
  unfold ObservedNode.Telling ObservedNode.Identifying ObservedNode.Unproven
  rcases corroborating with prose | ⟨signature, unpromoted⟩
  · simp [prose]
  · simp [signature, unpromoted]

/-- A leaf that is grafted is one more label. -/
theorem sameEvidence_of_grafted {leaf : ObservedNode F} (untold : ¬ leaf.Telling)
    {before after : List (Lib.Tree (ObservedNode F))}
    (grafted : Lib.Tree.Grafted (.node leaf []) before after) :
    SameEvidence (Lib.Tree.labelsOf before) (Lib.Tree.labelsOf after) := by
  have perm := grafted.perm
  rw [Lib.Tree.labels_leaf] at perm
  exact sameEvidence_of_perm_cons untold perm

theorem Rearranged.sameEvidence {before after : List (Lib.Tree (ObservedNode F))}
    (rearranged : Rearranged before after) :
    SameEvidence (Lib.Tree.labelsOf before) (Lib.Tree.labelsOf after) := by
  cases rearranged with
  | siblings permuted => exact sameEvidence_of_perm (Lib.Tree.labelsOf_perm_of_permuted permuted)
  | subtree moved => exact sameEvidence_of_perm moved.perm
  | added leaf corroborating grafted =>
      exact sameEvidence_of_grafted (not_telling_of_corroborating corroborating) grafted
  | removed leaf corroborating grafted =>
      exact (sameEvidence_of_grafted (not_telling_of_corroborating corroborating) grafted).symm

end Results

/-! ## A sample -/

section Sample

open Aegis.Budget (ZeroFloat)

def sampleTarget : ExpectedTarget := ⟨.skill, "planner", .modelSelected⟩

def sampleActivationPlan : TrustedGradingPlan ZeroFloat :=
  { samplePlan "SCENARIO_A_CONTROL_F" ["oracle.activation.typed_target"] with
    expectedTarget := some [("target_kind", .word sampleTarget.kind),
      ("target_name", .str sampleTarget.name), ("invocation_mode", .word sampleTarget.mode)] }

/-- A recorded node without its children. -/
def sampleNode (tier : EvidenceTier) : List (String × Json ZeroFloat) :=
  [("target_kind", .word TargetKind.skill), ("target_name", .str "planner"),
    ("evidence_tier", .word tier), ("invocation_mode", .word InvocationMode.modelSelected),
    ("source", .str recordedSynthetic)]

def sampleLabel (tier : EvidenceTier) : ObservedNode ZeroFloat :=
  ⟨.skill, "planner", tier, some .modelSelected, false, .null, true⟩

def sampleActivation (nodes : List (Json ZeroFloat)) : List (String × Json ZeroFloat) :=
  [("observed_nodes", .array nodes), ("evidence_pointer", .str "log")]

/-- An event with prose below it. -/
def nestedNodes : List (Json ZeroFloat) :=
  [.object (sampleNode .tier1 ++ [("children", .array [.object (sampleNode .tier3)])])]

/-- The prose before the event. -/
def flatNodes : List (Json ZeroFloat) :=
  [.object (sampleNode .tier3), .object (sampleNode .tier1)]

def nestedForest : List (Lib.Tree (ObservedNode ZeroFloat)) :=
  [.node (sampleLabel .tier1) [.node (sampleLabel .tier3) []]]

def flatForest : List (Lib.Tree (ObservedNode ZeroFloat)) :=
  [.node (sampleLabel .tier3) [], .node (sampleLabel .tier1) []]

theorem states_sampleNode (tier : EvidenceTier) : States (sampleNode tier) (sampleLabel tier) := by
  refine ⟨?_, rfl, ⟨rfl, ?_⟩, rfl, rfl, .inr ⟨_, rfl, rfl⟩, .inl ⟨rfl, rfl⟩, rfl, rfl⟩
  · cases tier <;> decide
  · show "planner" ≠ ""
    decide

theorem recorded_sampleNode (tier : EvidenceTier) :
    Spelled (.node (sampleLabel tier) []) (.object (sampleNode tier)) := by
  rw [Spelled]
  exact ⟨_, rfl, states_sampleNode tier, .inl ⟨.inl rfl, rfl⟩⟩

theorem observes_flat : Observes (sampleActivation flatNodes) flatForest := by
  refine ⟨by decide, _, rfl, ?_⟩
  simp only [flatForest, flatNodes, SpelledAll]
  exact ⟨recorded_sampleNode .tier3, recorded_sampleNode .tier1, trivial⟩

theorem observes_nested : Observes (sampleActivation nestedNodes) nestedForest := by
  refine ⟨by decide, _, rfl, ?_⟩
  simp only [nestedForest, nestedNodes, SpelledAll, and_true]
  rw [Spelled]
  refine ⟨_, rfl, ⟨by decide, rfl, ⟨rfl, by decide⟩, rfl, rfl, .inr ⟨_, rfl, rfl⟩, .inl ⟨rfl, rfl⟩,
    rfl, rfl⟩, .inr ⟨_, rfl, ?_⟩⟩
  simp only [SpelledAll, and_true]
  exact recorded_sampleNode .tier3

theorem gradable_sampleActivation {nodes : List (Json ZeroFloat)}
    (canonical : (Json.object (sampleActivation nodes)).finite = true ∧
      (Json.object (sampleActivation nodes)).convertible = true) :
    Gradable sampleTrust "oracle.activation.typed_target" sampleActivationPlan
      (sampleActivation nodes) :=
  ⟨rfl, by decide, rfl, canonical⟩

/-- The prose is moved to the root, before the event. -/
theorem moved_sample : Rearranged nestedForest flatForest := by
  refine .subtree ⟨.node (sampleLabel .tier3) [], [.node (sampleLabel .tier1) []], ?_, ?_⟩
  · exact .within _ [] [] (.here [] [])
  · exact .here [] _

theorem identifying_sampleLabel {tier : EvidenceTier} :
    (sampleLabel tier).Identifying ↔ tier = .tier1 := by
  cases tier <;> simp [ObservedNode.Identifying, sampleLabel]

theorem mem_nested {node : ObservedNode ZeroFloat} :
    node ∈ Lib.Tree.labelsOf nestedForest ↔ node = sampleLabel .tier1 ∨ node = sampleLabel .tier3 := by
  simp [nestedForest, Lib.Tree.labelsOf]

theorem unambiguous_nested : Unambiguous (Lib.Tree.labelsOf nestedForest) := by
  have sampled : ∀ node ∈ Lib.Tree.labelsOf nestedForest, ∃ tier, node = sampleLabel tier := by
    intro node member
    rcases mem_nested.mp member with rfl | rfl
    · exact ⟨.tier1, rfl⟩
    · exact ⟨.tier3, rfl⟩
  refine ⟨fun node member => ?_, fun node member => ?_, fun left isLeft right isRight _ _ _ _ => ?_⟩
  · obtain ⟨tier, rfl⟩ := sampled node member
    exact fun ⟨_, promoted, _⟩ => Bool.noConfusion promoted
  · obtain ⟨tier, rfl⟩ := sampled node member
    exact fun _ => Option.some_ne_none _
  · obtain ⟨tier, rfl⟩ := sampled left isLeft
    obtain ⟨other, rfl⟩ := sampled right isRight
    rfl

end Sample

end Aegis.Graders
