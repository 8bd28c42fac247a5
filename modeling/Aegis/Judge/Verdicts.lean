/-
# Judge.Verdicts — the closed enumerations of a judge verdict

`judge/verdict.py`: the states, reasons and failure modes of a verdict, and which of them go
together.
-/
import Aegis.Lib.Vocabulary

namespace Aegis.Judge

open Aegis.Lib

set_option autoImplicit false

inductive JudgeVerdictState
  | pass
  | fail
  | abstain
  deriving DecidableEq, Repr

inductive JudgeVerdictReason
  | meetsRubric
  | violatesRubric
  | insufficientEvidence
  deriving DecidableEq, Repr

inductive FailureMode
  | questionnaireDump
  | multipleUnrelatedTopics
  | anyOrderInstruction
  | bundledIndependentDecisions
  | otherRubricViolation
  deriving DecidableEq, Repr

namespace JudgeVerdictState

def text : JudgeVerdictState → String
  | pass => "PASS"
  | fail => "FAIL"
  | abstain => "ABSTAIN"

instance : Vocabulary JudgeVerdictState where
  text := text
  text_injective := by
    intro left right
    cases left <;> cases right <;> decide

def all : List JudgeVerdictState := [pass, fail, abstain]

theorem mem_all (state : JudgeVerdictState) : state ∈ all := by
  cases state <;> decide

end JudgeVerdictState

namespace JudgeVerdictReason

def text : JudgeVerdictReason → String
  | meetsRubric => "MEETS_RUBRIC"
  | violatesRubric => "VIOLATES_RUBRIC"
  | insufficientEvidence => "INSUFFICIENT_EVIDENCE"

instance : Vocabulary JudgeVerdictReason where
  text := text
  text_injective := by
    intro left right
    cases left <;> cases right <;> decide

def all : List JudgeVerdictReason := [meetsRubric, violatesRubric, insufficientEvidence]

theorem mem_all (reason : JudgeVerdictReason) : reason ∈ all := by
  cases reason <;> decide

end JudgeVerdictReason

namespace FailureMode

def text : FailureMode → String
  | questionnaireDump => "QUESTIONNAIRE_DUMP"
  | multipleUnrelatedTopics => "MULTIPLE_UNRELATED_TOPICS"
  | anyOrderInstruction => "ANY_ORDER_INSTRUCTION"
  | bundledIndependentDecisions => "BUNDLED_INDEPENDENT_DECISIONS"
  | otherRubricViolation => "OTHER_RUBRIC_VIOLATION"

instance : Vocabulary FailureMode where
  text := text
  text_injective := by
    intro left right
    cases left <;> cases right <;> decide

def all : List FailureMode :=
  [questionnaireDump, multipleUnrelatedTopics, anyOrderInstruction, bundledIndependentDecisions,
    otherRubricViolation]

theorem mem_all (mode : FailureMode) : mode ∈ all := by
  cases mode <;> decide

/-- `failure_mode.value if failure_mode else None`. -/
def json {F : Type} (mode : Option FailureMode) : Json F :=
  match mode with
  | none => .null
  | some mode => .word mode

end FailureMode

/-- Verdict, reason and failure mode go together. -/
def Coherent (verdict : JudgeVerdictState) (reason : JudgeVerdictReason)
    (failureMode : Option FailureMode) : Prop :=
  match verdict with
  | .pass => failureMode = none ∧ reason = .meetsRubric
  | .fail => failureMode ≠ none ∧ reason = .violatesRubric
  | .abstain => failureMode = none ∧ reason = .insufficientEvidence

instance (verdict : JudgeVerdictState) (reason : JudgeVerdictReason)
    (failureMode : Option FailureMode) : Decidable (Coherent verdict reason failureMode) := by
  unfold Coherent
  cases verdict <;> exact inferInstanceAs (Decidable (_ ∧ _))

end Aegis.Judge
