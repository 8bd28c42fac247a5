/-
# Live.Cumulative — the smoke spend of one allowance

`cumulative.py`: the smoke runs that were paid from an allowance, recorded by the identity of the
run (allowance, run id, attempt, phase). A map of spends holds the identities as keys of one
text; `validateSmokeSpend` reads the keys back, `addSmokeSpend` records one more receipt and
`restoreSmokeSpend` merges the maps of earlier runs. Every failure is a `ValueError`.

A dictionary that these functions return is kept in key order, since nothing but the choice among
several errors depends on the order of its keys.
-/
import Aegis.Lib.Dict
import Aegis.Lib.Guarded
import Aegis.Lib.Joined
import Aegis.Lib.Json
import Aegis.Lib.PythonText

namespace Aegis.Live

open Aegis.Lib
open Aegis.Lib.Guarded

set_option autoImplicit false

/-! ## Identities -/

/-- The immutable identity of a smoke run. -/
structure SmokeIdentity where
  allowanceId : String
  workflowRunId : String
  runAttempt : Nat
  phase : String
  deriving DecidableEq, Repr

/-- `ALLOWANCE_ID`. -/
def allowanceId : String := "pilot-a-recovery-20261031"

/-- `PHASE_SMOKE`. -/
def phaseSmoke : String := "smoke-proof"

def tooManyDigits : String := "Exceeds the limit (4300 digits) for integer string conversion"

/-- How Python shows values: `str` of a value that is neither a text nor an integer, and `repr`
of a text. -/
structure Shown (F : Type) where
  str : Json F → String
  repr : String → String

section Identities

variable {F : Type} (shown : Shown F)

/-- `str(value)`. -/
def pythonStr : Json F → Except String String
  | .str text => pure text
  | .int value => fetch (intText value) tooManyDigits
  | other => pure (shown.str other)

/-- The digits of `int(text)`. -/
def pythonInt (text digits : List Char) : Except String Nat :=
  fetch (readDigits digits) (if maxStrDigits < digits.length then tooManyDigits
    else "invalid literal for int() with base 10: " ++ shown.repr (String.ofList text))

/-- The text of a run id that is a text or an integer. -/
def runIdText : Json F → Except String String
  | .str text => pure text
  | .int value => fetch (intText value) tooManyDigits
  | _ => .error "smoke run id must be a non-empty string or integer"

/-- The digits of an integer text, and whether it is negative. -/
def signed (text : List Char) : Bool × List Char :=
  match text with
  | '-' :: digits => (true, digits)
  | digits => (false, digits)

/-- A run id that is a number is a positive one. -/
def checkNumeric (text : String) : Except String Unit :=
  if isDigits (signed text.toList).2 = true then do
    let value ← pythonInt shown text.toList (signed text.toList).2
    refuse ((signed text.toList).1 = true ∨ value = 0) "numeric smoke run ids must be positive"
  else pure ()

/-- `normalize_smoke_run_id`. -/
def normalizeSmokeRunId (value : Json F) : Except String String := do
  let given ← runIdText value
  let text := strip given
  refuse (text = "") "smoke run id must be non-empty"
  checkNumeric shown text
  pure text

/-- `strict_cents`. -/
def strictCents (value : Json F) (label : String) : Except String Nat :=
  match value with
  | .int cents => if 0 ≤ cents then pure cents.toNat
      else .error (label ++ " must be a non-negative integer")
  | _ => .error (label ++ " must be a non-negative integer")

/-- `strict_positive_int`. -/
def strictPositiveInt (value : Json F) (label : String) : Except String Nat :=
  match value with
  | .int count => if 0 < count then pure count.toNat
      else .error (label ++ " must be a positive integer")
  | _ => .error (label ++ " must be a positive integer")

/-- The attempt that was given, or the first one. -/
def attemptOf : Json F → Except String Nat
  | .null => pure 1
  | value => strictPositiveInt value "run_attempt"

/-- `_record_identity` and `smoke_record_identity`. -/
def recordIdentity (workflowRunId runAttempt allowance phase : Json F) :
    Except String SmokeIdentity := do
  let allowance ← pythonStr shown allowance
  refuse (strip allowance = "") "allowance id must be non-empty"
  let phase ← pythonStr shown phase
  refuse (strip phase = "") "logical phase must be non-empty"
  let attempt ← attemptOf runAttempt
  let runId ← normalizeSmokeRunId shown workflowRunId
  pure ⟨strip allowance, runId, attempt, strip phase⟩

/-- `identity_key`. -/
def identityKey (identity : SmokeIdentity) : Except String String := do
  let attempt ← fetch (natText identity.runAttempt) tooManyDigits
  pure (joined '|' [identity.allowanceId, identity.workflowRunId, attempt, identity.phase])

/-- `strict_positive_int(int(text) if text.isdigit() else None, "run_attempt")`. -/
def readAttempt (text : List Char) : Except String Nat :=
  if isDigits text = true then do
    let attempt ← pythonInt shown text text
    require (0 < attempt) "run_attempt must be a positive integer"
    pure attempt
  else .error "run_attempt must be a positive integer"

/-- `key.rsplit(mark, 1)`. -/
def rsplit (mark : Char) (key : List Char) : List Char × List Char :=
  ((key.rdropWhile (· ≠ mark)).dropLast, key.rtakeWhile (· ≠ mark))

/-- The identity of a key in the canonical spelling. -/
def canonicalIdentity (rawKey : String) (parts : List (List Char)) : Except String SmokeIdentity :=
  match parts with
  | [allowance, runId, attempt, phase] => do
      let attempt ← readAttempt shown attempt
      recordIdentity shown (.str (String.ofList runId)) (.int attempt)
        (.str (String.ofList allowance)) (.str (String.ofList phase))
  | _ => .error ("malformed canonical smoke identity: " ++ shown.repr rawKey)

/-- `_legacy_identity`: a key in one of the three spellings. -/
def legacyIdentity (rawKey : String) : Except String SmokeIdentity :=
  let key := stripChars rawKey.toList
  if '|' ∈ key then canonicalIdentity shown rawKey (key.splitOn '|')
  else if '#' ∈ key then do
    let attempt ← readAttempt shown (rsplit '#' key).2
    recordIdentity shown (.str (String.ofList (rsplit '#' key).1)) (.int attempt)
      (.str allowanceId) (.str phaseSmoke)
  else recordIdentity shown (.str (String.ofList key)) .null (.str allowanceId) (.str phaseSmoke)

end Identities

/-! ## Maps of spends -/

/-- A `dict[str, int]`. -/
abbrev SmokeSpend := List (String × Nat)

section Spends

variable {F : Type} [JsonFloat F] (shown : Shown F)

/-- A map of spends as records. -/
def SmokeSpend.records (spend : SmokeSpend) : Json F :=
  .object (spend.map fun entry => (entry.1, .int entry.2))

/-- What the loop of `validate_smoke_spend` has read: the map, and the keys by identity. -/
structure SpendReading where
  out : SmokeSpend := []
  seenIdentity : List (String × String) := []

/-- One turn of the loop. The source joins the identity a second time to `canonical`, the same
text as `key`. -/
def readSpend (reading : SpendReading) (entry : String × Json F) : Except String SpendReading := do
  refuse (strip entry.1 = "") "smoke spend record has no non-empty identity"
  let identity ← legacyIdentity shown entry.1
  let key ← identityKey identity
  refuse (∃ earlier ∈ Dict.get? reading.seenIdentity key, earlier ≠ entry.1)
    ("normalized smoke identity aliases are ambiguous: " ++
      shown.repr ((Dict.get? reading.seenIdentity key).getD "") ++ " / " ++ shown.repr entry.1)
  refuse (∃ held ∈ Dict.get? reading.out key, (Json.int held).same entry.2 = false)
    ("smoke identity " ++ key ++ " has conflicting spends")
  let cents ← strictCents entry.2 ("smoke spend for " ++ key)
  pure ⟨Dict.assign reading.out key cents, Dict.assign reading.seenIdentity key entry.1⟩

/-- `validate_smoke_spend`. -/
def validateSmokeSpend (records : Json F) : Except String SmokeSpend :=
  match records with
  | .null => pure []
  | .object entries => do
      let reading ← entries.foldlM (readSpend shown) {}
      pure reading.out
  | _ => .error "smoke spend records must be a mapping"

/-- `add_smoke_spend`. -/
def addSmokeSpend (records smokeRunId spentCents runAttempt allowance phase : Json F) :
    Except String SmokeSpend := do
  let current ← validateSmokeSpend shown records
  let identity ← recordIdentity shown smokeRunId runAttempt allowance phase
  let key ← identityKey identity
  let spent ← strictCents spentCents "smoke spend"
  refuse (∃ held ∈ Dict.get? current key, held ≠ spent)
    ("smoke identity " ++ key ++ " has conflicting recorded spends")
  pure (Dict.assign current key spent)

/-- `smoke_spend_total`. -/
def smokeSpendTotal (records : Json F) : Except String Nat := do
  let spend ← validateSmokeSpend shown records
  pure (spend.map Prod.snd).sum

/-- `merge_smoke_gate_spend`. -/
def mergeSmokeGateSpend (records smokeGate : Json F) : Except String SmokeSpend := do
  let merged ← validateSmokeSpend shown records
  match smokeGate with
  | .object fields => do
      require ("smoke_run_id" ∈ fields.map Prod.fst ∧ "spent_cents" ∈ fields.map Prod.fst)
        "smoke gate record must carry smoke_run_id and spent_cents"
      addSmokeSpend shown (SmokeSpend.records merged) (smokeGate.getD "smoke_run_id" .null)
        (smokeGate.getD "spent_cents" .null) (smokeGate.getD "smoke_run_attempt" .null)
        (.str allowanceId) (.str phaseSmoke)
  | _ => .error "smoke gate record must be a mapping"

/-- One record of a prior map: its run id, its attempt and its spend are added. -/
def restoreEntry (merged : SmokeSpend) (entry : String × Json F) : Except String SmokeSpend := do
  let identity ← legacyIdentity shown entry.1
  addSmokeSpend shown (SmokeSpend.records merged) (.str identity.workflowRunId) entry.2
    (.int identity.runAttempt) (.str allowanceId) (.str phaseSmoke)

/-- One prior map, with its index. -/
def restorePrior (merged : SmokeSpend) (prior : Json F × Nat) : Except String SmokeSpend :=
  match prior.1 with
  | .null => .error s!"prior smoke manifest {prior.2} is UNKNOWN, not zero"
  | .object entries => entries.foldlM (restoreEntry shown) merged
  | _ => .error s!"prior smoke manifest {prior.2} is malformed"

/-- `restore_smoke_spend`. -/
def restoreSmokeSpend (priorManifests currentGate : Json F) : Except String SmokeSpend :=
  match priorManifests with
  | .null => .error "prior smoke history is UNKNOWN (missing legacy record), not zero"
  | .array priors => do
      let merged ← priors.zipIdx.foldlM (restorePrior shown) []
      match currentGate with
      | .null => pure merged
      | gate => mergeSmokeGateSpend shown (SmokeSpend.records merged) gate
  | _ => .error "prior smoke manifests must be a sequence"

end Spends

end Aegis.Live
