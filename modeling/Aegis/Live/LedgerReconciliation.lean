/-
# Live.LedgerReconciliation — accepted charges of calls without usage

`ledger_reconciliation.py`: a record accepts, call by call, the reservation charges that a halted
run left in its ledger without provider usage. `validateRecord` reads a record by itself,
`reconcileLedger` applies an attested record to its ledger.

An accepted record covers the open calls of the ledger one to one exactly when no two open calls
share a reference and no reconciled call has the reference of an open one
(`reconciliation_covers_iff`): the checks count entries and look references up, but never ask
whether the references of the ledger are distinct.
-/
import Mathlib.Data.String.Basic
import Aegis.Budget.Conservation
import Aegis.Lib.SortBy
import Aegis.Live.Cumulative

namespace Aegis.Live

open Aegis.Lib
open Aegis.Lib.Guarded

set_option autoImplicit false

/-! ## Faults -/

/-- What a `LedgerReconciliationRefusedError` says. -/
structure Refusal (F : Type) where
  message : String
  reasonCode : String
  context : List (String × Json F) := []

/-- What a call raises: its own refusal, or an error of the language for a ledger that is no
mapping or a reference that cannot be a key. -/
inductive ReconciliationFault (F : Type)
  | refused (refusal : Refusal F)
  | attributeError
  | typeError

namespace Reconciliation

def schema : String := "ber-live-ledger-reconciliation/1.0.0"
def kind : String := "ber-live-ledger-reconciliation"
def statusPending : String := "PENDING"
def statusAttested : String := "ATTESTED"
def disposition : String := "PRESERVED_AND_ACCEPTED"
def ledgerKind : String := "ber-live-cost-ledger"

def recordKeys : List String :=
  ["schema", "kind", "status", "run_id", "run_attempt", "dataset_path", "dataset_sha256",
    "ledger_name", "ledger_sha256", "case_id", "attempt", "unreconciled_before",
    "spent_cents_preserved", "ceiling_cents_preserved", "reconciles", "budget_impact",
    "attested_by", "attested_on", "attestation_ref", "limitations"]

def reconcileKeys : List String :=
  ["call_ref", "reserved_cents", "charged_cents", "disposition", "evidence_ref"]

def budgetImpactKeys : List String :=
  ["charged_cents_preserved", "remaining_ceiling_cents_preserved",
    "cumulative_ceiling_cents_unchanged", "refunded_cents"]

section Model

variable {F : Type} [JsonFloat F]

/-- `_refuse`. -/
def refusal (message reasonCode : String) (context : List (String × Json F) := []) :
    ReconciliationFault F :=
  .refused ⟨message, reasonCode, context⟩

/-! ## Values -/

/-- The keys of a mapping. -/
def keysOf : Json F → List String
  | .object fields => fields.map Prod.fst
  | _ => []

/-- The items of a list. -/
def itemsOf : Json F → List (Json F)
  | .array items => items
  | _ => []

/-- `value == text`. -/
def isText (value : Json F) (text : String) : Bool := value.same (.str text)

def isList : Json F → Bool
  | .array _ => true
  | _ => false

def isTrue : Json F → Bool
  | .bool true => true
  | _ => false

/-- A value that can be a key of a dictionary. -/
def hashable (value : Json F) : Bool := value.isScalar

/-- `_is_int`. -/
def intOf : Json F → Option Int
  | .int value => some value
  | _ => none

def isHexDigit (c : Char) : Bool := c ∈ "0123456789abcdef".toList

/-- `_is_hex64`. -/
def isHex64 : Json F → Bool
  | .str text => text.toList.length = 64 ∧ text.toList.all isHexDigit
  | _ => false

def nonEmptyText : Json F → Option String
  | .str text => if strip text = "" then none else some text
  | _ => none

/-- `_require_str`. -/
def requireStr (value : Json F) (field : String) : Except (ReconciliationFault F) String :=
  fetch (nonEmptyText value) (refusal (field ++ " must be a non-empty string")
    "RECONCILIATION_RECORD_INVALID" [("field", .str field)])

/-- `_require_int`. -/
def requireInt (value : Json F) (field : String) (minimum : Int := 0) :
    Except (ReconciliationFault F) Int :=
  fetch ((intOf value).filter (minimum ≤ ·)) (refusal (field ++ s!" must be an int >= {minimum}")
    "RECONCILIATION_RECORD_INVALID" [("field", .str field), ("value", value)])

/-! ## Ledgers -/

/-- The calls of a ledger. -/
def calls (ledger : Json F) : List (Json F) := itemsOf (ledger.getD "calls" .null)

/-- A call is open while its flag is `False` or missing. -/
def isOpen (call : Json F) : Bool :=
  match call.getD "reconciled" .null with
  | .null => true
  | .bool flag => !flag
  | _ => false

/-- A call that the ledger records as reconciled. -/
def isReconciled (call : Json F) : Bool := isTrue (call.getD "reconciled" .null)

/-- One turn of the loop of `unreconciled_calls`. -/
def collectCall (unreconciled : List (Json F)) (call : Json F) :
    Except (ReconciliationFault F) (List (Json F)) := do
  require (call.isObject = true)
    (refusal "a ledger call is not a JSON object" "RECONCILIATION_LEDGER_INVALID")
  if isOpen call = true then pure (unreconciled ++ [call]) else do
    require (isReconciled call = true)
      (refusal "a ledger call has a non-boolean reconciled flag" "RECONCILIATION_LEDGER_INVALID")
    pure unreconciled

/-- `unreconciled_calls`. -/
def unreconciledCalls (ledger : Json F) : Except (ReconciliationFault F) (List (Json F)) := do
  require (ledger.isObject = true)
    (refusal "the ledger is not a JSON object" "RECONCILIATION_LEDGER_INVALID")
  require (isText (ledger.getD "ledger_kind" .null) ledgerKind = true)
    (refusal "the ledger is not a ber-live cost ledger" "RECONCILIATION_LEDGER_INVALID"
      [("ledger_kind", ledger.getD "ledger_kind" .null)])
  require (isList (ledger.getD "calls" .null) = true)
    (refusal "the ledger has no calls list" "RECONCILIATION_LEDGER_INVALID")
  (calls ledger).foldlM collectCall []

/-! ## Records -/

/-- `str(sorted(texts))`. -/
def shownSorted (shown : Shown F) (texts : List String) : String :=
  "[" ++ String.intercalate ", " ((sortBy (fun text : String => text) texts).map shown.repr) ++ "]"

/-- The reference of a call, or of an entry. -/
def refOf (value : Json F) : Json F := value.getD "call_ref" .null

/-- `set(value) == keys`. -/
def hasExactly (value : Json F) (keys : List String) : Prop :=
  value.isObject = true ∧ keysOf value ⊆ keys ∧ keys ⊆ keysOf value

instance (value : Json F) (keys : List String) : Decidable (hasExactly value keys) :=
  inferInstanceAs (Decidable (_ ∧ (∀ _, _ → _) ∧ (∀ _, _ → _)))

/-- One turn of the loop over `reconciles`. -/
def readEntry (shown : Shown F) (seenRefs : List String) (entry : Json F) :
    Except (ReconciliationFault F) (List String) := do
  require (hasExactly entry reconcileKeys)
    (refusal ("a reconcile entry must contain exactly " ++ shownSorted shown reconcileKeys)
      "RECONCILIATION_RECORD_INVALID")
  let callRef ← requireStr (refOf entry) "reconciles.call_ref"
  refuse (callRef ∈ seenRefs)
    (refusal "the reconciliation record claims the same call twice" "RECONCILIATION_DUPLICATE"
      [("call_ref", .str callRef)])
  let reserved ← requireInt (entry.getD "reserved_cents" .null) "reconciles.reserved_cents" 1
  let charged ← requireInt (entry.getD "charged_cents" .null) "reconciles.charged_cents" 1
  require (reserved = charged)
    (refusal ("a reconcile entry must preserve the recorded charge " ++
        "(reserved_cents == charged_cents)") "RECONCILIATION_ENTRY_MISMATCH"
      [("call_ref", .str callRef), ("reserved_cents", .int reserved),
        ("charged_cents", .int charged)])
  require (isText (entry.getD "disposition" .null) disposition = true)
    (refusal ("a reconcile entry disposition must be " ++ disposition)
      "RECONCILIATION_RECORD_INVALID"
      [("call_ref", .str callRef), ("disposition", entry.getD "disposition" .null)])
  let _ ← requireStr (entry.getD "evidence_ref" .null) "reconciles.evidence_ref"
  pure (seenRefs ++ [callRef])

/-- The keys of a record. -/
def checkKeys (shown : Shown F) (payload : Json F) : Except (ReconciliationFault F) Unit := do
  require (payload.isObject = true)
    (refusal "the reconciliation record is not a JSON object" "RECONCILIATION_RECORD_INVALID")
  let unknown := (keysOf payload).filter fun key => key ∉ recordKeys
  require (unknown = [])
    (refusal ("the reconciliation record has unknown keys " ++ shownSorted shown unknown)
      "RECONCILIATION_RECORD_INVALID")
  let missing := recordKeys.filter fun key => key ∉ keysOf payload
  require (missing = [])
    (refusal ("the reconciliation record is missing keys " ++ shownSorted shown missing)
      "RECONCILIATION_RECORD_INVALID")

/-- The run, the dataset and the ledger that a record names. -/
def checkNames (payload : Json F) : Except (ReconciliationFault F) Unit := do
  require (isText (payload.getD "schema" .null) schema = true)
    (refusal ("the reconciliation record schema is not " ++ schema) "RECONCILIATION_RECORD_INVALID")
  require (isText (payload.getD "kind" .null) kind = true)
    (refusal ("the reconciliation record kind is not " ++ kind) "RECONCILIATION_RECORD_INVALID")
  require (isText (payload.getD "status" .null) statusPending = true ∨
      isText (payload.getD "status" .null) statusAttested = true)
    (refusal "the reconciliation record status must be PENDING or ATTESTED"
      "RECONCILIATION_RECORD_INVALID" [("status", payload.getD "status" .null)])
  let _ ← requireStr (payload.getD "run_id" .null) "run_id"
  let _ ← requireStr (payload.getD "run_attempt" .null) "run_attempt"
  let _ ← requireStr (payload.getD "dataset_path" .null) "dataset_path"
  require (isHex64 (payload.getD "dataset_sha256" .null) = true)
    (refusal "dataset_sha256 must be 64 lowercase hex" "RECONCILIATION_RECORD_INVALID")
  let _ ← requireStr (payload.getD "ledger_name" .null) "ledger_name"
  require (isHex64 (payload.getD "ledger_sha256" .null) = true)
    (refusal "ledger_sha256 must be 64 lowercase hex" "RECONCILIATION_RECORD_INVALID")
  let _ ← requireStr (payload.getD "case_id" .null) "case_id"
  let _ ← requireInt (payload.getD "attempt" .null) "attempt" 1

/-- The budget that a record preserves. -/
def checkBudget (shown : Shown F) (budget : Json F) (spentPreserved : Int) :
    Except (ReconciliationFault F) Unit := do
  require (hasExactly budget budgetImpactKeys)
    (refusal ("budget_impact must contain exactly " ++ shownSorted shown budgetImpactKeys)
      "RECONCILIATION_RECORD_INVALID")
  let charged ← requireInt (budget.getD "charged_cents_preserved" .null)
    "budget_impact.charged_cents_preserved"
  require (charged = spentPreserved)
    (refusal "budget_impact.charged_cents_preserved must equal spent_cents_preserved"
      "RECONCILIATION_BUDGET_MISMATCH")
  let _ ← requireInt (budget.getD "remaining_ceiling_cents_preserved" .null)
    "budget_impact.remaining_ceiling_cents_preserved"
  require (isTrue (budget.getD "cumulative_ceiling_cents_unchanged" .null) = true)
    (refusal "budget_impact.cumulative_ceiling_cents_unchanged must be true"
      "RECONCILIATION_BUDGET_MISMATCH")
  let refunded ← requireInt (budget.getD "refunded_cents" .null) "budget_impact.refunded_cents"
  require (refunded = 0)
    (refusal "a reconciliation never refunds a charge (refunded_cents must be 0)"
      "RECONCILIATION_BUDGET_MISMATCH")

/-- The attestation of a record: complete, or empty. -/
def checkAttestation (payload : Json F) : Except (ReconciliationFault F) Unit :=
  if isText (payload.getD "status" .null) statusAttested = true then do
    let _ ← requireStr (payload.getD "attested_by" .null) "attested_by"
    let _ ← requireStr (payload.getD "attested_on" .null) "attested_on"
    let _ ← requireStr (payload.getD "attestation_ref" .null) "attestation_ref"
  else
    require (isText (payload.getD "attested_by" .null) "" = true ∧
        isText (payload.getD "attested_on" .null) "" = true ∧
        isText (payload.getD "attestation_ref" .null) "" = true)
      (refusal "a PENDING reconciliation record cannot carry attestation fields"
        "RECONCILIATION_RECORD_INVALID")

def isStr : Json F → Bool
  | .str _ => true
  | _ => false

/-- The entries of a record. -/
def entries (record : Json F) : List (Json F) := itemsOf (record.getD "reconciles" .null)

/-- `validate_record`. The normalised copy that the source returns is equal to the payload. -/
def validateRecord (shown : Shown F) (payload : Json F) :
    Except (ReconciliationFault F) (Json F) := do
  checkKeys shown payload
  checkNames payload
  let unreconciledBefore ← requireInt (payload.getD "unreconciled_before" .null)
    "unreconciled_before" 1
  let spentPreserved ← requireInt (payload.getD "spent_cents_preserved" .null)
    "spent_cents_preserved" 0
  let _ ← requireInt (payload.getD "ceiling_cents_preserved" .null) "ceiling_cents_preserved" 1
  require (isList (payload.getD "reconciles" .null) = true ∧
      ((entries payload).length : Int) = unreconciledBefore)
    (refusal "reconciles must list exactly unreconciled_before entries"
      "RECONCILIATION_RECORD_INVALID")
  let _ ← (entries payload).foldlM (readEntry shown) []
  checkBudget shown (payload.getD "budget_impact" .null) spentPreserved
  checkAttestation payload
  require (isList (payload.getD "limitations" .null) = true ∧
      (itemsOf (payload.getD "limitations" .null)).all isStr = true)
    (refusal "limitations must be a list of strings" "RECONCILIATION_RECORD_INVALID")
  pure payload

/-! ## Application -/

/-- The view of a ledger whose open calls are accepted. -/
structure View (F : Type) where
  ledgerName : Json F
  ledgerSha256 : String
  spentCentsPreserved : Int
  ceilingCentsPreserved : Int
  remainingCeilingCentsPreserved : Json F
  callsPreserved : Nat
  unreconciledBefore : Nat
  unreconciledAfter : Nat := 0
  reconciledCallRefs : List (Json F)
  attestedBy : Json F
  attestationRef : Json F
  refundedCents : Nat := 0
  deletedEntries : Nat := 0

/-- `by_ref.get(call_ref)`; the references of validated entries are distinct. -/
def byRef (record callRef : Json F) : Option (Json F) :=
  (entries record).find? fun entry => (refOf entry).same callRef

/-- One turn of the loop over the open calls. -/
def coverCall (record call : Json F) : Except (ReconciliationFault F) Unit := do
  require (hashable (refOf call) = true) .typeError
  let entry ← fetch (byRef record (refOf call))
    (refusal "the record does not cover an unreconciled ledger call" "RECONCILIATION_INCOMPLETE"
      [("call_ref", refOf call)])
  require ((entry.getD "reserved_cents" .null).same (call.getD "reserved_cents" .null) = true)
    (refusal "the record reserved_cents does not match the ledger entry"
      "RECONCILIATION_ENTRY_MISMATCH" [("call_ref", refOf call)])
  require ((entry.getD "charged_cents" .null).same (call.getD "cost_cents" .null) = true)
    (refusal "the record charged_cents does not match the ledger charge"
      "RECONCILIATION_ENTRY_MISMATCH" [("call_ref", refOf call)])

/-- An entry claims a call of the ledger. -/
def claimEntry (ledger entry : Json F) : Except (ReconciliationFault F) Unit :=
  require (((calls ledger).any fun call => (refOf entry).same (refOf call)) = true)
    (refusal "the record claims a call the ledger does not contain" "RECONCILIATION_OVERCLAIM"
      [("call_ref", refOf entry)])

def textOf : Json F → String
  | .str text => text
  | _ => ""

variable (sha256Hex : ByteArray → String) (shown : Shown F)

/-- `reconcile_ledger`. -/
def reconcileLedger (ledger record : Json F) (ledgerBytes : ByteArray) :
    Except (ReconciliationFault F) (View F) := do
  let validated ← validateRecord shown record
  require (isText (validated.getD "status" .null) statusAttested = true)
    (refusal ("the reconciliation record is PENDING, not owner-attested; no paid " ++
        "retry is authorized until the ledger point is resolved") "RECONCILIATION_NOT_ATTESTED"
      [("ledger_name", validated.getD "ledger_name" .null),
        ("status", validated.getD "status" .null)])
  let actualSha := sha256Hex ledgerBytes
  require (isText (validated.getD "ledger_sha256" .null) actualSha = true)
    (refusal "the reconciliation record does not bind to these ledger bytes"
      "RECONCILIATION_LEDGER_MISMATCH"
      [("expected", validated.getD "ledger_sha256" .null), ("actual", .str actualSha)])
  require (ledger.isObject = true) .attributeError
  require (isText (ledger.getD "ledger_kind" .null) ledgerKind = true)
    (refusal "the ledger is not a ber-live cost ledger" "RECONCILIATION_LEDGER_INVALID")
  let spent ← fetch ((intOf (ledger.getD "spent_cents" .null)).filter fun spent =>
      intOf (validated.getD "spent_cents_preserved" .null) = some spent)
    (refusal "the ledger spend does not equal the preserved spend" "RECONCILIATION_BUDGET_MISMATCH"
      [("ledger_spent_cents", ledger.getD "spent_cents" .null),
        ("record_spent_cents", validated.getD "spent_cents_preserved" .null)])
  let ceiling ← fetch ((intOf (ledger.getD "ceiling_cents" .null)).filter fun ceiling =>
      intOf (validated.getD "ceiling_cents_preserved" .null) = some ceiling)
    (refusal "the ledger ceiling does not equal the preserved ceiling"
      "RECONCILIATION_BUDGET_MISMATCH")
  let unreconciled ← unreconciledCalls ledger
  require (intOf (validated.getD "unreconciled_before" .null) = some (unreconciled.length : Int))
    (refusal "the ledger has a different number of unreconciled entries than the record"
      "RECONCILIATION_INCOMPLETE"
      [("ledger_unreconciled", .int unreconciled.length),
        ("record_unreconciled", validated.getD "unreconciled_before" .null)])
  forM unreconciled (coverCall validated)
  forM (calls ledger) fun call => require (hashable (refOf call) = true) .typeError
  forM (entries validated) (claimEntry ledger)
  let remaining := (validated.getD "budget_impact" .null).getD
    "remaining_ceiling_cents_preserved" .null
  require (intOf remaining = some (ceiling - spent))
    (refusal "budget_impact.remaining_ceiling_cents_preserved is not ceiling - spend"
      "RECONCILIATION_BUDGET_MISMATCH"
      [("remaining", remaining), ("expected", .int (ceiling - spent))])
  pure {
    ledgerName := validated.getD "ledger_name" .null
    ledgerSha256 := actualSha
    spentCentsPreserved := spent
    ceilingCentsPreserved := ceiling
    remainingCeilingCentsPreserved := remaining
    callsPreserved := (calls ledger).length
    unreconciledBefore := unreconciled.length
    reconciledCallRefs := (sortBy textOf ((entries validated).map refOf))
    attestedBy := validated.getD "attested_by" .null
    attestationRef := validated.getD "attestation_ref" .null }

/-- `remaining_unreconciled`. -/
def remainingUnreconciled (ledger : Json F) (record : Option (Json F)) (ledgerBytes : ByteArray) :
    Except (ReconciliationFault F) Nat := do
  let unreconciled ← unreconciledCalls ledger
  if unreconciled = [] then pure 0 else
    match record with
    | none => pure unreconciled.length
    | some record => do
        let view ← reconcileLedger sha256Hex shown ledger record ledgerBytes
        pure view.unreconciledAfter

/-! ## What acceptance gives -/

/-- The open calls of a ledger. -/
def openCalls (ledger : Json F) : List (Json F) := (calls ledger).filter isOpen

omit [JsonFloat F] in
theorem collectCall_ok {before after : List (Json F)} {call : Json F}
    (done : collectCall before call = .ok after) : after = before ++ [call].filter isOpen := by
  simp only [collectCall, bind_eq_ok, require_eq_ok] at done
  obtain ⟨_, -, done⟩ := done
  by_cases isOpened : isOpen call = true
  · rw [if_pos isOpened] at done
    obtain rfl := Except.ok.inj done
    simp [isOpened]
  · rw [if_neg isOpened] at done
    simp only [bind_eq_ok, require_eq_ok, pure_eq_ok] at done
    obtain ⟨_, -, rfl⟩ := done
    simp [isOpened]

omit [JsonFloat F] in
theorem collectCalls_ok {ledgerCalls before after : List (Json F)}
    (done : ledgerCalls.foldlM collectCall before = .ok after) :
    after = before ++ ledgerCalls.filter isOpen := by
  induction ledgerCalls generalizing before with
  | nil =>
      obtain rfl := Except.ok.inj done
      rw [List.filter_nil, List.append_nil]
  | cons call rest ih =>
      rw [List.foldlM_cons, bind_eq_ok] at done
      obtain ⟨middle, first, later⟩ := done
      rw [ih later, collectCall_ok first, List.append_assoc, ← List.filter_append]
      rfl

theorem unreconciledCalls_ok {ledger : Json F} {unreconciled : List (Json F)}
    (done : unreconciledCalls ledger = .ok unreconciled) : unreconciled = openCalls ledger := by
  simp only [unreconciledCalls, bind_eq_ok] at done
  obtain ⟨_, -, _, -, _, -, collected⟩ := done
  rw [collectCalls_ok collected, List.nil_append]
  rfl

omit [JsonFloat F] in
theorem requireStr_ok {value : Json F} {field text : String}
    (done : requireStr value field = .ok text) : value = .str text := by
  simp only [requireStr, fetch_eq_ok] at done
  unfold nonEmptyText at done
  split at done
  · split at done
    · cases done
    · rw [Option.some.inj done]
  · cases done

/-- An entry adds a new reference. -/
theorem readEntry_ok {shown : Shown F} {before after : List String} {entry : Json F}
    (done : readEntry shown before entry = .ok after) :
    ∃ callRef, refOf entry = .str callRef ∧ callRef ∉ before ∧ after = before ++ [callRef] := by
  simp only [readEntry, bind_eq_ok, require_eq_ok, refuse_eq_ok, pure_eq_ok] at done
  obtain ⟨_, -, callRef, isRef, _, unseen, _, -, _, -, _, -, _, -, _, -, rfl⟩ := done
  exact ⟨callRef, requireStr_ok isRef, unseen, rfl⟩

theorem readEntries_ok {shown : Shown F} {read : List (Json F)} {before after : List String}
    (done : read.foldlM (readEntry shown) before = .ok after) (distinct : before.Nodup) :
    ∃ refs, read.map refOf = refs.map .str ∧ (before ++ refs).Nodup := by
  induction read generalizing before with
  | nil => exact ⟨[], rfl, by rwa [List.append_nil]⟩
  | cons entry rest ih =>
      rw [List.foldlM_cons, bind_eq_ok] at done
      obtain ⟨middle, first, later⟩ := done
      obtain ⟨callRef, isRef, unseen, rfl⟩ := readEntry_ok first
      obtain ⟨refs, others, apart⟩ := ih later (List.nodup_append_comm.mp
        (List.nodup_cons.mpr ⟨unseen, distinct⟩))
      refine ⟨callRef :: refs, ?_, ?_⟩
      · rw [List.map_cons, List.map_cons, isRef, others]
      · rwa [List.append_assoc] at apart

/-- The references of a valid record are distinct texts, as many as the record says. -/
theorem validateRecord_ok {shown : Shown F} {payload validated : Json F}
    (done : validateRecord shown payload = .ok validated) :
    validated = payload ∧ (∃ refs : List String, (entries payload).map refOf = refs.map .str ∧
      refs.Nodup) ∧
      intOf (payload.getD "unreconciled_before" .null) = some ((entries payload).length : Int) := by
  simp only [validateRecord, bind_eq_ok, require_eq_ok, pure_eq_ok] at done
  obtain ⟨_, -, _, -, count, counted, spent, -, _, -, _, ⟨-, listed⟩, seen, read, _, -, _, -, _, -,
    rfl⟩ := done
  obtain ⟨refs, same, distinct⟩ := readEntries_ok read List.nodup_nil
  refine ⟨rfl, ⟨refs, same, distinct⟩, ?_⟩
  simp only [requireInt, fetch_eq_ok, Option.filter_eq_some_iff] at counted
  rw [counted.1, listed]

/-- An entry carries the reference, the reservation and the charge of a call. -/
structure Carries (entry call : Json F) : Prop where
  callRef : refOf entry = refOf call
  reserved : (entry.getD "reserved_cents" .null).same (call.getD "reserved_cents" .null) = true
  charged : (entry.getD "charged_cents" .null).same (call.getD "cost_cents" .null) = true

/-- An open call has an entry. -/
theorem coverCall_ok {record call : Json F}
    (texts : ∀ entry ∈ entries record, ∃ text, refOf entry = .str text)
    (done : coverCall record call = .ok ()) : ∃ entry ∈ entries record, Carries entry call := by
  simp only [coverCall, bind_eq_ok, require_eq_ok, fetch_eq_ok] at done
  obtain ⟨_, -, entry, found, _, reserved, charged⟩ := done
  have member := List.mem_of_find?_eq_some found
  obtain ⟨text, isText⟩ := texts entry member
  have same : (refOf entry).same (refOf call) = true := by
    have holds := List.find?_some found
    exact holds
  rw [isText] at same
  exact ⟨entry, member, isText.trans (Json.str_same_iff.mp same).symm, reserved, charged⟩

/-- What an accepted reconciliation has checked of its entries. -/
structure Accepted (ledger record : Json F) : Prop where
  distinct : ((entries record).map refOf).Nodup
  counted : (entries record).length = (openCalls ledger).length
  covered : ∀ call ∈ openCalls ledger, ∃ entry ∈ entries record, Carries entry call

theorem reconcileLedger_ok {sha256Hex : ByteArray → String} {shown : Shown F}
    {ledger record : Json F} {ledgerBytes : ByteArray} {view : View F}
    (done : reconcileLedger sha256Hex shown ledger record ledgerBytes = .ok view) :
    Accepted ledger record := by
  simp only [reconcileLedger, bind_eq_ok, require_eq_ok, fetch_eq_ok, forM_eq_ok, pure_eq_ok] at done
  obtain ⟨validated, valid, _, -, _, -, _, -, _, -, spent, -, ceiling, -, unreconciled, collected,
    _, counted, _, covered, -⟩ := done
  obtain ⟨rfl, ⟨refs, same, distinct⟩, listed⟩ := validateRecord_ok valid
  obtain rfl := unreconciledCalls_ok collected
  refine ⟨?_, ?_, ?_⟩
  · rw [same]
    exact distinct.map fun _ _ equal => by injection equal
  · rw [listed] at counted
    exact Int.ofNat.inj (Option.some.inj counted)
  · intro call member
    refine coverCall_ok (fun entry inside => ?_) (covered call member)
    have ref := List.mem_map_of_mem (f := refOf) inside
    rw [same] at ref
    obtain ⟨text, -, isText⟩ := List.mem_map.mp ref
    exact ⟨text, isText.symm⟩

/-- The entries of a record are the open calls of a ledger, one to one, and no entry is about a
reconciled call. -/
structure CoversExactly (ledger record : Json F) : Prop where
  paired : ∃ order, order.Perm (entries record) ∧ List.Forall₂ Carries order (openCalls ledger)
  unsettled : ∀ entry ∈ entries record, ∀ call ∈ calls ledger, isReconciled call = true →
    refOf call ≠ refOf entry

/-- The references of the open calls are distinct, and no reconciled call has one of them. -/
structure DistinctReferences (ledger : Json F) : Prop where
  opened : ((openCalls ledger).map refOf).Nodup
  unsettled : ∀ call ∈ calls ledger, isReconciled call = true →
    refOf call ∉ (openCalls ledger).map refOf

theorem refs_of_carries {order ledgerCalls : List (Json F)}
    (each : List.Forall₂ Carries order ledgerCalls) :
    order.map refOf = ledgerCalls.map refOf := by
  induction each with
  | nil => rfl
  | cons here _ ih => rw [List.map_cons, List.map_cons, here.callRef, ih]

/-- The entries of the open calls, in the order of the calls. -/
theorem order_of_covered {found : List (Json F)} {ledgerCalls : List (Json F)}
    (covered : ∀ call ∈ ledgerCalls, ∃ entry ∈ found, Carries entry call) :
    ∃ order, order ⊆ found ∧ List.Forall₂ Carries order ledgerCalls := by
  induction ledgerCalls with
  | nil => exact ⟨[], List.nil_subset _, .nil⟩
  | cons call rest ih =>
      obtain ⟨⟨entry, member, carries⟩, others⟩ := List.forall_mem_cons.mp covered
      obtain ⟨order, inside, each⟩ := ih others
      exact ⟨entry :: order, List.cons_subset.mpr ⟨member, inside⟩, .cons carries each⟩

/-- **An accepted record covers the open calls of its ledger one to one exactly when these have
references of their own.** -/
theorem reconciliation_covers_iff {sha256Hex : ByteArray → String} {shown : Shown F}
    {ledger record : Json F} {ledgerBytes : ByteArray} {view : View F}
    (done : reconcileLedger sha256Hex shown ledger record ledgerBytes = .ok view) :
    CoversExactly ledger record ↔ DistinctReferences ledger := by
  have accepted := reconcileLedger_ok done
  constructor
  · rintro ⟨⟨order, permuted, each⟩, unsettled⟩
    have refs := refs_of_carries each
    have same : ((entries record).map refOf).Perm ((openCalls ledger).map refOf) :=
      refs ▸ (permuted.map refOf).symm
    refine ⟨same.nodup_iff.mp accepted.distinct, ?_⟩
    intro call member settled inside
    obtain ⟨entry, held, ref⟩ := List.mem_map.mp (same.mem_iff.mpr inside)
    exact unsettled entry held call member settled ref.symm
  · rintro ⟨opened, unsettled⟩
    obtain ⟨order, inside, each⟩ := order_of_covered accepted.covered
    have refs := refs_of_carries each
    have distinct : order.Nodup := by
      refine List.Nodup.of_map refOf ?_
      rw [refs]
      exact opened
    -- as many distinct entries as there are entries
    have permuted : order.Perm (entries record) := by
      refine (List.subperm_of_subset distinct inside).perm_of_length_le ?_
      rw [accepted.counted, each.length_eq]
    refine ⟨⟨order, permuted, each⟩, ?_⟩
    intro entry held call member settled same
    refine unsettled call member settled ?_
    rw [same, ← refs]
    exact List.mem_map_of_mem (permuted.mem_iff.mpr held)

end Model

/-! ## A sample -/

section Sample

open Aegis.Budget (ZeroFloat)

/-- How Python shows the texts of the samples, which hold no quote. -/
def plainShown : Shown ZeroFloat where
  str _ := "None"
  repr text := "\x27" ++ text ++ "\x27"

/-- A digest of the right form. -/
def sampleDigest : String := String.ofList (List.replicate 64 '0')

def sampleCall (callRef : String) (reconciled : Bool) : Json ZeroFloat :=
  .object [("call_ref", .str callRef), ("reserved_cents", .int 2), ("cost_cents", .int 2),
    ("reconciled", .bool reconciled)]

def sampleLedger (ledgerCalls : List (Json ZeroFloat)) : Json ZeroFloat :=
  .object [("ledger_kind", .str ledgerKind), ("spent_cents", .int 6), ("ceiling_cents", .int 100),
    ("calls", .array ledgerCalls)]

def sampleEntry (callRef : String) : Json ZeroFloat :=
  .object [("call_ref", .str callRef), ("reserved_cents", .int 2), ("charged_cents", .int 2),
    ("disposition", .str disposition), ("evidence_ref", .str "halt.json")]

def sampleRecord (refs : List String) : Json ZeroFloat :=
  .object [("schema", .str schema), ("kind", .str kind), ("status", .str statusAttested),
    ("run_id", .str "7001"), ("run_attempt", .str "1"), ("dataset_path", .str "cases.json"),
    ("dataset_sha256", .str sampleDigest), ("ledger_name", .str "cost-ledger.json"),
    ("ledger_sha256", .str sampleDigest), ("case_id", .str "case-01"), ("attempt", .int 1),
    ("unreconciled_before", .int refs.length), ("spent_cents_preserved", .int 6),
    ("ceiling_cents_preserved", .int 100), ("reconciles", .array (refs.map sampleEntry)),
    ("budget_impact", .object [("charged_cents_preserved", .int 6),
      ("remaining_ceiling_cents_preserved", .int 94),
      ("cumulative_ceiling_cents_unchanged", .bool true), ("refunded_cents", .int 0)]),
    ("attested_by", .str "owner"), ("attested_on", .str "2026-11-02"),
    ("attestation_ref", .str "issue"), ("limitations", .array [])]

/-- Whether a record is applied to a ledger. -/
def applies (ledger record : Json ZeroFloat) : Bool :=
  (reconcileLedger (fun _ => sampleDigest) plainShown ledger record .empty).isOk

theorem exists_of_applies {ledger record : Json ZeroFloat} (done : applies ledger record = true) :
    ∃ view, reconcileLedger (fun _ => sampleDigest) plainShown ledger record .empty = .ok view := by
  unfold applies at done
  cases outcome : reconcileLedger (fun _ => sampleDigest) plainShown ledger record .empty with
  | error fault =>
      rw [outcome] at done
      cases done
  | ok view => exact ⟨view, rfl⟩

/-- Two open calls and a reconciled one, with references of their own. -/
def distinctLedger : Json ZeroFloat :=
  sampleLedger [sampleCall "a" false, sampleCall "b" false, sampleCall "c" true]

theorem reconciliation_of_sample : CoversExactly distinctLedger (sampleRecord ["b", "a"]) := by
  have done : applies distinctLedger (sampleRecord ["b", "a"]) = true := by
    decide +kernel
  obtain ⟨view, applied⟩ := exists_of_applies done
  refine (reconciliation_covers_iff applied).mpr ⟨?_, ?_⟩
  · show [(Json.str "a" : Json ZeroFloat), .str "b"].Nodup
    simp
  · show ∀ call ∈ [sampleCall "a" false, sampleCall "b" false, sampleCall "c" true],
      isReconciled call = true → refOf call ∉ [(Json.str "a" : Json ZeroFloat), .str "b"]
    simp [sampleCall, isReconciled, isTrue, refOf, Json.getD, Json.get?, Dict.get?_cons]

/-- Two open calls with one reference, and a reconciled one. -/
def sharedLedger : Json ZeroFloat :=
  sampleLedger [sampleCall "a" false, sampleCall "a" false, sampleCall "b" true]

/-- A record with the entries `a` and `b` is applied to the ledger: `b` is a reconciled call, and
the two open calls share the entry `a`. -/
theorem reconciled_call_claimed :
    (∃ view, reconcileLedger (fun _ => sampleDigest) plainShown sharedLedger
      (sampleRecord ["a", "b"]) .empty = .ok view) ∧
      ¬ CoversExactly sharedLedger (sampleRecord ["a", "b"]) := by
  have done : applies sharedLedger (sampleRecord ["a", "b"]) = true := by
    decide +kernel
  refine ⟨exists_of_applies done, fun covers => ?_⟩
  have claimed : sampleEntry "b" ∈ entries (sampleRecord ["a", "b"]) :=
    List.mem_cons_of_mem _ (List.mem_singleton_self _)
  have held : sampleCall "b" true ∈ calls sharedLedger :=
    List.mem_cons_of_mem _ (List.mem_cons_of_mem _ (List.mem_singleton_self _))
  exact covers.unsettled _ claimed _ held rfl rfl

end Sample

end Reconciliation

end Aegis.Live
