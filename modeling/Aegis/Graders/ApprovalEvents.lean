/-
# Graders.ApprovalEvents — the recorded events of an approval history

`graders/approval.py`, `_validate_events`: a history is a non-empty list of events with strictly
increasing sequence numbers. The fields of the lifecycle are carried along as they were recorded;
only `approval_lifecycle.py` reads them. `validateEvents_eq_ok` says which lists are read and as
which events.
-/
import Aegis.Graders.Base

namespace Aegis.Graders

open Aegis.Lib
open Aegis.Lib.Guarded

set_option autoImplicit false

inductive EventKind
  | previewShown
  | approvalRequested
  | approvalGranted
  | approvalDeclined
  | approvalAmbiguous
  | recordAppended
  | actionPerformed
  | stageAdvance
  | approvalRevoked
  | approvalConsumed
  | approvalExpired
  | approvalSuperseded
  deriving DecidableEq, Repr

namespace EventKind

def text : EventKind → String
  | previewShown => "PREVIEW_SHOWN"
  | approvalRequested => "APPROVAL_REQUESTED"
  | approvalGranted => "APPROVAL_GRANTED"
  | approvalDeclined => "APPROVAL_DECLINED"
  | approvalAmbiguous => "APPROVAL_AMBIGUOUS"
  | recordAppended => "RECORD_APPENDED"
  | actionPerformed => "ACTION_PERFORMED"
  | stageAdvance => "STAGE_ADVANCE"
  | approvalRevoked => "APPROVAL_REVOKED"
  | approvalConsumed => "APPROVAL_CONSUMED"
  | approvalExpired => "APPROVAL_EXPIRED"
  | approvalSuperseded => "APPROVAL_SUPERSEDED"

instance : Vocabulary EventKind where
  text := text
  text_injective := by
    intro left right
    cases left <;> cases right <;> decide

/-- `EVENT_KINDS`. -/
def ordinary : List EventKind :=
  [previewShown, approvalRequested, approvalGranted, approvalDeclined, approvalAmbiguous,
    recordAppended, actionPerformed, stageAdvance]

/-- `approval_lifecycle.KINDS`. -/
def lifecycle : List EventKind :=
  [approvalRevoked, approvalConsumed, approvalExpired, approvalSuperseded]

/-- `_ACTION_KINDS`. -/
def actions : List EventKind := [recordAppended, actionPerformed, stageAdvance]

/-- `_PREVIEW_REQUIRED_KINDS`. -/
def previewRequired : List EventKind := [recordAppended, stageAdvance]

/-- The requests and the answers that grant nothing. -/
def unanswered : List EventKind := [approvalRequested, approvalDeclined, approvalAmbiguous]

/-- The kinds that a grading reads. -/
def graded (withLifecycle : Bool) : List EventKind :=
  ordinary ++ if withLifecycle = true then lifecycle else []

end EventKind

/-- A recorded event. The last five fields are those of the lifecycle. -/
structure ApprovalEvent (F : Type) where
  seq : Int
  kind : EventKind
  target : String
  approvalId : Option String
  approverIdentity : Option String
  ownerGateRecordIds : Option (List String)
  at_ : Option (Json F)
  usage : Option (Json F)
  expiresAt : Option (Json F)
  eventId : Option (Json F)
  successorId : Option (Json F)

/-- `_EVENT_ALLOWED_KEYS`. -/
def eventAllowedKeys : List String :=
  ["seq", "kind", "target", "approval_id", "approver_identity", "owner_gate_record_ids"]

/-- `approval_lifecycle.KEYS`. -/
def lifecycleKeys : List String := ["at", "usage", "expires_at", "event_id", "successor_id"]

def gradedKeys (withLifecycle : Bool) : List String :=
  eventAllowedKeys ++ if withLifecycle = true then lifecycleKeys else []

section Reading

variable {F : Type}

/-- An `int` that is no `bool`. -/
def integer? : Json F → Option Int
  | .int value => some value
  | _ => none

theorem integer?_eq_some {value : Json F} {number : Int} :
    integer? value = some number ↔ value = .int number := by
  cases value <;> simp [integer?]

theorem text?_eq_some {value : Json F} {text : String} :
    value.text? = some text ↔ value = .str text := by
  cases value <;> simp [Json.text?]

/-- The value of a field that may be missing. -/
def optionalField {α : Type} (fields : List (String × Json F)) (key : String)
    (read : Json F → Option α) (error : Raised F) : Except (Raised F) (Option α) :=
  match Dict.get? fields key with
  | none => .ok none
  | some value => (fetch (read value) error).map some

/-- A field is missing, or it is read as its value. -/
def FieldReads {α : Type} (fields : List (String × Json F)) (key : String)
    (read : Json F → Option α) (value : Option α) : Prop :=
  (Dict.get? fields key).map read = value.map some

theorem optionalField_eq_ok {α : Type} {fields : List (String × Json F)} {key : String}
    {read : Json F → Option α} {error : Raised F} {value : Option α} :
    optionalField fields key read error = .ok value ↔ FieldReads fields key read value := by
  unfold optionalField FieldReads
  cases Dict.get? fields key with
  | none => cases value <;> simp
  | some held =>
      show (fetch (read held) error).map some = .ok value ↔ some (read held) = value.map some
      cases read held <;> cases value <;> simp [fetch, Except.map]

/-- One entry of `_validate_events`, behind an event with the number `last`. -/
def readEvent (withLifecycle : Bool) (entry : Json F) (index : Nat) (last : Option Int) :
    Except (Raised F) (ApprovalEvent F) :=
  match entry with
  | .object fields => do
      require (∀ field ∈ fields, field.1 ∈ gradedKeys withLifecycle)
        (malformed s!"event #{index}: unknown keys")
      let seq ← fetch (integer? (valueAt fields "seq"))
        (malformed s!"event #{index}: seq must be an integer")
      require (∀ previous, last = some previous → previous < seq)
        (malformed s!"event #{index}: seq {seq} is not strictly increasing")
      let kind ← fetch (readOne (EventKind.graded withLifecycle) (valueAt fields "kind"))
        (malformed s!"event #{index}: unknown kind")
      let target ← fetch (nonemptyText? (valueAt fields "target"))
        (malformed s!"event #{index}: target required")
      let approvalId ← optionalField fields "approval_id" nonemptyText?
        (malformed s!"event #{index}: approval_id must be a non-empty string")
      let approverIdentity ← optionalField fields "approver_identity" Json.text?
        (malformed s!"event #{index}: approver_identity must be a string")
      let ownerGateRecordIds ← optionalField fields "owner_gate_record_ids" textList?
        (malformed s!"event #{index}: owner_gate_record_ids must be a list of non-empty strings")
      pure ⟨seq, kind, target, approvalId, approverIdentity, ownerGateRecordIds,
        Dict.get? fields "at", Dict.get? fields "usage", Dict.get? fields "expires_at",
        Dict.get? fields "event_id", Dict.get? fields "successor_id"⟩
  | _ => .error (malformed s!"event #{index} must be a mapping")

/-- The loop of `_validate_events`, from an index on. -/
def readEvents (withLifecycle : Bool) :
    List (Json F) → Nat → Option Int → Except (Raised F) (List (ApprovalEvent F))
  | [], _, _ => .ok []
  | entry :: later, index, last => do
      let event ← readEvent withLifecycle entry index last
      let events ← readEvents withLifecycle later (index + 1) (some event.seq)
      pure (event :: events)

/-- `_validate_events`. -/
def validateEvents (withLifecycle : Bool) (raw : Json F) :
    Except (Raised F) (List (ApprovalEvent F)) :=
  match raw with
  | .array (first :: rest) => readEvents withLifecycle (first :: rest) 0 none
  | _ => .error (malformed "events must be a non-empty list")

/-! ## Which lists are read -/

/-- The fields of an entry record an event. -/
structure RecordsEvent (withLifecycle : Bool) (fields : List (String × Json F))
    (event : ApprovalEvent F) : Prop where
  keys : ∀ field ∈ fields, field.1 ∈ gradedKeys withLifecycle
  seq : valueAt fields "seq" = .int event.seq
  kind : event.kind ∈ EventKind.graded withLifecycle ∧ valueAt fields "kind" = .word event.kind
  target : valueAt fields "target" = .str event.target ∧ event.target ≠ ""
  approvalId : FieldReads fields "approval_id" nonemptyText? event.approvalId
  approverIdentity : FieldReads fields "approver_identity" Json.text? event.approverIdentity
  ownerGateRecordIds : FieldReads fields "owner_gate_record_ids" textList? event.ownerGateRecordIds
  at_ : Dict.get? fields "at" = event.at_
  usage : Dict.get? fields "usage" = event.usage
  expiresAt : Dict.get? fields "expires_at" = event.expiresAt
  eventId : Dict.get? fields "event_id" = event.eventId
  successorId : Dict.get? fields "successor_id" = event.successorId

/-- The entry is a mapping that records the event. -/
def EntryRecords (withLifecycle : Bool) (entry : Json F) (event : ApprovalEvent F) : Prop :=
  ∃ fields, entry = .object fields ∧ RecordsEvent withLifecycle fields event

theorem readEvent_eq_ok {withLifecycle : Bool} {entry : Json F} {index : Nat} {last : Option Int}
    {event : ApprovalEvent F} :
    readEvent withLifecycle entry index last = .ok event ↔
      EntryRecords withLifecycle entry event ∧
        ∀ previous, last = some previous → previous < event.seq := by
  unfold readEvent EntryRecords
  split
  · rename_i fields
    simp only [bind_eq_ok, require_eq_ok, fetch_eq_ok, pure_eq_ok, optionalField_eq_ok,
      readOne_eq_some, integer?_eq_some, nonemptyText?_eq_some]
    constructor
    · rintro ⟨_, keys, seq, isSeq, _, increasing, kind, isKind, target, isTarget, approvalId, isId,
        approver, isApprover, gates, isGates, rfl⟩
      exact ⟨⟨fields, rfl, keys, isSeq, isKind, isTarget, isId, isApprover, isGates, rfl, rfl, rfl, rfl,
        rfl⟩, increasing⟩
    · rintro ⟨⟨_, same, recorded⟩, increasing⟩
      obtain rfl := Json.object.inj same
      refine ⟨⟨⟩, recorded.keys, _, recorded.seq, ⟨⟩, increasing, _, recorded.kind, _,
        recorded.target, _, recorded.approvalId, _, recorded.approverIdentity, _,
        recorded.ownerGateRecordIds, ?_⟩
      rw [recorded.at_, recorded.usage, recorded.expiresAt, recorded.eventId, recorded.successorId]
  · rename_i other
    constructor
    · intro read
      cases read
    · rintro ⟨⟨fields, same, -⟩, -⟩
      exact absurd same (other fields)

/-- The sequence numbers increase. -/
def Increasing (events : List (ApprovalEvent F)) : Prop :=
  events.Pairwise fun earlier later => earlier.seq < later.seq

theorem readEvents_eq_ok {withLifecycle : Bool} {entries : List (Json F)} {index : Nat}
    {last : Option Int} {events : List (ApprovalEvent F)} :
    readEvents withLifecycle entries index last = .ok events ↔
      List.Forall₂ (EntryRecords withLifecycle) entries events ∧ Increasing events ∧
        ∀ previous, last = some previous → ∀ event ∈ events, previous < event.seq := by
  induction entries generalizing index last events with
  | nil =>
      rw [readEvents, List.forall₂_nil_left_iff]
      constructor
      · intro done
        obtain rfl := Except.ok.inj done
        exact ⟨rfl, .nil, fun _ _ _ member => absurd member List.not_mem_nil⟩
      · rintro ⟨rfl, -⟩
        rfl
  | cons entry later ih =>
      simp only [readEvents, bind_eq_ok, pure_eq_ok, readEvent_eq_ok, ih]
      constructor
      · rintro ⟨event, ⟨here, above⟩, rest, ⟨each, increasing, after⟩, rfl⟩
        have behind := after event.seq rfl
        refine ⟨.cons here each, List.pairwise_cons.mpr ⟨behind, increasing⟩, ?_⟩
        intro previous isLast other member
        have first := above previous isLast
        rcases List.mem_cons.mp member with rfl | among
        · exact first
        · exact first.trans (behind other among)
      · rintro ⟨both, increasing, above⟩
        cases both with
        | cons here each =>
            obtain ⟨behind, increasing⟩ := List.pairwise_cons.mp increasing
            refine ⟨_, ⟨here, fun previous isLast => above previous isLast _ List.mem_cons_self⟩, _,
              ⟨each, increasing, ?_⟩, rfl⟩
            intro previous isLast other member
            obtain rfl := Option.some.inj isLast
            exact behind other member

/-- The events that a recorded value is read as. -/
structure RecordsEvents (withLifecycle : Bool) (raw : Json F) (events : List (ApprovalEvent F)) :
    Prop where
  entries : ∃ entries, raw = .array entries ∧ entries ≠ [] ∧
    List.Forall₂ (EntryRecords withLifecycle) entries events
  increasing : Increasing events

theorem validateEvents_eq_ok {withLifecycle : Bool} {raw : Json F} {events : List (ApprovalEvent F)} :
    validateEvents withLifecycle raw = .ok events ↔ RecordsEvents withLifecycle raw events := by
  unfold validateEvents
  split
  · rename_i first rest
    rw [readEvents_eq_ok]
    constructor
    · rintro ⟨each, increasing, -⟩
      exact ⟨⟨_, rfl, List.cons_ne_nil _ _, each⟩, increasing⟩
    · rintro ⟨⟨entries, same, -, each⟩, increasing⟩
      obtain rfl := Json.array.inj same
      exact ⟨each, increasing, nofun⟩
  · rename_i other
    constructor
    · exact nofun
    · rintro ⟨⟨entries, rfl, nonempty, -⟩, -⟩
      obtain ⟨first, rest, rfl⟩ := List.exists_cons_of_ne_nil nonempty
      exact absurd rfl (other first rest)

/-! ## What a grader raises -/

/-- An `EvidenceMalformed`. -/
def Raised.IsMalformed : Raised F → Prop
  | .error reason _ _ => reason = .evidenceMalformed
  | _ => False

/-- A `GradingFail`. -/
def Raised.IsFail : Raised F → Prop
  | .fail _ _ _ => True
  | _ => False

theorem isMalformed_malformed (detail : String) : (malformed detail : Raised F).IsMalformed := rfl

theorem isFail_failed (reason : GradingReasonCode) (detail : String) :
    (failed reason detail : Raised F).IsFail := trivial

theorem raises_optionalField {α : Type} (fields : List (String × Json F)) (key detail : String)
    (read : Json F → Option α) :
    Raises Raised.IsMalformed (optionalField fields key read (malformed detail)) := by
  unfold optionalField
  intro error raised
  split at raised
  · cases raised
  · rename_i value _
    cases held : read value with
    | none =>
        rw [held] at raised
        obtain rfl := Except.error.inj raised
        exact isMalformed_malformed detail
    | some found =>
        rw [held] at raised
        cases raised

theorem raises_readEvent (withLifecycle : Bool) (entry : Json F) (index : Nat) (last : Option Int) :
    Raises Raised.IsMalformed (readEvent withLifecycle entry index last) := by
  unfold readEvent
  split
  · rename_i fields
    apply (raises_require _ (isMalformed_malformed _)).bind
    intro _
    apply (raises_fetch _ (isMalformed_malformed _)).bind
    intro seq
    apply (raises_require _ (isMalformed_malformed _)).bind
    intro _
    apply (raises_fetch _ (isMalformed_malformed _)).bind
    intro kind
    apply (raises_fetch _ (isMalformed_malformed _)).bind
    intro target
    refine (raises_optionalField fields "approval_id" _ nonemptyText?).bind ?_
    intro approvalId
    refine (raises_optionalField fields "approver_identity" _ Json.text?).bind ?_
    intro approverIdentity
    refine (raises_optionalField fields "owner_gate_record_ids" _ textList?).bind ?_
    intro ownerGateRecordIds
    exact raises_pure _
  · intro error raised
    obtain rfl := Except.error.inj raised
    exact isMalformed_malformed _

theorem raises_readEvents (withLifecycle : Bool) (entries : List (Json F)) (index : Nat)
    (last : Option Int) :
    Raises Raised.IsMalformed (readEvents withLifecycle entries index last) := by
  induction entries generalizing index last with
  | nil => exact raises_pure _
  | cons entry later ih =>
      exact (raises_readEvent _ _ _ _).bind fun event => (ih _ _).bind fun _ => raises_pure _

theorem raises_validateEvents (withLifecycle : Bool) (raw : Json F) :
    Raises Raised.IsMalformed (validateEvents withLifecycle raw) := by
  unfold validateEvents
  split
  · exact raises_readEvents _ _ _ _
  · intro error raised
    obtain rfl := Except.error.inj raised
    exact isMalformed_malformed _

end Reading

end Aegis.Graders
