/-
# DeliveryControl.EventHistory — the hash chains of the store

`_verify_event_history` and `_verify_source_history` of `storage.py`. A run's
events and the authority source's events are chains: every row repeats the hash
of its predecessor and carries the digest of its own body, and the last hash is
the head that `_heads` reports.

The body of a row is stored as text; the checks parse it and digest the parsed
object (`Codec`). An event row's columns are all repeated in its body, so the
head fixes them. A source row repeats only some of its columns there
(`SourceView`); `genesis_id_unbound` shows one that is not.

Checks that are not about the chain (the grouping of writer epochs, the bodies
of pause events, the projections of source events) can only refuse more; the
first two are parameters of the codec, the last are left out.
-/
import Mathlib.Data.List.Sort
import Aegis.DeliveryControl.Contracts
import Aegis.Lib.HashChain
import Aegis.Lib.Table

namespace Aegis.DeliveryControl.EventHistory

open Aegis.Lib
open Aegis.Lib.Guarded
open Aegis.Lib.HashChain

set_option autoImplicit false

/-! ## Bodies -/

/-- A parsed JSON value. A float keeps its canonical text and the integer it
equals, if any; an array or an object keeps its canonical text. -/
inductive JsonValue
  | null
  | bool (value : Bool)
  | int (value : Int)
  | float (canonical : String) (integral : Option Int)
  | str (value : String)
  | nested (canonical : String)
  deriving DecidableEq, Repr

/-- A parsed JSON object: its members in canonical key order. -/
structure JsonObject where
  members : List (String × JsonValue)
  sorted : (members.map Prod.fst).Pairwise (· < ·)
  deriving DecidableEq

/-- `body.get(key)`. -/
def JsonObject.get? (body : JsonObject) (key : String) : Option JsonValue :=
  body.members.lookup key

/-- A member equals an INTEGER column under Python's `==`. -/
def equalsInt (member : Option JsonValue) (column : Int) : Prop :=
  match member with
  | some (.int value) => value = column
  | some (.bool value) => (if value then 1 else 0) = column
  | some (.float _ integral) => integral = some column
  | _ => False

instance : (member : Option JsonValue) → (column : Int) → Decidable (equalsInt member column)
  | some (.int value), column => inferInstanceAs (Decidable (value = column))
  | some (.bool value), column => inferInstanceAs (Decidable ((if value then 1 else 0) = column))
  | some (.float _ integral), column => inferInstanceAs (Decidable (integral = some column))
  | some .null, _ => .isFalse id
  | some (.str _), _ => .isFalse id
  | some (.nested _), _ => .isFalse id
  | none, _ => .isFalse id

/-- A member equals a TEXT column. -/
def equalsText (member : Option JsonValue) (column : String) : Prop :=
  member = some (.str column)

instance (member : Option JsonValue) (column : String) : Decidable (equalsText member column) :=
  inferInstanceAs (Decidable (_ = _))

/-- A member equals a nullable TEXT column; `None` equals an absent member and `null`. -/
def equalsOptional (member : Option JsonValue) (column : Option String) : Prop :=
  match column with
  | some text => member = some (.str text)
  | none => member = none ∨ member = some .null

instance : (member : Option JsonValue) → (column : Option String) →
    Decidable (equalsOptional member column)
  | member, some text => inferInstanceAs (Decidable (member = some (.str text)))
  | member, none => inferInstanceAs (Decidable (member = none ∨ member = some .null))

theorem equalsInt_unique {member : Option JsonValue} {a b : Int} (left : equalsInt member a)
    (right : equalsInt member b) : a = b := by
  unfold equalsInt at left right
  split at left
  · exact left.symm.trans right
  · exact left.symm.trans right
  · exact Option.some.inj (left.symm.trans right)
  · exact left.elim

theorem equalsText_unique {member : Option JsonValue} {a b : String} (left : equalsText member a)
    (right : equalsText member b) : a = b := by
  have same := left.symm.trans right
  simpa using same

theorem equalsOptional_unique {member : Option JsonValue} {a b : Option String}
    (left : equalsOptional member a) (right : equalsOptional member b) : a = b := by
  cases a <;> cases b <;> simp_all [equalsOptional]

/-! ## Rows -/

/-- A row of `events`. -/
structure StoredEvent where
  eventId : String
  repositoryId : String
  runId : String
  itemId : String
  sequence : Nat
  commandId : String
  writerEpoch : Nat
  schemaVersion : Nat
  eventKind : String
  previousEventHash : String
  eventHash : String
  bodyJson : String
  deriving DecidableEq, Repr

instance : Constrained StoredEvent where
  Conflict a b := a.eventId = b.eventId ∨ (a.runId = b.runId ∧ a.sequence = b.sequence) ∨
    a.eventHash = b.eventHash
  decidable _ _ := inferInstance
  symm _ _ := by simp only [eq_comm, imp_self]

/-- The columns of a `runs` row that the verification reads. -/
structure RunHead where
  runId : String
  repositoryId : String
  headSequence : Nat
  headHash : String
  deriving DecidableEq, Repr

instance : Constrained RunHead where
  Conflict a b := a.runId = b.runId
  decidable _ _ := inferInstance
  symm _ _ := Eq.symm

/-- A row of `synthetic_authority_source_events`. -/
structure SourceEvent where
  sourceEventId : String
  repositoryId : String
  sequence : Nat
  eventKind : String
  recordedAt : String
  effectiveAt : Option String
  consumerKind : Option String
  consumerKey : Option String
  previousSourceHash : String
  eventHash : String
  bodyJson : String
  deriving DecidableEq, Repr

instance : Constrained SourceEvent where
  Conflict a b := a.sourceEventId = b.sourceEventId ∨
    (a.repositoryId = b.repositoryId ∧ a.sequence = b.sequence) ∨ a.eventHash = b.eventHash ∨
    (a.repositoryId = b.repositoryId ∧ a.consumerKind.isSome ∧ a.consumerKey.isSome ∧
      a.consumerKind = b.consumerKind ∧ a.consumerKey = b.consumerKey)
  decidable _ _ := inferInstance
  symm a b := by
    rintro (same | ⟨repository, sequence⟩ | hash | ⟨repository, kind, key, sameKind, sameKey⟩)
    · exact .inl same.symm
    · exact .inr (.inl ⟨repository.symm, sequence.symm⟩)
    · exact .inr (.inr (.inl hash.symm))
    · exact .inr (.inr (.inr ⟨repository.symm, sameKind ▸ kind, sameKey ▸ key, sameKind.symm,
        sameKey.symm⟩))

/-- A row of `synthetic_authority_source_state`. -/
structure SourceState where
  repositoryId : String
  headSequence : Nat
  headHash : String
  recordedAtFloor : String
  deriving DecidableEq, Repr

instance : Constrained SourceState where
  Conflict a b := a.repositoryId = b.repositoryId ∨ a.headHash = b.headHash
  decidable _ _ := inferInstance
  symm _ _ := by simp only [eq_comm, imp_self]

/-- The tables the verification reads; `catalogHead` is the repository's row. -/
structure History where
  catalogHead : Option String
  runs : Table RunHead
  events : Table StoredEvent
  sourceEvents : Table SourceEvent
  sourceState : Table SourceState

/-- The text-level functions of the verification. -/
structure Codec where
  /-- `json.loads`: `none` for text that does not parse, `some none` for a value
  that is not an object. -/
  loads : String → Option (Option JsonObject)
  /-- `_event_hash`: the digest of the canonical text of an object. -/
  digest : JsonObject → String
  /-- `strptime` with the source's format, as an instant. -/
  parseUtc : String → Option Nat
  /-- The grouping rule for writer epochs. -/
  writerEpochs : List StoredEvent → Except ControlError Unit
  /-- The body checks of the two pause kinds. -/
  pauseBody : StoredEvent → JsonObject → Except ControlError Unit

/-! ## The chain of a run -/

/-- `SELECT * FROM events WHERE run_id = ? ORDER BY sequence`. -/
def History.runRows (history : History) (runId : String) : List StoredEvent :=
  (history.events.rows.filter (fun row => row.runId = runId)).insertionSort
    (fun a b => a.sequence ≤ b.sequence)

/-- The variables of the loop over one run's events. -/
structure ChainState where
  previousHash : String
  expectedSequence : Nat
  previousWriterEpoch : Nat

/-- The columns of an event that its body repeats. -/
def EventBound (row : StoredEvent) (body : JsonObject) : Prop :=
  equalsText (body.get? "command_id") row.commandId ∧
    equalsText (body.get? "event_id") row.eventId ∧
    equalsText (body.get? "event_kind") row.eventKind ∧
    equalsText (body.get? "item_id") row.itemId ∧
    equalsText (body.get? "previous_event_hash") row.previousEventHash ∧
    equalsText (body.get? "repository_id") row.repositoryId ∧
    equalsText (body.get? "run_id") row.runId ∧
    equalsInt (body.get? "schema_version") row.schemaVersion ∧
    equalsInt (body.get? "sequence") row.sequence ∧
    equalsInt (body.get? "writer_epoch") row.writerEpoch

instance (row : StoredEvent) (body : JsonObject) : Decidable (EventBound row body) :=
  inferInstanceAs (Decidable (_ ∧ _))

/-- One turn of the loop over a run's events. -/
def verifyEventRow (codec : Codec) (state : ChainState) (row : StoredEvent) :
    Except ControlError ChainState := do
  require (row.eventKind ∈ EventKind.all.map EventKind.value)
    (ControlError.storageIntegrityError "event kind is not registered")
  require (row.sequence = state.expectedSequence)
    (ControlError.storageIntegrityError "event sequence is not contiguous")
  refuse (row.writerEpoch < state.previousWriterEpoch)
    (ControlError.storageIntegrityError "writer epoch moves backward within run history")
  require (row.previousEventHash = state.previousHash)
    (ControlError.storageIntegrityError "event predecessor hash mismatch")
  let parsed ← fetch (codec.loads row.bodyJson)
    (ControlError.storageIntegrityError "event body is not valid JSON")
  let body ← fetch parsed
    (ControlError.storageIntegrityError "event body is not a JSON object")
  require (codec.digest body = row.eventHash)
    (ControlError.storageIntegrityError "event body hash mismatch")
  require (EventBound row body)
    (ControlError.storageIntegrityError "event body binding mismatch")
  codec.pauseBody row body
  return ⟨row.eventHash, state.expectedSequence + 1, row.writerEpoch⟩

/-- The verification of one run against its head. -/
def verifyRun (codec : Codec) (history : History) (head : RunHead) : Except ControlError Unit := do
  let final ← (history.runRows head.runId).foldlM (verifyEventRow codec) ⟨"", 1, 0⟩
  require (final.previousHash = head.headHash)
    (ControlError.storageIntegrityError "run head does not match verified history")
  require (head.headSequence = final.expectedSequence - 1)
    (ControlError.storageIntegrityError "run head sequence diverges from verified history")

/-! ## The chain of the authority source -/

/-- The rows of one repository's source, by sequence. -/
def History.sourceRows (history : History) (repositoryId : String) : List SourceEvent :=
  (history.sourceEvents.rows.filter (fun row => row.repositoryId = repositoryId)).insertionSort
    (fun a b => a.sequence ≤ b.sequence)

/-- The variables of the loop over the source's events. -/
structure SourceChainState where
  previousHash : String
  expectedSequence : Nat
  recordedFloor : Option Nat

/-- The columns of a source event that its body repeats. -/
def SourceBound (row : SourceEvent) (body : JsonObject) : Prop :=
  equalsText (body.get? "event_kind") row.eventKind ∧
    equalsText (body.get? "previous_source_hash") row.previousSourceHash ∧
    equalsText (body.get? "recorded_at") row.recordedAt ∧
    equalsText (body.get? "repository_id") row.repositoryId ∧
    equalsInt (body.get? "sequence") row.sequence

instance (row : SourceEvent) (body : JsonObject) : Decidable (SourceBound row body) :=
  inferInstanceAs (Decidable (_ ∧ _))

/-- `_parse_source_utc`. -/
def parseSourceUtc (codec : Codec) (value field : String) : Except ControlError Nat :=
  fetch (codec.parseUtc value)
    (ControlError.storageIntegrityError ("synthetic authority source " ++ field ++ " is invalid"))

/-- The check of a row's `effective_at`, made only when the column is set. -/
def verifyEffectiveAt (codec : Codec) (row : SourceEvent) (body : JsonObject) :
    Except ControlError Unit :=
  match row.effectiveAt with
  | none => .ok ()
  | some effectiveAt => do
      let _ ← parseSourceUtc codec effectiveAt "effective_at"
      require (equalsText (body.get? "effective_at") effectiveAt)
        (ControlError.storageIntegrityError "synthetic authority effective time diverges")

/-- One turn of the loop over the source's events. -/
def verifySourceRow (codec : Codec) (state : SourceChainState) (row : SourceEvent) :
    Except ControlError SourceChainState := do
  require (row.sequence = state.expectedSequence)
    (ControlError.storageIntegrityError "synthetic authority source sequence is not contiguous")
  require (row.previousSourceHash = state.previousHash)
    (ControlError.storageIntegrityError "synthetic authority source predecessor hash mismatch")
  let parsed ← fetch (codec.loads row.bodyJson)
    (ControlError.storageIntegrityError "synthetic authority source body is invalid")
  let body ← fetch parsed
    (ControlError.storageIntegrityError "synthetic authority source body hash mismatch")
  require (codec.digest body = row.eventHash)
    (ControlError.storageIntegrityError "synthetic authority source body hash mismatch")
  require (SourceBound row body)
    (ControlError.storageIntegrityError "synthetic authority source binding mismatch")
  let recordedAt ← parseSourceUtc codec row.recordedAt "recorded_at"
  refuse (∃ floor ∈ state.recordedFloor, recordedAt < floor)
    (ControlError.storageIntegrityError "synthetic authority source clock moves backward")
  verifyEffectiveAt codec row body
  return ⟨row.eventHash, state.expectedSequence + 1, some recordedAt⟩

/-- The member is a text. -/
def isText : Option JsonValue → Bool
  | some (.str _) => true
  | _ => false

/-- `first == _source_genesis_body(repository_id, anchor)` for the row's own anchor. -/
def GenesisBody (repositoryId : String) (body : JsonObject) : Prop :=
  body.members.map Prod.fst = ["event_kind", "legacy_catalog_anchor", "previous_source_hash",
      "recorded_at", "repository_id", "sequence", "source_schema_version"] ∧
    equalsText (body.get? "event_kind") "SYNTHETIC_AUTHORITY_SOURCE_GENESIS" ∧
    isText (body.get? "legacy_catalog_anchor") ∧
    equalsText (body.get? "previous_source_hash") "" ∧
    equalsText (body.get? "recorded_at") "1970-01-01T00:00:00.000000Z" ∧
    equalsText (body.get? "repository_id") repositoryId ∧
    equalsInt (body.get? "sequence") 1 ∧ equalsInt (body.get? "source_schema_version") 1

instance (repositoryId : String) (body : JsonObject) :
    Decidable (GenesisBody repositoryId body) :=
  inferInstanceAs (Decidable (_ ∧ _))

/-- The columns that only the projection of a row's kind compares with its body.
Uses bind their identity and consumer, lifecycle facts their effective time. -/
def ProjectionBound (row : SourceEvent) (body : JsonObject) : Prop :=
  (row.eventKind = "SYNTHETIC_AUTHORITY_SOURCE_USED" →
    equalsOptional (body.get? "consumer_kind") row.consumerKind ∧
      equalsOptional (body.get? "consumer_key") row.consumerKey ∧
      equalsText (body.get? "source_event_id") row.sourceEventId) ∧
  (row.eventKind = "SYNTHETIC_AUTHORITY_LIFECYCLE_RECORDED" →
    equalsText (body.get? "source_recorded_at_utc") row.recordedAt ∧
      equalsOptional (body.get? "effective_at_utc") row.effectiveAt) ∧
  row.eventKind ∈ ["SYNTHETIC_AUTHORITY_GRANT_REGISTERED", "SYNTHETIC_AUTHORITY_SOURCE_USED",
    "SYNTHETIC_LEGACY_DESCRIPTOR_BOUND", "SYNTHETIC_AUTHORITY_LIFECYCLE_RECORDED"]

instance (row : SourceEvent) (body : JsonObject) : Decidable (ProjectionBound row body) :=
  inferInstanceAs (Decidable (_ ∧ _))

/-- The parsed body of a row the loop has accepted. -/
def bodyOf (codec : Codec) (bodyJson : String) : Option JsonObject :=
  (codec.loads bodyJson).join

def sourceDiverges : ControlError :=
  .storageIntegrityError "synthetic authority source head diverges from history"

/-- `_verify_source_history`: the chain, its head and state row, and its genesis. -/
def verifySourceHistory (codec : Codec) (history : History) (repositoryId expectedHead : String) :
    Except ControlError Unit := do
  let rows := history.sourceRows repositoryId
  let final ← rows.foldlM (verifySourceRow codec) ⟨"", 1, none⟩
  let state ← fetch (history.sourceState.find? (fun row => row.repositoryId = repositoryId))
    sourceDiverges
  require (final.previousHash = expectedHead ∧ state.headHash = expectedHead ∧
    state.headSequence = final.expectedSequence - 1) sourceDiverges
  let stateFloor ← parseSourceUtc codec state.recordedAtFloor "recorded_at_floor"
  require (final.recordedFloor = some stateFloor) sourceDiverges
  match rows with
  | [] => .error sourceDiverges
  | first :: rest => do
      let genesis ← fetch (bodyOf codec first.bodyJson) sourceDiverges
      require (first.eventKind = "SYNTHETIC_AUTHORITY_SOURCE_GENESIS" ∧
          GenesisBody repositoryId genesis)
        (ControlError.storageIntegrityError "synthetic authority source genesis is invalid")
      rest.forM fun row => do
        let body ← fetch (bodyOf codec row.bodyJson) sourceDiverges
        require (ProjectionBound row body)
          (ControlError.storageIntegrityError "synthetic authority source projection is invalid")

/-! ## The heads and the whole history -/

/-- `_SYNTHETIC_SOURCE_HEAD_MEMBER`: the member of the head vector that no run may use. -/
def sourceHeadMember : String := "@aegis/source/synthetic-authority"

/-- The runs of a repository in the head vector. -/
def History.repositoryRuns (history : History) (repositoryId : String) : List RunHead :=
  history.runs.rows.filter fun run =>
    run.repositoryId = repositoryId && run.runId ≠ sourceHeadMember

/-- The head digest that `_heads` reports for a run. -/
def History.runHead? (history : History) (repositoryId runId : String) : Option String :=
  ((history.repositoryRuns repositoryId).find? (fun run => run.runId = runId)).map (·.headHash)

/-- The head digest that `_heads` reports for the source. -/
def History.sourceHead? (history : History) (repositoryId : String) : Option String :=
  (history.sourceState.find? (fun row => row.repositoryId = repositoryId)).map (·.headHash)

/-- The catalog head, after the source behind it has been verified. A repository
without a catalog row has the empty head. -/
def verifyCatalog (codec : Codec) (history : History) (repositoryId : String) :
    Except ControlError String :=
  match history.catalogHead with
  | none => .ok ""
  | some catalogHead => do
      let sourceHead ← fetch (history.sourceHead? repositoryId)
        (ControlError.storageIntegrityError "synthetic authority source head is unavailable")
      verifySourceHistory codec history repositoryId sourceHead
      return catalogHead

/-- `_verify_event_history`. -/
def verifyEventHistory (codec : Codec) (history : History) (repositoryId : String) :
    Except ControlError Unit := do
  let catalogHead ← verifyCatalog codec history repositoryId
  codec.writerEpochs (history.events.rows.filter (fun row => row.repositoryId = repositoryId))
  (history.repositoryRuns repositoryId).forM (verifyRun codec history)
  require (history.repositoryRuns repositoryId = [] ∨
      catalogHead ∈ (history.repositoryRuns repositoryId).map (·.headHash) ∨
      history.sourceHead? repositoryId = some catalogHead)
    (ControlError.storageIntegrityError "catalog head is absent from run histories")

end Aegis.DeliveryControl.EventHistory
