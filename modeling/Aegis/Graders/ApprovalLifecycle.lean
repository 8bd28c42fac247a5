/-
# Graders.ApprovalLifecycle — the lifecycle of recorded approvals

`graders/approval_lifecycle.py`: every event has a place in the recording order and a time at which it
takes effect, and the two may disagree. `readHistory` checks that a history is consistent: grants and
lifecycle events have their own ids, every lifecycle event refers to an earlier grant, supersession
has no cycle (`readHistory_eq_ok`).
-/
import Aegis.Graders.ApprovalEvents
import Aegis.Lib.Registry
import Aegis.Lib.Successors
import Aegis.Lib.UtcTime

namespace Aegis.Graders

open Aegis.Lib
open Aegis.Lib.Guarded
open Aegis.Lib.UtcTime (Instant)

set_option autoImplicit false

def lifecycleVersion : String := "1.0.0"

inductive GrantUsage | standing | singleUse
  deriving DecidableEq, Repr

namespace GrantUsage

def text : GrantUsage → String
  | standing => "STANDING"
  | singleUse => "SINGLE_USE"

instance : Vocabulary GrantUsage where
  text := text
  text_injective := by
    intro left right
    cases left <;> cases right <;> decide

def all : List GrantUsage := [standing, singleUse]

theorem mem_all (usage : GrantUsage) : usage ∈ all := by
  cases usage <;> decide

end GrantUsage

structure GrantTerms where
  id : String
  usage : GrantUsage
  expiresAt : Option Instant
  deriving DecidableEq

/-- An event with the time at which it takes effect, the terms of a grant and the id of a lifecycle
event. -/
structure HistoryEvent (F : Type) extends ApprovalEvent F where
  time : Instant
  terms : Option GrantTerms
  lifecycleId : Option String

/-- A recorded grant: an entry of `grants`, `times` and `expiries`. -/
structure Grant where
  id : String
  seq : Int
  time : Instant
  target : String
  usage : GrantUsage
  expiresAt : Option Instant
  deriving DecidableEq

section Lifecycle

variable {F : Type}

/-! ## Registering the events -/

/-- `_time`. -/
def readTime (value : Option (Json F)) (field : String) : Except (Raised F) Instant := do
  let text ← fetch ((value.bind Json.text?).filter UtcTime.isUtcText)
    (malformed (field ++ " must be a UTC ISO timestamp ending Z"))
  fetch (UtcTime.parse text) (malformed ("invalid " ++ field))

/-- The lifecycle fields that an event carries. -/
def ApprovalEvent.lifecycleFields (event : ApprovalEvent F) : List String :=
  ((lifecycleKeys.zip [event.at_, event.usage, event.expiresAt, event.eventId, event.successorId]).filter
    fun field => field.2.isSome).map Prod.fst

/-- The lifecycle fields of a kind. -/
def permitted (kind : EventKind) : List String :=
  ["at"] ++ (if kind = .approvalGranted then ["usage", "expires_at"] else []) ++
    (if kind ∈ EventKind.lifecycle then ["event_id"] else []) ++
    (if kind = .approvalSuperseded then ["successor_id"] else [])

def readExpiry : Json F → Except (Raised F) (Option Instant)
  | .null => .ok none
  | value => (readTime (some value) "expires_at").map some

/-- The terms of a grant, whose id is not in use. -/
def readTerms (ids : List String) (event : ApprovalEvent F) (time : Instant) :
    Except (Raised F) GrantTerms := do
  let id ← fetch (event.approvalId.filter fun id => id ∉ ids)
    (malformed "grant IDs must be present, unique and immutable")
  let usage ← fetch (event.usage.bind (readOne GrantUsage.all))
    (malformed "grant requires explicit usage and nullable expires_at")
  let recorded ← fetch event.expiresAt
    (malformed "grant requires explicit usage and nullable expires_at")
  let expiresAt ← readExpiry recorded
  require (∀ expiry, expiresAt = some expiry → time ≤ expiry)
    (malformed "grant expiry cannot precede its effective time")
  pure ⟨id, usage, expiresAt⟩

def readLifecycleId (ids : List String) (event : ApprovalEvent F) : Except (Raised F) String :=
  fetch ((event.eventId.bind nonemptyText?).filter fun id => id ∉ ids)
    (malformed "lifecycle event IDs must be non-empty and unique")

/-- One turn of the first loop of `check_lifecycle`. -/
def registerEvent (ids : List String) (lastOccurrence : Option Instant) (event : ApprovalEvent F) :
    Except (Raised F) (HistoryEvent F) := do
  let time ← readTime event.at_ "at"
  require (event.kind ∉ EventKind.lifecycle → ∀ last, lastOccurrence = some last → last ≤ time)
    (malformed "ordinary event occurrence times must follow recording order")
  require (∀ field ∈ event.lifecycleFields, field ∈ permitted event.kind)
    (malformed (event.kind.text ++ ": misplaced lifecycle fields"))
  if event.kind = .approvalGranted then
    (readTerms ids event time).map fun terms => ⟨event, time, some terms, none⟩
  else if event.kind ∈ EventKind.lifecycle then
    (readLifecycleId ids event).map fun id => ⟨event, time, none, some id⟩
  else .ok ⟨event, time, none, none⟩

/-- The id that an event takes. -/
def HistoryEvent.newIds (event : HistoryEvent F) : List String :=
  (event.terms.map GrantTerms.id).toList ++ event.lifecycleId.toList

/-- The first loop of `check_lifecycle`. -/
def registerEvents (ids : List String) (lastOccurrence : Option Instant) :
    List (ApprovalEvent F) → Except (Raised F) (List (HistoryEvent F))
  | [] => .ok []
  | event :: later => do
      let registered ← registerEvent ids lastOccurrence event
      let history ← registerEvents (registered.newIds ++ ids)
        (if event.kind ∈ EventKind.lifecycle then lastOccurrence else some registered.time) later
      pure (registered :: history)

/-! ## References -/

def HistoryEvent.grant? (event : HistoryEvent F) : Option Grant :=
  event.terms.map fun terms =>
    ⟨terms.id, event.seq, event.time, event.target, terms.usage, terms.expiresAt⟩

/-- `grants`. -/
def grants (history : List (HistoryEvent F)) : List Grant := history.filterMap HistoryEvent.grant?

/-- `grants.get(gid)`. -/
def findGrant (history : List (HistoryEvent F)) (id : Option String) : Option Grant :=
  (grants history).find? fun grant => some grant.id = id

/-- What a lifecycle event of a kind asks of its grant, with the supersession edges before it. -/
def checkChange (history : List (HistoryEvent F)) (edges : Registry String String)
    (event : HistoryEvent F) (grant : Grant) : Except (Raised F) (Registry String String) :=
  match event.kind with
  | .approvalSuperseded => do
      let successor ← fetch ((event.successorId.bind Json.text?).bind fun id =>
          if id = grant.id then none else findGrant history (some id))
        (malformed "supersession needs a distinct, known successor grant")
      require (successor.seq < event.seq ∧ successor.time ≤ event.time)
        (malformed "successor must exist before supersession takes effect")
      require (∀ held, edges.get? grant.id = some held → held = successor.id)
        (malformed "conflicting supersession successors")
      pure (edges.set grant.id successor.id)
  | .approvalConsumed => do
      require (grant.usage = .singleUse) (malformed "routine standing-grant use is not consumption")
      pure edges
  | .approvalExpired => do
      require (grant.expiresAt.any (· ≤ event.time) = true)
        (malformed "expiry event requires an elapsed grant expiry")
      pure edges
  | _ => .ok edges

/-- One turn of the second loop of `check_lifecycle`. -/
def checkReference (history : List (HistoryEvent F)) (edges : Registry String String)
    (event : HistoryEvent F) : Except (Raised F) (Registry String String) :=
  if event.kind ∈ EventKind.lifecycle then do
    let grant ← fetch ((findGrant history event.approvalId).filter fun grant =>
        grant.seq < event.seq ∧ grant.target = event.target)
      (malformed ("lifecycle target must identify a previously recorded grant and its " ++
        "exact target"))
    require (grant.time ≤ event.time)
      (malformed "lifecycle event cannot take effect before its grant")
    checkChange history edges event grant
  else do
    refuse (event.kind ∈ EventKind.unanswered ∧
        ((findGrant history event.approvalId).any fun grant => grant.seq < event.seq) = true)
      (malformed "a later request/answer must not overwrite an immutable grant ID")
    pure edges

/-- The walks along the supersession edges. -/
def checkCycles (edges : Registry String String) : Except (Raised F) Unit :=
  forM (edges.rows.map Prod.fst) fun id =>
    refuse (revisits edges.get? ((edges.rows.map Prod.fst).length + 1) [] id = true)
      (malformed "supersession cycle")

/-- The first half of `check_lifecycle`: the history, when it is consistent. -/
def readHistory (events : List (ApprovalEvent F)) : Except (Raised F) (List (HistoryEvent F)) := do
  let history ← registerEvents [] none events
  let edges ← history.foldlM (checkReference history) .empty
  checkCycles edges
  pure history

/-! ## Which histories are consistent -/

/-- A recorded value names a point in time. -/
def NamesTime (value : Option (Json F)) (time : Instant) : Prop :=
  ∃ text, value = some (.str text) ∧ UtcTime.isUtcText text = true ∧ UtcTime.parse text = some time

/-- A recorded value is null, or it names a point in time. -/
def NamesExpiry (value : Option (Json F)) (expiresAt : Option Instant) : Prop :=
  (value = some .null ∧ expiresAt = none) ∨
    ∃ expiry, NamesTime value expiry ∧ expiresAt = some expiry

theorem readTime_eq_ok {value : Option (Json F)} {field : String} {time : Instant} :
    readTime value field = .ok time ↔ NamesTime value time := by
  unfold readTime NamesTime
  simp only [bind_eq_ok, fetch_eq_ok, Option.filter_eq_some_iff, Option.bind_eq_some_iff,
    text?_eq_some]
  constructor
  · rintro ⟨text, ⟨⟨_, rfl, rfl⟩, shaped⟩, parsed⟩
    exact ⟨text, rfl, shaped, parsed⟩
  · rintro ⟨text, rfl, shaped, parsed⟩
    exact ⟨text, ⟨⟨_, rfl, rfl⟩, shaped⟩, parsed⟩

theorem readExpiry_eq_ok {value : Json F} {expiresAt : Option Instant} :
    readExpiry value = .ok expiresAt ↔ NamesExpiry (some value) expiresAt := by
  have times : (readTime (some value) "expires_at").map some = .ok expiresAt ↔
      ∃ expiry, NamesTime (some value) expiry ∧ expiresAt = some expiry := by
    simp only [← @readTime_eq_ok F (some value) "expires_at"]
    cases readTime (some value) "expires_at" <;> simp [Except.map, eq_comm]
  unfold NamesExpiry
  cases value with
  | null =>
      constructor
      · intro done
        exact .inl ⟨rfl, (Except.ok.inj done).symm⟩
      · rintro (⟨-, rfl⟩ | ⟨_, ⟨_, same, -⟩, -⟩)
        · rfl
        · cases same
  | _ =>
      refine Iff.trans times ⟨.inr, ?_⟩
      rintro (⟨same, -⟩ | named)
      · cases same
      · exact named

/-- The terms that a grant records. -/
structure RecordsTerms (event : ApprovalEvent F) (time : Instant) (terms : GrantTerms) : Prop where
  id : event.approvalId = some terms.id
  usage : event.usage = some (.word terms.usage)
  expiresAt : NamesExpiry event.expiresAt terms.expiresAt
  notBefore : ∀ expiry, terms.expiresAt = some expiry → time ≤ expiry

theorem readTerms_eq_ok {ids : List String} {event : ApprovalEvent F} {time : Instant}
    {terms : GrantTerms} :
    readTerms ids event time = .ok terms ↔ RecordsTerms event time terms ∧ terms.id ∉ ids := by
  unfold readTerms
  simp only [bind_eq_ok, fetch_eq_ok, require_eq_ok, pure_eq_ok, Option.filter_eq_some_iff,
    Option.bind_eq_some_iff, readOne_eq_some, readExpiry_eq_ok, decide_eq_true_iff]
  constructor
  · rintro ⟨id, ⟨isId, fresh⟩, usage, ⟨_, isUsage, -, rfl⟩, recorded, isRecorded, expiresAt, named, _,
      notBefore, rfl⟩
    exact ⟨⟨isId, isUsage, isRecorded ▸ named, notBefore⟩, fresh⟩
  · rintro ⟨recorded, fresh⟩
    have present : ∃ value, event.expiresAt = some value := by
      rcases recorded.expiresAt with ⟨null, -⟩ | ⟨_, ⟨_, named, -⟩, -⟩
      · exact ⟨_, null⟩
      · exact ⟨_, named⟩
    obtain ⟨value, isValue⟩ := present
    exact ⟨_, ⟨recorded.id, fresh⟩, _, ⟨_, recorded.usage, GrantUsage.mem_all _, rfl⟩, value, isValue,
      _, isValue ▸ recorded.expiresAt, ⟨⟩, recorded.notBefore, rfl⟩

/-- What one event has to record. -/
structure HistoryEvent.Sound (event : HistoryEvent F) : Prop where
  time : NamesTime event.at_ event.time
  placed : ∀ field ∈ event.lifecycleFields, field ∈ permitted event.kind
  terms : event.kind = .approvalGranted →
    ∃ terms, event.terms = some terms ∧ RecordsTerms event.toApprovalEvent event.time terms
  noTerms : event.kind ≠ .approvalGranted → event.terms = none
  lifecycleId : event.kind ∈ EventKind.lifecycle →
    ∃ id, event.lifecycleId = some id ∧ event.eventId = some (.str id) ∧ id ≠ ""
  noLifecycleId : event.kind ∉ EventKind.lifecycle → event.lifecycleId = none

theorem granted_not_lifecycle : EventKind.approvalGranted ∉ EventKind.lifecycle := by decide

theorem registerEvent_eq_ok {ids : List String} {last : Option Instant} {event : ApprovalEvent F}
    {registered : HistoryEvent F} :
    registerEvent ids last event = .ok registered ↔
      registered.toApprovalEvent = event ∧ registered.Sound ∧
        (∀ id ∈ registered.newIds, id ∉ ids) ∧
        (event.kind ∉ EventKind.lifecycle → ∀ time, last = some time → time ≤ registered.time) := by
  unfold registerEvent
  simp only [bind_eq_ok, require_eq_ok, readTime_eq_ok]
  by_cases granted : event.kind = .approvalGranted
  · have ordinary : event.kind ∉ EventKind.lifecycle := granted ▸ granted_not_lifecycle
    simp only [if_pos granted]
    constructor
    · rintro ⟨time, named, _, occurs, _, placed, read⟩
      cases found : readTerms ids event time with
      | error raised =>
          rw [found] at read
          cases read
      | ok terms =>
          rw [found] at read
          obtain rfl := Except.ok.inj read
          obtain ⟨recorded, fresh⟩ := readTerms_eq_ok.mp found
          refine ⟨rfl, ⟨named, placed, fun _ => ⟨terms, rfl, recorded⟩, fun other => absurd granted other,
            fun lifecycle => absurd lifecycle ordinary, fun _ => rfl⟩, ?_, occurs⟩
          simpa [HistoryEvent.newIds] using fresh
    · rintro ⟨rfl, sound, fresh, occurs⟩
      obtain ⟨terms, isTerms, recorded⟩ := sound.terms granted
      have unused : terms.id ∉ ids := fresh terms.id (by simp [HistoryEvent.newIds, isTerms])
      refine ⟨registered.time, sound.time, ⟨⟩, occurs, ⟨⟩, sound.placed, ?_⟩
      rw [readTerms_eq_ok.mpr ⟨recorded, unused⟩]
      have noId := sound.noLifecycleId ordinary
      obtain ⟨base, time, held, id⟩ := registered
      simp only at isTerms noId
      subst isTerms noId
      rfl
  · simp only [if_neg granted]
    by_cases lifecycle : event.kind ∈ EventKind.lifecycle
    · simp only [if_pos lifecycle]
      constructor
      · rintro ⟨time, named, _, occurs, _, placed, read⟩
        cases found : readLifecycleId ids event with
        | error raised =>
            rw [found] at read
            cases read
        | ok id =>
            rw [found] at read
            obtain rfl := Except.ok.inj read
            unfold readLifecycleId at found
            simp only [fetch_eq_ok, Option.filter_eq_some_iff, Option.bind_eq_some_iff,
              nonemptyText?_eq_some, decide_eq_true_iff] at found
            obtain ⟨⟨_, isId, rfl, nonempty⟩, fresh⟩ := found
            refine ⟨rfl, ⟨named, placed, fun isGranted => absurd isGranted granted, fun _ => rfl,
              fun _ => ⟨id, rfl, isId, nonempty⟩, fun other => absurd lifecycle other⟩, ?_, occurs⟩
            simpa [HistoryEvent.newIds] using fresh
      · rintro ⟨rfl, sound, fresh, occurs⟩
        obtain ⟨id, isId, recorded, nonempty⟩ := sound.lifecycleId lifecycle
        have unused : id ∉ ids := fresh id (by simp [HistoryEvent.newIds, isId])
        have read : readLifecycleId ids registered.toApprovalEvent = .ok id := by
          unfold readLifecycleId
          simp only [fetch_eq_ok, Option.filter_eq_some_iff, Option.bind_eq_some_iff,
            nonemptyText?_eq_some, decide_eq_true_iff]
          exact ⟨⟨_, recorded, rfl, nonempty⟩, unused⟩
        refine ⟨registered.time, sound.time, ⟨⟩, occurs, ⟨⟩, sound.placed, ?_⟩
        rw [read]
        have noTerms := sound.noTerms granted
        obtain ⟨base, time, held, heldId⟩ := registered
        simp only at isId noTerms
        subst isId noTerms
        rfl
    · simp only [if_neg lifecycle]
      constructor
      · rintro ⟨time, named, _, occurs, _, placed, read⟩
        obtain rfl := Except.ok.inj read
        exact ⟨rfl, ⟨named, placed, fun isGranted => absurd isGranted granted, fun _ => rfl,
          fun isLifecycle => absurd isLifecycle lifecycle, fun _ => rfl⟩,
          fun _ member => absurd member List.not_mem_nil, occurs⟩
      · rintro ⟨rfl, sound, fresh, occurs⟩
        refine ⟨registered.time, sound.time, ⟨⟩, occurs, ⟨⟩, sound.placed, ?_⟩
        have noTerms := sound.noTerms granted
        have noId := sound.noLifecycleId lifecycle
        obtain ⟨base, time, held, heldId⟩ := registered
        simp only at noTerms noId
        subst noTerms noId
        rfl

/-- Ordinary events take effect in the order in which they were recorded. -/
def OccursInOrder (history : List (HistoryEvent F)) : Prop :=
  history.Pairwise fun earlier later =>
    earlier.kind ∉ EventKind.lifecycle → later.kind ∉ EventKind.lifecycle →
      earlier.time ≤ later.time

/-- A list of events behind some ids and a time. -/
structure Behind (ids : List String) (last : Option Instant) (history : List (HistoryEvent F)) :
    Prop where
  sound : ∀ event ∈ history, event.Sound
  distinct : (history.flatMap HistoryEvent.newIds).Nodup
  inOrder : OccursInOrder history
  fresh : ∀ id ∈ history.flatMap HistoryEvent.newIds, id ∉ ids
  after : ∀ time, last = some time → ∀ event ∈ history, event.kind ∉ EventKind.lifecycle →
    time ≤ event.time

theorem behind_nil (ids : List String) (last : Option Instant) :
    Behind ids last ([] : List (HistoryEvent F)) where
  sound := by simp
  distinct := List.nodup_nil
  inOrder := .nil
  fresh := by simp
  after := by simp

theorem nodup_newIds (event : HistoryEvent F) (sound : event.Sound) : event.newIds.Nodup := by
  unfold HistoryEvent.newIds
  by_cases lifecycle : event.kind ∈ EventKind.lifecycle
  · have other : event.kind ≠ .approvalGranted := by
      intro granted
      rw [granted] at lifecycle
      exact granted_not_lifecycle lifecycle
    rw [sound.noTerms other]
    cases event.lifecycleId <;> simp
  · rw [sound.noLifecycleId lifecycle]
    cases event.terms <;> simp

theorem registerEvents_eq_ok {ids : List String} {last : Option Instant}
    {events : List (ApprovalEvent F)} {history : List (HistoryEvent F)} :
    registerEvents ids last events = .ok history ↔
      history.map HistoryEvent.toApprovalEvent = events ∧ Behind ids last history := by
  induction events generalizing ids last history with
  | nil =>
      rw [registerEvents, List.map_eq_nil_iff]
      constructor
      · intro done
        obtain rfl := Except.ok.inj done
        exact ⟨rfl, behind_nil ids last⟩
      · rintro ⟨rfl, -⟩
        rfl
  | cons event later ih =>
      simp only [registerEvents, bind_eq_ok, pure_eq_ok, registerEvent_eq_ok, ih]
      constructor
      · rintro ⟨registered, ⟨rfl, sound, fresh, occurs⟩, rest, ⟨rfl, follows⟩, rfl⟩
        refine ⟨rfl, List.forall_mem_cons.mpr ⟨sound, follows.sound⟩, ?_, ?_, ?_, ?_⟩
        · rw [List.flatMap_cons]
          apply List.nodup_append'.mpr
          refine ⟨nodup_newIds registered sound, follows.distinct, ?_⟩
          intro id here there
          exact follows.fresh id there (List.mem_append_left _ here)
        · refine List.pairwise_cons.mpr ⟨?_, follows.inOrder⟩
          intro other member ordinary
          exact follows.after registered.time (if_neg ordinary) other member
        · intro id member
          rw [List.flatMap_cons] at member
          rcases List.mem_append.mp member with here | there
          · exact fresh id here
          · exact fun used => follows.fresh id there (List.mem_append_right _ used)
        · intro time isLast other member ordinary
          rcases List.mem_cons.mp member with rfl | among
          · exact occurs ordinary time isLast
          · by_cases lifecycle : registered.kind ∈ EventKind.lifecycle
            · exact follows.after time ((if_pos lifecycle).trans isLast) other among ordinary
            · have below := follows.after registered.time (if_neg lifecycle) other among ordinary
              exact (occurs lifecycle time isLast).trans below
      · rintro ⟨same, follows⟩
        obtain ⟨registered, rest, rfl, rfl, rfl⟩ := List.map_eq_cons_iff.mp same
        obtain ⟨behind, inOrder⟩ := List.pairwise_cons.mp follows.inOrder
        have distinct := follows.distinct
        rw [List.flatMap_cons] at distinct
        obtain ⟨-, distinct, apart⟩ := List.nodup_append'.mp distinct
        have fresh := follows.fresh
        rw [List.flatMap_cons] at fresh
        refine ⟨registered, ⟨rfl, follows.sound _ List.mem_cons_self,
          fun id member => fresh id (List.mem_append_left _ member),
          fun ordinary time isLast => follows.after time isLast _ List.mem_cons_self ordinary⟩, rest,
          ⟨rfl, fun event member => follows.sound event (List.mem_cons_of_mem _ member), distinct,
            inOrder, ?_, ?_⟩, rfl⟩
        · intro id there used
          rcases List.mem_append.mp used with here | earlier
          · exact apart here there
          · exact fresh id (List.mem_append_right _ there) earlier
        · intro time isLast other member ordinary
          by_cases lifecycle : registered.kind ∈ EventKind.lifecycle
          · rw [if_pos lifecycle] at isLast
            exact follows.after time isLast other (List.mem_cons_of_mem _ member) ordinary
          · rw [if_neg lifecycle] at isLast
            obtain rfl := Option.some.inj isLast
            exact behind other member lifecycle ordinary

theorem mem_grants {history : List (HistoryEvent F)} {grant : Grant} :
    grant ∈ grants history ↔ ∃ event ∈ history, event.grant? = some grant :=
  List.mem_filterMap

/-- The ids of grants are distinct. -/
theorem eq_of_grants {history : List (HistoryEvent F)}
    (distinct : (history.flatMap HistoryEvent.newIds).Nodup) {left right : Grant}
    (isLeft : left ∈ grants history) (isRight : right ∈ grants history)
    (same : left.id = right.id) : left = right := by
  have ids : ((grants history).map Grant.id).Sublist (history.flatMap HistoryEvent.newIds) := by
    unfold grants
    clear isLeft isRight distinct
    induction history with
    | nil => exact .slnil
    | cons event rest ih =>
        rw [List.flatMap_cons, List.filterMap_cons]
        unfold HistoryEvent.grant? HistoryEvent.newIds at *
        cases event.terms with
        | none => exact (List.nil_sublist _).append ih
        | some terms =>
            have first : [terms.id].Sublist ([terms.id] ++ event.lifecycleId.toList) :=
              List.sublist_append_left _ _
            exact first.append ih
  exact List.inj_on_of_nodup_map (distinct.sublist ids) isLeft isRight same

theorem findGrant_eq_some {history : List (HistoryEvent F)}
    (distinct : (history.flatMap HistoryEvent.newIds).Nodup) {id : Option String} {grant : Grant} :
    findGrant history id = some grant ↔ grant ∈ grants history ∧ id = some grant.id := by
  unfold findGrant
  constructor
  · intro found
    have same : some grant.id = id := by simpa using List.find?_some found
    exact ⟨List.mem_of_find?_eq_some found, same.symm⟩
  · rintro ⟨member, rfl⟩
    cases found : (grants history).find? fun other => some other.id = some grant.id with
    | none =>
        have absent := List.find?_eq_none.mp found grant member
        simp at absent
    | some other =>
        have same : other.id = grant.id := by simpa using List.find?_some found
        rw [eq_of_grants distinct (List.mem_of_find?_eq_some found) member same]

/-- A lifecycle event and the grant that it is about. -/
structure RefersTo (history : List (HistoryEvent F)) (event : HistoryEvent F) (grant : Grant) :
    Prop where
  known : grant ∈ grants history
  named : event.approvalId = some grant.id
  earlier : grant.seq < event.seq
  target : grant.target = event.target
  notBefore : grant.time ≤ event.time
  superseded : event.kind = .approvalSuperseded → ∃ successor ∈ grants history,
    event.successorId = some (.str successor.id) ∧ successor.id ≠ grant.id ∧
      successor.seq < event.seq ∧ successor.time ≤ event.time
  consumed : event.kind = .approvalConsumed → grant.usage = .singleUse
  expired : event.kind = .approvalExpired →
    ∃ expiry, grant.expiresAt = some expiry ∧ expiry ≤ event.time

/-- A lifecycle event is about an earlier grant, and no request or answer comes behind the grant of
its id. -/
structure Refers (history : List (HistoryEvent F)) (event : HistoryEvent F) : Prop where
  lifecycle : event.kind ∈ EventKind.lifecycle → ∃ grant, RefersTo history event grant
  answer : event.kind ∈ EventKind.unanswered → ∀ grant ∈ grants history,
    event.approvalId = some grant.id → event.seq ≤ grant.seq

/-- The event adds its edge to the supersession edges, which do not contradict it. -/
def AddsEdge (edges : Registry String String) (event : HistoryEvent F)
    (after : Registry String String) : Prop :=
  (event.kind = .approvalSuperseded ∧ ∃ id successor, event.approvalId = some id ∧
      event.successorId = some (.str successor) ∧
      (∀ held, edges.get? id = some held → held = successor) ∧ after = edges.set id successor) ∨
    (event.kind ≠ .approvalSuperseded ∧ after = edges)

variable {edges : Registry String String} {event : HistoryEvent F}

/-- What the kind of a lifecycle event asks of its grant. -/
theorem checkChange_eq_ok {history : List (HistoryEvent F)}
    (distinct : (history.flatMap HistoryEvent.newIds).Nodup) {after : Registry String String}
    {grant : Grant} (known : grant ∈ grants history) (named : event.approvalId = some grant.id)
    (earlier : grant.seq < event.seq) (target : grant.target = event.target)
    (notBefore : grant.time ≤ event.time) :
    checkChange history edges event grant = .ok after ↔
      RefersTo history event grant ∧ AddsEdge edges event after := by
  have plain : event.kind ≠ .approvalSuperseded →
      (AddsEdge edges event after ↔ edges = after) := by
    intro other
    unfold AddsEdge
    simp [other, eq_comm]
  unfold checkChange
  split
  · rename_i superseded
    simp only [bind_eq_ok, fetch_eq_ok, require_eq_ok, pure_eq_ok, Option.bind_eq_some_iff,
      text?_eq_some]
    constructor
    · rintro ⟨successor, ⟨id, ⟨_, isSuccessor, rfl⟩, found⟩, _, ⟨before, inForce⟩, _, agrees, rfl⟩
      by_cases same : id = grant.id
      · simp [same] at found
      · rw [if_neg same] at found
        obtain ⟨isGrant, isId⟩ := (findGrant_eq_some distinct).mp found
        obtain rfl := Option.some.inj isId
        refine ⟨⟨known, named, earlier, target, notBefore,
          fun _ => ⟨successor, isGrant, isSuccessor, same, before, inForce⟩, ?_, ?_⟩,
          .inl ⟨superseded, grant.id, successor.id, named, isSuccessor, agrees, rfl⟩⟩
        · intro consumed
          simp [superseded] at consumed
        · intro expired
          simp [superseded] at expired
    · rintro ⟨refers, adds⟩
      obtain ⟨successor, isGrant, isSuccessor, distinctId, before, inForce⟩ :=
        refers.superseded superseded
      rcases adds with ⟨-, id, other, isId, isOther, agrees, rfl⟩ | ⟨other, -⟩
      · obtain rfl := Option.some.inj (named.symm.trans isId)
        obtain rfl := Json.str.inj (Option.some.inj (isSuccessor.symm.trans isOther))
        refine ⟨successor, ⟨successor.id, ⟨_, isSuccessor, rfl⟩, ?_⟩, ⟨⟩, ⟨before, inForce⟩, ⟨⟩,
          agrees, rfl⟩
        rw [if_neg distinctId]
        exact (findGrant_eq_some distinct).mpr ⟨isGrant, rfl⟩
      · exact absurd superseded other
  · rename_i consumed
    rw [plain (by simp [consumed])]
    simp only [bind_eq_ok, require_eq_ok, pure_eq_ok]
    constructor
    · rintro ⟨_, single, rfl⟩
      exact ⟨⟨known, named, earlier, target, notBefore, by simp [consumed], fun _ => single,
        by simp [consumed]⟩, rfl⟩
    · rintro ⟨refers, rfl⟩
      exact ⟨⟨⟩, refers.consumed consumed, rfl⟩
  · rename_i expired
    rw [plain (by simp [expired])]
    simp only [bind_eq_ok, require_eq_ok, pure_eq_ok, Option.any_eq_true, decide_eq_true_iff]
    constructor
    · rintro ⟨_, ⟨expiry, elapsed⟩, rfl⟩
      exact ⟨⟨known, named, earlier, target, notBefore, by simp [expired], by simp [expired],
        fun _ => ⟨expiry, elapsed⟩⟩, rfl⟩
    · rintro ⟨refers, rfl⟩
      exact ⟨⟨⟩, refers.expired expired, rfl⟩
  · rename_i notSuperseded notConsumed notExpired
    rw [plain notSuperseded]
    constructor
    · intro done
      exact ⟨⟨known, named, earlier, target, notBefore, fun same => absurd same notSuperseded,
        fun same => absurd same notConsumed, fun same => absurd same notExpired⟩,
        Except.ok.inj done⟩
    · rintro ⟨-, rfl⟩
      rfl

theorem checkReference_eq_ok {history : List (HistoryEvent F)}
    (distinct : (history.flatMap HistoryEvent.newIds).Nodup) {after : Registry String String} :
    checkReference history edges event = .ok after ↔
      Refers history event ∧ AddsEdge edges event after := by
  unfold checkReference
  by_cases lifecycle : event.kind ∈ EventKind.lifecycle
  · have answered : event.kind ∉ EventKind.unanswered := by
      intro unanswered
      revert lifecycle unanswered
      cases event.kind <;> decide
    simp only [if_pos lifecycle, bind_eq_ok, fetch_eq_ok, require_eq_ok, Option.filter_eq_some_iff,
      findGrant_eq_some distinct, decide_eq_true_iff]
    constructor
    · rintro ⟨grant, ⟨⟨known, named⟩, earlier, target⟩, _, notBefore, changed⟩
      obtain ⟨refers, adds⟩ :=
        (checkChange_eq_ok distinct known named earlier target notBefore).mp changed
      exact ⟨⟨fun _ => ⟨grant, refers⟩, fun unanswered => absurd unanswered answered⟩, adds⟩
    · rintro ⟨refers, adds⟩
      obtain ⟨grant, about⟩ := refers.lifecycle lifecycle
      exact ⟨grant, ⟨⟨about.known, about.named⟩, about.earlier, about.target⟩, ⟨⟩, about.notBefore,
        (checkChange_eq_ok distinct about.known about.named about.earlier about.target
          about.notBefore).mpr ⟨about, adds⟩⟩
  · have other : event.kind ≠ .approvalSuperseded := by
      intro superseded
      rw [superseded] at lifecycle
      exact lifecycle (by decide)
    have plain : AddsEdge edges event after ↔ edges = after := by
      unfold AddsEdge
      simp [other, eq_comm]
    rw [plain]
    simp only [if_neg lifecycle, bind_eq_ok, refuse_eq_ok, pure_eq_ok, Option.any_eq_true,
      findGrant_eq_some distinct, decide_eq_true_iff]
    constructor
    · rintro ⟨_, kept, same⟩
      refine ⟨⟨fun is => absurd is lifecycle, ?_⟩, same⟩
      intro unanswered grant known named
      by_contra behind
      exact kept ⟨unanswered, grant, ⟨known, named⟩, Int.not_le.mp behind⟩
    · rintro ⟨refers, same⟩
      refine ⟨⟨⟩, ?_, same⟩
      rintro ⟨unanswered, grant, ⟨known, named⟩, behind⟩
      exact absurd (refers.answer unanswered grant known named) (Int.not_le.mpr behind)

/-- One grant was superseded by another. -/
def Supersedes (events : List (HistoryEvent F)) (id successor : String) : Prop :=
  ∃ event ∈ events, event.kind = .approvalSuperseded ∧ event.approvalId = some id ∧
    event.successorId = some (.str successor)

theorem supersedes_append_singleton {events : List (HistoryEvent F)} {id successor : String} :
    Supersedes (events ++ [event]) id successor ↔ Supersedes events id successor ∨
      (event.kind = .approvalSuperseded ∧ event.approvalId = some id ∧
        event.successorId = some (.str successor)) := by
  unfold Supersedes
  simp only [List.mem_append, List.mem_singleton, or_and_right, exists_or, exists_eq_left]

/-- The edges are those of the events. -/
def EdgesOf (events : List (HistoryEvent F)) (edges : Registry String String) : Prop :=
  ∀ id successor, edges.get? id = some successor ↔ Supersedes events id successor

theorem EdgesOf.add {events : List (HistoryEvent F)} {after : Registry String String}
    (held : EdgesOf events edges) (adds : AddsEdge edges event after) :
    EdgesOf (events ++ [event]) after := by
  intro id successor
  rw [supersedes_append_singleton, ← held]
  rcases adds with ⟨superseded, named, other, isNamed, isOther, agrees, rfl⟩ | ⟨plain, rfl⟩
  · rw [Registry.get?_set, isNamed, isOther]
    by_cases same : id = named
    · subst same
      simp only [if_true, superseded, true_and, Option.some.injEq, Json.str.injEq]
      constructor
      · exact .inr
      · rintro (earlier | now)
        · exact (agrees successor earlier).symm
        · exact now
    · have different : named ≠ id := fun equal => same equal.symm
      simp [same, different]
  · simp [plain]

variable {history : List (HistoryEvent F)}

theorem edges_of_fold (distinct : (history.flatMap HistoryEvent.newIds).Nodup)
    {events : List (HistoryEvent F)}
    (folded : events.foldlM (checkReference history) .empty = .ok edges) :
    (∀ event ∈ events, Refers history event) ∧ EdgesOf events edges := by
  induction events using List.reverseRecOn generalizing edges with
  | nil =>
      obtain rfl := Except.ok.inj folded
      refine ⟨by simp, fun id successor => ?_⟩
      simp [Supersedes]
  | append_singleton events event ih =>
      rw [List.foldlM_append, bind_eq_ok] at folded
      obtain ⟨before, first, last⟩ := folded
      rw [List.foldlM_cons, bind_eq_ok] at last
      obtain ⟨after, checked, done⟩ := last
      obtain rfl := Except.ok.inj done
      obtain ⟨refers, held⟩ := ih first
      obtain ⟨here, adds⟩ := (checkReference_eq_ok distinct).mp checked
      refine ⟨?_, held.add adds⟩
      intro other member
      rcases List.mem_append.mp member with earlier | now
      · exact refers other earlier
      · rw [List.mem_singleton.mp now]
        exact here

/-- Each grant has one successor at most. -/
def OneSuccessor (events : List (HistoryEvent F)) : Prop :=
  ∀ id left right, Supersedes events id left → Supersedes events id right → left = right

theorem exists_fold (distinct : (history.flatMap HistoryEvent.newIds).Nodup)
    {events : List (HistoryEvent F)} (refers : ∀ event ∈ events, Refers history event)
    (one : OneSuccessor events) :
    ∃ edges, events.foldlM (checkReference history) .empty = .ok edges := by
  induction events using List.reverseRecOn with
  | nil => exact ⟨.empty, rfl⟩
  | append_singleton events event ih =>
      have earlier : OneSuccessor events := fun id left right isLeft isRight =>
        one id left right (supersedes_append_singleton.mpr (.inl isLeft))
          (supersedes_append_singleton.mpr (.inl isRight))
      obtain ⟨edges, folded⟩ := ih (fun other member => refers other (by simp [member])) earlier
      have held := (edges_of_fold distinct folded).2
      have here := refers event (by simp)
      have adds : ∃ after, AddsEdge edges event after := by
        by_cases superseded : event.kind = .approvalSuperseded
        · obtain ⟨grant, about⟩ := here.lifecycle (by rw [superseded]; decide)
          obtain ⟨successor, -, isSuccessor, -⟩ := about.superseded superseded
          refine ⟨_, .inl ⟨superseded, grant.id, successor.id, about.named, isSuccessor, ?_, rfl⟩⟩
          intro other found
          apply one grant.id
          · exact supersedes_append_singleton.mpr (.inl ((held _ _).mp found))
          · exact supersedes_append_singleton.mpr (.inr ⟨superseded, about.named, isSuccessor⟩)
        · exact ⟨edges, .inr ⟨superseded, rfl⟩⟩
      obtain ⟨after, added⟩ := adds
      refine ⟨after, ?_⟩
      rw [List.foldlM_append, folded]
      show (checkReference history edges event >>= pure) = .ok after
      rw [(checkReference_eq_ok distinct).mpr ⟨here, added⟩]
      rfl

theorem checkCycles_eq_ok {done : Unit} :
    checkCycles (F := F) edges = .ok done ↔ Acyclic edges.get? := by
  have within : ∀ id, edges.get? id ≠ none → id ∈ edges.rows.map Prod.fst := by
    intro id present
    by_contra absent
    exact present (Registry.get?_eq_none.mpr absent)
  unfold checkCycles
  rw [acyclic_iff within]
  simp only [forM_eq_ok, refuse_eq_ok, Bool.not_eq_true]

/-- **A consistent history.** -/
structure Consistent (history : List (HistoryEvent F)) : Prop where
  sound : ∀ event ∈ history, event.Sound
  distinct : (history.flatMap HistoryEvent.newIds).Nodup
  inOrder : OccursInOrder history
  refers : ∀ event ∈ history, Refers history event
  oneSuccessor : OneSuccessor history
  acyclic : ∀ id, ¬ Relation.TransGen (Supersedes history) id id

/-- **The first half of the lifecycle check accepts the consistent histories.** -/
theorem readHistory_eq_ok {events : List (ApprovalEvent F)} :
    readHistory events = .ok history ↔
      history.map HistoryEvent.toApprovalEvent = events ∧ Consistent history := by
  unfold readHistory
  simp only [bind_eq_ok, pure_eq_ok, registerEvents_eq_ok, checkCycles_eq_ok]
  have same : ∀ edges, EdgesOf history edges → Follows edges.get? = Supersedes history := by
    intro edges held
    funext id successor
    exact propext (held id successor)
  constructor
  · rintro ⟨_, ⟨read, behind⟩, edges, folded, _, acyclic, rfl⟩
    obtain ⟨refers, held⟩ := edges_of_fold behind.distinct folded
    refine ⟨read, behind.sound, behind.distinct, behind.inOrder, refers, ?_, ?_⟩
    · intro id left right isLeft isRight
      have one := (held id left).mpr isLeft
      rw [(held id right).mpr isRight] at one
      exact (Option.some.inj one).symm
    · intro id cycle
      rw [← same edges held] at cycle
      exact acyclic id cycle
  · rintro ⟨read, consistent⟩
    obtain ⟨edges, folded⟩ :=
      exists_fold consistent.distinct consistent.refers consistent.oneSuccessor
    have held := (edges_of_fold consistent.distinct folded).2
    refine ⟨history, ⟨read, consistent.sound, consistent.distinct, consistent.inOrder, ?_, ?_⟩,
      edges, folded, (), ?_, rfl⟩
    · simp
    · simp
    · unfold Acyclic
      rw [same edges held]
      exact consistent.acyclic

/-! ## What the first half raises -/

theorem raises_readTime (value : Option (Json F)) (field : String) :
    Raises Raised.IsMalformed (readTime value field) :=
  (raises_fetch _ (isMalformed_malformed _)).bind fun _ => raises_fetch _ (isMalformed_malformed _)

theorem raises_map {α β : Type} {allowed : Raised F → Prop} {first : Except (Raised F) α}
    (f : α → β) (here : Raises allowed first) : Raises allowed (first.map f) := by
  intro error raised
  cases done : first with
  | error found =>
      rw [done] at raised
      obtain rfl := Except.error.inj raised
      exact here _ done
  | ok value =>
      rw [done] at raised
      cases raised

theorem raises_readExpiry (value : Json F) : Raises Raised.IsMalformed (readExpiry value) := by
  unfold readExpiry
  split
  · exact raises_pure _
  · exact raises_map _ (raises_readTime _ _)

theorem raises_registerEvent (ids : List String) (last : Option Instant) (event : ApprovalEvent F) :
    Raises Raised.IsMalformed (registerEvent ids last event) := by
  unfold registerEvent
  apply (raises_readTime _ _).bind
  intro time
  apply (raises_require _ (isMalformed_malformed _)).bind
  intro _
  apply (raises_require _ (isMalformed_malformed _)).bind
  intro _
  split
  · apply raises_map
    unfold readTerms
    apply (raises_fetch _ (isMalformed_malformed _)).bind
    intro id
    apply (raises_fetch _ (isMalformed_malformed _)).bind
    intro usage
    apply (raises_fetch _ (isMalformed_malformed _)).bind
    intro recorded
    apply (raises_readExpiry _).bind
    intro expiresAt
    exact (raises_require _ (isMalformed_malformed _)).bind fun _ => raises_pure _
  · split
    · exact raises_map _ (raises_fetch _ (isMalformed_malformed _))
    · exact raises_pure _

theorem raises_registerEvents (ids : List String) (last : Option Instant)
    (events : List (ApprovalEvent F)) :
    Raises Raised.IsMalformed (registerEvents ids last events) := by
  induction events generalizing ids last with
  | nil => exact raises_pure _
  | cons event later ih =>
      exact (raises_registerEvent _ _ _).bind fun _ => (ih _ _).bind fun _ => raises_pure _

theorem raises_checkReference (edges : Registry String String) (event : HistoryEvent F) :
    Raises Raised.IsMalformed (checkReference history edges event) := by
  unfold checkReference
  split
  · apply (raises_fetch _ (isMalformed_malformed _)).bind
    intro grant
    apply (raises_require _ (isMalformed_malformed _)).bind
    intro _
    unfold checkChange
    split
    · apply (raises_fetch _ (isMalformed_malformed _)).bind
      intro successor
      apply (raises_require _ (isMalformed_malformed _)).bind
      intro _
      exact (raises_require _ (isMalformed_malformed _)).bind fun _ => raises_pure _
    · exact (raises_require _ (isMalformed_malformed _)).bind fun _ => raises_pure _
    · exact (raises_require _ (isMalformed_malformed _)).bind fun _ => raises_pure _
    · exact raises_pure _
  · exact (raises_refuse _ (isMalformed_malformed _)).bind fun _ => raises_pure _

theorem raises_foldlM {α β : Type} {allowed : Raised F → Prop} {turn : β → α → Except (Raised F) β}
    {elements : List α}
    (each : ∀ element ∈ elements, ∀ carried, Raises allowed (turn carried element)) (start : β) :
    Raises allowed (elements.foldlM turn start) := by
  induction elements generalizing start with
  | nil => exact raises_pure _
  | cons element rest ih =>
      obtain ⟨here, later⟩ := List.forall_mem_cons.mp each
      rw [List.foldlM_cons]
      exact (here start).bind fun _ => ih later _

theorem raises_forM {α : Type} {allowed : Raised F → Prop} {check : α → Except (Raised F) Unit}
    (each : ∀ element, Raises allowed (check element)) (elements : List α) :
    Raises allowed (forM elements check) := by
  induction elements with
  | nil => exact raises_pure _
  | cons element rest ih =>
      rw [List.forM_cons]
      exact (each element).bind fun _ => ih

/-- The first half raises nothing but malformed evidence. -/
theorem raises_readHistory (events : List (ApprovalEvent F)) :
    Raises Raised.IsMalformed (readHistory events) := by
  unfold readHistory
  apply (raises_registerEvents _ _ _).bind
  intro history
  apply (raises_foldlM (fun event _ edges => raises_checkReference edges event) _).bind
  intro edges
  apply Raises.bind
  · exact raises_forM (fun _ => raises_refuse _ (isMalformed_malformed _)) _
  · exact fun _ => raises_pure _

end Lifecycle

end Aegis.Graders
