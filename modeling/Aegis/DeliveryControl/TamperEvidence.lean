/-
# DeliveryControl.TamperEvidence — a head fixes the history behind it

Two stores that pass the verification and report the same heads hold the same
events. `digest` is assumed injective; that it is never the empty text, which
stands for the head of an empty run, is the format of a hex digest.

* `verifyRun_linked`, `verifySourceHistory_linked`: an accepted history is a
  chain whose rows agree with their bodies;
* `history_fixed_by_heads`: the statement over whole stores;
* `genesis_id_unbound`: the source chain leaves the row identity of the genesis
  open.
-/
import Aegis.DeliveryControl.EventHistory

namespace Aegis.DeliveryControl.EventHistory

open Aegis.Lib
open Aegis.Lib.Guarded
open Aegis.Lib.HashChain

set_option autoImplicit false

/-! ## Rows that were accepted -/

/-- The row's body parses, digests to its hash and repeats its columns. -/
def EventAccepted (codec : Codec) (row : StoredEvent) : Prop :=
  ∃ body, bodyOf codec row.bodyJson = some body ∧ codec.digest body = row.eventHash ∧
    EventBound row body

/-- The same for a source row, with the effective time where the column is set. -/
def SourceAccepted (codec : Codec) (row : SourceEvent) : Prop :=
  ∃ body, bodyOf codec row.bodyJson = some body ∧ codec.digest body = row.eventHash ∧
    SourceBound row body ∧
    ∀ effectiveAt, row.effectiveAt = some effectiveAt →
      equalsText (body.get? "effective_at") effectiveAt

/-- A source row's columns of its own kind, as its body has them. -/
def KindBound (codec : Codec) (row : SourceEvent) : Prop :=
  ∀ body, bodyOf codec row.bodyJson = some body →
    row.eventKind = "SYNTHETIC_AUTHORITY_SOURCE_GENESIS" ∨ ProjectionBound row body

variable {codec : Codec}

theorem verifyEventRow_ok {state next : ChainState} {row : StoredEvent}
    (verified : verifyEventRow codec state row = .ok next) :
    row.previousEventHash = state.previousHash ∧ next.previousHash = row.eventHash ∧
      EventAccepted codec row := by
  simp only [verifyEventRow, bind_eq_ok, require_eq_ok, refuse_eq_ok, fetch_eq_ok,
    pure_eq_ok] at verified
  obtain ⟨_, -, _, -, _, -, _, linked, parsed, loaded, body, object, _, hashed, _, bound, _, -,
    rfl⟩ := verified
  exact ⟨linked, rfl, body, by simp [bodyOf, loaded, object], hashed, bound⟩

theorem verifySourceRow_ok {state next : SourceChainState} {row : SourceEvent}
    (verified : verifySourceRow codec state row = .ok next) :
    row.previousSourceHash = state.previousHash ∧ next.previousHash = row.eventHash ∧
      SourceAccepted codec row := by
  simp only [verifySourceRow, bind_eq_ok, require_eq_ok, refuse_eq_ok, fetch_eq_ok,
    pure_eq_ok] at verified
  obtain ⟨_, -, _, linked, parsed, loaded, body, object, _, hashed, _, bound, _, -, _, -, _,
    effective, rfl⟩ := verified
  refine ⟨linked, rfl, body, by simp [bodyOf, loaded, object], hashed, bound, ?_⟩
  intro effectiveAt set
  simp only [verifyEffectiveAt, set, bind_eq_ok, require_eq_ok] at effective
  obtain ⟨_, -, same⟩ := effective
  exact same

/-- An accepted run is a chain from the empty head to the reported one. -/
theorem verifyRun_linked {history : History} {head : RunHead}
    (verified : verifyRun codec history head = .ok ()) :
    Linked StoredEvent.previousEventHash StoredEvent.eventHash "" (history.runRows head.runId)
        head.headHash ∧
      ∀ row ∈ history.runRows head.runId, EventAccepted codec row := by
  simp only [verifyRun, bind_eq_ok, require_eq_ok] at verified
  obtain ⟨final, rows, _, same, -⟩ := verified
  have chain := linked_of_foldlM ChainState.previousHash
    (fun _ _ _ turn => verifyEventRow_ok turn) _ _ _ rows
  rw [same] at chain
  exact chain

/-- An accepted source history is a chain, and its rows after the genesis pass
the comparisons of their kind. -/
theorem verifySourceHistory_linked {history : History} {repositoryId head : String}
    (verified : verifySourceHistory codec history repositoryId head = .ok ()) :
    Linked SourceEvent.previousSourceHash SourceEvent.eventHash ""
        (history.sourceRows repositoryId) head ∧
      (∀ row ∈ history.sourceRows repositoryId, SourceAccepted codec row) ∧
      ∀ row ∈ history.sourceRows repositoryId, KindBound codec row := by
  simp only [verifySourceHistory, bind_eq_ok, require_eq_ok, fetch_eq_ok] at verified
  obtain ⟨final, rows, state, -, _, ⟨same, -, -⟩, _, -, _, -, verified⟩ := verified
  have chain := linked_of_foldlM SourceChainState.previousHash
    (fun _ _ _ turn => verifySourceRow_ok turn) _ _ _ rows
  rw [same] at chain
  refine ⟨chain.1, chain.2, ?_⟩
  generalize history.sourceRows repositoryId = sourceRows at verified
  cases sourceRows with
  | nil => simp at verified
  | cons first rest =>
      simp only [bind_eq_ok, require_eq_ok, fetch_eq_ok, List.forM_eq_forM, forM_eq_ok] at verified
      obtain ⟨genesis, -, _, ⟨kind, -⟩, projections⟩ := verified
      intro row member body loaded
      rcases List.mem_cons.mp member with rfl | later
      · exact .inl kind
      · obtain ⟨same, parsed, bound⟩ := projections row later
        obtain rfl := Option.some.inj (loaded.symm.trans parsed)
        exact .inr bound

/-! ## What a row fixes -/

/-- An event as the checks see it: all its columns, with the body parsed. -/
def eventView (codec : Codec) (row : StoredEvent) : StoredEvent × Option JsonObject :=
  ({ row with bodyJson := "" }, bodyOf codec row.bodyJson)

/-- A source event as the checks bind it. The identity and the consumer are bound
for uses only, a missing effective time for lifecycle facts only. -/
structure SourceView where
  repositoryId : String
  sequence : Nat
  eventKind : String
  recordedAt : String
  previousSourceHash : String
  eventHash : String
  body : Option JsonObject
  use : Option (String × Option String × Option String)
  lifecycleEffectiveAt : Option (Option String)

def sourceView (codec : Codec) (row : SourceEvent) : SourceView where
  repositoryId := row.repositoryId
  sequence := row.sequence
  eventKind := row.eventKind
  recordedAt := row.recordedAt
  previousSourceHash := row.previousSourceHash
  eventHash := row.eventHash
  body := bodyOf codec row.bodyJson
  use :=
    if row.eventKind = "SYNTHETIC_AUTHORITY_SOURCE_USED" then
      some (row.sourceEventId, row.consumerKind, row.consumerKey)
    else none
  lifecycleEffectiveAt :=
    if row.eventKind = "SYNTHETIC_AUTHORITY_LIFECYCLE_RECORDED" then some row.effectiveAt else none

/-- Accepted events with one hash are one event. -/
theorem eventView_of_hash (injective : Function.Injective codec.digest) {a b : StoredEvent}
    (left : EventAccepted codec a) (right : EventAccepted codec b)
    (same : a.eventHash = b.eventHash) : eventView codec a = eventView codec b := by
  obtain ⟨body, loaded, hashed, command, event, kind, item, previous, repository, run, schema,
    sequence, epoch⟩ := left
  obtain ⟨body', loaded', hashed', command', event', kind', item', previous', repository', run',
    schema', sequence', epoch'⟩ := right
  obtain rfl : body = body' := injective (by rw [hashed, hashed', same])
  have schemas : a.schemaVersion = b.schemaVersion := by
    exact_mod_cast equalsInt_unique schema schema'
  have sequences : a.sequence = b.sequence := by exact_mod_cast equalsInt_unique sequence sequence'
  have epochs : a.writerEpoch = b.writerEpoch := by exact_mod_cast equalsInt_unique epoch epoch'
  simp only [eventView, loaded, loaded', Prod.mk.injEq, and_true, StoredEvent.mk.injEq]
  exact ⟨equalsText_unique event event', equalsText_unique repository repository',
    equalsText_unique run run', equalsText_unique item item', sequences,
    equalsText_unique command command', epochs, schemas, equalsText_unique kind kind',
    equalsText_unique previous previous', same⟩

/-- Accepted source rows with one hash agree in everything the checks bind. -/
theorem sourceView_of_hash (injective : Function.Injective codec.digest) {a b : SourceEvent}
    (left : SourceAccepted codec a) (right : SourceAccepted codec b) (leftKind : KindBound codec a)
    (rightKind : KindBound codec b) (same : a.eventHash = b.eventHash) :
    sourceView codec a = sourceView codec b := by
  obtain ⟨body, loaded, hashed, ⟨kind, previous, recorded, repository, sequence⟩, -⟩ := left
  obtain ⟨body', loaded', hashed', ⟨kind', previous', recorded', repository', sequence'⟩, -⟩ :=
    right
  obtain rfl : body = body' := injective (by rw [hashed, hashed', same])
  have kinds := equalsText_unique kind kind'
  have sequences : a.sequence = b.sequence := by exact_mod_cast equalsInt_unique sequence sequence'
  have bounds := leftKind body loaded
  have bounds' := rightKind body loaded'
  simp only [sourceView, loaded, loaded', SourceView.mk.injEq, kinds, true_and]
  refine ⟨equalsText_unique repository repository', sequences, equalsText_unique recorded recorded',
    equalsText_unique previous previous', same, ?_, ?_⟩
  · split
    · rename_i used
      rcases bounds with genesis | ⟨use, -⟩
      · rw [kinds, used] at genesis
        simp at genesis
      rcases bounds' with genesis | ⟨use', -⟩
      · rw [used] at genesis
        simp at genesis
      obtain ⟨consumerKind, consumerKey, identity⟩ := use (kinds.trans used)
      obtain ⟨consumerKind', consumerKey', identity'⟩ := use' used
      rw [equalsText_unique identity identity', equalsOptional_unique consumerKind consumerKind',
        equalsOptional_unique consumerKey consumerKey']
    · rfl
  · split
    · rename_i lifecycle
      rcases bounds with genesis | ⟨-, fact, -⟩
      · rw [kinds, lifecycle] at genesis
        simp at genesis
      rcases bounds' with genesis | ⟨-, fact', -⟩
      · rw [lifecycle] at genesis
        simp at genesis
      rw [equalsOptional_unique (fact (kinds.trans lifecycle)).2 (fact' lifecycle).2]
    · rfl

/-! ## Whole histories -/

theorem runHead?_verified {history : History} {repositoryId runId hash : String}
    (verified : verifyEventHistory codec history repositoryId = .ok ())
    (head : history.runHead? repositoryId runId = some hash) :
    Linked StoredEvent.previousEventHash StoredEvent.eventHash "" (history.runRows runId) hash ∧
      ∀ row ∈ history.runRows runId, EventAccepted codec row := by
  simp only [History.runHead?, Option.map_eq_some_iff] at head
  obtain ⟨run, found, rfl⟩ := head
  obtain rfl : run.runId = runId := by simpa using List.find?_some found
  simp only [verifyEventHistory, bind_eq_ok, List.forM_eq_forM, forM_eq_ok] at verified
  obtain ⟨_, -, _, -, _, runs, -⟩ := verified
  exact verifyRun_linked (runs run (List.mem_of_find?_eq_some found))

/-- Two accepted source histories with one head have the same bound columns. -/
theorem source_views_eq (injective : Function.Injective codec.digest)
    (nonEmpty : ∀ body, codec.digest body ≠ "") {a b : History} {repositoryId head : String}
    (left : verifySourceHistory codec a repositoryId head = .ok ())
    (right : verifySourceHistory codec b repositoryId head = .ok ()) :
    (a.sourceRows repositoryId).map (sourceView codec)
      = (b.sourceRows repositoryId).map (sourceView codec) := by
  obtain ⟨chain, accepted, kinds⟩ := verifySourceHistory_linked left
  obtain ⟨chain', accepted', kinds'⟩ := verifySourceHistory_linked right
  have proper : ∀ row, SourceAccepted codec row → row.eventHash ≠ "" := by
    rintro row ⟨body, -, hashed, -⟩
    exact hashed ▸ nonEmpty body
  refine linked_unique (fun x y same => congrArg SourceView.previousSourceHash same) _ _ head
    (fun x memberX y memberY same => ?_) (fun x member => proper x (accepted x member))
    (fun y member => proper y (accepted' y member)) chain chain'
  exact sourceView_of_hash injective (accepted x memberX) (accepted' y memberY) (kinds x memberX)
    (kinds' y memberY) same

/-- Rows of one view that both carry an effective time carry the same one. -/
theorem effectiveAt_of_view {x y : SourceEvent} {early late : String}
    (left : SourceAccepted codec x) (right : SourceAccepted codec y)
    (same : sourceView codec x = sourceView codec y) (first : x.effectiveAt = some early)
    (second : y.effectiveAt = some late) : early = late := by
  obtain ⟨body, loaded, -, -, bound⟩ := left
  obtain ⟨body', loaded', -, -, bound'⟩ := right
  have bodies := congrArg SourceView.body same
  simp only [sourceView, loaded, loaded', Option.some.injEq] at bodies
  subst bodies
  exact equalsText_unique (bound early first) (bound' late second)

/-- **The heads fix the history.** Two stores that pass the verification and
report the same heads hold, run by run, the same events in every column and in
the parsed body; two source histories with one head agree in every column the
checks bind and in the parsed body, and where both rows carry an effective time
they carry the same one. -/
theorem history_fixed_by_heads (codec : Codec) (injective : Function.Injective codec.digest)
    (nonEmpty : ∀ body, codec.digest body ≠ "") (a b : History) (repositoryId : String)
    (left : verifyEventHistory codec a repositoryId = .ok ())
    (right : verifyEventHistory codec b repositoryId = .ok ())
    (heads : ∀ runId, a.runHead? repositoryId runId = b.runHead? repositoryId runId) :
    (∀ runId, (a.runHead? repositoryId runId).isSome →
      (a.runRows runId).map (eventView codec) = (b.runRows runId).map (eventView codec)) ∧
    ∀ head, verifySourceHistory codec a repositoryId head = .ok () →
      verifySourceHistory codec b repositoryId head = .ok () →
        (a.sourceRows repositoryId).map (sourceView codec)
            = (b.sourceRows repositoryId).map (sourceView codec) ∧
          ∀ (index : Nat) (x y : SourceEvent), (a.sourceRows repositoryId)[index]? = some x →
            (b.sourceRows repositoryId)[index]? = some y →
              ∀ early late, x.effectiveAt = some early → y.effectiveAt = some late →
                early = late := by
  refine ⟨fun runId known => ?_, fun head source source' => ?_⟩
  · obtain ⟨hash, head⟩ := Option.isSome_iff_exists.mp known
    obtain ⟨chain, accepted⟩ := runHead?_verified left head
    obtain ⟨chain', accepted'⟩ := runHead?_verified right (heads runId ▸ head)
    have proper : ∀ row, EventAccepted codec row → row.eventHash ≠ "" := by
      rintro row ⟨body, -, hashed, -⟩
      exact hashed ▸ nonEmpty body
    refine linked_unique (fun x y same => ?_) _ _ hash (fun x memberX y memberY same => ?_)
      (fun x member => proper x (accepted x member))
      (fun y member => proper y (accepted' y member)) chain chain'
    · exact congrArg (fun view => view.1.previousEventHash) same
    · exact eventView_of_hash injective (accepted x memberX) (accepted' y memberY) same
  · have views := source_views_eq injective nonEmpty source source'
    refine ⟨views, fun index x y rowX rowY early late first second => ?_⟩
    have same : sourceView codec x = sourceView codec y := by
      have here := congrArg (fun rows => rows[index]?) views
      simpa [rowX, rowY] using here
    exact effectiveAt_of_view
      ((verifySourceHistory_linked source).2.1 x (List.mem_of_getElem? rowX))
      ((verifySourceHistory_linked source').2.1 y (List.mem_of_getElem? rowY)) same first second

/-! ## A digest that writes its body out -/

/-- Texts written one after another: every character marked, every text closed. -/
def spell : List String → List Char
  | [] => []
  | text :: rest => text.toList.flatMap (fun c => ['+', c]) ++ '.' :: spell rest

theorem spell_text :
    ∀ {a b rest rest' : List Char}, a.flatMap (fun c => ['+', c]) ++ '.' :: rest
        = b.flatMap (fun c => ['+', c]) ++ '.' :: rest' → a = b ∧ rest = rest'
  | [], [], _, _, same => by simpa using same
  | [], _ :: _, _, _, same => by simp at same
  | _ :: _, [], _, _, same => by simp at same
  | x :: a, y :: b, rest, rest', same => by
      simp only [List.flatMap_cons, List.cons_append, List.nil_append, List.cons.injEq,
        true_and] at same
      obtain ⟨rfl, tails⟩ := same
      obtain ⟨rfl, rfl⟩ := spell_text tails
      exact ⟨rfl, rfl⟩

theorem spell_injective : ∀ {a b : List String}, spell a = spell b → a = b
  | [], [], _ => rfl
  | [], y :: _, same => by
      cases text : y.toList <;> simp [spell, text] at same
  | x :: _, [], same => by
      cases text : x.toList <;> simp [spell, text] at same
  | x :: a, y :: b, same => by
      obtain ⟨texts, rests⟩ := spell_text same
      rw [String.toList_inj.mp texts, spell_injective rests]

def unary : Int → String
  | .ofNat n => String.ofList (List.replicate n '1')
  | .negSucc n => String.ofList ('-' :: List.replicate n '1')

theorem unary_injective : Function.Injective unary := by
  intro a b same
  have texts := congrArg String.toList same
  have lengths := congrArg List.length texts
  cases a with
  | ofNat m =>
      cases b with
      | ofNat n =>
          simp only [unary, String.toList_ofList, List.length_replicate] at lengths
          rw [lengths]
      | negSucc n => cases m <;> simp [unary, List.replicate_succ] at texts
  | negSucc m =>
      cases b with
      | ofNat n => cases n <;> simp [unary, List.replicate_succ] at texts
      | negSucc n =>
          simp only [unary, String.toList_ofList, List.length_cons, List.length_replicate,
            Nat.add_right_cancel_iff] at lengths
          rw [lengths]

/-- A value as three texts: its constructor, its text and its number. -/
def valueParts : JsonValue → List String
  | .null => ["null", "", ""]
  | .bool value => ["bool", if value then "true" else "false", ""]
  | .int value => ["int", "", unary value]
  | .float canonical none => ["float", canonical, ""]
  | .float canonical (some value) => ["integral", canonical, unary value]
  | .str value => ["str", value, ""]
  | .nested canonical => ["nested", canonical, ""]

theorem valueParts_injective : Function.Injective valueParts := by
  intro a b same
  rcases a with _ | x | x | ⟨x, _ | n⟩ | x | x <;>
    rcases b with _ | y | y | ⟨y, _ | m⟩ | y | y <;>
    simp only [valueParts, List.cons.injEq, and_true, true_and, String.reduceEq,
      false_and] at same ⊢
  · cases x <;> cases y <;> simp at same ⊢
  · rw [unary_injective same]
  · rw [same]
  · rw [same.1, unary_injective same.2]
  · rw [same]
  · rw [same]

theorem valueParts_length (value : JsonValue) : (valueParts value).length = 3 := by
  rcases value with _ | _ | _ | ⟨_, _ | _⟩ | _ | _ <;> rfl

/-- The members of an object, four texts each. -/
def memberParts : List (String × JsonValue) → List String
  | [] => []
  | (key, value) :: rest => key :: (valueParts value ++ memberParts rest)

theorem memberParts_injective :
    ∀ {a b : List (String × JsonValue)}, memberParts a = memberParts b → a = b
  | [], [], _ => rfl
  | [], _ :: _, same => by simp [memberParts] at same
  | _ :: _, [], same => by simp [memberParts] at same
  | (key, value) :: a, (key', value') :: b, same => by
      simp only [memberParts, List.cons.injEq] at same
      obtain ⟨rfl, rests⟩ := same
      have lengths := (valueParts_length value).trans (valueParts_length value').symm
      obtain ⟨values, rests⟩ := List.append_inj rests lengths
      rw [valueParts_injective values, memberParts_injective rests]

/-- A digest with no collisions: the body itself, spelled out. -/
def textDigest (body : JsonObject) : String :=
  String.ofList ('#' :: spell (memberParts body.members))

theorem textDigest_injective : Function.Injective textDigest := by
  intro a b same
  have texts := congrArg String.toList same
  simp only [textDigest, String.toList_ofList, List.cons.injEq, true_and] at texts
  have members := memberParts_injective (spell_injective texts)
  cases a
  cases b
  simpa using members

theorem textDigest_ne_empty (body : JsonObject) : textDigest body ≠ "" := by
  intro same
  have texts := congrArg String.toList same
  simp [textDigest] at texts

/-! ## A sample store -/

def sampleGenesisText : String :=
  "\x7b\"event_kind\":\"SYNTHETIC_AUTHORITY_SOURCE_GENESIS\",\"legacy_catalog_anchor\":\"\","
    ++ "\"previous_source_hash\":\"\",\"recorded_at\":\"1970-01-01T00:00:00.000000Z\","
    ++ "\"repository_id\":\"R\",\"sequence\":1,\"source_schema_version\":1\x7d"

def sampleGenesis : JsonObject where
  members := [("event_kind", .str "SYNTHETIC_AUTHORITY_SOURCE_GENESIS"),
    ("legacy_catalog_anchor", .str ""), ("previous_source_hash", .str ""),
    ("recorded_at", .str "1970-01-01T00:00:00.000000Z"), ("repository_id", .str "R"),
    ("sequence", .int 1), ("source_schema_version", .int 1)]
  sorted := by decide

def sampleEventText : String :=
  "\x7b\"command_id\":\"c\",\"event_id\":\"e\",\"event_kind\":\"PLAN_ACCEPTED\","
    ++ "\"item_id\":\"i\",\"previous_event_hash\":\"\",\"repository_id\":\"R\",\"run_id\":\"r\","
    ++ "\"schema_version\":1,\"sequence\":1,\"writer_epoch\":1\x7d"

def sampleEventBody : JsonObject where
  members := [("command_id", .str "c"), ("event_id", .str "e"),
    ("event_kind", .str "PLAN_ACCEPTED"), ("item_id", .str "i"), ("previous_event_hash", .str ""),
    ("repository_id", .str "R"), ("run_id", .str "r"), ("schema_version", .int 1),
    ("sequence", .int 1), ("writer_epoch", .int 1)]
  sorted := by decide

/-- Reads the two sample texts; the epoch `0` is the instant of the genesis. -/
def sampleCodec : Codec where
  loads text :=
    if text = sampleGenesisText then some (some sampleGenesis)
    else if text = sampleEventText then some (some sampleEventBody)
    else none
  digest := textDigest
  parseUtc text := if text = "1970-01-01T00:00:00.000000Z" then some 0 else none
  writerEpochs _ := .ok ()
  pauseBody _ _ := .ok ()

/-- The genesis row under a chosen row identity. -/
def sampleSourceRow (sourceEventId : String) : SourceEvent where
  sourceEventId := sourceEventId
  repositoryId := "R"
  sequence := 1
  eventKind := "SYNTHETIC_AUTHORITY_SOURCE_GENESIS"
  recordedAt := "1970-01-01T00:00:00.000000Z"
  effectiveAt := none
  consumerKind := none
  consumerKey := none
  previousSourceHash := ""
  eventHash := textDigest sampleGenesis
  bodyJson := sampleGenesisText

def sampleEvent : StoredEvent where
  eventId := "e"
  repositoryId := "R"
  runId := "r"
  itemId := "i"
  sequence := 1
  commandId := "c"
  writerEpoch := 1
  schemaVersion := 1
  eventKind := "PLAN_ACCEPTED"
  previousEventHash := ""
  eventHash := textDigest sampleEventBody
  bodyJson := sampleEventText

def sampleHistory (sourceEventId : String) : History where
  catalogHead := some (textDigest sampleEventBody)
  runs := ⟨[⟨"r", "R", 1, textDigest sampleEventBody⟩], List.pairwise_singleton _ _⟩
  events := ⟨[sampleEvent], List.pairwise_singleton _ _⟩
  sourceEvents := ⟨[sampleSourceRow sourceEventId], List.pairwise_singleton _ _⟩
  sourceState :=
    ⟨[⟨"R", 1, textDigest sampleGenesis, "1970-01-01T00:00:00.000000Z"⟩],
      List.pairwise_singleton _ _⟩

theorem sampleEventText_loads : sampleCodec.loads sampleEventText = some (some sampleEventBody) := by
  have other : sampleEventText ≠ sampleGenesisText := by decide
  simp [sampleCodec, other]

theorem sampleGenesisText_loads :
    sampleCodec.loads sampleGenesisText = some (some sampleGenesis) := by
  simp [sampleCodec]

theorem sampleEvent_verified :
    verifyEventRow sampleCodec ⟨"", 1, 0⟩ sampleEvent = .ok ⟨textDigest sampleEventBody, 2, 1⟩ := by
  simp only [verifyEventRow, bind_eq_ok, require_eq_ok, refuse_eq_ok, fetch_eq_ok, pure_eq_ok]
  exact ⟨(), by decide, (), rfl, (), by decide, (), rfl, _, sampleEventText_loads, _, rfl, (), rfl,
    (), by decide, (), rfl, rfl⟩

theorem sampleSourceRow_verified (sourceEventId : String) :
    verifySourceRow sampleCodec ⟨"", 1, none⟩ (sampleSourceRow sourceEventId)
      = .ok ⟨textDigest sampleGenesis, 2, some 0⟩ := by
  simp only [verifySourceRow, bind_eq_ok, require_eq_ok, refuse_eq_ok, fetch_eq_ok, pure_eq_ok]
  have bound : SourceBound (sampleSourceRow "") sampleGenesis := by decide
  have recorded : parseSourceUtc sampleCodec "1970-01-01T00:00:00.000000Z" "recorded_at" = .ok 0 := by
    decide
  exact ⟨(), rfl, (), rfl, _, sampleGenesisText_loads, _, rfl, (), rfl, (), bound, 0, recorded, (),
    by simp, (), rfl, rfl⟩

theorem sampleHistory_sourceVerified (sourceEventId : String) :
    verifySourceHistory sampleCodec (sampleHistory sourceEventId) "R" (textDigest sampleGenesis)
      = .ok () := by
  have rows : (sampleHistory sourceEventId).sourceRows "R" = [sampleSourceRow sourceEventId] := rfl
  have genesis : GenesisBody "R" sampleGenesis := by decide
  have parsed : bodyOf sampleCodec sampleGenesisText = some sampleGenesis := by
    simp [bodyOf, sampleGenesisText_loads]
  simp only [verifySourceHistory, rows, List.foldlM_cons, List.foldlM_nil,
    sampleSourceRow_verified, bind_eq_ok, require_eq_ok, fetch_eq_ok, pure_eq_ok]
  refine ⟨_, ⟨_, rfl, rfl⟩, _, rfl, (), ⟨rfl, rfl, rfl⟩, 0, by decide, (), rfl, _, parsed, (),
    ⟨rfl, genesis⟩, rfl⟩

theorem sampleHistory_verified (sourceEventId : String) :
    verifyEventHistory sampleCodec (sampleHistory sourceEventId) "R" = .ok () := by
  have runs : (sampleHistory sourceEventId).repositoryRuns "R"
      = [⟨"r", "R", 1, textDigest sampleEventBody⟩] := by
    simp [History.repositoryRuns, sampleHistory, sourceHeadMember]
  have rows : (sampleHistory sourceEventId).runRows "r" = [sampleEvent] := rfl
  have catalog : verifyCatalog sampleCodec (sampleHistory sourceEventId) "R"
      = .ok (textDigest sampleEventBody) := by
    show (do
      let sourceHead ← fetch ((sampleHistory sourceEventId).sourceHead? "R") _
      verifySourceHistory sampleCodec (sampleHistory sourceEventId) "R" sourceHead
      pure (textDigest sampleEventBody)) = _
    simp only [bind_eq_ok, fetch_eq_ok, pure_eq_ok]
    exact ⟨_, rfl, (), sampleHistory_sourceVerified sourceEventId, trivial⟩
  have run : verifyRun sampleCodec (sampleHistory sourceEventId)
      ⟨"r", "R", 1, textDigest sampleEventBody⟩ = .ok () := by
    simp only [verifyRun, rows, List.foldlM_cons, List.foldlM_nil, sampleEvent_verified,
      bind_eq_ok, require_eq_ok, pure_eq_ok]
    exact ⟨_, ⟨_, rfl, rfl⟩, (), rfl, rfl⟩
  simp only [verifyEventHistory, catalog, runs, bind_eq_ok, require_eq_ok, List.forM_eq_forM,
    forM_eq_ok, List.forall_mem_singleton]
  exact ⟨_, rfl, (), rfl, (), run, .inr (.inl (by simp))⟩

/-- The verification does not read the identity of the genesis row: two stores
that differ in it alone are both accepted, under the same heads. -/
theorem genesis_id_unbound :
    ¬ ∀ (codec : Codec), Function.Injective codec.digest → (∀ body, codec.digest body ≠ "") →
      ∀ (a b : History) (repositoryId : String),
        verifyEventHistory codec a repositoryId = .ok () →
        verifyEventHistory codec b repositoryId = .ok () →
        (∀ runId, a.runHead? repositoryId runId = b.runHead? repositoryId runId) →
        ∀ head, verifySourceHistory codec a repositoryId head = .ok () →
          verifySourceHistory codec b repositoryId head = .ok () →
            a.sourceRows repositoryId = b.sourceRows repositoryId := by
  intro bound
  have same := bound sampleCodec textDigest_injective textDigest_ne_empty
    (sampleHistory "source-genesis:1") (sampleHistory "source-genesis:2") "R"
    (sampleHistory_verified _) (sampleHistory_verified _) (fun _ => rfl) _
    (sampleHistory_sourceVerified _) (sampleHistory_sourceVerified _)
  have rows : [sampleSourceRow "source-genesis:1"] = [sampleSourceRow "source-genesis:2"] := same
  simp [sampleSourceRow] at rows

theorem sampleHistory_fixed_by_heads :
    (sampleHistory "source-genesis:1").runHead? "R" "r" = some (textDigest sampleEventBody) ∧
      ((sampleHistory "source-genesis:1").runRows "r").map (eventView sampleCodec)
        = ((sampleHistory "source-genesis:2").runRows "r").map (eventView sampleCodec) ∧
      ((sampleHistory "source-genesis:1").sourceRows "R").map (sourceView sampleCodec)
        = ((sampleHistory "source-genesis:2").sourceRows "R").map (sourceView sampleCodec) := by
  have fixed := history_fixed_by_heads sampleCodec textDigest_injective textDigest_ne_empty
    (sampleHistory "source-genesis:1") (sampleHistory "source-genesis:2") "R"
    (sampleHistory_verified _) (sampleHistory_verified _) (fun _ => rfl)
  have known : (sampleHistory "source-genesis:1").runHead? "R" "r"
      = some (textDigest sampleEventBody) := by
    simp [History.runHead?, History.repositoryRuns, sampleHistory, sourceHeadMember]
  refine ⟨known, fixed.1 "r" (by rw [known]; rfl), ?_⟩
  exact (fixed.2 _ (sampleHistory_sourceVerified _) (sampleHistory_sourceVerified _)).1

end Aegis.DeliveryControl.EventHistory
