/-
# Routing.Requests — what an accepted request is

`parse_request` returns a request whose ids, versions and texts have their shapes, whose lists name
what is offered, and whose manual-only skills were invoked (`parseRequest_accepted`). Conversely such
a request is parsed from its own compact text when this is within the byte limit
(`parseRequest_written`).
-/
import Aegis.Lib.JsonLeast
import Aegis.Routing.Advice

namespace Aegis.Routing

open Aegis.Lib
open Aegis.Lib.Guarded

set_option autoImplicit false

variable {F : Type} [JsonFloat F] {host : Host F}

/-! ## Texts and lists of ids -/

/-- A text that `_string` takes. -/
def Legible (limit : Nat) (pattern : String → Bool) (text : String) : Prop :=
  (1 ≤ text.length ∧ text.length ≤ limit) ∧ text.toList.any isControl ≠ true ∧ pattern text = true

instance (limit : Nat) (pattern : String → Bool) (text : String) :
    Decidable (Legible limit pattern text) := inferInstanceAs (Decidable (_ ∧ _))

omit [JsonFloat F] in
theorem readString_legible {limit : Nat} {pattern : String → Bool} {text : String}
    (legible : Legible limit pattern text) :
    readString (.str text : Json (Marked F)) limit pattern = .ok text :=
  readString_eq_ok.mpr ⟨rfl, legible⟩

/-- A list of ids that `_ids` takes. -/
structure Named (offered ids : List String) : Prop where
  few : ids.length ≤ maxItems
  legible : ∀ id ∈ ids, Legible 64 isId id
  distinct : ids.Nodup
  isOffered : ids ⊆ offered

omit [JsonFloat F] in
theorem readString_items {items : List (Json (Marked F))} {ids : List String} :
    items.mapM (fun item => readString item 64 isId) = .ok ids ↔
      items = ids.map .str ∧ ∀ id ∈ ids, Legible 64 isId id := by
  rw [mapM_eq_ok_iff]
  constructor
  · intro each
    induction each with
    | nil => exact ⟨rfl, fun _ member => absurd member List.not_mem_nil⟩
    | cons here _ ih =>
        obtain ⟨rfl, legible⟩ := readString_eq_ok.mp here
        obtain ⟨rfl, others⟩ := ih
        exact ⟨rfl, List.forall_mem_cons.mpr ⟨legible, others⟩⟩
  · rintro ⟨rfl, legible⟩
    induction ids with
    | nil => exact .nil
    | cons id ids ih =>
        obtain ⟨here, later⟩ := List.forall_mem_cons.mp legible
        exact .cons (readString_legible here) (ih later)

omit [JsonFloat F] in
/-- `_ids` returns a list exactly when the value is the array of this list. -/
theorem readIds_named {value : Json (Marked F)} {offered ids : List String} :
    readIds value offered = .ok ids ↔ value = .array (ids.map .str) ∧ Named offered ids := by
  rw [readIds_eq_ok]
  constructor
  · rintro ⟨⟨items, rfl, few, read⟩, distinct, isOffered⟩
    obtain ⟨rfl, legible⟩ := readString_items.mp read
    rw [List.length_map] at few
    exact ⟨rfl, few, legible, distinct, isOffered⟩
  · rintro ⟨rfl, few, legible, distinct, isOffered⟩
    refine ⟨⟨_, rfl, ?_, readString_items.mpr ⟨rfl, legible⟩⟩, distinct, isOffered⟩
    rwa [List.length_map]

/-! ## Values that survive writing -/

/-- A value that `_decode` makes of its own text. -/
structure Sendable (value : Json (Marked F)) : Prop where
  canonical : value.IsCanonical
  convertible : value.convertible = true
  standard : value.standard = true

namespace Sendable

theorem str (text : String) : Sendable (.str text : Json (Marked F)) := ⟨.str text, rfl, rfl⟩

theorem bool (flag : Bool) : Sendable (.bool flag : Json (Marked F)) := ⟨.bool flag, rfl, rfl⟩

theorem array {items : List (Json (Marked F))} (each : ∀ item ∈ items, Sendable item) :
    Sendable (.array items) where
  canonical := .array fun item member => (each item member).canonical
  convertible := by
    rw [Json.convertible, Json.convertibleItems_iff]
    exact fun item member => (each item member).convertible
  standard := by
    rw [Json.standard, Json.standardItems_iff]
    exact fun item member => (each item member).standard

theorem texts (ids : List String) : Sendable (.array (ids.map .str) : Json (Marked F)) :=
  array (List.forall_mem_map.mpr fun id _ => str id)

theorem object {fields : List (String × Json (Marked F))} (ordered : Dict.Ordered fields)
    (each : ∀ field ∈ fields, Sendable field.2) : Sendable (.object fields) where
  canonical := Json.isCanonical_object.mpr
    ⟨ordered, fun field member => (each field member).canonical⟩
  convertible := by
    rw [Json.convertible, Json.convertibleFields_iff]
    exact fun field member => (each field member).convertible
  standard := by
    rw [Json.standard, Json.standardFields_iff]
    exact fun field member => (each field member).standard

end Sendable

omit [JsonFloat F] in
theorem keys_nodup {fields : List (String × Json (Marked F))} (ordered : Dict.Ordered fields) :
    (fields.map Prod.fst).Nodup :=
  List.pairwise_map.mpr (ordered.imp fun less same => by
    rw [same] at less
    exact String.lt_irrefl _ less)

omit [JsonFloat F] in
theorem distinctDict_takesOrdered :
    Json.TakesOrdered (Raw.distinctDict : List (String × Json (Marked F)) → _) := by
  intro fields ordered
  exact Raw.distinctDict_eq_ok.mpr ⟨keys_nodup ordered, by rw [Json.dict, Dict.ofFields_of_ordered ordered]⟩

/-- The compact text of a value. -/
def compactText (value : Json (Marked F)) : List Char := Json.write Layout.compact value 0

/-- **`_decode` takes an object of its compact text** when this is within the limit. -/
theorem decode_compactText {field : String × Json (Marked F)}
    {fields : List (String × Json (Marked F))} (sendable : Sendable (.object (field :: fields)))
    {limit : Nat} (short : (compactText (.object (field :: fields))).length ≤ limit) :
    decode host (.text (compactText (.object (field :: fields)))) limit = .ok (field :: fields) := by
  have ascii : ∀ c ∈ compactText (.object (field :: fields)), c.toNat < 128 := fun c member =>
    Nat.lt_of_le_of_lt (Json.ascii_write _ 0 sendable.canonical.finite c member) (by decide)
  obtain ⟨rest, starts⟩ : ∃ rest, compactText (.object (field :: fields)) =
      openBrace :: quote :: rest := ⟨_, rfl⟩
  have decoded : decodeBytes host.wide (encodeUtf8 (compactText (.object (field :: fields)))) =
      some (compactText (.object (field :: fields))) := by
    rw [starts]
    exact decodeBytes_encodeUtf8 host.wide rest (by decide) (by decide)
  have read : Json.decode () Raw.distinctDict (compactText (.object (field :: fields))) =
      .ok (.object (field :: fields)) := by
    rw [← List.append_nil (compactText _)]
    exact Json.decode_write distinctDict_takesOrdered sendable.canonical Layout.compact 0
      fun _ member => absurd member List.not_mem_nil
  refine decode_eq_ok.mpr ⟨_, rfl, ?_, ?_⟩
  · rwa [length_encodeUtf8 ascii]
  · rw [decoded, Option.bind_some, loads, read]
    exact if_pos sendable.standard

/-! ## Offers -/

/-- How the offers of one kind are spelled: the name of their flag, the offer that is made, and the
flag it keeps. -/
structure Kind where
  flagName : String
  make : String → String → Bool → Offer
  flag : Offer → Bool
  below : "id" < flagName
  make_id : ∀ id description given, (make id description given).id = id
  make_description : ∀ id description given, (make id description given).description = description
  make_flag : ∀ id description given, flag (make id description given) = given

def agentKind : Kind where
  flagName := "read_only"
  make := agentOffer
  flag := Offer.readOnly
  below := by decide
  make_id _ _ _ := rfl
  make_description _ _ _ := rfl
  make_flag _ _ _ := rfl

def skillKind : Kind where
  flagName := "manual_only"
  make := skillOffer
  flag := Offer.manualOnly
  below := by decide
  make_id _ _ _ := rfl
  make_description _ _ _ := rfl
  make_flag _ _ _ := rfl

/-- An offer of a kind with a legible id and description. -/
structure Kind.Takes (kind : Kind) (offer : Offer) : Prop where
  id : Legible 64 isId offer.id
  description : Legible 120 anyText offer.description
  made : kind.make offer.id offer.description (kind.flag offer) = offer

/-- Offers that `offers` takes. -/
structure Kind.Offers (kind : Kind) (offers : List Offer) : Prop where
  few : offers.length ≤ maxItems
  each : ∀ offer ∈ offers, kind.Takes offer
  distinct : (offers.map Offer.id).Nodup

/-- The object of an offer, in the order of its keys. -/
def Kind.value (kind : Kind) (offer : Offer) : Json (Marked F) :=
  .object [("description", .str offer.description), ("id", .str offer.id),
    (kind.flagName, .bool (kind.flag offer))]

theorem Kind.sendable (kind : Kind) (offer : Offer) : Sendable (kind.value offer : Json (Marked F)) := by
  refine .object ?_ ?_
  · have start : "description" < "id" := by decide
    exact .cons (List.forall_mem_cons.mpr ⟨start, List.forall_mem_singleton.mpr
      (String.lt_trans start kind.below)⟩) (.cons (List.forall_mem_singleton.mpr kind.below)
      (List.pairwise_singleton _ _))
  · intro field member
    simp only [List.mem_cons, List.not_mem_nil, or_false] at member
    rcases member with rfl | rfl | rfl
    · exact .str _
    · exact .str _
    · exact .bool _

omit [JsonFloat F] in
theorem readOffer_takes {kind : Kind} {item : Json (Marked F)} {offer : Offer}
    (read : readOffer kind.flagName kind.make item = .ok offer) : kind.Takes offer := by
  unfold readOffer at read
  split at read
  · simp only [bind_eq_ok, pure_eq_ok] at read
    obtain ⟨_, -, flag, -, id, idRead, description, descriptionRead, rfl⟩ := read
    constructor
    · rw [kind.make_id]
      exact (readString_eq_ok.mp idRead).2
    · rw [kind.make_description]
      exact (readString_eq_ok.mp descriptionRead).2
    · rw [kind.make_id, kind.make_description, kind.make_flag]
  · cases read

omit [JsonFloat F] in
theorem readOffer_value {kind : Kind} {offer : Offer} (takes : kind.Takes offer) :
    readOffer kind.flagName kind.make (kind.value offer : Json (Marked F)) = .ok offer := by
  have beyond : kind.flagName ≠ "description" ∧ kind.flagName ≠ "id" := by
    have second := kind.below
    have first : "description" < kind.flagName := String.lt_trans (by decide) second
    exact ⟨fun same => String.lt_irrefl _ (same ▸ first), fun same => String.lt_irrefl _ (same ▸ second)⟩
  have keys : HasKeys [("description", (.str offer.description : Json (Marked F))),
      ("id", .str offer.id), (kind.flagName, .bool (kind.flag offer))]
      ["id", "description", kind.flagName] := by
    simp [HasKeys]
  unfold readOffer Kind.value checkKeys
  simp only [bind_eq_ok, require_eq_ok, pure_eq_ok]
  refine ⟨⟨⟩, keys, kind.flag offer, ?_, offer.id, ?_, offer.description, ?_, takes.made⟩
  · have found : valueAt [("description", (.str offer.description : Json (Marked F))),
        ("id", .str offer.id), (kind.flagName, .bool (kind.flag offer))] kind.flagName =
          .bool (kind.flag offer) := by
      rw [valueAt, Dict.get?_cons, if_neg beyond.1, Dict.get?_cons, if_neg beyond.2, Dict.get?_cons,
        if_pos rfl]
      rfl
    rw [found]
    rfl
  · exact readString_legible takes.id
  · exact readString_legible takes.description

omit [JsonFloat F] in
theorem readOffers_offers {kind : Kind} {value : Json (Marked F)} {offers : List Offer}
    (read : readOffers kind.flagName kind.make value = .ok offers) : kind.Offers offers := by
  unfold readOffers at read
  split at read
  · rename_i items
    simp only [bind_eq_ok, require_eq_ok, pure_eq_ok] at read
    obtain ⟨_, few, found, each, _, distinct, rfl⟩ := read
    have each := mapM_eq_ok_iff.mp each
    refine ⟨?_, fun offer member => ?_, distinct⟩
    · rwa [← each.length_eq]
    · obtain ⟨index, short, rfl⟩ := List.mem_iff_getElem.mp member
      have here := each.get (i := index) (by rwa [each.length_eq]) short
      exact readOffer_takes here
  · cases read

omit [JsonFloat F] in
theorem readOffers_value {kind : Kind} {offers : List Offer} (accepted : kind.Offers offers) :
    readOffers kind.flagName kind.make (.array (offers.map kind.value) : Json (Marked F)) =
      .ok offers := by
  have each : ∀ offers : List Offer, (∀ offer ∈ offers, kind.Takes offer) →
      (offers.map kind.value).mapM (readOffer (F := F) kind.flagName kind.make) = .ok offers := by
    intro offers takes
    rw [mapM_eq_ok_iff, List.forall₂_map_left_iff, List.forall₂_same]
    exact fun offer member => readOffer_value (takes offer member)
  unfold readOffers
  simp only [bind_eq_ok, require_eq_ok, pure_eq_ok]
  refine ⟨⟨⟩, ?_, offers, each offers accepted.each, ⟨⟩, accepted.distinct, rfl⟩
  rw [List.length_map]
  exact accepted.few

/-! ## Requests -/

/-- The ids of the offered agents. -/
def Request.agentIds (request : Request) : List String := request.agents.map Offer.id

def Request.skillIds (request : Request) : List String := request.skills.map Offer.id

/-- What `parse_request` accepts. -/
structure Accepted (tables : Unicode) (request : Request) : Prop where
  version : request.version = version
  requestId : Legible 32 isRequestId request.requestId
  synopsis : Legible 512 anyText request.synopsis
  oneLine : request.synopsis.toList.any breaksLine ≠ true
  harmless : ((prohibited tables).search [] request.synopsis.toList).isSome ≠ true
  stage : Legible 32 anyText request.stage
  known : request.stage ∈ stages
  catalogVersion : Legible 64 isVersionId request.catalogVersion
  policyVersion : Legible 64 isVersionId request.policyVersion
  agents : agentKind.Offers request.agents
  skills : skillKind.Offers request.skills
  mandatoryAgents : Named request.agentIds request.mandatoryAgents
  mandatorySkills : Named request.skillIds request.mandatorySkills
  selectedAgents : Named request.agentIds request.selectedAgents
  selectedSkills : Named request.skillIds request.selectedSkills
  invokedManualSkills : Named request.skillIds request.invokedManualSkills
  explicit : ∀ id ∈ request.invokedManualSkills,
    id ∈ request.selectedSkills ∧ id ∈ manualIds request.skills
  invoked : ¬ ∃ id ∈ request.mandatorySkills ++ request.selectedSkills,
    id ∈ manualIds request.skills ∧ id ∉ request.invokedManualSkills

/-- **A parsed request is an accepted one.** -/
theorem parseRequest_accepted {raw : Input} {request : Request}
    (parsed : parseRequest host raw = .ok request) : Accepted host.tables request := by
  unfold parseRequest readSynopsis at parsed
  simp only [bind_eq_ok, require_eq_ok, refuse_eq_ok, pure_eq_ok] at parsed
  obtain ⟨data, -, _, -, _, -, requestId, isRequestId, _, ⟨synopsis, isSynopsis, _, oneLine, _,
    harmless, rfl⟩, stage, isStage, _, known, catalogVersion, isCatalog, policyVersion, isPolicy, agents,
    areAgents, skills, areSkills, mandatoryAgents, isMandatoryAgents, mandatorySkills,
    isMandatorySkills, selectedAgents, isSelectedAgents, selectedSkills, isSelectedSkills, invoked,
    isInvoked, _, explicit, _, uninvoked, rfl⟩ := parsed
  exact {
    version := rfl
    requestId := (readString_eq_ok.mp isRequestId).2
    synopsis := (readString_eq_ok.mp isSynopsis).2
    oneLine := oneLine
    harmless := harmless
    stage := (readString_eq_ok.mp isStage).2
    known := known
    catalogVersion := (readString_eq_ok.mp isCatalog).2
    policyVersion := (readString_eq_ok.mp isPolicy).2
    agents := @readOffers_offers _ agentKind _ _ areAgents
    skills := @readOffers_offers _ skillKind _ _ areSkills
    mandatoryAgents := (readIds_named.mp isMandatoryAgents).2
    mandatorySkills := (readIds_named.mp isMandatorySkills).2
    selectedAgents := (readIds_named.mp isSelectedAgents).2
    selectedSkills := (readIds_named.mp isSelectedSkills).2
    invokedManualSkills := (readIds_named.mp isInvoked).2
    explicit := explicit
    invoked := uninvoked }

def textList (texts : List String) : Json (Marked F) := .array (texts.map .str)

/-- The fields of a request, in the order of their keys. -/
def requestFields (request : Request) : List (String × Json (Marked F)) :=
  [("agents", .array (request.agents.map agentKind.value)),
    ("catalog_version", .str request.catalogVersion),
    ("invoked_manual_skills", textList request.invokedManualSkills),
    ("mandatory_agents", textList request.mandatoryAgents),
    ("mandatory_skills", textList request.mandatorySkills),
    ("policy_version", .str request.policyVersion), ("request_id", .str request.requestId),
    ("selected_agents", textList request.selectedAgents),
    ("selected_skills", textList request.selectedSkills),
    ("skills", .array (request.skills.map skillKind.value)), ("stage", .str request.stage),
    ("synopsis", .str request.synopsis), ("version", .str request.version)]

theorem sendable_request (request : Request) :
    Sendable (.object (requestFields request) : Json (Marked F)) := by
  have offers : ∀ (kind : Kind) (given : List Offer),
      Sendable (.array (given.map kind.value) : Json (Marked F)) := fun kind given =>
    .array (List.forall_mem_map.mpr fun offer _ => kind.sendable offer)
  refine .object ?_ ?_
  · refine List.pairwise_map.mp ?_
    simp only [requestFields, List.map_cons, List.map_nil]
    decide
  · simp only [requestFields, List.forall_mem_cons, textList]
    exact ⟨offers _ _, .str _, .texts _, .texts _, .texts _, .str _, .str _, .texts _, .texts _,
      offers _ _, .str _, .str _, .str _, fun _ member => absurd member List.not_mem_nil⟩

/-- The compact text of a request. -/
def requestText (F : Type) [JsonFloat F] (request : Request) : List Char :=
  compactText (.object (requestFields request) : Json (Marked F))

/-- **An accepted request is parsed from its own compact text** within the limit. -/
theorem parseRequest_written {request : Request} (accepted : Accepted host.tables request)
    (short : (requestText F request).length ≤ maxRequestBytes) :
    parseRequest host (.text (requestText F request)) = .ok request := by
  have decoded : decode host (.text (requestText F request)) maxRequestBytes =
      .ok (requestFields request) := decode_compactText (sendable_request request) short
  have keys : HasKeys (requestFields request : List (String × Json (Marked F))) requestKeys := by
    simp [HasKeys, requestFields, requestKeys]
  have ids : ∀ {offered given : List String}, Named offered given →
      readIds (textList given : Json (Marked F)) offered = .ok given := fun named =>
    readIds_named.mpr ⟨rfl, named⟩
  unfold parseRequest readSynopsis checkKeys
  rw [decoded]
  simp only [bind_eq_ok, require_eq_ok, refuse_eq_ok, pure_eq_ok, Except.ok.injEq, exists_eq_left']
  refine ⟨⟨⟩, keys, ⟨⟩, congrArg some accepted.version, _, readString_legible accepted.requestId, _,
    ⟨_, readString_legible accepted.synopsis, ⟨⟩, accepted.oneLine, ⟨⟩, accepted.harmless, rfl⟩, _,
    readString_legible accepted.stage, ⟨⟩, accepted.known, _,
    readString_legible accepted.catalogVersion, _, readString_legible accepted.policyVersion, _,
    readOffers_value accepted.agents, _, readOffers_value accepted.skills, _,
    ids accepted.mandatoryAgents, _, ids accepted.mandatorySkills, _, ids accepted.selectedAgents, _,
    ids accepted.selectedSkills, _, ids accepted.invokedManualSkills, ⟨⟩, accepted.explicit, ⟨⟩,
    accepted.invoked, ?_⟩
  rw [← accepted.version]

end Aegis.Routing
