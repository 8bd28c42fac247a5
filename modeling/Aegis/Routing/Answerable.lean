/-
# Routing.Answerable — which accepted requests have a recommending reply

A recommending reply repeats the id and the versions of its request and names everything that the
request makes mandatory or selects. The shortest such reply is the compact one that names nothing
else, so a request can be answered exactly when this reply is within the byte limit
(`exists_recommendation_iff`). The limits of requests and of replies are independent: a request may
name more than a reply has room for (`crowded_unanswerable`).
-/
import Mathlib
import Aegis.Budget.Conservation
import Aegis.Routing.Requests

namespace Aegis.Routing

open Aegis.Lib
open Aegis.Lib.Guarded

set_option autoImplicit false

variable {F : Type} [JsonFloat F] {host : Host F}

/-! ## The least reply -/

/-- What a request makes mandatory or selects. -/
def Request.requiredAgents (request : Request) : List String :=
  (request.mandatoryAgents ++ request.selectedAgents).dedup

def Request.requiredSkills (request : Request) : List String :=
  (request.mandatorySkills ++ request.selectedSkills).dedup

/-- The fields of the reply that names exactly what is required, in the order of their keys. -/
def answerFields (request : Request) : List (String × Json (Marked F)) :=
  [("agents", textList request.requiredAgents), ("catalog_version", .str request.catalogVersion),
    ("policy_version", .str request.policyVersion), ("request_id", .str request.requestId),
    ("skills", textList request.requiredSkills), ("status", .str "recommend"),
    ("version", .str version)]

/-- The compact text of this reply. -/
def answerText (F : Type) [JsonFloat F] (request : Request) : List Char :=
  compactText (.object (answerFields request) : Json (Marked F))

theorem sendable_answer (request : Request) :
    Sendable (.object (answerFields request) : Json (Marked F)) := by
  refine .object ?_ ?_
  · refine List.pairwise_map.mp ?_
    simp only [answerFields, List.map_cons, List.map_nil]
    decide
  · simp only [answerFields, List.forall_mem_cons, textList]
    exact ⟨.texts _, .str _, .str _, .str _, .texts _, .str _, .str _,
      fun _ member => absurd member List.not_mem_nil⟩

/-! ## What is required can be named -/

theorem named_of_required {kind : Kind} {offers : List Offer} (taken : kind.Offers offers)
    {mandatory selected : List String} (isMandatory : Named (offers.map Offer.id) mandatory)
    (isSelected : Named (offers.map Offer.id) selected) :
    Named (offers.map Offer.id) (mandatory ++ selected).dedup := by
  have isOffered : (mandatory ++ selected).dedup ⊆ offers.map Offer.id := fun id member => by
    rcases List.mem_append.mp (List.mem_dedup.mp member) with inMandatory | inSelected
    · exact isMandatory.isOffered inMandatory
    · exact isSelected.isOffered inSelected
  have distinct := List.nodup_dedup (mandatory ++ selected)
  refine ⟨?_, fun id member => ?_, distinct, isOffered⟩
  · have few := (List.subperm_of_subset distinct isOffered).length_le
    rw [List.length_map] at few
    exact few.trans taken.few
  · obtain ⟨offer, offered, rfl⟩ := List.mem_map.mp (isOffered member)
    exact (taken.each offer offered).id

/-- The advice of the least reply. -/
def leastAdvice (F : Type) (request : Request) : Advice F :=
  ⟨true, request.requiredAgents, request.requiredSkills, none⟩

variable {request : Request}

theorem readAdvice_answer (accepted : Accepted host.tables request) :
    readAdvice host request (answerFields request) = .ok (leastAdvice F request) := by
  have agents := named_of_required accepted.agents accepted.mandatoryAgents accepted.selectedAgents
  have skills := named_of_required accepted.skills accepted.mandatorySkills accepted.selectedSkills
  unfold readAdvice
  simp only [bind_eq_ok, require_eq_ok, fetch_eq_ok, pure_eq_ok]
  refine ⟨⟨⟩, ?_, ⟨⟩, ⟨rfl, rfl, rfl⟩, request.requestId, readString_legible accepted.requestId, ⟨⟩, rfl,
    "recommend", rfl, ⟨⟩, .inl rfl, _, readIds_named.mpr ⟨rfl, agents⟩, _,
    readIds_named.mpr ⟨rfl, skills⟩, none, rfl, rfl⟩
  simp [answerFields, replyKeys]

omit [JsonFloat F] in
theorem judgeAdvice_least {tables : Unicode} (accepted : Accepted tables request)
    (required : request.mandatoryAgents ++ request.selectedAgents ++ request.mandatorySkills ++
      request.selectedSkills ≠ []) :
    judgeAdvice request (leastAdvice F request) =
      .ok ⟨.recommend, request.requiredAgents, request.requiredSkills, none, ""⟩ := by
  unfold judgeAdvice leastAdvice
  rw [if_neg (by simp)]
  simp only [bind_eq_ok, require_eq_ok, refuse_eq_ok, pure_eq_ok]
  refine ⟨⟨⟩, ?_, ⟨⟩, fun id member => List.mem_dedup.mpr member, ⟨⟩,
    fun id member => List.mem_dedup.mpr member, ⟨⟩, ?_, trivial⟩
  · rintro ⟨noAgent, noSkill⟩
    rw [Request.requiredAgents, List.dedup_eq_nil] at noAgent
    rw [Request.requiredSkills, List.dedup_eq_nil] at noSkill
    exact required (by rw [noAgent, List.nil_append, noSkill])
  · rintro ⟨id, member, manual, uninvoked⟩
    exact accepted.invoked ⟨id, List.mem_dedup.mp member, manual, uninvoked⟩

/-- **The least reply is taken** when it is within the limit. -/
theorem decideReply_answer (accepted : Accepted host.tables request)
    (required : request.mandatoryAgents ++ request.selectedAgents ++ request.mandatorySkills ++
      request.selectedSkills ≠ []) (short : (answerText F request).length ≤ maxResponseBytes) :
    decideReply host request (.text (answerText F request)) none =
      ⟨.recommend, request.requiredAgents, request.requiredSkills, none, ""⟩ := by
  have decoded : decode host (.text (answerText F request)) maxResponseBytes =
      .ok (answerFields request) := decode_compactText (sendable_answer request) short
  have read : readReply host request (.text (answerText F request)) =
      .ok ⟨.recommend, request.requiredAgents, request.requiredSkills, none, ""⟩ := by
    unfold readReply
    simp only [bind_eq_ok]
    exact ⟨_, decoded, _, readAdvice_answer accepted, judgeAdvice_least accepted required⟩
  unfold decideReply
  rw [read]

/-! ## No recommending reply is shorter -/

omit [JsonFloat F] in
theorem least_textList {texts : List String} (nonempty : texts ≠ []) :
    (textList texts : Json (Marked F)).least = 1 + (texts.map fun text => text.length + 3).sum := by
  rw [textList, Json.least_array (by simpa using nonempty), Json.leastItems_eq_sum, List.map_map]
  rfl

omit [JsonFloat F] in
/-- A longer list of texts takes more room. -/
theorem least_textList_le {fewer more : List String} (distinct : fewer.Nodup) (subset : fewer ⊆ more) :
    (textList fewer : Json (Marked F)).least ≤ (textList more : Json (Marked F)).least := by
  by_cases none : fewer = []
  · subst none
    cases more with
    | nil => exact Nat.le_refl _
    | cons text rest =>
        rw [least_textList (List.cons_ne_nil _ _), List.map_cons, List.sum_cons]
        show 2 ≤ _
        omega
  · have some : more ≠ [] := by
      rintro rfl
      exact none (List.subset_nil.mp subset)
    obtain ⟨within, perm, sublist⟩ := List.subperm_of_subset distinct subset
    have sums := (sublist.map fun text : String => text.length + 3).sum_le_sum fun _ _ => Nat.zero_le _
    rw [(perm.map _).sum_eq] at sums
    rw [least_textList none, least_textList some]
    exact Nat.add_le_add_left sums 1

omit [JsonFloat F] in
/-- The fields of distinct keys that an object holds take no more room than the object. -/
theorem least_fields_le {fields : List (String × Json (Marked F))} (distinct : (fields.map Prod.fst).Nodup)
    {keys : List String} (distinctKeys : keys.Nodup) (held : keys ⊆ fields.map Prod.fst) :
    (keys.map fun key => key.length + 4 + (valueAt fields key).least).sum ≤ Json.leastFields fields := by
  have found : ∀ field ∈ fields, valueAt fields field.1 = field.2 := fun field member => by
    rw [valueAt, Dict.get?_of_distinct distinct member]
    rfl
  have all : (fields.map Prod.fst).map (fun key => key.length + 4 + (valueAt fields key).least) =
      fields.map Json.leastField := by
    rw [List.map_map]
    refine List.map_congr_left fun field member => ?_
    show _ + 4 + (valueAt fields field.1).least = _
    rw [found field member, Json.leastField]
  obtain ⟨within, perm, sublist⟩ := List.subperm_of_subset distinctKeys held
  have sums := (sublist.map fun key : String =>
    key.length + 4 + (valueAt fields key).least).sum_le_sum fun _ _ => Nat.zero_le _
  rw [(perm.map _).sum_eq, all] at sums
  rwa [Json.leastFields_eq_sum]

omit [JsonFloat F] in
theorem judgeAdvice_recommends {advice : Advice F} {decision : Decision F}
    (judged : judgeAdvice request advice = .ok decision)
    (recommends : decision.disposition = .recommend) :
    advice.recommends = true := by
  by_contra abstains
  rw [Bool.not_eq_true] at abstains
  rw [judgeAdvice, if_pos abstains] at judged
  simp only [bind_eq_ok, require_eq_ok, pure_eq_ok] at judged
  obtain ⟨_, -, rfl⟩ := judged
  cases recommends

/-- What a recommending reply holds. -/
theorem fields_of_recommend {input : Input}
    (recommends : (decideReply host request input none).disposition = .recommend) :
    ∃ fields agents skills, decode host input maxResponseBytes = .ok fields ∧
      replyKeys ⊆ fields.map Prod.fst ∧ valueAt fields "version" = .str version ∧
      valueAt fields "catalog_version" = .str request.catalogVersion ∧
      valueAt fields "policy_version" = .str request.policyVersion ∧
      valueAt fields "request_id" = .str request.requestId ∧
      valueAt fields "status" = .str "recommend" ∧
      valueAt fields "agents" = textList agents ∧ valueAt fields "skills" = textList skills ∧
      request.requiredAgents ⊆ agents ∧ request.requiredSkills ⊆ skills := by
  unfold decideReply at recommends
  dsimp only at recommends
  split at recommends
  · rename_i decision read
    unfold readReply at read
    simp only [bind_eq_ok] at read
    obtain ⟨fields, decoded, advice, advised, judged⟩ := read
    unfold readAdvice at advised
    simp only [bind_eq_ok, require_eq_ok, fetch_eq_ok, pure_eq_ok] at advised
    obtain ⟨_, ⟨keys, -⟩, _, ⟨isVersion, catalog, policy⟩, requestId, isId, _, rfl, status, isStatus, _,
      known, agents, areAgents, skills, areSkills, score, -, rfl⟩ := advised
    have isRecommend := of_decide_eq_true (judgeAdvice_recommends judged recommends)
    rcases judgeAdvice_eq_ok judged with rfl | ⟨rfl, agentsCovered, skillsCovered, -, -⟩
    · cases recommends
    · exact ⟨fields, agents, skills, decoded, keys, text?_eq_some isVersion, text?_eq_some catalog,
        text?_eq_some policy, (readString_eq_ok.mp isId).1, isRecommend ▸ text?_eq_some isStatus,
        (readIds_named.mp areAgents).1, (readIds_named.mp areSkills).1,
        fun id member => agentsCovered id (List.mem_dedup.mp member),
        fun id member => skillsCovered id (List.mem_dedup.mp member)⟩
  · cases recommends

omit [JsonFloat F] in
/-- The least reply takes no more room than the fields of a recommending one. -/
theorem least_answer_le {fields : List (String × Json (Marked F))} {agents skills : List String}
    (distinct : (fields.map Prod.fst).Nodup) (keys : replyKeys ⊆ fields.map Prod.fst)
    (isVersion : valueAt fields "version" = .str version)
    (catalog : valueAt fields "catalog_version" = .str request.catalogVersion)
    (policy : valueAt fields "policy_version" = .str request.policyVersion)
    (requestId : valueAt fields "request_id" = .str request.requestId)
    (status : valueAt fields "status" = .str "recommend")
    (areAgents : valueAt fields "agents" = textList agents)
    (areSkills : valueAt fields "skills" = textList skills)
    (agentsCovered : request.requiredAgents ⊆ agents)
    (skillsCovered : request.requiredSkills ⊆ skills) :
    (Json.object (answerFields request) : Json (Marked F)).least ≤ (Json.object fields).least := by
  have nonempty : fields ≠ [] := by
    rintro rfl
    exact List.not_mem_nil (keys (List.mem_cons_self ..))
  have sums := least_fields_le distinct (by decide : replyKeys.Nodup) keys
  have fewerAgents := least_textList_le (F := F) (List.nodup_dedup _) agentsCovered
  have fewerSkills := least_textList_le (F := F) (List.nodup_dedup _) skillsCovered
  simp only [replyKeys, List.map_cons, List.map_nil, List.sum_cons, List.sum_nil, isVersion, catalog,
    policy, requestId, status, areAgents, areSkills] at sums
  have answered : answerFields (F := F) request ≠ [] := List.cons_ne_nil _ _
  rw [Json.least_object answered, Json.least_object nonempty]
  simp only [answerFields, Json.leastFields]
  unfold Request.requiredAgents Request.requiredSkills at *
  omega

/-! ## Identifiers are shown as they are -/

/-- A character that may stand in an identifier. -/
theorem escapeChar_identifier {c : Char}
    (identifier : c.isAlphanum = true ∨ c = '.' ∨ c = '_' ∨ c = '-') : escapeChar c = [c] := by
  rcases identifier with letter | rfl | rfl | rfl
  · simp only [Char.isAlphanum, Char.isAlpha, Char.isUpper, Char.isLower, Char.isDigit,
      Bool.or_eq_true, Bool.and_eq_true, decide_eq_true_eq, UInt32.le_iff_toNat_le, ge_iff_le] at letter
    change ((65 ≤ c.toNat ∧ c.toNat ≤ 90) ∨ 97 ≤ c.toNat ∧ c.toNat ≤ 122) ∨
      48 ≤ c.toNat ∧ c.toNat ≤ 57 at letter
    exact Json.escapeChar_printable (by omega) (by omega)
  all_goals decide

theorem plain_of_isVersionId {text : String} (matched : isVersionId text = true) : Json.Plain text := by
  unfold isVersionId at matched
  split at matched
  · cases matched
  · rename_i first rest same
    simp only [Bool.and_eq_true, decide_eq_true_eq, List.all_eq_true, Bool.or_eq_true,
      beq_iff_eq, or_assoc] at matched
    obtain ⟨⟨letter, -⟩, others⟩ := matched
    rw [Json.Plain, same, List.forall_mem_cons]
    exact ⟨escapeChar_identifier (.inl letter), fun c member => escapeChar_identifier (others c member)⟩

theorem plain_of_isId {text : String} (matched : isId text = true) : Json.Plain text := by
  refine plain_of_isVersionId ?_
  unfold isId at matched
  unfold isVersionId
  split at matched
  · cases matched
  · rename_i first rest same
    simp only [Bool.and_eq_true, decide_eq_true_eq, List.all_eq_true, Bool.or_eq_true,
      beq_iff_eq] at matched
    obtain ⟨⟨letter, few⟩, others⟩ := matched
    have isFirst : first.isAlphanum = true := by simp [Char.isAlphanum, Char.isAlpha, letter]
    simp only [isFirst, few, decide_true, Bool.true_and, List.all_eq_true]
    intro c member
    rcases others c member with (lower | digit) | rfl
    · simp [Char.isAlphanum, Char.isAlpha, lower]
    · simp [Char.isAlphanum, digit]
    · rfl

theorem plain_of_isRequestId {text : String} (matched : isRequestId text = true) : Json.Plain text := by
  unfold isRequestId at matched
  simp only [Bool.and_eq_true, decide_eq_true_eq, List.all_eq_true, Bool.or_eq_true] at matched
  intro c member
  refine escapeChar_identifier (.inl ?_)
  rcases matched.2 c member with digit | ⟨least, most⟩
  · simp [Char.isAlphanum, digit]
  · have lower : c.isLower = true := by
      simp only [Char.isLower, Bool.and_eq_true, decide_eq_true_eq, UInt32.le_iff_toNat_le, ge_iff_le]
      change 97 ≤ c.toNat ∧ c.toNat ≤ 122
      have most : c.toNat ≤ 102 := most
      have least : 97 ≤ c.toNat := least
      omega
    simp [Char.isAlphanum, Char.isAlpha, lower]

theorem length_answerText (accepted : Accepted host.tables request) :
    (answerText F request).length =
      (Json.object (answerFields request) : Json (Marked F)).least := by
  have ids : ∀ {offered given : List String}, Named offered given → ∀ id ∈ given, Json.Plain id :=
    fun named id member => plain_of_isId (named.legible id member).2.2
  have agents := named_of_required accepted.agents accepted.mandatoryAgents accepted.selectedAgents
  have skills := named_of_required accepted.skills accepted.mandatorySkills accepted.selectedSkills
  have nonempty : answerFields (F := F) request ≠ [] := List.cons_ne_nil _ _
  have key : ∀ field ∈ answerFields (F := F) request, Json.Plain field.1 := by
    simp only [answerFields, List.forall_mem_cons]
    exact ⟨by decide, by decide, by decide, by decide, by decide, by decide, by decide,
      fun _ member => absurd member List.not_mem_nil⟩
  have value : ∀ field ∈ answerFields (F := F) request,
      ∀ level, (Json.write Layout.compact field.2 level).length = field.2.least := by
    simp only [answerFields, List.forall_mem_cons]
    exact ⟨Json.length_write_texts (ids agents),
      Json.length_write_text (plain_of_isVersionId accepted.catalogVersion.2.2),
      Json.length_write_text (plain_of_isVersionId accepted.policyVersion.2.2),
      Json.length_write_text (plain_of_isRequestId accepted.requestId.2.2),
      Json.length_write_texts (ids skills), Json.length_write_text (by decide),
      Json.length_write_text (by decide), fun _ member => absurd member List.not_mem_nil⟩
  exact Json.length_write_compact nonempty (fun field member => ⟨key field member, value field member⟩) 0

theorem length_answer_le_of_recommend (accepted : Accepted host.tables request) {input : Input}
    (recommends : (decideReply host request input none).disposition = .recommend) :
    (answerText F request).length ≤ maxResponseBytes := by
  obtain ⟨fields, agents, skills, decoded, keys, isVersion, catalog, policy, requestId, status,
    areAgents, areSkills, agentsCovered, skillsCovered⟩ := fields_of_recommend recommends
  obtain ⟨bytes, -, short, loaded⟩ := decode_eq_ok.mp decoded
  obtain ⟨text, isText, loaded⟩ := Option.bind_eq_some_iff.mp loaded
  unfold loads at loaded
  split at loaded
  · cases loaded
  · rename_i value read
    obtain ⟨-, same⟩ := Option.ite_none_right_eq_some.mp loaded
    obtain rfl := Option.some.inj same
    have distinct : (fields.map Prod.fst).Nodup := by
      obtain ⟨given, made⟩ := Json.hooked_of_decode read
      obtain ⟨distinct, same⟩ := Raw.distinctDict_eq_ok.mp made
      obtain rfl := Json.object.inj same
      exact keys_nodup (Dict.ordered_ofFields given)
    have room := Json.least_le_of_decode read
    have fewer := least_answer_le distinct keys isVersion catalog policy requestId status areAgents
      areSkills agentsCovered skillsCovered
    have chars := length_le_of_decodeBytes isText
    rw [length_answerText accepted]
    omega

/-- **An accepted request that requires something is answerable exactly when its least reply is within
the limit.** -/
theorem exists_recommendation_iff {raw : Input} {request : Request}
    (parsed : parseRequest host raw = .ok request)
    (required : request.mandatoryAgents ++ request.selectedAgents ++ request.mandatorySkills ++
      request.selectedSkills ≠ []) :
    (∃ input, (decideReply host request input none).disposition = .recommend) ↔
      (answerText F request).length ≤ maxResponseBytes := by
  have accepted := parseRequest_accepted parsed
  constructor
  · rintro ⟨input, recommends⟩
    exact length_answer_le_of_recommend accepted recommends
  · intro short
    exact ⟨_, congrArg Decision.disposition (decideReply_answer accepted required short)⟩

/-! ## A request that names too much -/

section Sample

open Aegis.Budget (ZeroFloat)

def sampleHost : Host ZeroFloat where
  wide := ⟨fun _ _ => none, fun _ _ _ decoded => nomatch decoded⟩
  tables := asciiTables
  inUnit _ := true

def sampleOffer (id : String) : Offer := agentOffer id "x" true

def sampleRequestId : String := "00000000000000000000000000000000"

/-- A request in which every agent is mandatory. -/
def sampleRequest (ids : List String) : Request where
  version := version
  requestId := sampleRequestId
  synopsis := "x"
  stage := "design"
  catalogVersion := "1"
  policyVersion := "1"
  agents := ids.map sampleOffer
  skills := []
  mandatoryAgents := ids
  mandatorySkills := []
  selectedAgents := []
  selectedSkills := []
  invokedManualSkills := []

theorem accepted_sample {ids : List String} (few : ids.length ≤ maxItems)
    (legible : ∀ id ∈ ids, Legible 64 isId id) (distinct : ids.Nodup) :
    Accepted sampleHost.tables (sampleRequest ids) := by
  have offered : (ids.map sampleOffer).map Offer.id = ids := by
    rw [List.map_map]
    exact List.map_id _
  have nothing : ∀ {offers : List String}, Named offers [] :=
    ⟨Nat.zero_le _, fun _ member => absurd member List.not_mem_nil, .nil, List.nil_subset _⟩
  exact {
    version := rfl
    requestId := (by decide : Legible 32 isRequestId sampleRequestId)
    synopsis := (by decide : Legible 512 anyText "x")
    oneLine := (by decide : "x".toList.any breaksLine ≠ true)
    harmless := (by decide : ((prohibited asciiTables).search [] "x".toList).isSome ≠ true)
    stage := (by decide : Legible 32 anyText "design")
    known := (by decide : "design" ∈ stages)
    catalogVersion := (by decide : Legible 64 isVersionId "1")
    policyVersion := (by decide : Legible 64 isVersionId "1")
    agents := by
      refine ⟨?_, List.forall_mem_map.mpr fun id member => ⟨legible id member, ?_, rfl⟩, ?_⟩
      · show (ids.map sampleOffer).length ≤ _
        rwa [List.length_map]
      · show Legible 120 anyText "x"
        decide
      · show ((ids.map sampleOffer).map Offer.id).Nodup
        rwa [offered]
    skills := ⟨Nat.zero_le _, fun _ member => absurd member List.not_mem_nil, .nil⟩
    mandatoryAgents := ⟨few, legible, distinct, fun id member => by
      show id ∈ (ids.map sampleOffer).map Offer.id
      rwa [offered]⟩
    mandatorySkills := nothing
    selectedAgents := nothing
    selectedSkills := nothing
    invokedManualSkills := nothing
    explicit := fun _ member => absurd member List.not_mem_nil
    invoked := fun ⟨_, member, _⟩ => absurd member List.not_mem_nil }

def letters : List Char :=
  ['a', 'b', 'c', 'd', 'e', 'f', 'g', 'h', 'i', 'j', 'k', 'l', 'm', 'n', 'o', 'p']

/-- Ids of sixty-four equal letters. -/
def longIds : List String :=
  letters.map fun letter => String.ofList (List.replicate 64 letter)

theorem length_answer_sample {ids : List String} (few : ids.length ≤ maxItems)
    (legible : ∀ id ∈ ids, Legible 64 isId id) (distinct : ids.Nodup) (nonempty : ids ≠ []) :
    (answerText ZeroFloat (sampleRequest ids)).length =
      150 + (ids.map fun id => id.length + 3).sum := by
  have required : (sampleRequest ids).requiredAgents = ids := by
    show (ids ++ []).dedup = ids
    rw [List.append_nil, distinct.dedup]
  have answered : answerFields (F := ZeroFloat) (sampleRequest ids) ≠ [] := List.cons_ne_nil _ _
  rw [length_answerText (accepted_sample few legible distinct), Json.least_object answered]
  have noSkill : (textList (sampleRequest ids).requiredSkills : Json (Marked ZeroFloat)).least = 2 := rfl
  have lengths : "agents".length = 6 ∧ "catalog_version".length = 15 ∧ "1".length = 1 ∧
      "policy_version".length = 14 ∧ "request_id".length = 10 ∧ sampleRequestId.length = 32 ∧
      "skills".length = 6 ∧ "status".length = 6 ∧ "recommend".length = 9 ∧ "version".length = 7 ∧
      version.length = 1 := by decide
  simp only [answerFields, Json.leastFields, required, least_textList nonempty, noSkill, Json.least]
  simp only [sampleRequest, lengths]
  omega

theorem length_offer {id : String} (legible : Legible 64 isId id) (level : Nat) :
    (Json.write Layout.compact (agentKind.value (sampleOffer id) : Json (Marked ZeroFloat)) level).length =
      id.length + 44 := by
  have lengths : "description".length = 11 ∧ "x".length = 1 ∧ "id".length = 2 ∧
      "read_only".length = 9 := by decide
  have named := Json.length_write_text (F := Marked ZeroFloat) (plain_of_isId legible.2.2) (level + 1)
  have described := Json.length_write_text (F := Marked ZeroFloat) (by decide : Json.Plain "x") (level + 1)
  rw [Json.least] at named described
  rw [Kind.value, Json.length_write_object (F := Marked ZeroFloat) _ (List.cons_ne_nil _ _)]
  simp only [List.map_cons, List.map_nil, List.sum_cons, List.sum_nil]
  rw [Json.fieldLength_compact (F := Marked ZeroFloat) (by decide : Json.Plain "description"),
    Json.fieldLength_compact (F := Marked ZeroFloat) (by decide : Json.Plain "id"),
    Json.fieldLength_compact (F := Marked ZeroFloat) (by decide : Json.Plain "read_only")]
  have flag : (Json.write Layout.compact (.bool true : Json (Marked ZeroFloat)) (level + 1)).length = 4 :=
    rfl
  simp only [agentKind, sampleOffer, agentOffer, described, named, flag]
  show _ + 0 + 1 = _
  omega

theorem length_requestText_sample {ids : List String} (nonempty : ids ≠ [])
    (legible : ∀ id ∈ ids, Legible 64 isId id) :
    (requestText ZeroFloat (sampleRequest ids)).length =
      273 + (ids.map fun id => id.length + 45).sum + (ids.map fun id => id.length + 3).sum := by
  have lengths : "agents".length = 6 ∧ "catalog_version".length = 15 ∧ "1".length = 1 ∧
      "invoked_manual_skills".length = 21 ∧ "mandatory_agents".length = 16 ∧
      "mandatory_skills".length = 16 ∧ "policy_version".length = 14 ∧ "request_id".length = 10 ∧
      sampleRequestId.length = 32 ∧ "selected_agents".length = 15 ∧ "selected_skills".length = 15 ∧
      "skills".length = 6 ∧ "stage".length = 5 ∧ "design".length = 6 ∧ "synopsis".length = 8 ∧
      "x".length = 1 ∧ "version".length = 7 ∧ version.length = 1 := by decide
  have keys : ∀ field ∈ requestFields (F := ZeroFloat) (sampleRequest ids), Json.Plain field.1 := by
    have known : ∀ key ∈ requestKeys, Json.Plain key := by decide
    refine fun field member => known _ ?_
    simp only [requestFields, List.mem_cons, List.not_mem_nil, or_false] at member
    rcases member with rfl | rfl | rfl | rfl | rfl | rfl | rfl | rfl | rfl | rfl | rfl | rfl | rfl <;>
      simp [requestKeys]
  have text : ∀ {given : String}, Json.Plain given →
      (Json.write Layout.compact (.str given : Json (Marked ZeroFloat)) 1).length = given.length + 2 :=
    fun plain => (Json.length_write_text plain 1).trans (by rw [Json.least])
  have nothing : (Json.write Layout.compact (textList [] : Json (Marked ZeroFloat)) 1).length = 2 := rfl
  have empty : (Json.write Layout.compact (.array [] : Json (Marked ZeroFloat)) 1).length = 2 := rfl
  have named : (Json.write Layout.compact (textList ids : Json (Marked ZeroFloat)) 1).length =
      1 + (ids.map fun id => id.length + 3).sum :=
    (Json.length_write_texts (fun id member => plain_of_isId (legible id member).2.2) 1).trans
      (least_textList nonempty)
  have offers : (Json.write Layout.compact (.array ((ids.map sampleOffer).map agentKind.value) :
      Json (Marked ZeroFloat)) 1).length = 1 + (ids.map fun id => id.length + 45).sum := by
    rw [Json.length_write_array (by simpa using nonempty), List.map_map, List.map_map]
    refine congrArg (1 + ·.sum) (List.map_congr_left fun id member => ?_)
    exact congrArg (· + 1) (length_offer (legible id member) 2)
  have each := List.map_congr_left (l := requestFields (F := ZeroFloat) (sampleRequest ids))
    fun field member => Json.fieldLength_compact (keys field member) 0
  have some : requestFields (F := ZeroFloat) (sampleRequest ids) ≠ [] := List.cons_ne_nil _ _
  rw [requestText, compactText, Json.length_write_object _ some, each]
  simp only [requestFields, List.map_cons, List.map_nil, List.sum_cons, List.sum_nil, sampleRequest,
    offers, named, nothing, empty]
  rw [text (by decide : Json.Plain "1"), text (by decide : Json.Plain sampleRequestId),
    text (by decide : Json.Plain "design"), text (by decide : Json.Plain "x"),
    text (by decide : Json.Plain version)]
  simp only [lengths]
  show _ + 0 + 1 = _
  omega

theorem longIds_legible : ∀ id ∈ longIds, Legible 64 isId id := by
  refine List.forall_mem_map.mpr fun letter member => ?_
  have range : ∀ c ∈ letters, c.isLower = true ∧ isControl c = false := by decide
  obtain ⟨lower, visible⟩ := range letter member
  refine ⟨by simp, by simp [visible], ?_⟩
  simp [isId, lower]

theorem longIds_nodup : longIds.Nodup := by
  refine List.Nodup.map_on (fun left _ right _ same => ?_) (by decide)
  have same := congrArg String.toList same
  rw [String.toList_ofList, String.toList_ofList] at same
  exact (List.cons.inj same).1

/-- Sixteen mandatory agents with long ids: the request is accepted, and no reply within the limit is a
recommendation. -/
theorem crowded_unanswerable :
    parseRequest sampleHost (.text (requestText ZeroFloat (sampleRequest longIds))) =
        .ok (sampleRequest longIds) ∧
      (sampleRequest longIds).mandatoryAgents ≠ [] ∧
      ∀ input, (decideReply sampleHost (sampleRequest longIds) input none).disposition ≠ .recommend := by
  have count : longIds.length = 16 := List.length_map _
  have few : longIds.length ≤ maxItems := Nat.le_of_eq count
  have nonempty : longIds ≠ [] := by
    intro none
    rw [none] at count
    cases count
  have accepted := accepted_sample few longIds_legible longIds_nodup
  have each : ∀ id ∈ longIds, id.length = 64 := List.forall_mem_map.mpr fun _ _ => by
    rw [String.length_ofList, List.length_replicate]
  have lengths : ∀ more, (longIds.map fun id => id.length + more).sum = 16 * (64 + more) := by
    intro more
    rw [List.map_congr_left (g := fun _ => 64 + more) fun id member => by rw [each id member],
      List.map_const', count, List.sum_replicate_nat]
  have asked := length_requestText_sample nonempty longIds_legible
  have answered := length_answer_sample few longIds_legible longIds_nodup nonempty
  rw [lengths, lengths] at asked
  rw [lengths] at answered
  refine ⟨parseRequest_written accepted ?_, nonempty, fun input recommends => ?_⟩
  · rw [asked]
    decide
  · have short := length_answer_le_of_recommend accepted recommends
    rw [answered] at short
    exact absurd short (by decide)

/-- A request with one mandatory agent. -/
def singleRequest : Request := sampleRequest ["a"]

theorem single_legible : ∀ id ∈ ["a"], Legible 64 isId id := by decide

theorem single_accepted : Accepted sampleHost.tables singleRequest :=
  accepted_sample (by decide) single_legible (by decide)

theorem single_short : (answerText ZeroFloat singleRequest).length ≤ maxResponseBytes := by
  have answered : (answerText ZeroFloat singleRequest).length = _ :=
    length_answer_sample (by decide) single_legible (by decide) (List.cons_ne_nil _ _)
  rw [answered]
  decide

/-- It has a recommending reply. -/
theorem single_answerable :
    ∃ input, (decideReply sampleHost singleRequest input none).disposition = .recommend := by
  have asked : (requestText ZeroFloat singleRequest).length = _ :=
    length_requestText_sample (List.cons_ne_nil _ _) single_legible
  have parsed : parseRequest sampleHost (.text (requestText ZeroFloat singleRequest)) =
      .ok singleRequest := parseRequest_written single_accepted (by
    rw [asked]
    decide)
  exact (exists_recommendation_iff parsed (List.cons_ne_nil _ _)).mpr single_short

end Sample

end Aegis.Routing
