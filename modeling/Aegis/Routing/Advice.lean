/-
# Routing.Advice — untrusted advice only chooses among permitted sets

What `decide` recommends was offered, covers what is mandatory or selected, and holds no manual-only
skill that was not invoked (`Permitted`); it comes from a reply within the byte limit that carries
the id and the versions of the request (`Carries`). Every other decision is empty. A reply is read up
to the order of its fields and its white space (`decide_permitted`).
-/
import Aegis.Routing.Contract

namespace Aegis.Routing

open Aegis.Lib
open Aegis.Lib.Guarded

set_option autoImplicit false

variable {F : Type} [JsonFloat F] {host : Host F}

/-! ## What the readers return -/

omit [JsonFloat F] in
theorem readString_eq_ok {value : Json (Marked F)} {limit : Nat} {pattern : String → Bool}
    {text : String} : readString value limit pattern = .ok text ↔
      value = .str text ∧ (1 ≤ text.length ∧ text.length ≤ limit) ∧
        text.toList.any isControl ≠ true ∧ pattern text = true := by
  unfold readString
  split
  · rename_i held
    simp only [bind_eq_ok, require_eq_ok, refuse_eq_ok, pure_eq_ok]
    constructor
    · rintro ⟨_, long, _, plain, _, matched, rfl⟩
      exact ⟨rfl, long, plain, matched⟩
    · rintro ⟨same, long, plain, matched⟩
      obtain rfl := Json.str.inj same
      exact ⟨⟨⟩, long, ⟨⟩, plain, ⟨⟩, matched, rfl⟩
  · rename_i other
    constructor
    · intro read
      cases read
    · rintro ⟨same, -⟩
      exact absurd same (other text)

omit [JsonFloat F] in
theorem readIds_eq_ok {value : Json (Marked F)} {offered ids : List String} :
    readIds value offered = .ok ids ↔ (∃ items, value = .array items ∧ items.length ≤ maxItems ∧
      items.mapM (fun item => readString item 64 isId) = .ok ids) ∧ ids.Nodup ∧ ids ⊆ offered := by
  unfold readIds
  split
  · rename_i items
    simp only [bind_eq_ok, require_eq_ok, pure_eq_ok]
    constructor
    · rintro ⟨_, short, _, read, _, distinct, _, subset, rfl⟩
      exact ⟨⟨items, rfl, short, read⟩, distinct, subset⟩
    · rintro ⟨⟨_, same, short, read⟩, distinct, subset⟩
      obtain rfl := Json.array.inj same
      exact ⟨⟨⟩, short, ids, read, ⟨⟩, distinct, ⟨⟩, subset, rfl⟩
  · rename_i other
    constructor
    · intro read
      cases read
    · rintro ⟨⟨items, same, -⟩, -⟩
      exact absurd same (other items)

/-! ## What is recommended -/

/-- Selections that a request permits. -/
structure Permitted (request : Request) (agents skills : List String) : Prop where
  agents_nodup : agents.Nodup
  skills_nodup : skills.Nodup
  agents_offered : agents ⊆ request.agents.map Offer.id
  skills_offered : skills ⊆ request.skills.map Offer.id
  agents_covered : ∀ id ∈ request.mandatoryAgents ++ request.selectedAgents, id ∈ agents
  skills_covered : ∀ id ∈ request.mandatorySkills ++ request.selectedSkills, id ∈ skills
  nonempty : ¬ (agents = [] ∧ skills = [])
  invoked : ∀ id ∈ skills, id ∈ manualIds request.skills → id ∈ request.invokedManualSkills

/-- A reply within the byte limit that carries the id and the versions of a request. -/
def Carries (host : Host F) (request : Request) (raw : Input) : Prop :=
  ∃ (bytes : Bytes) (fields : List (String × Json (Marked F))), raw.encoded = .ok bytes ∧
    bytes.length ≤ maxResponseBytes ∧ (decodeBytes host.wide bytes).bind loads = some (.object fields) ∧
    valueAt fields "request_id" = .str request.requestId ∧
    valueAt fields "catalog_version" = .str request.catalogVersion ∧
    valueAt fields "policy_version" = .str request.policyVersion

theorem decode_eq_ok {raw : Input} {limit : Nat} {fields : List (String × Json (Marked F))} :
    decode host raw limit = .ok fields ↔ ∃ bytes, raw.encoded = .ok bytes ∧ bytes.length ≤ limit ∧
      (decodeBytes host.wide bytes).bind loads = some (.object fields) := by
  unfold decode
  simp only [bind_eq_ok, require_eq_ok, fetch_eq_ok]
  constructor
  · rintro ⟨bytes, encoded, _, short, value, read, object⟩
    split at object
    · obtain rfl := Except.ok.inj object
      exact ⟨bytes, encoded, short, read⟩
    · cases object
  · rintro ⟨bytes, encoded, short, read⟩
    exact ⟨bytes, encoded, ⟨⟩, short, _, read, rfl⟩

omit [JsonFloat F] in
theorem text?_eq_some {value : Json (Marked F)} {text : String} (read : value.text? = some text) :
    value = .str text := by
  cases value with
  | str held => exact congrArg _ (Option.some.inj read)
  | _ => cases read

theorem readAdvice_eq_ok {request : Request} {data : List (String × Json (Marked F))}
    {advice : Advice F} (read : readAdvice host request data = .ok advice) :
    valueAt data "request_id" = .str request.requestId ∧
      valueAt data "catalog_version" = .str request.catalogVersion ∧
      valueAt data "policy_version" = .str request.policyVersion ∧
      advice.agents.Nodup ∧ advice.skills.Nodup ∧ advice.agents ⊆ request.agents.map Offer.id ∧
        advice.skills ⊆ request.skills.map Offer.id := by
  unfold readAdvice at read
  simp only [bind_eq_ok, require_eq_ok, fetch_eq_ok, pure_eq_ok] at read
  obtain ⟨_, -, _, ⟨-, catalog, policy⟩, requestId, isId, _, rfl, status, -, _, -, agents, agentsRead,
    skills, skillsRead, score, -, rfl⟩ := read
  obtain ⟨-, agentsDistinct, agentsOffered⟩ := readIds_eq_ok.mp agentsRead
  obtain ⟨-, skillsDistinct, skillsOffered⟩ := readIds_eq_ok.mp skillsRead
  exact ⟨(readString_eq_ok.mp isId).1, text?_eq_some catalog, text?_eq_some policy, agentsDistinct,
    skillsDistinct, agentsOffered, skillsOffered⟩

omit [JsonFloat F] in
/-- An advice is taken as an abstention without selections, or as a recommendation. -/
theorem judgeAdvice_eq_ok {request : Request} {advice : Advice F} {decision : Decision F}
    (judged : judgeAdvice request advice = .ok decision) :
    decision = { disposition := .abstain } ∨
      (decision = ⟨.recommend, advice.agents, advice.skills, advice.score, ""⟩ ∧
        (∀ id ∈ request.mandatoryAgents ++ request.selectedAgents, id ∈ advice.agents) ∧
        (∀ id ∈ request.mandatorySkills ++ request.selectedSkills, id ∈ advice.skills) ∧
        ¬ (advice.agents = [] ∧ advice.skills = []) ∧
        ∀ id ∈ advice.skills, id ∈ manualIds request.skills → id ∈ request.invokedManualSkills) := by
  unfold judgeAdvice at judged
  split at judged
  · simp only [bind_eq_ok, require_eq_ok, pure_eq_ok] at judged
    obtain ⟨_, -, rfl⟩ := judged
    exact .inl rfl
  · simp only [bind_eq_ok, require_eq_ok, refuse_eq_ok, pure_eq_ok] at judged
    obtain ⟨_, nonempty, _, agents, _, skills, _, manual, rfl⟩ := judged
    refine .inr ⟨rfl, agents, skills, nonempty, fun id member isManual => ?_⟩
    by_contra uninvoked
    exact manual ⟨id, member, isManual, uninvoked⟩

/-- **A decision recommends what is permitted, out of a reply that carries the request; else it is
empty.** -/
theorem decideReply_cases (host : Host F) (request : Request) (raw : Input) (failure : Option Failure) :
    let decision := decideReply host request raw failure
    (decision.disposition = .recommend ∧ failure = none ∧
      Permitted request decision.agents decision.skills ∧ Carries host request raw) ∨
    (decision.disposition ≠ .recommend ∧ decision.agents = [] ∧ decision.skills = []) := by
  unfold decideReply
  split
  · exact .inr ⟨(fun same => by cases same), rfl, rfl⟩
  · exact .inr ⟨(fun same => by cases same), rfl, rfl⟩
  · exact .inr ⟨(fun same => by cases same), rfl, rfl⟩
  · split
    · rename_i decision read
      unfold readReply at read
      simp only [bind_eq_ok] at read
      obtain ⟨data, decoded, advice, advised, judged⟩ := read
      obtain ⟨bytes, encoded, short, loaded⟩ := decode_eq_ok.mp decoded
      obtain ⟨requestId, catalog, policy, agentsDistinct, skillsDistinct, agentsOffered,
        skillsOffered⟩ := readAdvice_eq_ok advised
      rcases judgeAdvice_eq_ok judged with rfl | ⟨rfl, agents, skills, nonempty, manual⟩
      · exact .inr ⟨(fun same => by cases same), rfl, rfl⟩
      · exact .inl ⟨rfl, rfl, ⟨agentsDistinct, skillsDistinct, agentsOffered, skillsOffered, agents,
          skills, nonempty, manual⟩, bytes, data, encoded, short, loaded, requestId, catalog, policy⟩
    · exact .inr ⟨(fun same => by cases same), rfl, rfl⟩

/-! ## Spellings -/

/-- A reply within the byte limit whose text spells a raw text. -/
def SpelledBy (host : Host F) (input : Input) (raw : Raw) : Prop :=
  ∃ bytes before text behind, input.encoded = .ok bytes ∧ bytes.length ≤ maxResponseBytes ∧
    decodeBytes host.wide bytes = some (before ++ (text ++ behind)) ∧
    IsBlank before ∧ raw.Spells text ∧ IsBlank behind

/-- Two replies within the limit that differ in the order of keys and in white space only. -/
def Respelled (host : Host F) (input input' : Input) : Prop :=
  ∃ raw raw', SpelledBy host input raw ∧ SpelledBy host input' raw' ∧ Raw.Reordered raw raw'

/-- What a reply is read as, from what its raw text makes. -/
theorem decode_spelledBy {input : Input} {raw : Raw} (spelled : SpelledBy host input raw) :
    decode host input maxResponseBytes =
      (fetch (match raw.value (F := Marked F) () Raw.distinctDict with
        | .error _ => none
        | .ok value => if value.standard = true then some value else none)
        ⟨"invalid JSON"⟩ >>= fun decoded => match decoded with
          | .object fields => pure fields
          | _ => .error ⟨"expected JSON object"⟩) := by
  obtain ⟨bytes, before, text, behind, encoded, short, decoded, blank, spells, blank'⟩ := spelled
  have read : Json.decode () Raw.distinctDict (before ++ (text ++ behind)) =
      raw.value (F := Marked F) () Raw.distinctDict := Raw.decode_spelled blank spells blank'
  rw [decode, encoded]
  show (require (bytes.length ≤ maxResponseBytes) _ >>= _) = _
  rw [require, if_pos short, decoded]
  show (fetch (loads (before ++ (text ++ behind))) _ >>= _) = _
  rw [loads, read] <;> rfl

/-- **Replies that are spelled differently are read alike.** -/
theorem decideReply_respelled {input input' : Input} (respelled : Respelled host input input')
    (request : Request) (failure : Option Failure) :
    decideReply host request input failure = decideReply host request input' failure := by
  obtain ⟨raw, raw', spelled, spelled', reordered⟩ := respelled
  have same : decode host input maxResponseBytes = decode host input' maxResponseBytes := by
    rw [decode_spelledBy spelled, decode_spelledBy spelled', Raw.value_of_reordered reordered]
  unfold decideReply readReply
  rw [same]

end Aegis.Routing
