/-
# Routing.Contract — bounded offline routing advice

`aegis_setup/routing_contract.py`: a request offers agents and skills, names those that are mandatory
or selected, and is bound to an id and to the versions of a catalog and of a policy. A reply is
untrusted JSON; `decide` takes what it recommends only when it stays within the offer, and makes an
empty decision of everything else.
-/
import Aegis.Lib.JsonBytes
import Aegis.Lib.PythonJson
import Aegis.Lib.Regex
import Aegis.Lib.Unicode

namespace Aegis.Routing

open Aegis.Lib
open Aegis.Lib.Guarded

set_option autoImplicit false

def version : String := "2"

def maxRequestBytes : Nat := 4096

def maxResponseBytes : Nat := 1024

def maxItems : Nat := 16

def stages : List String := ["discovery", "design", "implementation", "review", "release"]

structure ContractError where
  message : String
  deriving DecidableEq, Repr

/-! ## Decoding -/

/-- What is handed in as JSON. Of a mapping, what `json.dumps` makes of it, if it does not raise. -/
inductive Input
  | bytes (given : Bytes)
  | text (given : List Char)
  | mapping (dumped : Option (List Char))
  | other

/-- What the contract takes from outside: the decoders of wide encodings, the character tables, and
whether a float lies between zero and one. -/
structure Host (F : Type) where
  wide : WideText
  tables : Unicode
  inUnit : F → Bool

section Decoding

variable {F : Type} [JsonFloat F]

/-- The UTF-8 bytes of what is handed in. -/
def Input.encoded : Input → Except ContractError Bytes
  | .bytes given => .ok given
  | .text given => .ok (encodeUtf8 given)
  | .mapping (some dumped) => .ok (encodeUtf8 dumped)
  | .mapping none => .error ⟨"unencodable object"⟩
  | .other => .error ⟨"expected JSON object"⟩

/-- `json.loads` with `_pairs`, which refuses a repeated key, and without constants. A dictionary is
kept in the order of its keys. -/
def loads (text : List Char) : Option (Json (Marked F)) :=
  match Json.decode () Raw.distinctDict text with
  | .error _ => none
  | .ok value => if value.standard = true then some value else none

/-- `_decode`. -/
def decode (host : Host F) (value : Input) (limit : Nat) :
    Except ContractError (List (String × Json (Marked F))) := do
  let encoded ← value.encoded
  require (encoded.length ≤ limit) ⟨"byte limit exceeded"⟩
  let decoded ← fetch ((decodeBytes host.wide encoded).bind loads) ⟨"invalid JSON"⟩
  match decoded with
  | .object fields => pure fields
  | _ => .error ⟨"expected JSON object"⟩

/-- The value of a key, `null` where it is missing. -/
def valueAt (fields : List (String × Json (Marked F))) (key : String) : Json (Marked F) :=
  (Dict.get? fields key).getD .null

/-- `set(fields) == expected`. -/
def HasKeys (fields : List (String × Json (Marked F))) (expected : List String) : Prop :=
  (∀ field ∈ fields, field.1 ∈ expected) ∧ ∀ key ∈ expected, key ∈ fields.map Prod.fst

instance (fields : List (String × Json (Marked F))) (expected : List String) :
    Decidable (HasKeys fields expected) := inferInstanceAs (Decidable (_ ∧ _))

/-- `_keys`. -/
def checkKeys (fields : List (String × Json (Marked F))) (expected : List String) :
    Except ContractError Unit :=
  require (HasKeys fields expected) ⟨"unexpected or missing fields"⟩

/-! ## Strings and lists of ids -/

def isControl (c : Char) : Bool := c.toNat < 32 || c.toNat = 127

/-- `_string`. -/
def readString (value : Json (Marked F)) (limit : Nat) (pattern : String → Bool) :
    Except ContractError String :=
  match value with
  | .str text => do
      require (1 ≤ text.length ∧ text.length ≤ limit) ⟨"invalid string"⟩
      refuse (text.toList.any isControl = true) ⟨"control character"⟩
      require (pattern text = true) ⟨"invalid identifier"⟩
      pure text
  | _ => .error ⟨"invalid string"⟩

/-- No pattern. -/
def anyText : String → Bool := fun _ => true

/-- `ID`. -/
def isId (text : String) : Bool :=
  match text.toList with
  | [] => false
  | first :: rest => first.isLower && decide (rest.length ≤ 63) &&
      rest.all fun c => c.isLower || c.isDigit || c == '-'

/-- `VERSION_ID`. -/
def isVersionId (text : String) : Bool :=
  match text.toList with
  | [] => false
  | first :: rest => first.isAlphanum && decide (rest.length ≤ 63) &&
      rest.all fun c => c.isAlphanum || c == '.' || c == '_' || c == '-'

/-- `REQUEST_ID`. -/
def isRequestId (text : String) : Bool :=
  decide (text.toList.length = 32) && text.toList.all fun c => c.isDigit || ('a' ≤ c && c ≤ 'f')

/-- `_ids`. -/
def readIds (value : Json (Marked F)) (offered : List String) : Except ContractError (List String) :=
  match value with
  | .array items => do
      require (items.length ≤ maxItems) ⟨"invalid ID list"⟩
      let ids ← items.mapM fun item => readString item 64 isId
      require ids.Nodup ⟨"duplicate ID"⟩
      require (ids ⊆ offered) ⟨"ID not offered"⟩
      pure ids
  | _ => .error ⟨"invalid ID list"⟩

end Decoding

/-! ## Requests -/

structure Offer where
  id : String
  description : String
  readOnly : Bool := false
  manualOnly : Bool := false
  deriving DecidableEq, Repr

structure Request where
  version : String
  requestId : String
  synopsis : String
  stage : String
  catalogVersion : String
  policyVersion : String
  agents : List Offer
  skills : List Offer
  mandatoryAgents : List String
  mandatorySkills : List String
  selectedAgents : List String
  selectedSkills : List String
  invokedManualSkills : List String
  deriving DecidableEq, Repr

/-- The ids of the offers that are manual only. -/
def manualIds (offers : List Offer) : List String := (offers.filter Offer.manualOnly).map Offer.id

section Synopsis

open Regex

/-- A letter of the pattern under `re.IGNORECASE`; a few letters outside ASCII fold to one of it. -/
def caseless (letter c : Char) : Bool :=
  c == letter || c.toLower == letter || (letter == 'i' && (c.toNat == 0x130 || c.toNat == 0x131)) ||
    (letter == 's' && c.toNat == 0x17f) || (letter == 'k' && c.toNat == 0x212a)

/-- A word of small letters under `re.IGNORECASE`. -/
def word (text : String) : Pattern := sequence (text.toList.map fun letter => one (caseless letter))

/-- `[A-Za-z]` under `re.IGNORECASE`. -/
def isDriveLetter (c : Char) : Bool :=
  c.isAlpha || c.toNat == 0x130 || c.toNat == 0x131 || c.toNat == 0x17f || c.toNat == 0x212a

/-- The destination forms and the structured data that a synopsis may not carry. -/
def prohibited (tables : Unicode) : Pattern :=
  (sequence [word "http", (one (caseless 's')).optional, literal "://"]).or <|
    (sequence [one isDriveLetter, literal ":\\"]).or <|
      (sequence [literal "/", many (· != ' ') 1 none, literal "/"]).or <|
        sequence [boundary tables.isWord,
          (sequence [word "api", (one fun c => c == '_' || c == '-').optional, word "key"]).or
            ((word "password").or ((word "secret").or (word "token"))),
          many isBlank 0 none, one fun c => c == ':' || c == '=']

/-- The line breaks that are no control characters of ASCII. -/
def breaksLine (c : Char) : Bool := [0x85, 0x2028, 0x2029].contains c.toNat

end Synopsis

section Requests

variable {F : Type} [JsonFloat F] (host : Host F)

def readFlag : Json (Marked F) → Except ContractError Bool
  | .bool flag => .ok flag
  | _ => .error ⟨"invalid offer flag"⟩

/-- The offers of one kind: the name of their flag, and the offer of an id, a description and a
flag. -/
def readOffer (flagName : String) (make : String → String → Bool → Offer) (item : Json (Marked F)) :
    Except ContractError Offer :=
  match item with
  | .object fields => do
      checkKeys fields ["id", "description", flagName]
      let flag ← readFlag (valueAt fields flagName)
      let id ← readString (valueAt fields "id") 64 isId
      let description ← readString (valueAt fields "description") 120 anyText
      pure (make id description flag)
  | _ => .error ⟨"invalid offer"⟩

/-- `offers`. -/
def readOffers (flagName : String) (make : String → String → Bool → Offer) (value : Json (Marked F)) :
    Except ContractError (List Offer) :=
  match value with
  | .array items => do
      require (items.length ≤ maxItems) ⟨"invalid offers"⟩
      let offers ← items.mapM (readOffer flagName make)
      require (offers.map Offer.id).Nodup ⟨"duplicate offer ID"⟩
      pure offers
  | _ => .error ⟨"invalid offers"⟩

def agentOffer (id description : String) (flag : Bool) : Offer := ⟨id, description, flag, false⟩

def skillOffer (id description : String) (flag : Bool) : Offer := ⟨id, description, false, flag⟩

def requestKeys : List String :=
  ["version", "request_id", "synopsis", "stage", "catalog_version", "policy_version", "agents",
    "skills", "mandatory_agents", "mandatory_skills", "selected_agents", "selected_skills",
    "invoked_manual_skills"]

/-- The synopsis of a request. -/
def readSynopsis (value : Json (Marked F)) : Except ContractError String := do
  let synopsis ← readString value 512 anyText
  refuse (synopsis.toList.any breaksLine = true) ⟨"synopsis must be one line"⟩
  refuse (((prohibited host.tables).search [] synopsis.toList).isSome = true)
    ⟨"synopsis contains prohibited data shape"⟩
  pure synopsis

/-- `parse_request`. -/
def parseRequest (raw : Input) : Except ContractError Request := do
  let data ← decode host raw maxRequestBytes
  checkKeys data requestKeys
  require ((valueAt data "version").text? = some version) ⟨"unsupported contract version"⟩
  let requestId ← readString (valueAt data "request_id") 32 isRequestId
  let synopsis ← readSynopsis host (valueAt data "synopsis")
  let stage ← readString (valueAt data "stage") 32 anyText
  require (stage ∈ stages) ⟨"unknown stage"⟩
  let catalogVersion ← readString (valueAt data "catalog_version") 64 isVersionId
  let policyVersion ← readString (valueAt data "policy_version") 64 isVersionId
  let agents ← readOffers "read_only" agentOffer (valueAt data "agents")
  let skills ← readOffers "manual_only" skillOffer (valueAt data "skills")
  let agentIds := agents.map Offer.id
  let skillIds := skills.map Offer.id
  let mandatoryAgents ← readIds (valueAt data "mandatory_agents") agentIds
  let mandatorySkills ← readIds (valueAt data "mandatory_skills") skillIds
  let selectedAgents ← readIds (valueAt data "selected_agents") agentIds
  let selectedSkills ← readIds (valueAt data "selected_skills") skillIds
  let invoked ← readIds (valueAt data "invoked_manual_skills") skillIds
  require (∀ id ∈ invoked, id ∈ selectedSkills ∧ id ∈ manualIds skills)
    ⟨"manual invocation must be an explicit selection"⟩
  refuse (∃ id ∈ mandatorySkills ++ selectedSkills, id ∈ manualIds skills ∧ id ∉ invoked)
    ⟨"manual-only skill lacks invocation"⟩
  pure ⟨version, requestId, synopsis, stage, catalogVersion, policyVersion, agents, skills,
    mandatoryAgents, mandatorySkills, selectedAgents, selectedSkills, invoked⟩

end Requests

/-! ## Decisions -/

inductive Disposition
  | recommend
  | abstain
  | timeout
  | invalid
  | unavailable
  deriving DecidableEq, Repr

structure Decision (F : Type) where
  disposition : Disposition
  agents : List String := []
  skills : List String := []
  score : Option (Marked F) := none
  reason : String := ""

/-- What an adapter reports instead of a reply: a text, or some other object. -/
inductive Failure
  | text (given : String)
  | other
  deriving DecidableEq, Repr

section Decisions

variable {F : Type} [JsonFloat F] (host : Host F)

def replyKeys : List String :=
  ["version", "request_id", "catalog_version", "policy_version", "status", "agents", "skills"]

/-- `None`, or a number between zero and one, as a float. -/
def readScore : Option (Json (Marked F)) → Except ContractError (Option (Marked F))
  | none => .ok none
  | some .null => .ok none
  | some (.int value) =>
      if 0 ≤ value ∧ value ≤ 1 then .ok (some (.number (JsonFloat.ofText (.ofInt value))))
      else .error ⟨"invalid score"⟩
  | some (.float (.number value)) =>
      if host.inUnit value = true then .ok (some (.number value)) else .error ⟨"invalid score"⟩
  | some _ => .error ⟨"invalid score"⟩

/-- The advice of a reply: whether it recommends, and what. -/
structure Advice (F : Type) where
  recommends : Bool
  agents : List String
  skills : List String
  score : Option (Marked F)

/-- What a reply has to be before its selections are looked at. -/
def readAdvice (request : Request) (data : List (String × Json (Marked F))) :
    Except ContractError (Advice F) := do
  require ((∀ key ∈ replyKeys, key ∈ data.map Prod.fst) ∧
    ∀ field ∈ data, field.1 ∈ replyKeys ∨ field.1 = "score") ⟨"unexpected or missing fields"⟩
  require ((valueAt data "version").text? = some version ∧
      (valueAt data "catalog_version").text? = some request.catalogVersion ∧
      (valueAt data "policy_version").text? = some request.policyVersion)
    ⟨"stale or malformed version"⟩
  let requestId ← readString (valueAt data "request_id") 32 isRequestId
  require (requestId = request.requestId) ⟨"response for another request"⟩
  let status ← fetch ((valueAt data "status").text?) ⟨"invalid status"⟩
  require (status = "recommend" ∨ status = "abstain") ⟨"invalid status"⟩
  let agents ← readIds (valueAt data "agents") (request.agents.map Offer.id)
  let skills ← readIds (valueAt data "skills") (request.skills.map Offer.id)
  let score ← readScore host (Dict.get? data "score")
  pure ⟨status = "recommend", agents, skills, score⟩

/-- The checks of what an advice selects. -/
def judgeAdvice (request : Request) (advice : Advice F) : Except ContractError (Decision F) :=
  if advice.recommends = false then do
    require (advice.agents = [] ∧ advice.skills = [] ∧ advice.score.isNone = true)
      ⟨"abstain carries selections"⟩
    pure { disposition := .abstain }
  else do
    refuse (advice.agents = [] ∧ advice.skills = []) ⟨"empty recommendation"⟩
    require (∀ id ∈ request.mandatoryAgents ++ request.selectedAgents, id ∈ advice.agents)
      ⟨"missing mandatory or explicit agent"⟩
    require (∀ id ∈ request.mandatorySkills ++ request.selectedSkills, id ∈ advice.skills)
      ⟨"missing mandatory or explicit skill"⟩
    refuse (∃ id ∈ advice.skills, id ∈ manualIds request.skills ∧ id ∉ request.invokedManualSkills)
      ⟨"manual-only skill not invoked"⟩
    pure ⟨.recommend, advice.agents, advice.skills, advice.score, ""⟩

/-- The `try` block of `decide`. -/
def readReply (request : Request) (raw : Input) : Except ContractError (Decision F) := do
  let data ← decode host raw maxResponseBytes
  let advice ← readAdvice host request data
  judgeAdvice request advice

/-- `decide`. -/
def decideReply (request : Request) (raw : Input) : Option Failure → Decision F
  | some (.text "timeout") => { disposition := .timeout, reason := "adapter failure" }
  | some (.text "unavailable") => { disposition := .unavailable, reason := "adapter failure" }
  | some _ => { disposition := .invalid, reason := "unknown adapter failure" }
  | none =>
      match readReply host request raw with
      | .ok decision => decision
      | .error error => { disposition := .invalid, reason := error.message }

end Decisions

end Aegis.Routing
