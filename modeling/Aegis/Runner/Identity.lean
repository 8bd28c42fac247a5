/-
# Runner.Identity — the identities of cases

`identity.py`: a case uid joins the target owner, the eval file kind, the case id and the hash of
the case's canonical JSON with `::`. `buildCaseUid` refuses a component that holds the separator,
and `parseCaseUid` cuts a uid at the leftmost separators.

A component may end in a single colon. The separator behind it is then found one character early,
so the uid does not read back: `reads_back_iff` says that a built uid reads back exactly when
neither free text ends in a colon. The uid still determines the components
(`components_of_caseUid_eq`).
-/
import Aegis.Budget.Conservation
import Aegis.Lib.DoubledSeparator
import Aegis.Lib.Guarded
import Aegis.Lib.PythonJson
import Aegis.Lib.Vocabulary

namespace Aegis.Runner

open Aegis.Lib
open Aegis.Lib.Guarded

set_option autoImplicit false

/-- The errors that these modules raise. -/
inductive RunnerError
  | identity (message : String)
  | unknownEnumValue (enumeration : String)
  | canonicalization (message : String)
  | schemaValidation (message : String)
  | aggregation (message : String)
  | duplicateAttempt (message : String)
  | scheduler (message : String)
  | budget (error : Aegis.Budget.BudgetError)
  | keyError (key : String)
  | typeError (message : String)
  deriving DecidableEq, Repr

inductive EvalFileKind
  | behaviorEval
  | triggerEval
  | conversationSuite
  deriving DecidableEq, Repr

namespace EvalFileKind

def text : EvalFileKind → String
  | behaviorEval => "behavior_eval"
  | triggerEval => "trigger_eval"
  | conversationSuite => "conversation_suite"

instance : Vocabulary EvalFileKind where
  text := text
  text_injective := by
    intro left right
    cases left <;> cases right <;> decide

def all : List EvalFileKind := [behaviorEval, triggerEval, conversationSuite]

/-- `EvalFileKind.parse` of a text. -/
def parseText (value : String) : Except RunnerError EvalFileKind :=
  fetch (all.find? fun kind => kind.text = value) (.unknownEnumValue "EvalFileKind")

/-- `EvalFileKind.parse` of a member or a text. -/
def parse : EvalFileKind ⊕ String → Except RunnerError EvalFileKind
  | .inl kind => .ok kind
  | .inr value => parseText value

@[simp] theorem parseText_text (kind : EvalFileKind) : parseText kind.text = .ok kind := by
  cases kind <;> decide

/-- No kind's text has a colon. -/
theorem colon_notMem_text (kind : EvalFileKind) : ':' ∉ kind.text.toList := by
  cases kind <;> decide

end EvalFileKind

/-- `SEPARATOR in value`. -/
def HasSeparator (value : String) : Prop := Doubled ':' value.toList

instance (value : String) : Decidable (HasSeparator value) :=
  inferInstanceAs (Decidable (Doubled _ _))

/-- `SEPARATOR.join(fields)`. -/
def joinFields : List (List Char) → List Char
  | [] => []
  | [field] => field
  | field :: rest => field ++ ':' :: ':' :: joinFields rest

/-- `_require_component`. -/
def requireComponent (name value : String) : Except RunnerError String := do
  require (value ≠ "") (.identity (name ++ " must be a non-empty string"))
  refuse (HasSeparator value) (.identity (name ++ " must not contain '::'"))
  pure value

theorem requireComponent_eq_ok {name value result : String} :
    requireComponent name value = .ok result ↔
      value ≠ "" ∧ ¬ HasSeparator value ∧ result = value := by
  unfold requireComponent
  simp only [bind_eq_ok, require_eq_ok, refuse_eq_ok, pure_eq_ok]
  constructor
  · rintro ⟨_, nonempty, _, free, rfl⟩
    exact ⟨nonempty, free, rfl⟩
  · rintro ⟨nonempty, free, rfl⟩
    exact ⟨⟨⟩, nonempty, ⟨⟩, free, rfl⟩

/-- What `hashlib.sha256(..).hexdigest()` looks like. -/
def IsHexDigest (digest : String) : Prop :=
  digest.toList.length = 64 ∧ ∀ c ∈ digest.toList, c ∈ "0123456789abcdef".toList

instance (digest : String) : Decidable (IsHexDigest digest) :=
  inferInstanceAs (Decidable (_ ∧ _))

structure CaseUidParts where
  targetOwner : String
  evalFileKind : EvalFileKind
  caseId : String
  definitionHash : String
  deriving DecidableEq, Repr

/-- `parse_case_uid`. -/
def parseCaseUid (caseUid : String) : Except RunnerError CaseUidParts :=
  match (splitDoubled ':' caseUid.toList).map String.ofList with
  | [owner, kindRaw, caseId, definitionHash] => do
      let owner ← requireComponent "target_owner" owner
      let kind ← EvalFileKind.parseText kindRaw
      let caseId ← requireComponent "case_id" caseId
      require (IsHexDigest definitionHash)
        (.identity "case-definition hash must be 64 lowercase hex chars")
      pure ⟨owner, kind, caseId, definitionHash⟩
  | _ => .error (.identity "case_uid must have 4 '::' components")

section Build

variable {F : Type} [JsonFloat F]

/-- The arguments of `build_case_uid`. -/
structure CaseIdentity (F : Type) where
  targetOwner : String
  evalFileKind : EvalFileKind ⊕ String
  caseId : String
  /-- The fields of the case definition. -/
  caseDefinition : List (String × Json F)

/-- The case definition is canonical JSON. -/
def CaseIdentity.Canonical (identity : CaseIdentity F) : Prop :=
  (Json.object identity.caseDefinition).finite = true ∧
    (Json.object identity.caseDefinition).convertible = true

instance (identity : CaseIdentity F) : Decidable identity.Canonical :=
  inferInstanceAs (Decidable (_ ∧ _))

/-- `canonical_json` of the case definition. -/
def CaseIdentity.canonicalJson (identity : CaseIdentity F) : String :=
  String.ofList (Json.object identity.caseDefinition).canonical

variable (sha256Hex : String → String)

/-- `case_definition_hash`. -/
def caseDefinitionHash (identity : CaseIdentity F) : Except RunnerError String := do
  require identity.Canonical (.canonicalization "case definition")
  pure (sha256Hex identity.canonicalJson)

/-- `SEPARATOR.join` of the components. -/
def CaseUidParts.uid (parts : CaseUidParts) : String :=
  String.ofList (joinFields
    [parts.targetOwner.toList, parts.evalFileKind.text.toList, parts.caseId.toList,
      parts.definitionHash.toList])

/-- `build_case_uid`. -/
def buildCaseUid (identity : CaseIdentity F) : Except RunnerError String := do
  let owner ← requireComponent "target_owner" identity.targetOwner
  let kind ← EvalFileKind.parse identity.evalFileKind
  let caseId ← requireComponent "case_id" identity.caseId
  let definitionHash ← caseDefinitionHash sha256Hex identity
  pure (CaseUidParts.uid ⟨owner, kind, caseId, definitionHash⟩)

variable {sha256Hex} {identity : CaseIdentity F} {caseUid : String}

/-- What the identity of a case is made of. -/
structure Made (sha256Hex : String → String) (identity : CaseIdentity F) (parts : CaseUidParts) :
    Prop where
  owner : parts.targetOwner = identity.targetOwner
  ownerNonempty : parts.targetOwner ≠ ""
  ownerFree : ¬ HasSeparator parts.targetOwner
  kind : EvalFileKind.parse identity.evalFileKind = .ok parts.evalFileKind
  caseId : parts.caseId = identity.caseId
  caseIdNonempty : parts.caseId ≠ ""
  caseIdFree : ¬ HasSeparator parts.caseId
  canonical : identity.Canonical
  hash : parts.definitionHash = sha256Hex identity.canonicalJson

theorem buildCaseUid_eq_ok :
    buildCaseUid sha256Hex identity = .ok caseUid ↔
      ∃ parts, Made sha256Hex identity parts ∧ caseUid = parts.uid := by
  unfold buildCaseUid caseDefinitionHash
  simp only [bind_eq_ok, requireComponent_eq_ok, require_eq_ok, pure_eq_ok]
  constructor
  · rintro ⟨owner, ⟨ownerNonempty, ownerFree, rfl⟩, kind, parsed, caseId,
      ⟨caseIdNonempty, caseIdFree, rfl⟩, hash, ⟨_, canonical, rfl⟩, rfl⟩
    exact ⟨_, ⟨rfl, ownerNonempty, ownerFree, parsed, rfl, caseIdNonempty, caseIdFree, canonical,
      rfl⟩, rfl⟩
  · rintro ⟨⟨owner, kind, caseId, hash⟩, made, rfl⟩
    obtain ⟨rfl, ownerNonempty, ownerFree, parsed, rfl, caseIdNonempty, caseIdFree, canonical,
      rfl⟩ := made
    exact ⟨_, ⟨ownerNonempty, ownerFree, rfl⟩, kind, parsed, _, ⟨caseIdNonempty, caseIdFree, rfl⟩,
      _, ⟨⟨⟩, canonical, rfl⟩, rfl⟩

end Build

/-! ## Reading a uid back -/

/-- A text that ends in the character of the separator. -/
def EndsInColon (value : String) : Prop := value.toList.getLast? = some ':'

instance (value : String) : Decidable (EndsInColon value) :=
  inferInstanceAs (Decidable (_ = _))

theorem not_doubled_of_notMem {text : List Char} (free : ':' ∉ text) : ¬ Doubled ':' text := by
  intro found
  exact free (found.subset List.mem_cons_self)

theorem getLast?_ne_of_notMem {text : List Char} (free : ':' ∉ text) :
    text.getLast? ≠ some ':' := by
  intro last
  exact free (List.mem_of_getLast? last)

theorem colon_notMem_of_isHexDigest {digest : String} (hex : IsHexDigest digest) :
    ':' ∉ digest.toList := by
  intro member
  have digit := hex.2 ':' member
  revert digit
  decide

theorem toList_uid (parts : CaseUidParts) :
    parts.uid.toList = parts.targetOwner.toList ++ ':' :: ':' ::
      (parts.evalFileKind.text.toList ++ ':' :: ':' ::
        (parts.caseId.toList ++ ':' :: ':' :: parts.definitionHash.toList)) := by
  rw [CaseUidParts.uid, String.toList_ofList]
  rfl

/-- A uid whose free texts do not end in a colon is cut into its components. -/
theorem splitDoubled_uid {parts : CaseUidParts} (ownerFree : ¬ HasSeparator parts.targetOwner)
    (caseIdFree : ¬ HasSeparator parts.caseId) (hex : IsHexDigest parts.definitionHash)
    (owner : ¬ EndsInColon parts.targetOwner) (caseId : ¬ EndsInColon parts.caseId) :
    splitDoubled ':' parts.uid.toList =
      [parts.targetOwner.toList, parts.evalFileKind.text.toList, parts.caseId.toList,
        parts.definitionHash.toList] := by
  have kind := EvalFileKind.colon_notMem_text parts.evalFileKind
  rw [toList_uid, splitDoubled_append _ ownerFree owner,
    splitDoubled_append _ (not_doubled_of_notMem kind) (getLast?_ne_of_notMem kind),
    splitDoubled_append _ caseIdFree caseId,
    splitDoubled_of_free (not_doubled_of_notMem (colon_notMem_of_isHexDigest hex))]

/-- A parsed uid was cut into the components that are returned. -/
theorem splitDoubled_of_parseCaseUid {caseUid : String} {parts : CaseUidParts}
    (parsed : parseCaseUid caseUid = .ok parts) :
    splitDoubled ':' caseUid.toList =
      [parts.targetOwner.toList, parts.evalFileKind.text.toList, parts.caseId.toList,
        parts.definitionHash.toList] := by
  unfold parseCaseUid at parsed
  split at parsed
  · rename_i owner kindRaw caseId hash cut
    simp only [bind_eq_ok, requireComponent_eq_ok, require_eq_ok, pure_eq_ok] at parsed
    obtain ⟨_, ⟨-, -, rfl⟩, kind, parsedKind, _, ⟨-, -, rfl⟩, _, -, rfl⟩ := parsed
    have found : kind.text = kindRaw := by
      rw [EvalFileKind.parseText, fetch_eq_ok] at parsedKind
      simpa using List.find?_some parsedKind
    have back := congrArg (List.map String.toList) cut
    rw [List.map_map] at back
    simpa [Function.comp_def, found] using back
  · cases parsed

/-- Reading a cut text back. -/
theorem parseCaseUid_of_splitDoubled {caseUid : String} {parts : CaseUidParts}
    (ownerNonempty : parts.targetOwner ≠ "") (ownerFree : ¬ HasSeparator parts.targetOwner)
    (caseIdNonempty : parts.caseId ≠ "") (caseIdFree : ¬ HasSeparator parts.caseId)
    (hex : IsHexDigest parts.definitionHash)
    (cut : splitDoubled ':' caseUid.toList =
      [parts.targetOwner.toList, parts.evalFileKind.text.toList, parts.caseId.toList,
        parts.definitionHash.toList]) :
    parseCaseUid caseUid = .ok parts := by
  unfold parseCaseUid
  rw [cut]
  simp only [List.map_cons, List.map_nil, String.ofList_toList]
  simp only [bind_eq_ok, requireComponent_eq_ok, require_eq_ok, pure_eq_ok]
  exact ⟨_, ⟨ownerNonempty, ownerFree, rfl⟩, _, EvalFileKind.parseText_text _, _,
    ⟨caseIdNonempty, caseIdFree, rfl⟩, ⟨⟩, hex, rfl⟩

section ReadBack

variable {F : Type} [JsonFloat F] {sha256Hex : String → String} {identity other : CaseIdentity F}
  {parts otherParts : CaseUidParts}

/-- **A uid reads back as its components** exactly when neither free text ends in a colon. -/
theorem parseCaseUid_uid_iff (hex : ∀ text, IsHexDigest (sha256Hex text))
    (made : Made sha256Hex identity parts) :
    parseCaseUid parts.uid = .ok parts ↔
      ¬ EndsInColon parts.targetOwner ∧ ¬ EndsInColon parts.caseId := by
  have digest : IsHexDigest parts.definitionHash := made.hash ▸ hex _
  constructor
  · intro parsed
    have cut := splitDoubled_of_parseCaseUid parsed
    have kind := EvalFileKind.colon_notMem_text parts.evalFileKind
    have owner : ¬ EndsInColon parts.targetOwner := by
      intro ends
      obtain ⟨start, whole, free, open_⟩ := exists_of_getLast?_mark made.ownerFree ends
      rw [toList_uid, whole, splitDoubled_cons_mark _ free open_] at cut
      have short := congrArg List.length (List.cons.inj cut).1
      simp at short
    refine ⟨owner, fun ends => ?_⟩
    obtain ⟨start, whole, free, open_⟩ := exists_of_getLast?_mark made.caseIdFree ends
    rw [toList_uid, splitDoubled_append _ made.ownerFree owner,
      splitDoubled_append _ (not_doubled_of_notMem kind) (getLast?_ne_of_notMem kind), whole,
      splitDoubled_cons_mark _ free open_] at cut
    have short := congrArg List.length (List.cons.inj (List.cons.inj (List.cons.inj cut).2).2).1
    simp at short
  · rintro ⟨owner, caseId⟩
    exact parseCaseUid_of_splitDoubled made.ownerNonempty made.ownerFree made.caseIdNonempty
      made.caseIdFree digest (splitDoubled_uid made.ownerFree made.caseIdFree digest owner caseId)

/-- **Equal uids have equal components.** -/
theorem components_of_uid_eq (hex : ∀ text, IsHexDigest (sha256Hex text))
    (made : Made sha256Hex identity parts) (otherMade : Made sha256Hex other otherParts)
    (same : parts.uid = otherParts.uid) : parts = otherParts := by
  have digest : IsHexDigest parts.definitionHash := made.hash ▸ hex _
  have otherDigest : IsHexDigest otherParts.definitionHash := otherMade.hash ▸ hex _
  have texts := congrArg String.toList same
  rw [toList_uid, toList_uid] at texts
  have starts : ∀ (kind : EvalFileKind) (rest : List Char),
      (kind.text.toList ++ rest).head? ≠ some ':' := by
    intro kind rest
    cases kind <;> simp [EvalFileKind.text]
  have ends : ∀ kind : EvalFileKind, kind.text.toList.getLast? ≠ some ':' :=
    fun kind => getLast?_ne_of_notMem (EvalFileKind.colon_notMem_text kind)
  have kindFree : ∀ kind : EvalFileKind, ¬ Doubled ':' kind.text.toList :=
    fun kind => not_doubled_of_notMem (EvalFileKind.colon_notMem_text kind)
  obtain ⟨owner, afterOwner⟩ := field_of_append_eq made.ownerFree otherMade.ownerFree
    (fun first => absurd first (starts _ _)) (fun first => absurd first (starts _ _)) texts
  obtain ⟨kind, afterKind⟩ := field_of_append_eq (kindFree _) (kindFree _)
    (fun _ => ends _) (fun _ => ends _) afterOwner
  -- the digests are as long as each other, so the case ids are too
  have level : parts.definitionHash.toList.length = otherParts.definitionHash.toList.length := by
    rw [digest.1, otherDigest.1]
  have lengths := congrArg List.length afterKind
  simp only [List.length_append, List.length_cons] at lengths
  obtain ⟨caseId, hash⟩ := List.append_inj afterKind (by omega)
  cases parts
  cases otherParts
  simp only [CaseUidParts.mk.injEq]
  exact ⟨String.toList_inj.mp owner, text_injective (String.toList_inj.mp kind),
    String.toList_inj.mp caseId, String.toList_inj.mp (by simpa using hash)⟩

/-- Two different case definitions with one hash. -/
def Collide (sha256Hex : String → String) (left right : CaseIdentity F) : Prop :=
  left.canonicalJson ≠ right.canonicalJson ∧
    sha256Hex left.canonicalJson = sha256Hex right.canonicalJson

/-- A uid returns what it was built from, and nothing else was built into it. -/
structure RoundTrips (sha256Hex : String → String) (identity : CaseIdentity F) (caseUid : String) :
    Prop where
  parses : ∃ kind, EvalFileKind.parse identity.evalFileKind = .ok kind ∧
    parseCaseUid caseUid =
      .ok ⟨identity.targetOwner, kind, identity.caseId, sha256Hex identity.canonicalJson⟩
  determines : ∀ other : CaseIdentity F, buildCaseUid sha256Hex other = .ok caseUid →
    ¬ Collide sha256Hex identity other →
    identity.targetOwner = other.targetOwner ∧
      EvalFileKind.parse identity.evalFileKind = EvalFileKind.parse other.evalFileKind ∧
      identity.caseId = other.caseId ∧ identity.canonicalJson = other.canonicalJson

theorem Made.parts_eq {kind : EvalFileKind} (made : Made sha256Hex identity parts)
    (parsed : EvalFileKind.parse identity.evalFileKind = .ok kind) :
    parts = ⟨identity.targetOwner, kind, identity.caseId, sha256Hex identity.canonicalJson⟩ := by
  have same := made.kind.symm.trans parsed
  cases parts
  simp only [CaseUidParts.mk.injEq]
  exact ⟨made.owner, Except.ok.inj same, made.caseId, made.hash⟩

/-- Equal uids were built from equal components, and from equal definitions unless their hashes
collide. -/
theorem Made.determines (hex : ∀ text, IsHexDigest (sha256Hex text))
    (made : Made sha256Hex identity parts)
    (built : buildCaseUid sha256Hex other = .ok parts.uid)
    (apart : ¬ Collide sha256Hex identity other) :
    identity.targetOwner = other.targetOwner ∧
      EvalFileKind.parse identity.evalFileKind = EvalFileKind.parse other.evalFileKind ∧
      identity.caseId = other.caseId ∧ identity.canonicalJson = other.canonicalJson := by
  obtain ⟨otherParts, otherMade, same⟩ := buildCaseUid_eq_ok.mp built
  have equal := components_of_uid_eq hex made otherMade same
  subst equal
  have hashes : sha256Hex identity.canonicalJson = sha256Hex other.canonicalJson :=
    made.hash.symm.trans otherMade.hash
  refine ⟨made.owner.symm.trans otherMade.owner, made.kind.trans otherMade.kind.symm,
    made.caseId.symm.trans otherMade.caseId, ?_⟩
  by_contra different
  exact apart ⟨different, hashes⟩

/-- **Case identities round-trip exactly when neither free text ends in a colon.** -/
theorem caseUid_roundTrips_iff {caseUid : String} (hex : ∀ text, IsHexDigest (sha256Hex text))
    (built : buildCaseUid sha256Hex identity = .ok caseUid) :
    RoundTrips sha256Hex identity caseUid ↔
      ¬ EndsInColon identity.targetOwner ∧ ¬ EndsInColon identity.caseId := by
  obtain ⟨parts, made, rfl⟩ := buildCaseUid_eq_ok.mp built
  rw [← made.owner, ← made.caseId, ← parseCaseUid_uid_iff hex made]
  constructor
  · rintro ⟨⟨kind, parsed, reads⟩, -⟩
    rw [← made.parts_eq parsed] at reads
    exact reads
  · intro reads
    refine ⟨⟨parts.evalFileKind, made.kind, ?_⟩, fun other => made.determines hex⟩
    rw [← made.parts_eq made.kind]
    exact reads

end ReadBack

/-! ## A sample -/

/-- The hash of the empty object. -/
def emptyHash : String := "44136fa355b3678a1146ad16f7e8649e94fb4fc21fe77e8310c060f61caaff8a"

def sampleIdentity (targetOwner : String) : CaseIdentity Aegis.Budget.ZeroFloat where
  targetOwner := targetOwner
  evalFileKind := .inl .behaviorEval
  caseId := "BE-01"
  caseDefinition := []

theorem emptyHash_isHexDigest : IsHexDigest emptyHash := by
  decide +kernel

/-- An owner that ends in a colon: the uid is built and does not read back. -/
theorem colon_owner_does_not_roundTrip :
    ∃ caseUid, buildCaseUid (fun _ => emptyHash) (sampleIdentity "planner:") = .ok caseUid ∧
      (∃ error, parseCaseUid caseUid = .error error) ∧
      ¬ RoundTrips (fun _ => emptyHash) (sampleIdentity "planner:") caseUid := by
  refine ⟨_, rfl, ?_, ?_⟩
  · exact ⟨_, rfl⟩
  · rintro ⟨⟨kind, -, reads⟩, -⟩
    cases reads

theorem sample_roundTrips :
    RoundTrips (fun _ => emptyHash) (sampleIdentity "planner")
      ("planner::behavior_eval::BE-01::" ++ emptyHash) :=
  (caseUid_roundTrips_iff (fun _ => emptyHash_isHexDigest) (by rfl)).mpr
    ⟨by decide +kernel, by decide +kernel⟩

end Aegis.Runner
