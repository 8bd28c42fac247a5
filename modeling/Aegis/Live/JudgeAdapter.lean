/-
# Live.JudgeAdapter — reading the output of a live judge

`live/judge_adapter.py`: `parseLiveVerdict` takes the text of a judge, without blanks around it and
without one enclosing markdown fence, as one strict JSON object of seven keys. Every deviation is a
named parse reason.

The text is accepted exactly when it is, or is fenced around, an object of the contract
(`parseLiveVerdict_contract`); the verdict is the object.
-/
import Aegis.Budget.Conservation
import Aegis.Judge.Verdicts
import Aegis.Lib.PythonJson

namespace Aegis.Live

open Aegis.Judge
open Aegis.Lib
open Aegis.Lib.Guarded

set_option autoImplicit false

/-! ## Fences -/

def fence : List Char := ['\x60', '\x60', '\x60']

/-- `text[:i], text[i + 3:]` for `i = text.rfind(fence)`. -/
def splitLastFence : List Char → Option (List Char × List Char)
  | [] => none
  | c :: rest =>
      match splitLastFence rest with
      | some (before, after) => some (c :: before, after)
      | none => if fence.isPrefixOf (c :: rest) = true then some ([], rest.drop 2) else none

/-- `header.strip().lower() in ("", "json")`. Lower case is that of ASCII: no other character is
lowered to a letter of `json`. -/
def jsonHeader (header : List Char) : Bool :=
  (stripChars header).map Char.toLower ∈ [[], "json".toList]

/-- `_unfence_json`. -/
def unfenceJson (text : List Char) : List Char × Bool :=
  if fence.isPrefixOf text = true then
    let body := text.drop 3
    if '\n' ∈ body then
      if jsonHeader (body.takeWhile (· ≠ '\n')) = true then
        match splitLastFence (body.dropWhile (· ≠ '\n')).tail with
        | none => (text, false)
        | some (content, after) =>
            if stripChars after = [] then (stripChars content, true) else (text, false)
      else (text, false)
    else (text, false)
  else (text, false)

/-- The text is one complete fence around the content, whose header is empty or `json`. -/
structure Fenced (text content : List Char) : Prop where
  shape : ∃ header body, '\n' ∉ header ∧ jsonHeader header = true ∧
    text = fence ++ (header ++ '\n' :: (body ++ fence)) ∧ content = stripChars body

theorem splitLastFence_append (body : List Char) :
    splitLastFence (body ++ fence) = some (body, []) := by
  induction body with
  | nil => decide
  | cons c rest ih =>
      rw [List.cons_append, splitLastFence, ih]

theorem splitLastFence_eq {text before after : List Char}
    (split : splitLastFence text = some (before, after)) : text = before ++ (fence ++ after) := by
  induction text generalizing before with
  | nil => cases split
  | cons c rest ih =>
      rw [splitLastFence] at split
      cases found : splitLastFence rest with
      | some parts =>
          rw [found] at split
          obtain ⟨rfl, rfl⟩ := Prod.mk.inj (Option.some.inj split)
          rw [List.cons_append, ← ih found]
      | none =>
          rw [found] at split
          simp only [Option.ite_none_right_eq_some, Option.some.injEq, Prod.mk.injEq] at split
          obtain ⟨isPrefix, rfl, rfl⟩ := split
          obtain ⟨others, whole⟩ := List.isPrefixOf_iff_prefix.mp isPrefix
          have tail : rest = ['\x60', '\x60'] ++ others := by
            injection whole with _ same
            exact same.symm
          rw [← whole, tail]
          rfl

/-- What is left of the blanks of a text with a visible end is not empty. -/
theorem stripChars_ne_nil {text : List Char} (nonempty : text ≠ [])
    (visible : ∀ c ∈ text.getLast?, isBlank c = false) : stripChars text ≠ [] := by
  intro none
  have last := List.getLast?_eq_getLast_of_ne_nil nonempty
  have member := List.getLast_mem nonempty
  have kept := (mem_stripChars (visible _ last)).mpr member
  rw [none] at kept
  cases kept

/-- A trimmed text is unfenced when it is one fence. -/
theorem unfenceJson_fenced {text content : List Char} (fenced : Fenced text content) :
    unfenceJson text = (content, true) := by
  obtain ⟨header, body, line, isJson, rfl, rfl⟩ := fenced.shape
  have before : ∀ c ∈ header, decide (c ≠ '\n') = true := by
    intro c member
    rw [decide_eq_true_eq]
    rintro rfl
    exact line member
  have taken : (header ++ '\n' :: (body ++ fence)).takeWhile (· ≠ '\n') = header := by
    rw [List.takeWhile_append_of_pos before, List.takeWhile_cons_of_neg (by decide),
      List.append_nil]
  have dropped : (header ++ '\n' :: (body ++ fence)).dropWhile (· ≠ '\n') =
      '\n' :: (body ++ fence) := by
    rw [List.dropWhile_append_of_pos before, List.dropWhile_cons_of_neg (by decide)]
  have starts : fence.isPrefixOf (fence ++ (header ++ '\n' :: (body ++ fence))) = true :=
    List.isPrefixOf_iff_prefix.mpr (List.prefix_append _ _)
  have rest : (fence ++ (header ++ '\n' :: (body ++ fence))).drop 3 =
      header ++ '\n' :: (body ++ fence) := rfl
  unfold unfenceJson
  simp only
  rw [if_pos starts, rest, if_pos (by simp), taken, if_pos isJson, dropped, List.tail_cons,
    splitLastFence_append]
  rfl

/-- What is unfenced was one fence. -/
theorem fenced_of_unfenceJson {text content : List Char} (trimmed : Trimmed text)
    (unfenced : unfenceJson text = (content, true)) : Fenced text content := by
  unfold unfenceJson at unfenced
  simp only at unfenced
  split at unfenced
  · rename_i starts
    obtain ⟨body, whole⟩ := List.isPrefixOf_iff_prefix.mp starts
    have dropped : text.drop 3 = body := by
      rw [← whole]
      rfl
    rw [dropped] at unfenced
    split at unfenced
    · rename_i line
      split at unfenced
      · rename_i isJson
        cases split : splitLastFence (body.dropWhile (· ≠ '\n')).tail with
        | none =>
            rw [split] at unfenced
            cases unfenced
        | some parts =>
            obtain ⟨inside, after⟩ := parts
            rw [split] at unfenced
            simp only at unfenced
            split at unfenced
            · rename_i blank
              obtain ⟨rfl, -⟩ := Prod.mk.inj unfenced
              have parts := List.takeWhile_append_dropWhile (p := (· ≠ '\n')) (l := body)
              have nonempty : body.dropWhile (· ≠ '\n') ≠ [] := by
                intro none
                rw [none, List.append_nil] at parts
                have kept := List.mem_takeWhile_imp (parts ▸ line)
                simp at kept
              obtain ⟨first, tail, cut⟩ := List.exists_cons_of_ne_nil nonempty
              have newline : first = '\n' := by
                have head := List.head_dropWhile_not (· ≠ '\n') nonempty
                simp only [cut, List.head_cons] at head
                simpa using head
              rw [cut, List.tail_cons] at split
              have inner := splitLastFence_eq split
              have closed : text = (fence ++ (body.takeWhile (· ≠ '\n') ++ '\n' ::
                  (inside ++ fence))) ++ after := by
                rw [cut, newline, inner] at parts
                rw [← whole, ← parts]
                simp only [parts, List.append_assoc, List.cons_append]
              -- a trimmed text ends with the fence
              obtain rfl : after = [] := by
                by_contra some
                refine stripChars_ne_nil some ?_ blank
                intro c last
                refine trimmed.last c ?_
                rw [closed, List.getLast?_append_of_ne_nil _ some]
                exact last
              refine ⟨⟨body.takeWhile (· ≠ '\n'), inside, ?_, isJson, ?_, rfl⟩⟩
              · intro member
                have kept := List.mem_takeWhile_imp member
                simp at kept
              · rw [closed, List.append_nil]
            · cases unfenced
      · cases unfenced
    · cases unfenced
  · cases unfenced

theorem unfenceJson_plain {text : List Char} (plain : (unfenceJson text).2 = false) :
    (unfenceJson text).1 = text := by
  revert plain
  unfold unfenceJson
  simp only
  repeat' split
  all_goals first | exact fun _ => rfl | exact fun impossible => by cases impossible

/-! ## Verdicts -/

/-- A live verdict: closed enumerations and hashes. -/
structure LiveVerdict where
  verdict : JudgeVerdictState
  reasonCode : JudgeVerdictReason
  failureMode : Option FailureMode
  rubricSha256 : String
  responseSha256 : String
  judgeModel : String
  evidenceRefs : List String
  deriving DecidableEq, Repr

/-- `_ERROR_KEYS`. -/
def verdictKeys : List String :=
  ["verdict", "reason_code", "failure_mode", "rubric_sha256", "response_sha256", "judge_model",
    "evidence_refs"]

section Parser

variable {F : Type}

/-- The fields of `to_dict`. -/
def LiveVerdict.fields (verdict : LiveVerdict) : List (String × Json F) :=
  [("verdict", .word verdict.verdict), ("reason_code", .word verdict.reasonCode),
    ("failure_mode", FailureMode.json verdict.failureMode),
    ("rubric_sha256", .str verdict.rubricSha256), ("response_sha256", .str verdict.responseSha256),
    ("judge_model", .str verdict.judgeModel),
    ("evidence_refs", .array (verdict.evidenceRefs.map .str))]

/-- `to_dict`. -/
def LiveVerdict.toDict (verdict : LiveVerdict) : Json F := .dict verdict.fields

def textOf? : Json F → Option String
  | .str text => some text
  | _ => none

def isText (value : Json F) : Bool := (textOf? value).isSome

def isNull : Json F → Bool
  | .null => true
  | _ => false

/-- A list of texts. -/
def textsOf? : Json F → Option (List String)
  | .array items => items.mapM textOf?
  | _ => none

/-- `FailureMode(value) if value is not None else None`. -/
def failureModeOf? (value : Json F) : Option (Option FailureMode) :=
  match value with
  | .null => some none
  | value => (readOne FailureMode.all value).map some

/-- The references, all of them to the response. -/
def refsOf? (value : Json F) : Option (List String) :=
  (textsOf? value).filter fun refs =>
    refs ≠ [] ∧ "" ∉ refs ∧ ∀ ref ∈ refs, ref = "response"

/-- What `parse_live_verdict` reads from the fields of an object. -/
def readLiveVerdict (payload : Json F) (rubricSha256 responseSha256 judgeModel : String) :
    Except String LiveVerdict := do
  let value (key : String) := payload.getD key .null
  require (isText (value "verdict") = true ∧ isText (value "reason_code") = true) "SCHEMA_INVALID"
  require (isNull (value "failure_mode") = true ∨ isText (value "failure_mode") = true)
    "SCHEMA_INVALID"
  let rubric ← fetch (textOf? (value "rubric_sha256")) "SCHEMA_INVALID"
  let response ← fetch (textOf? (value "response_sha256")) "SCHEMA_INVALID"
  let model ← fetch (textOf? (value "judge_model")) "SCHEMA_INVALID"
  let verdict ← fetch (readOne JudgeVerdictState.all (value "verdict")) "SCHEMA_INVALID"
  let reason ← fetch (readOne JudgeVerdictReason.all (value "reason_code")) "SCHEMA_INVALID"
  let failureMode ← fetch (failureModeOf? (value "failure_mode")) "SCHEMA_INVALID"
  let refs ← fetch (refsOf? (value "evidence_refs")) "SCHEMA_INVALID"
  require (rubric = rubricSha256) "RUBRIC_MISMATCH"
  require (response = responseSha256) "CONTRADICTORY_EVIDENCE"
  require (model = judgeModel) "REQUEST_MISMATCH"
  require (Coherent verdict reason failureMode) "SCHEMA_INVALID"
  pure ⟨verdict, reason, failureMode, rubric, response, model, refs⟩

/-- The keys of an object are the seven keys. -/
def HasKeys (fields : List (String × Json F)) : Prop :=
  fields.map Prod.fst ⊆ verdictKeys ∧ verdictKeys ⊆ fields.map Prod.fst

instance (fields : List (String × Json F)) : Decidable (HasKeys fields) :=
  inferInstanceAs (Decidable ((∀ _, _ → _) ∧ (∀ _, _ → _)))

/-- The fields of an object. -/
def objectOf? : Json F → Option (List (String × Json F))
  | .object fields => some fields
  | _ => none

variable (F) [JsonFloat F] (exhausted : List Char → Bool)

/-- `parse_live_verdict`. `exhausted` says on which texts the decoder raises a `RecursionError`; it
raises a `ValueError` on the texts that `strictLoads` refuses. -/
def parseLiveVerdict (rawOutput : Option String) (rubricSha256 responseSha256 judgeModel : String) :
    Except String LiveVerdict := do
  let raw ← fetch rawOutput "NON_STRING_OUTPUT"
  refuse (strip raw = "") "EMPTY_OUTPUT"
  let candidate := (unfenceJson (strip raw).toList).1
  refuse (exhausted candidate = true) "MALFORMED_JSON"
  let payload ← fetch (Json.strictLoads (F := F) candidate) "MALFORMED_JSON"
  let fields ← fetch (objectOf? payload) "MALFORMED_JSON"
  require (HasKeys fields) "SCHEMA_INVALID"
  readLiveVerdict payload rubricSha256 responseSha256 judgeModel

/-! ## The contract -/

/-- The text without blanks around it is one strict JSON object, or one complete fence around such
an object. -/
def OneObject (raw : String) (fields : List (String × Json (Marked F))) : Prop :=
  Json.strictLoads (stripChars raw.toList) = some (.object fields) ∨
    ∃ content, Fenced (stripChars raw.toList) content ∧
      Json.strictLoads content = some (.object fields)

variable {F}

/-- The fields of an object of the contract, and the verdict that they are. -/
structure Conforms (rubricSha256 responseSha256 judgeModel : String)
    (fields : List (String × Json (Marked F))) (verdict : LiveVerdict) : Prop where
  keys : ∀ key, key ∈ fields.map Prod.fst ↔ key ∈ verdictKeys
  state : ("verdict", .word verdict.verdict) ∈ fields
  reason : ("reason_code", .word verdict.reasonCode) ∈ fields
  failure : ("failure_mode", FailureMode.json verdict.failureMode) ∈ fields
  rubric : ("rubric_sha256", .str rubricSha256) ∈ fields ∧ verdict.rubricSha256 = rubricSha256
  response : ("response_sha256", .str responseSha256) ∈ fields ∧
    verdict.responseSha256 = responseSha256
  model : ("judge_model", .str judgeModel) ∈ fields ∧ verdict.judgeModel = judgeModel
  refs : ("evidence_refs", .array (verdict.evidenceRefs.map .str)) ∈ fields
  evidence : verdict.evidenceRefs ≠ [] ∧ ∀ ref ∈ verdict.evidenceRefs, ref = "response"
  coherent : Coherent verdict.verdict verdict.reasonCode verdict.failureMode

omit [JsonFloat F] in
theorem textOf?_eq_some {value : Json F} {text : String} :
    textOf? value = some text ↔ value = .str text := by
  cases value <;> simp [textOf?]

omit [JsonFloat F] in
theorem failureModeOf?_eq_some {value : Json F} {mode : Option FailureMode} :
    failureModeOf? value = some mode ↔ value = FailureMode.json mode := by
  constructor
  · intro read
    unfold failureModeOf? at read
    split at read
    · rw [← Option.some.inj read]
      rfl
    · obtain ⟨found, named, rfl⟩ := Option.map_eq_some_iff.mp read
      exact (readOne_eq_some.mp named).2
  · rintro rfl
    cases mode with
    | none => rfl
    | some mode => exact congrArg (Option.map some) (readOne_word (FailureMode.mem_all mode))

omit [JsonFloat F] in
theorem mapM_textOf? {items : List (Json F)} {texts : List String} :
    items.mapM textOf? = some texts ↔ items = texts.map .str := by
  induction items generalizing texts with
  | nil =>
      rw [List.mapM_nil]
      constructor
      · intro read
        rw [← Option.some.inj read]
        rfl
      · intro same
        rw [List.map_eq_nil_iff.mp same.symm]
        rfl
  | cons item items ih =>
      rw [List.mapM_cons]
      simp only [Option.bind_eq_bind, Option.bind_eq_some_iff, Option.pure_def, Option.some.injEq,
        textOf?_eq_some, ih]
      constructor
      · rintro ⟨text, rfl, rest, rfl, rfl⟩
        rfl
      · intro same
        cases texts with
        | nil => cases same
        | cons text rest =>
            injection same with first others
            exact ⟨text, first, rest, others, rfl⟩

omit [JsonFloat F] in
theorem refsOf?_eq_some {value : Json F} {refs : List String} :
    refsOf? value = some refs ↔ value = .array (refs.map .str) ∧ refs ≠ [] ∧
      ∀ ref ∈ refs, ref = "response" := by
  unfold refsOf?
  rw [Option.filter_eq_some_iff, decide_eq_true_eq]
  constructor
  · rintro ⟨read, nonempty, -, all⟩
    unfold textsOf? at read
    split at read
    · exact ⟨congrArg Json.array (mapM_textOf?.mp read), nonempty, all⟩
    · cases read
  · rintro ⟨rfl, nonempty, all⟩
    refine ⟨mapM_textOf?.mpr rfl, nonempty, ?_, all⟩
    intro member
    exact absurd (all "" member) (by decide)

omit [JsonFloat F] in
/-- A field of an object with the seven keys is looked up. -/
theorem getD_iff {fields : List (String × Json (Marked F))} (distinct : (fields.map Prod.fst).Nodup)
    {key : String} (present : key ∈ fields.map Prod.fst) {value : Json (Marked F)} :
    (Json.object fields).getD key .null = value ↔ (key, value) ∈ fields := by
  have found : ∀ {held}, (key, held) ∈ fields → Dict.get? fields key = some held :=
    fun member => Dict.get?_of_distinct distinct member
  obtain ⟨⟨_, held⟩, member, rfl⟩ := List.mem_map.mp present
  show (Dict.get? fields _).getD .null = value ↔ _
  rw [found member]
  constructor
  · rintro rfl
    exact member
  · intro other
    have same := found other
    rw [found member] at same
    exact Option.some.inj same

omit [JsonFloat F] in
/-- **The reader accepts exactly the objects of the contract.** -/
theorem readLiveVerdict_iff {fields : List (String × Json (Marked F))}
    (distinct : (fields.map Prod.fst).Nodup) (keys : HasKeys fields)
    {rubricSha256 responseSha256 judgeModel : String} {verdict : LiveVerdict} :
    readLiveVerdict (.object fields) rubricSha256 responseSha256 judgeModel = .ok verdict ↔
      Conforms rubricSha256 responseSha256 judgeModel fields verdict := by
  have looked : ∀ key ∈ verdictKeys, ∀ value, (Json.object fields).getD key .null = value ↔
      (key, value) ∈ fields :=
    fun key member value => getD_iff distinct (keys.2 member)
  have state := looked "verdict" (by decide)
  have reason := looked "reason_code" (by decide)
  have failure := looked "failure_mode" (by decide)
  have rubric := looked "rubric_sha256" (by decide)
  have response := looked "response_sha256" (by decide)
  have model := looked "judge_model" (by decide)
  have refs := looked "evidence_refs" (by decide)
  simp only [readLiveVerdict, bind_eq_ok, require_eq_ok, fetch_eq_ok, pure_eq_ok, textOf?_eq_some,
    readOne_eq_some, failureModeOf?_eq_some, refsOf?_eq_some]
  constructor
  · rintro ⟨_, -, _, -, _, isRubric, _, isResponse, _, isModel, found, ⟨-, isState⟩, because,
      ⟨-, isReason⟩, mode, isFailure, texts, ⟨isRefs, nonempty, all⟩, _, rfl, _, rfl, _, rfl, _,
      coherent, rfl⟩
    exact ⟨fun key => ⟨fun member => keys.1 member, fun member => keys.2 member⟩,
      (state _).mp isState, (reason _).mp isReason, (failure _).mp isFailure,
      ⟨(rubric _).mp isRubric, rfl⟩, ⟨(response _).mp isResponse, rfl⟩,
      ⟨(model _).mp isModel, rfl⟩, (refs _).mp isRefs, ⟨nonempty, all⟩, coherent⟩
  · rintro ⟨-, isState, isReason, isFailure, ⟨isRubric, rfl⟩, ⟨isResponse, rfl⟩, ⟨isModel, rfl⟩,
      isRefs, ⟨nonempty, all⟩, coherent⟩
    have stated := (state _).mpr isState
    have reasoned := (reason _).mpr isReason
    have failed := (failure _).mpr isFailure
    refine ⟨(), ⟨?_, ?_⟩, (), ?_, verdict.rubricSha256, (rubric _).mpr isRubric,
      verdict.responseSha256, (response _).mpr isResponse, verdict.judgeModel,
      (model _).mpr isModel, verdict.verdict, ⟨JudgeVerdictState.mem_all _, stated⟩,
      verdict.reasonCode, ⟨JudgeVerdictReason.mem_all _, reasoned⟩, verdict.failureMode, failed,
      verdict.evidenceRefs, ⟨(refs _).mpr isRefs, nonempty, all⟩, (), rfl, (), rfl, (), rfl, (),
      coherent, rfl⟩
    · rw [stated]
      rfl
    · rw [reasoned]
      rfl
    · rw [failed]
      cases verdict.failureMode with
      | none => exact .inl rfl
      | some mode => exact .inr rfl

omit [JsonFloat F] in
theorem LiveVerdict.fields_distinct (verdict : LiveVerdict) :
    ((verdict.fields : List (String × Json (Marked F))).map Prod.fst).Nodup := by
  show verdictKeys.Nodup
  decide

omit [JsonFloat F] in
/-- The fields of an object of the contract are those of the verdict. -/
theorem Conforms.mem_iff {rubricSha256 responseSha256 judgeModel : String}
    {fields : List (String × Json (Marked F))} {verdict : LiveVerdict}
    (conforms : Conforms rubricSha256 responseSha256 judgeModel fields verdict)
    (distinct : (fields.map Prod.fst).Nodup) (field : String × Json (Marked F)) :
    field ∈ verdict.fields ↔ field ∈ fields := by
  have included : ∀ field ∈ (verdict.fields : List (String × Json (Marked F))), field ∈ fields := by
    intro field member
    simp only [LiveVerdict.fields, List.mem_cons, List.not_mem_nil, or_false] at member
    rcases member with rfl | rfl | rfl | rfl | rfl | rfl | rfl
    · exact conforms.state
    · exact conforms.reason
    · exact conforms.failure
    · rw [conforms.rubric.2]
      exact conforms.rubric.1
    · rw [conforms.response.2]
      exact conforms.response.1
    · rw [conforms.model.2]
      exact conforms.model.1
    · exact conforms.refs
  refine ⟨included field, fun member => ?_⟩
  obtain ⟨key, value⟩ := field
  -- both have the seven keys
  have known : key ∈ (verdict.fields : List (String × Json (Marked F))).map Prod.fst :=
    (conforms.keys key).mp (List.mem_map_of_mem member)
  obtain ⟨⟨_, held⟩, inside, rfl⟩ := List.mem_map.mp known
  have same := Dict.get?_of_distinct distinct member
  rw [Dict.get?_of_distinct distinct (included _ inside)] at same
  obtain rfl := Option.some.inj same
  exact inside

omit [JsonFloat F] in
/-- The object of the contract is the dictionary of the verdict. -/
theorem Conforms.toDict {rubricSha256 responseSha256 judgeModel : String}
    {fields : List (String × Json (Marked F))} {verdict : LiveVerdict}
    (conforms : Conforms rubricSha256 responseSha256 judgeModel fields verdict)
    (distinct : (fields.map Prod.fst).Nodup) :
    (verdict.toDict : Json (Marked F)) = .object (Dict.ofFields fields) := by
  show Json.object _ = Json.object _
  congr 1
  refine Dict.ext_of_ordered (Dict.ordered_ofFields _) (Dict.ordered_ofFields _) fun key => ?_
  refine Option.ext fun value => ?_
  rw [Dict.get?_ofFields_iff verdict.fields_distinct, Dict.get?_ofFields_iff distinct]
  exact conforms.mem_iff distinct _

/-! ## Texts of the contract -/

/-- A value without an object, and without a list inside a list. -/
def flat : Json F → Bool
  | .array items => items.all Json.isScalar
  | .object _ => false
  | _ => true

variable (F) in
/-- The decoder has room for an object of flat values. -/
def Shallow (exhausted : List Char → Bool) : Prop :=
  ∀ (text : List Char) (fields : List (String × Json (Marked F))),
    Json.strictLoads text = some (.object fields) → (∀ field ∈ fields, flat field.2 = true) →
    exhausted text = false

omit [JsonFloat F] in
theorem Conforms.flat {rubricSha256 responseSha256 judgeModel : String}
    {fields : List (String × Json (Marked F))} {verdict : LiveVerdict}
    (conforms : Conforms rubricSha256 responseSha256 judgeModel fields verdict)
    (distinct : (fields.map Prod.fst).Nodup) : ∀ field ∈ fields, flat field.2 = true := by
  intro field member
  have own := (conforms.mem_iff distinct field).mpr member
  simp only [LiveVerdict.fields, List.mem_cons, List.not_mem_nil, or_false] at own
  rcases own with rfl | rfl | rfl | rfl | rfl | rfl | rfl
  · rfl
  · rfl
  · cases verdict.failureMode <;> rfl
  · rfl
  · rfl
  · rfl
  · simp [Live.flat, Json.isScalar]

/-- The candidate of a text is its one object. -/
theorem candidate_iff {raw : String} {fields : List (String × Json (Marked F))} :
    Json.strictLoads (unfenceJson (stripChars raw.toList)).1 = some (.object fields) ↔
      OneObject F raw fields := by
  have trimmed := trimmed_stripChars raw.toList
  unfold OneObject
  generalize stripChars raw.toList = text at trimmed
  constructor
  · intro read
    cases unfenced : unfenceJson text with
    | mk content isFenced =>
        rw [unfenced] at read
        cases isFenced with
        | true => exact .inr ⟨content, fenced_of_unfenceJson trimmed unfenced, read⟩
        | false =>
            have plain : (unfenceJson text).1 = text := unfenceJson_plain (by rw [unfenced])
            rw [unfenced] at plain
            obtain rfl : content = text := plain
            exact .inl read
  · rintro (read | ⟨content, fenced, read⟩)
    · have plain : ¬ fence.isPrefixOf text = true := by
        intro starts
        obtain ⟨others, rfl⟩ := List.isPrefixOf_iff_prefix.mp starts
        rw [fence, List.cons_append, Json.strictLoads_backquote] at read
        cases read
      unfold unfenceJson
      rw [if_neg plain]
      exact read
    · rw [unfenceJson_fenced fenced]
      exact read

theorem parseLiveVerdict_iff {exhausted : List Char → Bool} (shallow : Shallow F exhausted)
    {raw rubricSha256 responseSha256 judgeModel : String} {verdict : LiveVerdict} :
    parseLiveVerdict F exhausted (some raw) rubricSha256 responseSha256 judgeModel = .ok verdict ↔
      ∃ fields, OneObject F raw fields ∧
        Conforms rubricSha256 responseSha256 judgeModel fields verdict := by
  simp only [parseLiveVerdict, bind_eq_ok, refuse_eq_ok, require_eq_ok, fetch_eq_ok, strip_toList]
  constructor
  · rintro ⟨_, same, _, -, _, -, payload, read, fields, isObject, _, keys, done⟩
    obtain rfl := Option.some.inj same
    obtain rfl : payload = .object fields := by
      cases payload <;> simp_all [objectOf?]
    have distinct := Json.strictLoads_distinct read
    exact ⟨fields, candidate_iff.mp read, (readLiveVerdict_iff distinct keys).mp done⟩
  · rintro ⟨fields, one, conforms⟩
    have read := candidate_iff.mpr one
    have distinct := Json.strictLoads_distinct read
    have keys : HasKeys fields := ⟨fun key member => (conforms.keys key).mp member,
      fun key member => (conforms.keys key).mpr member⟩
    have room := shallow _ fields read (conforms.flat distinct)
    refine ⟨raw, rfl, (), ?_, (), by rw [room]; exact Bool.false_ne_true, _, read, fields, rfl, (),
      keys, (readLiveVerdict_iff distinct keys).mpr conforms⟩
    intro blank
    have nothing : stripChars raw.toList = [] := by
      rw [← strip_toList, blank]
      rfl
    rw [nothing] at read
    have none : Json.strictLoads (F := F) (unfenceJson []).1 = .none := Json.strictLoads_nil
    rw [none] at read
    cases read

/-- The parse reasons. -/
def parseReasons : List String :=
  ["NON_STRING_OUTPUT", "EMPTY_OUTPUT", "MALFORMED_JSON", "SCHEMA_INVALID", "RUBRIC_MISMATCH",
    "CONTRADICTORY_EVIDENCE", "REQUEST_MISMATCH"]

/-- Every refusal is one of the reasons. -/
theorem parseLiveVerdict_raises (exhausted : List Char → Bool) (rawOutput : Option String)
    (rubricSha256 responseSha256 judgeModel : String) :
    Raises (· ∈ parseReasons)
      (parseLiveVerdict F exhausted rawOutput rubricSha256 responseSha256 judgeModel) := by
  have invalid : "SCHEMA_INVALID" ∈ parseReasons := by
    decide
  have malformed : "MALFORMED_JSON" ∈ parseReasons := by
    decide
  have reader : ∀ payload : Json (Marked F), Raises (· ∈ parseReasons)
      (readLiveVerdict payload rubricSha256 responseSha256 judgeModel) := by
    intro payload
    refine (raises_require _ invalid).bind fun _ => (raises_require _ invalid).bind fun _ =>
      (raises_fetch _ invalid).bind fun _ => (raises_fetch _ invalid).bind fun _ =>
      (raises_fetch _ invalid).bind fun _ => (raises_fetch _ invalid).bind fun _ =>
      (raises_fetch _ invalid).bind fun _ => (raises_fetch _ invalid).bind fun _ =>
      (raises_fetch _ invalid).bind fun _ => ?_
    refine (raises_require _ (by decide)).bind fun _ => (raises_require _ (by decide)).bind fun _ =>
      (raises_require _ (by decide)).bind fun _ => (raises_require _ invalid).bind fun _ =>
      raises_pure _
  refine (raises_fetch _ (by decide)).bind fun raw => (raises_refuse _ (by decide)).bind fun _ =>
    (raises_refuse _ malformed).bind fun _ => (raises_fetch _ malformed).bind fun payload =>
    (raises_fetch _ malformed).bind fun _ => (raises_require _ invalid).bind fun _ =>
    reader payload

/-- The text of a verdict is one object. -/
theorem LiveVerdict.oneObject (verdict : LiveVerdict) :
    OneObject F (String.ofList (verdict.toDict : Json (Marked F)).canonical)
      (Dict.ofFields verdict.fields) := by
  have each : ∀ field ∈ (verdict.fields : List (String × Json (Marked F))),
      field.2.IsCanonical ∧ field.2.standard = true := by
    intro field member
    simp only [LiveVerdict.fields, List.mem_cons, List.not_mem_nil, or_false] at member
    rcases member with rfl | rfl | rfl | rfl | rfl | rfl | rfl
    · exact ⟨.str _, rfl⟩
    · exact ⟨.str _, rfl⟩
    · cases verdict.failureMode with
      | none => exact ⟨.null, rfl⟩
      | some mode => exact ⟨.str _, rfl⟩
    · exact ⟨.str _, rfl⟩
    · exact ⟨.str _, rfl⟩
    · exact ⟨.str _, rfl⟩
    · constructor
      · refine .array fun item inside => ?_
        obtain ⟨ref, -, rfl⟩ := List.mem_map.mp inside
        exact .str ref
      · refine (Json.standardItems_iff _).mpr fun item inside => ?_
        obtain ⟨ref, -, rfl⟩ := List.mem_map.mp inside
        rfl
  have canonical : (verdict.toDict : Json (Marked F)).IsCanonical :=
    .dict fun field member => (each field member).1
  have standard : (verdict.toDict : Json (Marked F)).standard = true :=
    (Json.standardFields_iff _).mpr fun field member => (each field (Dict.mem_ofFields member)).2
  have trimmed : Trimmed (verdict.toDict : Json (Marked F)).canonical := Json.trimmed_canonical _
  left
  rw [String.toList_ofList, stripChars_of_trimmed trimmed]
  exact Json.strictLoads_canonical canonical standard

omit [JsonFloat F] in
theorem LiveVerdict.conforms {verdict : LiveVerdict}
    (coherent : Coherent verdict.verdict verdict.reasonCode verdict.failureMode)
    (evidence : verdict.evidenceRefs ≠ [] ∧ ∀ ref ∈ verdict.evidenceRefs, ref = "response") :
    Conforms (F := F) verdict.rubricSha256 verdict.responseSha256 verdict.judgeModel
      (Dict.ofFields verdict.fields) verdict := by
  have own : ∀ field ∈ (verdict.fields : List (String × Json (Marked F))),
      field ∈ Dict.ofFields verdict.fields := fun _ member =>
    Dict.mem_of_get? ((Dict.get?_ofFields_iff verdict.fields_distinct).mpr member)
  exact ⟨fun key => Dict.mem_keys_ofFields, own _ (by simp [fields]), own _ (by simp [fields]),
    own _ (by simp [fields]), ⟨own _ (by simp [fields]), rfl⟩, ⟨own _ (by simp [fields]), rfl⟩,
    ⟨own _ (by simp [fields]), rfl⟩, own _ (by simp [fields]), evidence, coherent⟩

variable (F) in
/-- What a parser of live verdicts does with every text. -/
structure ParsesContract (exhausted : List Char → Bool) : Prop where
  accepts : ∀ raw rubricSha256 responseSha256 judgeModel verdict,
    parseLiveVerdict F exhausted (some raw) rubricSha256 responseSha256 judgeModel = .ok verdict ↔
      ∃ fields, OneObject F raw fields ∧
        Conforms rubricSha256 responseSha256 judgeModel fields verdict
  returns : ∀ raw rubricSha256 responseSha256 judgeModel verdict,
    parseLiveVerdict F exhausted (some raw) rubricSha256 responseSha256 judgeModel = .ok verdict →
      ∃ fields, OneObject F raw fields ∧
        (verdict.toDict : Json (Marked F)) = .object (Dict.ofFields fields)
  refuses : ∀ raw rubricSha256 responseSha256 judgeModel reason,
    parseLiveVerdict F exhausted (some raw) rubricSha256 responseSha256 judgeModel = .error reason →
      reason ∈ parseReasons
  roundTrip : ∀ verdict : LiveVerdict,
    Coherent verdict.verdict verdict.reasonCode verdict.failureMode →
    verdict.evidenceRefs ≠ [] → (∀ ref ∈ verdict.evidenceRefs, ref = "response") →
    parseLiveVerdict F exhausted
      (some (String.ofList (verdict.toDict : Json (Marked F)).canonical)) verdict.rubricSha256
      verdict.responseSha256 verdict.judgeModel = .ok verdict

/-- **The parser accepts exactly the objects of its contract and returns them; it names every
refusal; and the canonical text of a verdict of the contract is read back.** -/
theorem parseLiveVerdict_contract {exhausted : List Char → Bool} (shallow : Shallow F exhausted) :
    ParsesContract F exhausted where
  accepts _ _ _ _ _ := parseLiveVerdict_iff shallow
  returns := by
    intro raw rubricSha256 responseSha256 judgeModel verdict done
    obtain ⟨fields, one, conforms⟩ := (parseLiveVerdict_iff shallow).mp done
    exact ⟨fields, one, conforms.toDict (Json.strictLoads_distinct (candidate_iff.mpr one))⟩
  refuses raw rubricSha256 responseSha256 judgeModel reason raised :=
    parseLiveVerdict_raises (F := F) exhausted (some raw) rubricSha256 responseSha256 judgeModel
      reason raised
  roundTrip verdict coherent nonempty all :=
    (parseLiveVerdict_iff shallow).mpr
      ⟨_, verdict.oneObject, LiveVerdict.conforms coherent ⟨nonempty, all⟩⟩

end Parser

section Sample

open Aegis.Budget (ZeroFloat)

theorem contract_of_sample : ParsesContract ZeroFloat fun _ => false :=
  parseLiveVerdict_contract fun _ _ _ _ => rfl

/-- A coherent verdict with the expected hashes and model, and no reference. -/
def unreferenced : LiveVerdict where
  verdict := .pass
  reasonCode := .meetsRubric
  failureMode := none
  rubricSha256 := "r"
  responseSha256 := "s"
  judgeModel := "m"
  evidenceRefs := []

theorem unreferenced_refused :
    Coherent unreferenced.verdict unreferenced.reasonCode unreferenced.failureMode ∧
      parseLiveVerdict ZeroFloat (fun _ => false)
        (some (String.ofList (unreferenced.toDict : Json (Marked ZeroFloat)).canonical))
        "r" "s" "m" = .error "SCHEMA_INVALID" := by
  decide +kernel

end Sample

end Aegis.Live
