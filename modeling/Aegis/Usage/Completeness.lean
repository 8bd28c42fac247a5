/-
# Usage.Completeness — what the contract accepts

`Snapshot.Valid` lists what a snapshot must satisfy. The document of an envelope with a
valid snapshot is accepted and read as that envelope (`validateEnvelope_document`), and its
bytes are decoded to it (`loadsStrict_document`): the largest valid snapshot stays below the
size bound.
-/
import Aegis.Lib.JsonSize
import Aegis.Lib.TextLines
import Aegis.Usage.Validate
import Mathlib.Data.Nat.Digits.Defs

namespace Aegis.Usage

open Aegis.Lib
open Aegis.Lib.Guarded

set_option autoImplicit false

variable {F : Type}

/-! ## Shape -/

/-- A value with contract keys only, no deeper than a bound. -/
inductive WithinContract : Nat → Json F → Prop
  | scalar (depth : Nat) {value : Json F} (isScalar : value.isScalar = true) :
      WithinContract depth value
  | array {depth : Nat} {items : List (Json F)} (each : ∀ item ∈ items, WithinContract depth item) :
      WithinContract (depth + 1) (.array items)
  | object {depth : Nat} {fields : List (String × Json F)}
      (keys : ∀ field ∈ fields, field.1 ∈ contractKeyNames)
      (each : ∀ field ∈ fields, WithinContract depth field.2) :
      WithinContract (depth + 1) (.object fields)

theorem contractKey_allowed : ∀ key ∈ contractKeyNames, lower key ∉ forbiddenKeys := by
  decide +kernel

namespace WithinContract

variable {depth : Nat}

theorem dict {fields : List (String × Json F)} (keys : ∀ field ∈ fields, field.1 ∈ contractKeyNames)
    (each : ∀ field ∈ fields, WithinContract depth field.2) :
    WithinContract (depth + 1) (Json.dict fields) :=
  .object (fun field member => keys field (Dict.mem_ofFields member))
    fun field member => each field (Dict.mem_ofFields member)

theorem nestingItems_le {items : List (Json F)} (each : ∀ item ∈ items, nesting item ≤ depth) :
    nestingItems items ≤ depth + 1 := by
  induction items with
  | nil => exact Nat.zero_le _
  | cons item items ih =>
      have first := each item (List.mem_cons_self ..)
      have later := ih fun other member => each other (List.mem_cons_of_mem _ member)
      rw [nestingItems]
      omega

theorem nestingFields_le {fields : List (String × Json F)}
    (each : ∀ field ∈ fields, nesting field.2 ≤ depth) : nestingFields fields ≤ depth + 1 := by
  induction fields with
  | nil => exact Nat.zero_le _
  | cons field fields ih =>
      have first := each field (List.mem_cons_self ..)
      have later := ih fun other member => each other (List.mem_cons_of_mem _ member)
      obtain ⟨key, value⟩ := field
      rw [nestingFields]
      simp only at first
      omega

theorem nesting_le {value : Json F} (within : WithinContract depth value) :
    nesting value ≤ depth := by
  induction within with
  | @scalar depth value isScalar =>
      cases value <;> first | exact Nat.zero_le _ | cases isScalar
  | array each ih => exact nestingItems_le ih
  | object keys each ih => exact nestingFields_le ih

/-- The walk meets no forbidden key and stays above the depth bound. -/
theorem walk {value : Json F} (within : WithinContract depth value) :
    ∀ (path : String) (above : Nat), above + depth ≤ maxNestingDepth →
      forbiddenWalk path above value = .ok () := by
  induction within with
  | @scalar depth value isScalar =>
      intro path above room
      have shallow : ¬ maxNestingDepth < above := by omega
      cases value <;> first | exact refuse_eq_ok.mpr shallow | cases isScalar
  | @array depth items each ih =>
      intro path above room
      have items_ok : ∀ (rest : List (Json F)) (index : Nat), (∀ item ∈ rest, item ∈ items) →
          forbiddenItems path above index rest = .ok () := by
        intro rest
        induction rest with
        | nil => exact fun _ _ => rfl
        | cons item rest later =>
            intro index inside
            have first := ih item (inside item (List.mem_cons_self ..)) s!"{path}[{index}]"
              (above + 1) (by omega)
            rw [forbiddenItems, first]
            exact later (index + 1) fun other member => inside other (List.mem_cons_of_mem _ member)
      rw [forbiddenWalk, bind_eq_ok]
      exact ⟨⟨⟩, refuse_eq_ok.mpr (by omega), items_ok items 0 fun _ member => member⟩
  | @object depth fields keys each ih =>
      intro path above room
      have fields_ok : ∀ rest : List (String × Json F), (∀ field ∈ rest, field ∈ fields) →
          forbiddenFields path above rest = .ok () := by
        intro rest
        induction rest with
        | nil => exact fun _ => rfl
        | cons field rest later =>
            intro inside
            obtain ⟨key, value⟩ := field
            have here := inside (key, value) (List.mem_cons_self ..)
            have allowed := contractKey_allowed key (keys _ here)
            have first := ih (key, value) here (childPath path key) (above + 1) (by omega)
            rw [forbiddenFields, bind_eq_ok]
            refine ⟨⟨⟩, refuse_eq_ok.mpr allowed, ?_⟩
            rw [first]
            exact later fun other member => inside other (List.mem_cons_of_mem _ member)
      rw [forbiddenWalk, bind_eq_ok]
      exact ⟨⟨⟩, refuse_eq_ok.mpr (by omega), fields_ok fields fun _ member => member⟩

end WithinContract

theorem exactKeys_dict {fields : List (String × Json F)} {allowed : List String} (path : String)
    (keys : fields.map Prod.fst = allowed) : exactKeys (Json.dict fields) allowed path = .ok () := by
  have held : ∀ key, key ∈ keysOf (Json.dict fields) ↔ key ∈ allowed := by
    intro key
    rw [← keys]
    exact Dict.mem_keys_ofFields
  have nothing : (allowed.filter fun key => key ∉ keysOf (Json.dict fields)) = [] := by
    rw [List.filter_eq_nil_iff]
    intro key member
    simp [held, member]
  unfold exactKeys
  simp only [bind_eq_ok, require_eq_ok]
  refine ⟨⟨⟩, rfl, ⟨⟩, fun key member => (held key).mp member, ?_⟩
  rw [nothing]
  rfl

theorem field_dict {fields : List (String × Json F)} {key : String} {value : Json F}
    (distinct : (fields.map Prod.fst).Nodup) (member : (key, value) ∈ fields) :
    field (Json.dict fields) key = value := by
  have reversed : (fields.reverse.map Prod.fst).Nodup := by
    rw [List.map_reverse, List.nodup_reverse]
    exact distinct
  have found := Dict.get?_of_distinct reversed (List.mem_reverse.mpr member)
  rw [field, Json.getD, Json.get?_dict, found]
  rfl

/-! ## Days, references and words -/

theorem isDayShaped_text (day : Day) : isDayShaped day.text = true := by
  have digit : ∀ n, (Day.digit n).isDigit = true := by
    intro n
    have all : ∀ n < 10, (Char.ofNat (48 + n)).isDigit = true := by decide
    exact all (n % 10) (Nat.mod_lt _ (by decide))
  unfold isDayShaped Day.text
  rw [String.toList_ofList]
  simp [Day.fourDigits, Day.twoDigits, digit]

@[simp] theorem parseDay_dayJson (day : Day) (path : String) :
    parseDay (dayJson day : Json F) path = .ok day := by
  rw [dayJson, parseDay, if_pos (isDayShaped_text day), Day.parse_text]
  rfl

theorem checkOptionalDay_eq {snapshot : Json F} {key : String} {day : Option Day}
    (held : field snapshot key = optionalDay day) : checkOptionalDay snapshot key = .ok day := by
  unfold checkOptionalDay
  rw [held]
  cases day with
  | none => rfl
  | some day =>
      show some <$> parseDay (dayJson day) _ = _
      rw [parseDay_dayJson]
      rfl

/-! ## Events -/

structure EventValid (start last : Day) (applicable : List Stage) (event : Event) : Prop where
  ref : isRef "evt-" event.eventRef = true
  notBefore : start ≤ event.effectiveDay
  notAfter : event.effectiveDay ≤ last
  value : event.value ∈ eventValues event.kind
  stage : event.kind = .stage →
    ∃ named ∈ applicable, event.stage = some named ∧ event.value ≠ .notApplicable
  noStage : event.kind ≠ .stage → event.stage = none

theorem mem_stages (stage : Stage) : stage ∈ stages := by cases stage <;> decide

theorem mem_eventKinds (kind : Kind) : kind ∈ eventKinds := by cases kind <;> decide

variable {event : Event}

/-- The fields of an event's document. -/
theorem field_event {key : String} {value : Json F}
    (member : (key, value) ∈ ([("event_ref", .str event.eventRef), ("kind", .word event.kind),
      ("effective_day", dayJson event.effectiveDay), ("value", .word event.value),
      ("stage", (event.stage.map Json.word).getD .null)] : List (String × Json F))) :
    field event.toJson key = value := by
  rw [Event.toJson]
  refine field_dict ?_ member
  have distinct : transitionKeys.Nodup := by decide
  exact distinct

theorem checkEvent_toJson {start last : Day} {applicable : List Stage}
    (valid : EventValid start last applicable event) (path : String) :
    checkEvent start last applicable path (event.toJson : Json F) = .ok event := by
  have ref : field (event.toJson : Json F) "event_ref" = .str event.eventRef :=
    field_event (by simp)
  have kind : field (event.toJson : Json F) "kind" = .word event.kind := field_event (by simp)
  have day : field (event.toJson : Json F) "effective_day" = dayJson event.effectiveDay :=
    field_event (by simp)
  have value : field (event.toJson : Json F) "value" = .word event.value := field_event (by simp)
  have stage : field (event.toJson : Json F) "stage" = (event.stage.map Json.word).getD .null :=
    field_event (by simp)
  have named : checkEventStage applicable event.kind event.value
      ((event.stage.map Json.word).getD .null : Json F) path = .ok event.stage := by
    unfold checkEventStage
    by_cases isStage : event.kind = .stage
    · obtain ⟨named, member, same, applies⟩ := valid.stage isStage
      rw [if_pos isStage, same]
      simp only [bind_eq_ok, fetch_eq_ok, require_eq_ok, refuse_eq_ok, pure_eq_ok]
      exact ⟨named, readOne_word (mem_stages named), ⟨⟩, member, ⟨⟩, applies, rfl⟩
    · rw [if_neg isStage, valid.noStage isStage]
      rfl
  unfold checkEvent
  simp only [bind_eq_ok, fetch_eq_ok, refuse_eq_ok, pure_eq_ok]
  refine ⟨⟨⟩, ?_, event.eventRef, ?_, event.kind, ?_, event.effectiveDay, ?_, ⟨⟩, ?_, ⟨⟩, ?_,
    event.value, ?_, event.stage, ?_, rfl⟩
  · exact exactKeys_dict path rfl
  · rw [ref]
    exact parseRef_eq_ok.mpr ⟨rfl, valid.ref⟩
  · rw [kind]
    exact readOne_word (mem_eventKinds _)
  · rw [day]
    exact parseDay_dayJson _ _
  · exact Day.not_lt.mpr valid.notBefore
  · exact Day.not_lt.mpr valid.notAfter
  · rw [value]
    exact readOne_word valid.value
  · rw [stage]
    exact named

/-- Two events that may stand in one history. -/
structure Compatible (earlier later : Event) : Prop where
  slot : earlier.sameSlot later = true → earlier.value = later.value
  terminal : earlier.kind = .status → later.kind = .status → earlier.value = later.value

theorem checkAgainst_eq_ok {earlier : List Event}
    (compatible : ∀ other ∈ earlier, Compatible other event) (path : String) :
    checkAgainst earlier event path = .ok () := by
  have quiet : (earlier.any fun other => other.sameSlot event && other.value ≠ event.value) =
      false := by
    rw [List.any_eq_false]
    intro other member conflict
    rw [Bool.and_eq_true] at conflict
    have same := (compatible other member).slot conflict.1
    simp [same] at conflict
  unfold checkAgainst
  simp only [bind_eq_ok, refuse_eq_ok, quiet]
  refine ⟨⟨⟩, by simp, ⟨⟩, by simp, ?_⟩
  rintro ⟨isStatus, other⟩
  rw [Option.any_eq_true] at other
  obtain ⟨first, found, differs⟩ := other
  have status : first.kind = .status := by simpa using List.find?_some found
  have same := (compatible first (List.mem_of_find?_eq_some found)).terminal status isStatus
  simp [same] at differs

theorem checkEvents_toJson {start last : Day} {applicable : List Stage} {earlier later : List Event}
    (valid : ∀ event ∈ later, EventValid start last applicable event)
    (compatible : (earlier ++ later).Pairwise Compatible) :
    checkEvents start last applicable earlier (later.map Event.toJson : List (Json F)) =
      .ok (earlier ++ later) := by
  induction later generalizing earlier with
  | nil =>
      rw [List.append_nil]
      rfl
  | cons event rest ih =>
      have one := checkEvent_toJson (F := F) (valid event (List.mem_cons_self ..))
        s!"snapshot.transitions[{earlier.length}]"
      have against : ∀ other ∈ earlier, Compatible other event := fun other member =>
        (List.pairwise_append.mp compatible).2.2 other member event (List.mem_cons_self ..)
      have joined : earlier ++ [event] ++ rest = earlier ++ event :: rest := by
        rw [List.append_assoc, List.singleton_append]
      have others := ih (fun other member => valid other (List.mem_cons_of_mem _ member))
        (joined ▸ compatible)
      rw [List.map_cons, checkEvents]
      simp only [bind_eq_ok]
      refine ⟨event, one, ⟨⟩, checkAgainst_eq_ok against _, ?_⟩
      rw [others, joined]

theorem uniqueEventRefs_toJson {events : List Event} (path : String) {seen : List String} (index : Nat)
    (distinct : (events.map Event.eventRef).Nodup)
    (apart : ∀ event ∈ events, event.eventRef ∉ seen) :
    uniqueEventRefs path seen index (events.map Event.toJson : List (Json F)) = .ok () := by
  induction events generalizing seen index with
  | nil => rfl
  | cons event rest ih =>
      rw [List.map_cons, List.nodup_cons] at distinct
      have ref : (event.toJson : Json F).get? "event_ref" = some (.str event.eventRef) := by
        rw [Event.toJson, Json.get?_dict]
        simp [Dict.get?_cons]
      rw [List.map_cons, uniqueEventRefs, bind_eq_ok]
      refine ⟨⟨⟩, require_eq_ok.mpr rfl, ?_⟩
      rw [ref]
      simp only [bind_eq_ok, refuse_eq_ok]
      refine ⟨⟨⟩, apart event (List.mem_cons_self ..), ih (index + 1) distinct.2 ?_⟩
      intro other member inSeen
      rcases List.mem_cons.mp inSeen with same | earlier
      · exact distinct.1 (List.mem_map.mpr ⟨other, member, same⟩)
      · exact apart other (List.mem_cons_of_mem _ member) earlier

/-- No observation stands after a terminal status. -/
def ObservedBefore (events : List Event) : Prop :=
  ∀ observed ∈ events, ∀ terminal ∈ events, observed.kind = .observation →
    terminal.kind = .status → observed.effectiveDay ≤ terminal.effectiveDay

theorem checkObservations_eq_ok {events : List Event} (observed : ObservedBefore events) :
    checkObservations events = .ok () := by
  unfold checkObservations
  rw [forM_eq_ok]
  intro entry member
  obtain ⟨inside, isObservation⟩ := List.mem_filter.mp member
  have held : entry.1 ∈ events := List.fst_mem_of_mem_zipIdx inside
  rw [refuse_eq_ok, Bool.not_eq_true, List.any_eq_false]
  intro other there late
  simp only [Bool.and_eq_true, decide_eq_true_eq] at late
  have before := observed entry.1 held other there (by simpa using isObservation) late.1
  exact absurd late.2 (Day.not_lt.mpr before)

theorem checkTransitions_toJson {start last : Day} {applicable : List Stage}
    {transitions : Transitions} (nonempty : transitions.events ≠ [])
    (count : transitions.events.length ≤ maxTransitions)
    (valid : ∀ event ∈ transitions.events, EventValid start last applicable event)
    (compatible : transitions.events.Pairwise Compatible)
    (observed : ObservedBefore transitions.events) :
    checkTransitions start last applicable
      (.array (transitions.events.map Event.toJson) : Json F) = .ok transitions := by
  have unique : uniqueEventRefs "snapshot.transitions" [] 0
      (transitions.events.map Event.toJson : List (Json F)) = .ok () :=
    uniqueEventRefs_toJson _ 0 transitions.distinct (by simp)
  have checked : checkEvents start last applicable []
      (transitions.events.map Event.toJson : List (Json F)) = .ok transitions.events :=
    checkEvents_toJson valid compatible
  unfold checkTransitions
  split
  · rename_i empty
    have none : transitions.events.map (Event.toJson (F := F)) = [] := Json.array.inj empty
    exact absurd (List.map_eq_nil_iff.mp none) nonempty
  · rename_i documents _ same
    obtain rfl := Json.array.inj same
    rw [if_neg (by rw [List.length_map]; omega)]
    split
    · rename_i fault failed
      rw [unique] at failed
      cases failed
    · split
      · rename_i fault failed
        rw [checked] at failed
        cases failed
      · rename_i events read
        obtain rfl := Except.ok.inj (checked.symm.trans read)
        rw [bind_eq_ok]
        exact ⟨⟨⟩, checkObservations_eq_ok observed, rfl⟩
  · rename_i other
    exact absurd rfl (other _)

/-! ## The derived state -/

/-- The value that events of one kind leave, or a default. -/
theorem lastOf_value {start last : Day} {applicable : List Stage} {events : List Event}
    (valid : ∀ event ∈ events, EventValid start last applicable event) {kind : Kind}
    {latest : Event} (found : lastOf kind events = some latest) :
    latest.kind = kind ∧ latest.value ∈ eventValues kind := by
  have inside := List.mem_of_getLast? found
  obtain ⟨member, isKind⟩ := List.mem_filter.mp inside
  have same : latest.kind = kind := by simpa using isKind
  exact ⟨same, same ▸ (valid latest member).value⟩

theorem mem_effectiveBy {events : List Event} {asOfDay : Day}
    (member : event ∈ effectiveBy events asOfDay) : event ∈ events := by
  rw [effectiveBy, mem_sortBy] at member
  exact List.mem_of_mem_filter member

section Derived

variable {start last : Day} {applicable : List Stage} {events : List Event}

theorem status_mem (valid : ∀ event ∈ events, EventValid start last applicable event) (asOfDay : Day) :
    (deriveState events applicable asOfDay).status ∈ statuses := by
  have relevant : ∀ event ∈ effectiveBy events asOfDay, EventValid start last applicable event :=
    fun event member => valid event (mem_effectiveBy member)
  unfold deriveState
  simp only
  split
  · rename_i terminal found
    have known := (lastOf_value relevant found).2
    have all : ∀ value ∈ terminalStatuses, value ∈ statuses := by decide
    exact all _ known
  · cases observed : lastOf .observation (effectiveBy events asOfDay) with
    | none => exact (by decide : Value.unknown ∈ statuses)
    | some latest =>
        have known := (lastOf_value relevant observed).2
        have all : ∀ value ∈ eventValues .observation, value ∈ statuses := by decide
        exact all _ known

/-- A delivered outcome has its day: no observation says `delivered`. -/
theorem deliveryDay_of_delivered
    (valid : ∀ event ∈ events, EventValid start last applicable event) {asOfDay : Day}
    (delivered : (deriveState events applicable asOfDay).status = .delivered) :
    (deriveState events applicable asOfDay).deliveryDay ≠ none := by
  have relevant : ∀ event ∈ effectiveBy events asOfDay, EventValid start last applicable event :=
    fun event member => valid event (mem_effectiveBy member)
  unfold deriveState at delivered ⊢
  simp only at delivered ⊢
  cases found : lastOf .status (effectiveBy events asOfDay) with
  | some terminal =>
      rw [found] at delivered
      simp only at delivered ⊢
      rw [if_pos delivered]
      exact Option.some_ne_none _
  | none =>
      rw [found] at delivered
      simp only at delivered
      cases observed : lastOf .observation (effectiveBy events asOfDay) with
      | none =>
          rw [observed] at delivered
          cases delivered
      | some latest =>
          have known := (lastOf_value relevant observed).2
          rw [observed] at delivered
          have value : latest.value = .delivered := delivered
          rw [value] at known
          exact absurd known (by decide)

theorem mem_acceptanceEvents {asOfDay : Day} {event : Event}
    (member : event ∈ acceptanceEvents events asOfDay) :
    event ∈ events ∧ event.kind = .acceptance := by
  rw [acceptanceEvents, mem_sortBy] at member
  obtain ⟨inside, isAcceptance⟩ := List.mem_filter.mp member
  simp only [decide_eq_true_eq] at isAcceptance
  exact ⟨inside, isAcceptance.1⟩

theorem winningAcceptance_mem {asOfDay : Day} {winner : Event}
    (found : winningAcceptance events asOfDay = some winner) :
    winner ∈ events ∧ winner.kind = .acceptance :=
  mem_acceptanceEvents (List.mem_of_getLast? found)

theorem acceptance_mem (valid : ∀ event ∈ events, EventValid start last applicable event)
    (asOfDay : Day) : (deriveState events applicable asOfDay).acceptance ∈ acceptanceValues := by
  unfold deriveState
  simp only
  cases found : winningAcceptance events asOfDay with
  | none => exact (by decide : Value.notAssessed ∈ acceptanceValues)
  | some winner =>
      obtain ⟨member, isAcceptance⟩ := winningAcceptance_mem found
      have known := (valid winner member).value
      rw [isAcceptance] at known
      exact known

/-- The status that the history leaves a stage in. -/
def stageValue (events : List Event) (applicable : List Stage) (asOfDay : Day) (stage : Stage) : Value :=
  if stage ∈ applicable then
    ((lastOfStage stage (effectiveBy events asOfDay)).map Event.value).getD .notStarted
  else .notApplicable

theorem stageStatus_eq (asOfDay : Day) : (deriveState events applicable asOfDay).stageStatus =
    stages.map (stageValue events applicable asOfDay) := rfl

theorem stageValue_mem (valid : ∀ event ∈ events, EventValid start last applicable event)
    (asOfDay : Day) (stage : Stage) :
    stageValue events applicable asOfDay stage ∈ stageStatuses ∧
      (stage ∈ applicable ↔ stageValue events applicable asOfDay stage ≠ .notApplicable) := by
  unfold stageValue
  by_cases applies : stage ∈ applicable
  · rw [if_pos applies]
    cases found : lastOfStage stage (effectiveBy events asOfDay) with
    | none => exact ⟨by decide, fun _ => by decide, fun _ => applies⟩
    | some latest =>
        have inside := List.mem_of_getLast? found
        obtain ⟨member, isStage⟩ := List.mem_filter.mp inside
        simp only [decide_eq_true_eq] at isStage
        have event := valid latest (mem_effectiveBy member)
        have known := event.value
        rw [isStage.1] at known
        obtain ⟨_, _, _, named⟩ := event.stage isStage.1
        exact ⟨known, fun _ => named, fun _ => applies⟩
  · rw [if_neg applies]
    exact ⟨by decide, fun member => absurd member applies, fun other => absurd rfl other⟩

end Derived

theorem mapM_eq_ok {α β ε : Type} {compute : α → Except ε β} {result : α → β} {elements : List α}
    (each : ∀ element ∈ elements, compute element = .ok (result element)) :
    elements.mapM compute = .ok (elements.map result) := by
  induction elements with
  | nil => rfl
  | cons first rest ih =>
      have later := ih fun other member => each other (List.mem_cons_of_mem _ member)
      rw [List.mapM_cons, each first (List.mem_cons_self ..), later]
      rfl

theorem field_stageStatusJson (values : Stage → Value) (stage : Stage) :
    field (stageStatusJson (stages.map values) : Json F) (Vocabulary.text stage) =
      .word (values stage) := by
  unfold stageStatusJson
  refine field_dict ?_ ?_
  · have distinct : stageKeys.Nodup := by decide
    exact distinct
  · cases stage <;> simp [stages]

/-! ## Snapshots -/

/-- What a snapshot must satisfy. -/
structure Snapshot.Valid (snapshot : Snapshot) : Prop where
  workflowRef : isRef "wf-" snapshot.workflowRef = true
  exportRef : isRef "exp-" snapshot.exportRef = true
  criteriaContractRef : isRef "crit-" snapshot.criteriaContractRef = true
  revision : 1 ≤ snapshot.revision
  due : snapshot.startDay.addDays reportingWindowDays = some snapshot.reportDueDay
  observed : snapshot.startDay ≤ snapshot.lastObservedDay
  stages : snapshot.applicableStages ≠ []
  ordered : Usage.stages.filter (· ∈ snapshot.applicableStages) = snapshot.applicableStages
  nonempty : snapshot.transitions.events ≠ []
  count : snapshot.transitions.events.length ≤ maxTransitions
  events : ∀ event ∈ snapshot.transitions.events,
    EventValid snapshot.startDay snapshot.lastObservedDay snapshot.applicableStages event
  compatible : snapshot.transitions.events.Pairwise Compatible
  chronology : ObservedBefore snapshot.transitions.events
  derived : deriveState snapshot.transitions.events snapshot.applicableStages
      snapshot.lastObservedDay =
    ⟨snapshot.status, snapshot.deliveryDay, snapshot.acceptance, snapshot.acceptanceDay,
      snapshot.stageStatus⟩
  unassessed : snapshot.acceptance = .notAssessed → snapshot.acceptanceEvidence = .none
  attested : snapshot.acceptance.isIndependent = true → snapshot.acceptanceEvidence ≠ .none

/-- The fields of a snapshot's document. -/
theorem field_snapshot (snapshot : Snapshot) {key : String} {value : Json F}
    (member : (key, value) ∈ ([("workflow_ref", .str snapshot.workflowRef),
      ("revision", .int snapshot.revision), ("export_ref", .str snapshot.exportRef),
      ("start_day", dayJson snapshot.startDay),
      ("last_observed_day", dayJson snapshot.lastObservedDay),
      ("report_due_day", dayJson snapshot.reportDueDay),
      ("applicable_stages", .array (snapshot.applicableStages.map Json.word)),
      ("criteria_frozen_before_work", .bool snapshot.criteriaFrozenBeforeWork),
      ("criteria_contract_ref", .str snapshot.criteriaContractRef),
      ("stage_status", stageStatusJson snapshot.stageStatus),
      ("status", .word snapshot.status), ("acceptance", .word snapshot.acceptance),
      ("acceptance_evidence", .word snapshot.acceptanceEvidence),
      ("delivery_day", optionalDay snapshot.deliveryDay),
      ("acceptance_day", optionalDay snapshot.acceptanceDay),
      ("transitions", .array (snapshot.transitions.events.map Event.toJson))] :
        List (String × Json F))) : field snapshot.toJson key = value := by
  rw [Snapshot.toJson]
  refine field_dict ?_ member
  have distinct : snapshotKeys.Nodup := by decide
  exact distinct

variable {snapshot : Snapshot}

theorem checkPeriod_toJson (valid : snapshot.Valid) :
    checkPeriod (snapshot.toJson : Json F) =
      .ok (snapshot.startDay, snapshot.lastObservedDay, snapshot.reportDueDay) := by
  have start : field (snapshot.toJson : Json F) "start_day" = dayJson snapshot.startDay :=
    field_snapshot snapshot (by simp)
  have last : field (snapshot.toJson : Json F) "last_observed_day" =
      dayJson snapshot.lastObservedDay := field_snapshot snapshot (by simp)
  have due : field (snapshot.toJson : Json F) "report_due_day" = dayJson snapshot.reportDueDay :=
    field_snapshot snapshot (by simp)
  unfold checkPeriod
  rw [start, last, due]
  simp only [bind_eq_ok, fetch_eq_ok, refuse_eq_ok, pure_eq_ok, parseDay_dayJson]
  exact ⟨_, rfl, _, rfl, _, rfl, _, valid.due, ⟨⟩, fun other => other rfl, ⟨⟩,
    Day.not_lt.mpr valid.observed, rfl⟩

theorem readStages_words {applicable : List Stage} (nonempty : applicable ≠ []) :
    readStages (.array (applicable.map Json.word) : Json F) = some applicable := by
  have each : ∀ named : List Stage, (named.map Json.word : List (Json F)).mapM (readOne stages) =
      some named := by
    intro named
    induction named with
    | nil => rfl
    | cons first rest ih =>
        rw [List.map_cons, List.mapM_cons, readOne_word (mem_stages first), ih]
        rfl
  cases applicable with
  | nil => exact absurd rfl nonempty
  | cons first rest => exact each (first :: rest)

/-- Stages in the fixed order are distinct. -/
theorem nodup_of_ordered {applicable : List Stage}
    (ordered : stages.filter (· ∈ applicable) = applicable) : applicable.Nodup := by
  have distinct : stages.Nodup := by decide
  rw [← ordered]
  exact distinct.filter _

theorem checkStages_words {applicable : List Stage} (nonempty : applicable ≠ [])
    (ordered : stages.filter (· ∈ applicable) = applicable) :
    checkStages (.array (applicable.map Json.word) : Json F) = .ok applicable := by
  unfold checkStages
  simp only [bind_eq_ok, fetch_eq_ok, require_eq_ok, pure_eq_ok]
  exact ⟨_, readStages_words nonempty, ⟨⟩, nodup_of_ordered ordered, ⟨⟩, ordered, rfl⟩

theorem checkStageStatuses_toJson {start last asOfDay : Day} {applicable : List Stage}
    {events : List Event} (valid : ∀ event ∈ events, EventValid start last applicable event) :
    stages.mapM (checkStageStatus applicable
      (stageStatusJson (stages.map (stageValue events applicable asOfDay)) : Json F)) =
        .ok (stages.map (stageValue events applicable asOfDay)) := by
  refine mapM_eq_ok fun stage _ => ?_
  obtain ⟨known, applies⟩ := stageValue_mem valid asOfDay stage
  unfold checkStageStatus
  rw [field_stageStatusJson]
  simp only [bind_eq_ok, fetch_eq_ok, refuse_eq_ok, pure_eq_ok]
  exact ⟨_, readOne_word known, ⟨⟩, fun both => applies.mp both.1 both.2, ⟨⟩,
    fun both => both.1 (applies.mpr both.2), rfl⟩

theorem mem_acceptanceEvidence (evidence : Evidence) : evidence ∈ acceptanceEvidence := by
  cases evidence <;> decide

theorem checkOutcome_toJson (valid : snapshot.Valid) :
    checkOutcome (snapshot.toJson : Json F) =
      .ok (snapshot.status, snapshot.acceptance, snapshot.acceptanceEvidence) := by
  have isStatus := status_mem valid.events snapshot.lastObservedDay
  have isAcceptance := acceptance_mem valid.events snapshot.lastObservedDay
  rw [valid.derived] at isStatus isAcceptance
  have status : field (snapshot.toJson : Json F) "status" = .word snapshot.status :=
    field_snapshot snapshot (by simp)
  have acceptance : field (snapshot.toJson : Json F) "acceptance" = .word snapshot.acceptance :=
    field_snapshot snapshot (by simp)
  have evidence : field (snapshot.toJson : Json F) "acceptance_evidence" =
      .word snapshot.acceptanceEvidence := field_snapshot snapshot (by simp)
  unfold checkOutcome
  rw [status, acceptance, evidence]
  simp only [bind_eq_ok, fetch_eq_ok, refuse_eq_ok, pure_eq_ok]
  exact ⟨_, readOne_word isStatus, _, readOne_word isAcceptance, _,
    readOne_word (mem_acceptanceEvidence _), ⟨⟩, fun both => both.2 (valid.unassessed both.1), ⟨⟩,
    fun both => valid.attested both.1 both.2, rfl⟩

theorem checkDerived_eq_ok (valid : snapshot.Valid) :
    checkDerived snapshot = .ok () := by
  unfold checkDerived agree
  simp only [valid.derived, bind_eq_ok, require_eq_ok, refuse_eq_ok]
  refine ⟨⟨⟩, trivial, ⟨⟩, trivial, ⟨⟩, trivial, ⟨⟩, trivial, ⟨⟩, trivial, ?_⟩
  rintro ⟨delivered, noDay⟩
  have day : (deriveState snapshot.transitions.events snapshot.applicableStages
      snapshot.lastObservedDay).deliveryDay ≠ none :=
    deliveryDay_of_delivered valid.events (by rw [valid.derived]; exact delivered)
  rw [valid.derived] at day
  exact day noDay

/-- A valid snapshot is read back. -/
theorem checkSnapshot_toJson (valid : snapshot.Valid) :
    checkSnapshot (snapshot.toJson : Json F) = .ok snapshot := by
  have workflowRef : field (snapshot.toJson : Json F) "workflow_ref" = .str snapshot.workflowRef :=
    field_snapshot snapshot (by simp)
  have exportRef : field (snapshot.toJson : Json F) "export_ref" = .str snapshot.exportRef :=
    field_snapshot snapshot (by simp)
  have contractRef : field (snapshot.toJson : Json F) "criteria_contract_ref" =
      .str snapshot.criteriaContractRef := field_snapshot snapshot (by simp)
  have revision : field (snapshot.toJson : Json F) "revision" = .int snapshot.revision :=
    field_snapshot snapshot (by simp)
  have frozen : field (snapshot.toJson : Json F) "criteria_frozen_before_work" =
      .bool snapshot.criteriaFrozenBeforeWork := field_snapshot snapshot (by simp)
  have applicable : field (snapshot.toJson : Json F) "applicable_stages" =
      .array (snapshot.applicableStages.map Json.word) := field_snapshot snapshot (by simp)
  have stageStatus : field (snapshot.toJson : Json F) "stage_status" =
      stageStatusJson snapshot.stageStatus := field_snapshot snapshot (by simp)
  have transitions : field (snapshot.toJson : Json F) "transitions" =
      .array (snapshot.transitions.events.map Event.toJson) := field_snapshot snapshot (by simp)
  have fromEvents : snapshot.stageStatus = stages.map (stageValue snapshot.transitions.events
      snapshot.applicableStages snapshot.lastObservedDay) := by
    rw [← stageStatus_eq, valid.derived]
  unfold checkSnapshot
  simp only [bind_eq_ok, pure_eq_ok]
  refine ⟨⟨⟩, exactKeys_dict _ rfl, snapshot.workflowRef, ?_, snapshot.exportRef, ?_,
    snapshot.criteriaContractRef, ?_, snapshot.revision, ?_, _, checkPeriod_toJson valid,
    snapshot.criteriaFrozenBeforeWork, ?_, snapshot.applicableStages, ?_, ⟨⟩, ?_,
    snapshot.stageStatus, ?_, _, checkOutcome_toJson valid, snapshot.deliveryDay, ?_,
    snapshot.acceptanceDay, ?_, snapshot.transitions, ?_, ⟨⟩, checkDerived_eq_ok valid, rfl⟩
  · rw [workflowRef]
    exact parseRef_eq_ok.mpr ⟨rfl, valid.workflowRef⟩
  · rw [exportRef]
    exact parseRef_eq_ok.mpr ⟨rfl, valid.exportRef⟩
  · rw [contractRef]
    exact parseRef_eq_ok.mpr ⟨rfl, valid.criteriaContractRef⟩
  · have positive : (1 : Int) ≤ snapshot.revision := by
      have := valid.revision
      omega
    rw [revision, checkRevision, if_pos positive, Int.toNat_natCast]
  · rw [frozen]
    rfl
  · rw [applicable]
    exact checkStages_words valid.stages valid.ordered
  · rw [stageStatus, fromEvents]
    exact exactKeys_dict _ rfl
  · rw [stageStatus, fromEvents]
    exact checkStageStatuses_toJson valid.events
  · exact checkOptionalDay_eq (field_snapshot snapshot (by simp))
  · exact checkOptionalDay_eq (field_snapshot snapshot (by simp))
  · rw [transitions]
    exact checkTransitions_toJson valid.nonempty valid.count valid.events valid.compatible
      valid.chronology

/-! ## Size -/

/-- How long the written words of each vocabulary and the written keys of each object are. -/
structure Brief : Prop where
  value : ∀ value : Value, (stringText (Vocabulary.text value)).length ≤ 27
  kind : ∀ kind : Kind, (stringText (Vocabulary.text kind)).length ≤ 14
  stage : ∀ stage : Stage, (stringText (Vocabulary.text stage)).length ≤ 10
  evidence : ∀ evidence : Evidence, (stringText (Vocabulary.text evidence)).length ≤ 21
  keys : (∀ key ∈ transitionKeys, (stringText key).length ≤ 15) ∧
    (∀ key ∈ stageKeys, (stringText key).length ≤ 11) ∧
    ∀ key ∈ snapshotKeys, (stringText key).length ≤ 29

theorem brief : Brief where
  value value := by cases value <;> decide +kernel
  kind kind := by cases kind <;> decide +kernel
  stage stage := by cases stage <;> decide +kernel
  evidence evidence := by cases evidence <;> decide +kernel
  keys := by decide +kernel

theorem isRef_chars {head text : String} (ref : isRef head text = true) :
    ∃ digits : List Char, text.toList = head.toList ++ digits ∧ digits.length = 32 ∧
      ∀ c ∈ digits, isLowerHex c = true := by
  unfold isRef at ref
  simp only [Bool.and_eq_true, beq_iff_eq, List.all_eq_true] at ref
  obtain ⟨⟨first, count⟩, hex⟩ := ref
  refine ⟨text.toList.drop head.length, ?_, count, hex⟩
  rw [← first, List.take_append_drop]

/-- A character that a string text shows as it is. -/
def isPlain (c : Char) : Bool := escapeChar c == [c]

theorem isPlain_of_isLowerHex {c : Char} (hex : isLowerHex c = true) : isPlain c = true := by
  have range : 48 ≤ c.toNat ∧ c.toNat ≤ 102 ∧ c.toNat ≠ 92 := by
    unfold isLowerHex at hex
    simp only [Char.isDigit, Bool.or_eq_true, Bool.and_eq_true, decide_eq_true_eq,
      UInt32.le_iff_toNat_le, Char.le_def] at hex
    change (48 ≤ c.toNat ∧ c.toNat ≤ 57) ∨ (97 ≤ c.toNat ∧ c.toNat ≤ 102) at hex
    omega
  have apart : ∀ other : Char, other.toNat < 48 ∨ other.toNat = 92 → c ≠ other := by
    rintro other outside rfl
    omega
  unfold isPlain escapeChar
  rw [if_neg (apart _ (.inl (by decide))), if_neg (apart _ (.inr (by decide))),
    if_neg (apart _ (.inl (by decide))), if_neg (apart _ (.inl (by decide))),
    if_neg (apart _ (.inl (by decide))), if_neg (by omega), if_neg (by omega), if_pos (by omega)]
  exact beq_self_eq_true _

section Size

variable [JsonFloat F]

/-- An export that the contract accepts. -/
structure Envelope.Valid (envelope : Envelope F) : Prop where
  window : envelope.reportingWindowDays = .int Usage.reportingWindowDays
  admissionRef : isRef "adm-" envelope.admissionRef = true
  snapshot : envelope.snapshot.Valid
  /-- The text of the revision is short. -/
  revision : envelope.snapshot.revision < 10 ^ 20

theorem bulk_plain {text : String} (plain : text.toList.all isPlain = true) :
    (Json.str text : Json F).bulk = text.toList.length + 2 := by
  rw [Json.bulk]
  refine Json.stringText_length fun c member => ?_
  exact beq_iff_eq.mp (List.all_eq_true.mp plain c member)

theorem bulk_ref {head text : String} (plain : head.toList.all isPlain = true)
    (ref : isRef head text = true) : (Json.str text : Json F).bulk = head.toList.length + 34 := by
  obtain ⟨digits, same, count, hex⟩ := isRef_chars ref
  have all : text.toList.all isPlain = true := by
    rw [same, List.all_append, plain, Bool.true_and, List.all_eq_true]
    exact fun c member => isPlain_of_isLowerHex (hex c member)
  rw [bulk_plain all, same, List.length_append, count]

theorem bulk_dayJson (day : Day) : (dayJson day : Json F).bulk = 12 := by
  have digit : ∀ n, isPlain (Day.digit n) = true := by
    intro n
    have all : ∀ n < 10, isPlain (Char.ofNat (48 + n)) = true := by decide
    exact all (n % 10) (Nat.mod_lt _ (by decide))
  have dash : isPlain '-' = true := by decide
  have plain : day.text.toList.all isPlain = true := by
    unfold Day.text
    rw [String.toList_ofList]
    simp [Day.fourDigits, Day.twoDigits, digit, dash]
  have length : day.text.toList.length = 10 := by
    unfold Day.text
    rw [String.toList_ofList]
    rfl
  rw [dayJson, bulk_plain plain, length]

theorem bulk_optionalDay (day : Option Day) : (optionalDay day : Json F).bulk ≤ 12 := by
  cases day with
  | none => exact (by decide : 4 ≤ 12)
  | some day => exact Nat.le_of_eq (bulk_dayJson day)

theorem bulk_value (value : Value) : (Json.word value : Json F).bulk ≤ 27 :=
  brief.value value

theorem bulk_kind (kind : Kind) : (Json.word kind : Json F).bulk ≤ 14 :=
  brief.kind kind

theorem bulk_stage (stage : Stage) : (Json.word stage : Json F).bulk ≤ 10 :=
  brief.stage stage

theorem bulk_evidence (evidence : Evidence) : (Json.word evidence : Json F).bulk ≤ 21 :=
  brief.evidence evidence

theorem bulk_event {start last : Day} {applicable : List Stage} {event : Event}
    (valid : EventValid start last applicable event) : (event.toJson : Json F).bulk ≤ 188 := by
  have keys : ∀ key ∈ transitionKeys, (stringText key).length ≤ 15 := brief.keys.1
  have stage : ((event.stage.map Json.word).getD .null : Json F).bulk ≤ 10 := by
    cases event.stage with
    | none => exact (by decide : 4 ≤ 10)
    | some stage => exact bulk_stage stage
  exact Json.bulk_dict_of_bounds 15 [38, 14, 12, 27, 10]
    (fun field member => keys field.1 (List.mem_map_of_mem (f := Prod.fst) member))
    (.cons (Nat.le_of_eq (bulk_ref (by decide) valid.ref)) (.cons (bulk_kind _)
      (.cons (Nat.le_of_eq (bulk_dayJson _)) (.cons (bulk_value _) (.cons stage .nil)))))

theorem bulk_stageStatusJson (values : Stage → Value) :
    (stageStatusJson (stages.map values) : Json F).bulk ≤ 202 := by
  have keys : ∀ key ∈ stageKeys, (stringText key).length ≤ 11 := brief.keys.2.1
  exact Json.bulk_dict_of_bounds 11 [27, 27, 27, 27, 27]
    (fun field member => keys field.1 (List.mem_map_of_mem (f := Prod.fst) member))
    (.cons (bulk_value _) (.cons (bulk_value _) (.cons (bulk_value _) (.cons (bulk_value _)
      (.cons (bulk_value _) .nil)))))

theorem bulk_stages {applicable : List Stage}
    (ordered : stages.filter (· ∈ applicable) = applicable) :
    (Json.array (applicable.map Json.word) : Json F).bulk ≤ 57 := by
  have count : applicable.length ≤ 5 := by
    rw [← ordered]
    exact List.length_filter_le _ _
  have each : ∀ item ∈ (applicable.map Json.word : List (Json F)), item.bulk ≤ 10 := by
    intro item member
    obtain ⟨stage, _, rfl⟩ := List.mem_map.mp member
    exact bulk_stage stage
  have items := Json.bulkItems_le each
  rw [List.length_map] at items
  rw [Json.bulk]
  omega

theorem bulk_transitions {snapshot : Snapshot} (valid : snapshot.Valid) :
    (Json.array (snapshot.transitions.events.map Event.toJson) : Json F).bulk ≤ 48386 := by
  have each : ∀ item ∈ (snapshot.transitions.events.map Event.toJson : List (Json F)),
      item.bulk ≤ 188 := by
    intro item member
    obtain ⟨event, inside, rfl⟩ := List.mem_map.mp member
    exact bulk_event (valid.events event inside)
  have items := Json.bulkItems_le each
  have count := valid.count
  rw [List.length_map] at items
  rw [Json.bulk]
  unfold maxTransitions at count
  omega

/-- The text of a revision below a power of ten. -/
theorem bulk_revision {revision digits : Nat} (positive : 0 < digits)
    (small : revision < 10 ^ digits) : (Json.int revision : Json F).bulk ≤ digits := by
  have length := Nat.toDigits_length 10 revision digits positive small
  have whole : (NumberText.ofInt revision).chars = Nat.toDigits 10 revision := by
    simp [NumberText.ofInt, NumberText.chars, NumberText.exponentText]
  rw [Json.bulk, whole]
  exact length

theorem bulk_snapshot {snapshot : Snapshot} (valid : snapshot.Valid)
    (small : snapshot.revision < 10 ^ 20) : (snapshot.toJson : Json F).bulk ≤ 50000 := by
  have keys : ∀ key ∈ snapshotKeys, (stringText key).length ≤ 29 := brief.keys.2.2
  have stageStatus : (stageStatusJson snapshot.stageStatus : Json F).bulk ≤ 202 := by
    have fromEvents : snapshot.stageStatus = stages.map (stageValue snapshot.transitions.events
        snapshot.applicableStages snapshot.lastObservedDay) := by
      rw [← stageStatus_eq, valid.derived]
    rw [fromEvents]
    exact bulk_stageStatusJson _
  have frozen : (Json.bool snapshot.criteriaFrozenBeforeWork : Json F).bulk ≤ 5 := Nat.le_refl _
  refine Nat.le_trans (Json.bulk_dict_of_bounds 29
    [37, 20, 38, 12, 12, 12, 57, 5, 39, 202, 27, 27, 21, 12, 12, 48386]
    (fun field member => keys field.1 (List.mem_map_of_mem (f := Prod.fst) member))
    (.cons (Nat.le_of_eq (bulk_ref (by decide) valid.workflowRef))
      (.cons (bulk_revision (by decide) small)
      (.cons (Nat.le_of_eq (bulk_ref (by decide) valid.exportRef))
      (.cons (Nat.le_of_eq (bulk_dayJson _)) (.cons (Nat.le_of_eq (bulk_dayJson _))
      (.cons (Nat.le_of_eq (bulk_dayJson _)) (.cons (bulk_stages valid.ordered)
      (.cons frozen (.cons (Nat.le_of_eq (bulk_ref (by decide) valid.criteriaContractRef))
      (.cons stageStatus (.cons (bulk_value _) (.cons (bulk_value _) (.cons (bulk_evidence _)
      (.cons (bulk_optionalDay _) (.cons (bulk_optionalDay _)
      (.cons (bulk_transitions valid) .nil))))))))))))))))) ?_
  decide

/-! ## Exports -/

omit [JsonFloat F] in
/-- The fields of an export's document. -/
theorem field_document (envelope : Envelope F) {key : String} {value : Json F}
    (member : (key, value) ∈ ([("schema", .str schemaName),
      ("library_revision", .str libraryRevision), ("capture_tier", .str captureTier),
      ("consent_policy_version", .str consentPolicyVersion),
      ("reporting_window_days", envelope.reportingWindowDays),
      ("admission_ref", .str envelope.admissionRef), ("snapshot", envelope.snapshot.toJson)] :
        List (String × Json F))) : field envelope.document key = value := by
  rw [Envelope.document]
  refine field_dict ?_ member
  have distinct : topKeys.Nodup := by decide
  exact distinct

theorem canonicalBytes_size {payload : Json F} (finite : payload.finite = true) :
    (canonicalBytes payload).size = payload.canonical.length + 1 := by
  have ascii : ∀ c ∈ payload.canonical ++ ['\n'], c.toNat ≤ 126 := by
    intro c member
    rcases List.mem_append.mp member with inside | last
    · exact (Json.printable_canonical payload finite c inside).2
    · obtain rfl := List.mem_singleton.mp last
      decide
  rw [canonicalBytes, canonicalText, size_toUTF8_of_ascii ascii, List.length_append]
  rfl

theorem isCanonical_event (event : Event) : (event.toJson : Json F).IsCanonical := by
  have stage : ((event.stage.map Json.word).getD .null : Json F).IsCanonical := by
    cases event.stage with
    | none => exact .null
    | some stage => exact .str _
  refine .dict ?_
  simp only [List.forall_mem_cons]
  exact ⟨.str _, .str _, .str _, .str _, stage, List.forall_mem_nil _⟩

theorem isCanonical_optionalDay (day : Option Day) : (optionalDay day : Json F).IsCanonical := by
  cases day with
  | none => exact .null
  | some day => exact .str _

theorem isCanonical_snapshot (snapshot : Snapshot) : (snapshot.toJson : Json F).IsCanonical := by
  have applicable : (Json.array (snapshot.applicableStages.map Json.word) : Json F).IsCanonical := by
    refine .array fun item inside => ?_
    obtain ⟨stage, _, rfl⟩ := List.mem_map.mp inside
    exact .str _
  have stageStatus : (stageStatusJson snapshot.stageStatus : Json F).IsCanonical := by
    refine .dict fun field member => ?_
    obtain ⟨pair, _, rfl⟩ := List.mem_map.mp member
    exact .str _
  have transitions : (Json.array (snapshot.transitions.events.map Event.toJson) :
      Json F).IsCanonical := by
    refine .array fun item inside => ?_
    obtain ⟨event, _, rfl⟩ := List.mem_map.mp inside
    exact isCanonical_event event
  refine .dict ?_
  simp only [List.forall_mem_cons]
  exact ⟨.str _, .int _, .str _, .str _, .str _, .str _, applicable, .bool _, .str _, stageStatus,
    .str _, .str _, .str _, isCanonical_optionalDay _, isCanonical_optionalDay _, transitions,
    List.forall_mem_nil _⟩

theorem isCanonical_document {envelope : Envelope F} (valid : envelope.Valid) :
    envelope.document.IsCanonical := by
  refine .dict ?_
  simp only [List.forall_mem_cons, valid.window]
  exact ⟨.str _, .str _, .str _, .str _, .int _, .str _, isCanonical_snapshot _,
    List.forall_mem_nil _⟩

theorem bulk_document {envelope : Envelope F} (valid : envelope.Valid) :
    envelope.document.bulk ≤ 51000 := by
  have keys : ∀ key ∈ topKeys, (stringText key).length ≤ 24 := by decide +kernel
  have window : envelope.reportingWindowDays.bulk ≤ 20 := by
    rw [valid.window]
    exact bulk_revision (by decide) (by decide)
  have text : ∀ fixed ∈ [schemaName, libraryRevision, captureTier, consentPolicyVersion],
      (stringText fixed).length ≤ 22 := by decide +kernel
  refine Nat.le_trans (Json.bulk_dict_of_bounds 24 [22, 22, 22, 22, 20, 38, 50000]
    (fun field member => keys field.1 (List.mem_map_of_mem (f := Prod.fst) member))
    (.cons (text _ (by decide)) (.cons (text _ (by decide)) (.cons (text _ (by decide))
      (.cons (text _ (by decide)) (.cons window
        (.cons (Nat.le_of_eq (bulk_ref (by decide) valid.admissionRef))
          (.cons (bulk_snapshot valid.snapshot valid.revision) .nil)))))))) ?_
  decide

theorem document_size {envelope : Envelope F} (valid : envelope.Valid) :
    (canonicalBytes envelope.document).size ≤ maxSnapshotBytes := by
  have length := Json.canonical_length_le envelope.document
  have bulk := bulk_document valid
  rw [canonicalBytes_size (isCanonical_document valid).finite]
  unfold maxSnapshotBytes
  omega

omit [JsonFloat F] in
theorem within_event (event : Event) : WithinContract 1 (event.toJson : Json F) := by
  have stage : ((event.stage.map Json.word).getD .null : Json F).isScalar = true := by
    cases event.stage <;> rfl
  refine .dict (by simp [contractKeyNames, transitionKeys]) ?_
  simp only [List.forall_mem_cons]
  exact ⟨.scalar _ rfl, .scalar _ rfl, .scalar _ rfl, .scalar _ rfl, .scalar _ stage,
    List.forall_mem_nil _⟩

omit [JsonFloat F] in
theorem within_snapshot (snapshot : Snapshot) : WithinContract 3 (snapshot.toJson : Json F) := by
  have day : ∀ day : Option Day, (optionalDay day : Json F).isScalar = true := by
    intro day
    cases day <;> rfl
  have applicable : WithinContract 2
      (Json.array (snapshot.applicableStages.map Json.word) : Json F) := by
    refine .array fun item inside => ?_
    obtain ⟨stage, _, rfl⟩ := List.mem_map.mp inside
    exact .scalar _ rfl
  have stageStatus : WithinContract 2 (stageStatusJson snapshot.stageStatus : Json F) := by
    refine .dict ?_ ?_
    · intro field member
      obtain ⟨pair, _, rfl⟩ := List.mem_map.mp member
      have all : ∀ stage : Stage, Vocabulary.text stage ∈ contractKeyNames := by
        intro stage
        cases stage <;> decide
      exact all pair.1
    · intro field member
      obtain ⟨pair, _, rfl⟩ := List.mem_map.mp member
      exact .scalar _ rfl
  have transitions : WithinContract 2
      (Json.array (snapshot.transitions.events.map Event.toJson) : Json F) := by
    refine .array fun item inside => ?_
    obtain ⟨event, _, rfl⟩ := List.mem_map.mp inside
    exact within_event event
  refine .dict (by simp [contractKeyNames, snapshotKeys]) ?_
  simp only [List.forall_mem_cons]
  exact ⟨.scalar _ rfl, .scalar _ rfl, .scalar _ rfl, .scalar _ rfl, .scalar _ rfl, .scalar _ rfl,
    applicable, .scalar _ rfl, .scalar _ rfl, stageStatus, .scalar _ rfl, .scalar _ rfl,
    .scalar _ rfl, .scalar _ (day _), .scalar _ (day _), transitions, List.forall_mem_nil _⟩

omit [JsonFloat F] in
theorem within_document {envelope : Envelope F}
    (window : envelope.reportingWindowDays.isScalar = true) : WithinContract 4 envelope.document := by
  refine .dict (by simp [contractKeyNames, topKeys]) ?_
  simp only [List.forall_mem_cons]
  exact ⟨.scalar _ rfl, .scalar _ rfl, .scalar _ rfl, .scalar _ rfl, .scalar _ window,
    .scalar _ rfl, within_snapshot _, List.forall_mem_nil _⟩

theorem checkEpoch_document {envelope : Envelope F} (valid : envelope.Valid) :
    checkEpoch envelope.document = .ok envelope.admissionRef := by
  have schema : field envelope.document "schema" = .str schemaName :=
    field_document envelope (by simp)
  have revision : field envelope.document "library_revision" = .str libraryRevision :=
    field_document envelope (by simp)
  have tier : field envelope.document "capture_tier" = .str captureTier :=
    field_document envelope (by simp)
  have policy : field envelope.document "consent_policy_version" = .str consentPolicyVersion :=
    field_document envelope (by simp)
  have window : field envelope.document "reporting_window_days" = .int reportingWindowDays :=
    (field_document envelope (by simp)).trans valid.window
  have ref : field envelope.document "admission_ref" = .str envelope.admissionRef :=
    field_document envelope (by simp)
  unfold checkEpoch
  rw [schema, revision, tier, policy, window, ref]
  simp only [bind_eq_ok, require_eq_ok]
  exact ⟨⟨⟩, (Json.IsCanonical.str _).same, ⟨⟩, (Json.IsCanonical.str _).same, ⟨⟩,
    (Json.IsCanonical.str _).same, ⟨⟩, (Json.IsCanonical.str _).same, ⟨⟩,
    (Json.IsCanonical.int _).same, parseRef_eq_ok.mpr ⟨rfl, valid.admissionRef⟩⟩

/-- **The document of a valid export is accepted** and read as that export. -/
theorem validateEnvelope_document {envelope : Envelope F} (valid : envelope.Valid) :
    validateEnvelope envelope.document = .ok envelope := by
  have scalar : envelope.reportingWindowDays.isScalar = true := by
    rw [valid.window]
    rfl
  have window : field envelope.document "reporting_window_days" = envelope.reportingWindowDays :=
    field_document envelope (by simp)
  have snapshot : field envelope.document "snapshot" = envelope.snapshot.toJson :=
    field_document envelope (by simp)
  unfold validateEnvelope
  simp only [bind_eq_ok, require_eq_ok, refuse_eq_ok, pure_eq_ok]
  refine ⟨⟨⟩, rfl, ⟨⟩, (within_document scalar).walk "" 0 (by decide), ⟨⟩, exactKeys_dict _ rfl, _,
    checkEpoch_document valid, envelope.snapshot, ?_, ⟨⟩, Nat.not_lt.mpr (document_size valid), ?_⟩
  · rw [snapshot]
    exact checkSnapshot_toJson valid.snapshot
  · rw [window]

/-- The bytes of a valid export are decoded to its document. -/
theorem loadsStrict_document {envelope : Envelope F} (valid : envelope.Valid) :
    loadsStrict (canonicalBytes envelope.document) = .ok envelope.document := by
  have scalar : envelope.reportingWindowDays.isScalar = true := by
    rw [valid.window]
    rfl
  have text : String.fromUTF8? (canonicalBytes envelope.document) =
      some (canonicalText envelope.document) := by
    rw [canonicalBytes, fromUTF8?_toUTF8]
  have read : Json.decode malformedJson (Json.uniqueKeys duplicateKey)
      (canonicalText envelope.document).toList = .ok envelope.document := by
    rw [canonicalText, String.toList_ofList]
    exact Json.decode_canonical (Json.uniqueKeys_takesOrdered _) (isCanonical_document valid)
      (by decide)
  have shallow := (within_document scalar).nesting_le
  unfold loadsStrict
  simp only [bind_eq_ok, fetch_eq_ok, refuse_eq_ok, pure_eq_ok]
  refine ⟨⟨⟩, Nat.not_lt.mpr (document_size valid), _, text, _, read, ⟨⟩, ?_, rfl⟩
  unfold maxNestingDepth
  omega

end Size

end Aegis.Usage
