/-
# Runner.Scheduling — what the walk of the queue reserves

The walk reserves the longest prefix of the dispatchable cases that the ledger admits when they are
taken one after another. `Admits` says so of the ledger before the walk: its deadline and kill
switch, its concurrency cap, and its headroom under every cap less what the walk has reserved.

* `reserveInFull_of_room`, `reserveInFull_of_full`: one reservation, granted or denied;
* `walk_reserves`: a walk of any length, by induction on the queue;
* `schedule_is_maximal_prefix`: the schedule of a selection.
-/
import Aegis.Lib.LongestPrefix
import Aegis.Runner.Scheduler

namespace Aegis.Runner

open Aegis.Lib
open Aegis.Lib.Guarded
open Aegis.Budget

set_option autoImplicit false

/-! ## The amounts of a request -/

section Request

variable {F : Type}

/-- What an item asks for in a dimension. -/
def SelectionItem.amount (item : SelectionItem F) (dimension : Dimension) : Nat :=
  match Dict.get? item.reservationRequest dimension.text with
  | some (.int value) => value.toNat
  | _ => 0

/-- A validated request is a list of amounts, one a dimension. -/
theorem SelectionItem.exists_entries {item : SelectionItem F} (valid : item.validate = .ok ()) :
    ∃ entries : List (Dimension × Nat),
      item.reservationRequest = entries.map (fun entry => (entry.1.text, Json.int entry.2)) ∧
        (entries.map Prod.fst).Nodup := by
  unfold validate at valid
  obtain ⟨_, -, checked⟩ := bind_eq_ok.mp valid
  have each : ∀ field ∈ item.reservationRequest, ∃ (dimension : Dimension) (amount : Nat),
      field = (dimension.text, .int amount) := by
    intro field member
    have here := forM_eq_ok.mp checked field member
    unfold validateEntry at here
    obtain ⟨dimension, known, natural⟩ := bind_eq_ok.mp here
    rw [fetch_eq_ok] at known
    rw [require_eq_ok] at natural
    obtain ⟨key, value⟩ := field
    cases value with
    | int value =>
        have least : 0 ≤ value := by simpa [isNatural] using natural
        refine ⟨dimension, value.toNat, ?_⟩
        rw [Dimension.text_of_ofText? known, Int.toNat_of_nonneg least]
    | _ => cases natural
  obtain ⟨entries, same⟩ := Budget.exists_entries each
  refine ⟨entries, same, ?_⟩
  have distinct := item.distinct
  rw [same, List.map_map] at distinct
  exact List.Nodup.of_map Dimension.text (by rwa [List.map_map])

theorem lookup_of_mem {entries : List (Dimension × Nat)} (distinct : (entries.map Prod.fst).Nodup)
    {entry : Dimension × Nat} (member : entry ∈ entries) :
    entries.lookup entry.1 = some entry.2 :=
  amountsOf_of_mem distinct member

/-- Reading a list with distinct keys from either end finds the same. -/
theorem lookup_reverse {entries : List (Dimension × Nat)} (distinct : (entries.map Prod.fst).Nodup)
    (dimension : Dimension) : entries.reverse.lookup dimension = entries.lookup dimension := by
  have back : (entries.reverse.map Prod.fst).Nodup := by
    rwa [List.map_reverse, List.nodup_reverse]
  cases found : entries.lookup dimension with
  | some amount =>
      have member : (dimension, amount) ∈ entries := amountsOf_mem found
      exact lookup_of_mem back (List.mem_reverse.mpr member)
  | none =>
      cases other : entries.reverse.lookup dimension with
      | none => rfl
      | some amount =>
          have member : (dimension, amount) ∈ entries :=
            List.mem_reverse.mp (amountsOf_mem other)
          rw [lookup_of_mem distinct member] at found
          cases found

/-- **A validated request is what the ledger reads of it.** -/
theorem SelectionItem.exists_validated {item : SelectionItem F} (valid : item.validate = .ok ()) :
    ∃ validated, validateAmounts (.object item.reservationRequest) "reserve" = .ok validated ∧
      (∀ dimension, (amountsOf validated).at_ dimension = item.amount dimension) ∧
      (item.isRealReservation = true ↔ ∃ dimension, 0 < item.amount dimension) := by
  obtain ⟨entries, same, distinct⟩ := item.exists_entries valid
  obtain ⟨validated, folded, looked⟩ := validateAmounts_entries (F := F) "reserve" entries []
  have amounts : ∀ dimension, item.amount dimension = (entries.lookup dimension).getD 0 := by
    intro dimension
    unfold amount
    rw [same, lookup_entries]
    cases entries.lookup dimension <;> rfl
  refine ⟨validated, ?_, ?_, ?_⟩
  · show item.reservationRequest.foldlM (validateAmount "reserve") [] = _
    rw [same]
    exact folded
  · intro dimension
    have found : amountsOf validated dimension = entries.lookup dimension := by
      have read := looked dimension
      rw [lookup_reverse distinct, List.lookup_nil, Option.or_none] at read
      exact read
    rw [amounts, Amounts.at_, found]
  · unfold isRealReservation
    rw [same, List.any_map, List.any_eq_true]
    constructor
    · rintro ⟨entry, member, positive⟩
      refine ⟨entry.1, ?_⟩
      rw [amounts, lookup_of_mem distinct member]
      simpa [isPositive] using positive
    · rintro ⟨dimension, positive⟩
      rw [amounts] at positive
      cases found : entries.lookup dimension with
      | none =>
          rw [found] at positive
          exact absurd positive (by simp)
      | some amount =>
          rw [found] at positive
          refine ⟨(dimension, amount), amountsOf_mem found, ?_⟩
          simpa [isPositive] using positive

end Request

/-! ## One reservation -/

section Room

variable {F : Type} [ClockFloat F]

/-- A ledger would grant an item at a reading of its clock. -/
structure Room (ledger : BudgetLedger F) (now : F) (item : SelectionItem F) : Prop where
  inTime : ledger.deadlineExceeded now = false
  alive : ledger.killSwitchEngaged = false
  concurrent : (ledger.inflight.length : Int) < ledger.caps.effectiveConcurrencyCap
  headroom : ∀ dimension, 0 < item.amount dimension → ∃ limit : Nat,
    ledger.caps.limits dimension = some limit ∧
      ledger.reservedTotals dimension + item.amount dimension ≤ limit

omit [ClockFloat F] in
/-- The headroom check leaves nothing to complain about when every amount fits. -/
theorem headroomViolation_eq_none {ledger : BudgetLedger F} {validated : List (Dimension × Nat)}
    (fits : ∀ entry ∈ validated, entry.2 = 0 ∨ ∃ limit : Nat,
      ledger.caps.limits entry.1 = some limit ∧
        ledger.reservedTotals entry.1 + entry.2 ≤ limit) :
    ledger.headroomViolation validated = none := by
  induction validated with
  | nil => rfl
  | cons first rest ih =>
      obtain ⟨here, later⟩ := List.forall_mem_cons.mp fits
      unfold BudgetLedger.headroomViolation
      rcases here with zero | ⟨limit, known, within⟩
      · rw [if_pos zero]
        exact ih later
      · by_cases zero : first.2 = 0
        · rw [if_pos zero]
          exact ih later
        · rw [if_neg zero]
          simp only [known]
          rw [if_neg (by omega)]
          exact ih later

/-- What the walk reads of a ledger besides its totals. -/
structure SameGates (before after : BudgetLedger F) : Prop where
  caps : after.caps = before.caps
  deadline : after.deadlineAt = before.deadlineAt
  killSwitch : after.killSwitchEngaged = before.killSwitchEngaged
  inflight : after.inflight.length ≤ before.inflight.length

variable {sha256Hex : ByteArray → String} {ledger : BudgetLedger F} {now : F}
  {item : SelectionItem F}

theorem str_same_self (id : String) : (Json.str id : Json F).same (.str id) = true :=
  Json.same_str_iff.mpr rfl

/-- A reservation that was just put into flight is found there. -/
theorem held?_putInflight (inflight : List (Json F × Amounts)) (id : String) (amounts : Amounts) :
    BudgetLedger.held? (BudgetLedger.putInflight inflight (.str id) amounts) (.str id) =
      some amounts := by
  unfold BudgetLedger.putInflight
  by_cases known : inflight.any (·.1.same (.str id)) = true
  · rw [if_pos known]
    induction inflight with
    | nil => simp at known
    | cons entry inflight ih =>
        by_cases here : entry.1.same (.str id) = true
        · simp [BudgetLedger.held?, here]
        · have later : inflight.any (·.1.same (.str id)) = true := by
            simpa [here] using known
          have away : entry.1.same (.str id) = false := by simpa using here
          have found := ih later
          rw [BudgetLedger.held?] at found ⊢
          rw [List.map_cons, if_neg here, List.find?_cons, away]
          exact found
  · rw [if_neg known]
    have none : inflight.find? (·.1.same (.str id)) = none := by
      simpa using known
    rw [BudgetLedger.held?, List.find?_append, none]
    simp [str_same_self]

/-- Taking out a reservation that was put into flight leaves no more than there was. -/
theorem length_popInflight_le (inflight : List (Json F × Amounts)) (id : String)
    (amounts : Amounts) :
    (BudgetLedger.popInflight (BudgetLedger.putInflight inflight (.str id) amounts)
      (.str id)).length ≤ inflight.length := by
  unfold BudgetLedger.putInflight BudgetLedger.popInflight
  by_cases known : inflight.any (·.1.same (.str id)) = true
  · rw [if_pos known]
    exact (List.length_filter_le _ _).trans (by rw [List.length_map])
  · rw [if_neg known, List.filter_append]
    have gone : [((Json.str id : Json F), amounts)].filter (fun entry => !entry.1.same (.str id)) =
        [] := by
      simp [str_same_self]
    rw [gone, List.append_nil]
    exact List.length_filter_le _ _

variable (sha256Hex) in
/-- A granted reservation. -/
theorem reserve_of_room {validated : List (Dimension × Nat)}
    (read : validateAmounts (.object item.reservationRequest) "reserve" = .ok validated)
    (amounts : ∀ dimension, (amountsOf validated).at_ dimension = item.amount dimension)
    (positive : ∃ dimension, 0 < item.amount dimension) (room : Room ledger now item) :
    ∃ after, ledger.reserve sha256Hex now item.caseUid (.object item.reservationRequest) =
        (after, .ok ⟨ledger.nextReservationId, amountsOf validated⟩) ∧
      after.caps = ledger.caps ∧ after.deadlineAt = ledger.deadlineAt ∧
      after.killSwitchEngaged = ledger.killSwitchEngaged ∧
      after.inflight = BudgetLedger.putInflight ledger.inflight (.str ledger.nextReservationId)
        (amountsOf validated) ∧
      after.reservedTotals = BudgetLedger.addReserved ledger.reservedTotals validated := by
  have some : ¬ validated.any (fun entry => decide (0 < entry.2)) = false := by
    obtain ⟨dimension, positive⟩ := positive
    rw [← amounts, Amounts.at_] at positive
    intro none
    cases found : amountsOf validated dimension with
    | none => simp [found] at positive
    | some amount =>
        rw [found] at positive
        have here := List.any_eq_false.mp none _ (amountsOf_mem found)
        exact here (by simpa using positive)
  have fits : ledger.headroomViolation validated = none := by
    apply headroomViolation_eq_none
    intro entry member
    have held := amountsOf_of_mem (validateAmounts_nodup read) member
    have amount := amounts entry.1
    rw [Amounts.at_, held, Option.getD_some] at amount
    by_cases zero : entry.2 = 0
    · exact .inl zero
    · right
      obtain ⟨limit, known, within⟩ := room.headroom entry.1 (by omega)
      exact ⟨limit, known, by omega⟩
  unfold BudgetLedger.reserve
  rw [read]
  simp only [room.inTime, room.alive]
  rw [if_neg Bool.false_ne_true, if_neg Bool.false_ne_true, if_neg some,
    if_neg (by have := room.concurrent; omega)]
  simp only [fits]
  exact ⟨_, rfl, rfl, rfl, rfl, rfl, rfl⟩

variable (sha256Hex) in
/-- A reservation that is in flight is settled at its own amounts, and nothing is released. -/
theorem reconcile_in_full {id : String} {held : Amounts}
    (found : BudgetLedger.held? ledger.inflight (.str id) = some held) :
    ∃ after, ledger.reconcile sha256Hex id held.json = (after, .ok ()) ∧
      after.caps = ledger.caps ∧ after.deadlineAt = ledger.deadlineAt ∧
      after.killSwitchEngaged = ledger.killSwitchEngaged ∧
      after.inflight = BudgetLedger.popInflight ledger.inflight (.str id) ∧
      after.reservedTotals = ledger.reservedTotals := by
  obtain ⟨validated, read, same⟩ := validateAmounts_json (F := F) held "reconcile"
  have within : BudgetLedger.overruns held validated = [] := by
    unfold BudgetLedger.overruns
    rw [List.filter_eq_nil_iff]
    intro entry member
    have amount := amountsOf_of_mem (validateAmounts_nodup read) member
    rw [same] at amount
    simp [Amounts.at_, amount]
  unfold BudgetLedger.reconcile
  rw [read]
  simp only [found, within]
  rw [if_neg (not_not.mpr rfl)]
  refine ⟨_, rfl, rfl, rfl, rfl, rfl, ?_⟩
  funext dimension
  show ledger.reservedTotals dimension - BudgetLedger.unusedIn held (amountsOf validated) dimension =
    ledger.reservedTotals dimension
  rw [same]
  unfold BudgetLedger.unusedIn Amounts.at_
  cases held dimension <;> simp

variable (sha256Hex) in
/-- **A reservation with room** is granted and settled in full. -/
theorem reserveInFull_of_room (valid : item.validate = .ok ())
    (real : item.isRealReservation = true) (room : Room ledger now item) :
    ∃ after reservation, reserveInFull sha256Hex ledger now item = (after, .ok reservation) ∧
      SameGates ledger after ∧
      ∀ dimension, after.reservedTotals dimension =
        ledger.reservedTotals dimension + item.amount dimension := by
  obtain ⟨validated, read, amounts, positive⟩ := item.exists_validated valid
  obtain ⟨middle, granted, caps, deadline, killSwitch, inflight, totals⟩ :=
    reserve_of_room sha256Hex read amounts (positive.mp real) room
  have found : BudgetLedger.held? middle.inflight (.str ledger.nextReservationId) =
      some (amountsOf validated) := by
    rw [inflight]
    exact held?_putInflight _ _ _
  obtain ⟨after, settled, laterCaps, laterDeadline, laterKillSwitch, laterInflight, laterTotals⟩ :=
    reconcile_in_full sha256Hex found
  refine ⟨after, ⟨ledger.nextReservationId, amountsOf validated⟩, ?_, ⟨?_, ?_, ?_, ?_⟩, ?_⟩
  · unfold reserveInFull
    rw [granted]
    show ((middle.reconcile sha256Hex ledger.nextReservationId (amountsOf validated).json).1, _) = _
    rw [settled]
    rfl
  · rw [laterCaps, caps]
  · rw [laterDeadline, deadline]
  · rw [laterKillSwitch, killSwitch]
  · rw [laterInflight, inflight]
    exact length_popInflight_le _ _ _
  · intro dimension
    rw [laterTotals, totals, addReserved_eq _ _ (validateAmounts_nodup read), amounts]

variable (sha256Hex) in
/-- **A reservation without room** is denied and adds nothing. -/
theorem reserveInFull_of_full (valid : item.validate = .ok ())
    (full : ¬ Room ledger now item) :
    ∃ after detail, reserveInFull sha256Hex ledger now item = (after, .error (.denied detail)) ∧
      after.reservedTotals = ledger.reservedTotals := by
  obtain ⟨validated, read, amounts, -⟩ := item.exists_validated valid
  have denied : ∃ after detail,
      ledger.reserve sha256Hex now item.caseUid (.object item.reservationRequest) =
        (after, .error (.denied detail)) ∧ after.reservedTotals = ledger.reservedTotals := by
    unfold BudgetLedger.reserve
    rw [read]
    simp only
    by_cases late : ledger.deadlineExceeded now = true
    · rw [if_pos late]
      refine ⟨_, _, rfl, ?_⟩
      show (ledger.ensureKillSwitch sha256Hex "wall-clock deadline exceeded").reservedTotals = _
      unfold BudgetLedger.ensureKillSwitch
      split <;> rfl
    rw [if_neg late]
    by_cases killed : ledger.killSwitchEngaged = true
    · rw [if_pos killed]
      exact ⟨_, _, rfl, rfl⟩
    rw [if_neg killed]
    by_cases empty : validated.any (fun entry => decide (0 < entry.2)) = false
    · rw [if_pos empty]
      exact ⟨_, _, rfl, rfl⟩
    rw [if_neg empty]
    by_cases crowded : ledger.caps.effectiveConcurrencyCap ≤ ledger.inflight.length
    · rw [if_pos crowded]
      exact ⟨_, _, rfl, rfl⟩
    rw [if_neg crowded]
    cases fits : ledger.headroomViolation validated with
    | some violation => exact ⟨_, _, rfl, rfl⟩
    | none =>
        -- every check passed, so there was room
        refine absurd ⟨by simpa using late, by simpa using killed, by omega, ?_⟩ full
        intro dimension positive
        rcases granted_fits fits dimension with zero | ⟨limit, known, within⟩
        · rw [amounts] at zero
          omega
        · exact ⟨limit, known, by rw [← amounts]; exact within⟩
  obtain ⟨after, detail, reserved, totals⟩ := denied
  refine ⟨after, detail, ?_, totals⟩
  unfold reserveInFull
  rw [reserved]

end Room

/-! ## The walk -/

section Walk

variable {F : Type} [ClockFloat F]

/-- The sum of what items ask for in a dimension. -/
def requested (items : List (SelectionItem F)) (dimension : Dimension) : Nat :=
  (items.map fun item => item.amount dimension).sum

/-- The ledger admits an item behind the ones that were reserved before it, one reading of the clock
each. -/
structure Admits (ledger : BudgetLedger F) (clock : Nat → F) (earlier : List (SelectionItem F))
    (item : SelectionItem F) : Prop where
  inTime : ledger.deadlineExceeded (clock earlier.length) = false
  alive : ledger.killSwitchEngaged = false
  concurrent : (ledger.inflight.length : Int) < ledger.caps.effectiveConcurrencyCap
  headroom : ∀ dimension, 0 < item.amount dimension → ∃ limit : Nat,
    ledger.caps.limits dimension = some limit ∧
      ledger.reservedTotals dimension + requested earlier dimension + item.amount dimension ≤ limit

/-- A ledger behind the reservations that a walk made on it. -/
structure Ahead (start : BudgetLedger F) (earlier : List (SelectionItem F))
    (ledger : BudgetLedger F) : Prop where
  caps : ledger.caps = start.caps
  deadline : ledger.deadlineAt = start.deadlineAt
  killSwitch : ledger.killSwitchEngaged = start.killSwitchEngaged
  concurrent : (ledger.inflight.length : Int) < start.caps.effectiveConcurrencyCap ↔
    (start.inflight.length : Int) < start.caps.effectiveConcurrencyCap
  totals : ∀ dimension, ledger.reservedTotals dimension =
    start.reservedTotals dimension + requested earlier dimension

variable {sha256Hex : ByteArray → String} {start ledger : BudgetLedger F} {clock : Nat → F}
  {earlier : List (SelectionItem F)} {item : SelectionItem F} {selection : List (SelectionItem F)}

omit [ClockFloat F] in
theorem requested_append (left right : List (SelectionItem F)) (dimension : Dimension) :
    requested (left ++ right) dimension = requested left dimension + requested right dimension := by
  simp [requested]

omit [ClockFloat F] in
theorem Ahead.refl (start : BudgetLedger F) : Ahead start [] start :=
  ⟨rfl, rfl, rfl, Iff.rfl, fun _ => by simp [requested]⟩

theorem Ahead.room_iff (ahead : Ahead start earlier ledger) :
    Room ledger (clock earlier.length) item ↔ Admits start clock earlier item := by
  have late : ledger.deadlineExceeded (clock earlier.length) =
      start.deadlineExceeded (clock earlier.length) := by
    unfold BudgetLedger.deadlineExceeded
    rw [ahead.deadline]
  constructor
  · rintro ⟨inTime, alive, concurrent, headroom⟩
    refine ⟨late ▸ inTime, ahead.killSwitch ▸ alive,
      ahead.concurrent.mp (ahead.caps ▸ concurrent), fun dimension positive => ?_⟩
    obtain ⟨limit, known, within⟩ := headroom dimension positive
    rw [ahead.caps] at known
    rw [ahead.totals] at within
    exact ⟨limit, known, within⟩
  · rintro ⟨inTime, alive, concurrent, headroom⟩
    refine ⟨late ▸ inTime, ahead.killSwitch ▸ alive, ?_, fun dimension positive => ?_⟩
    · rw [ahead.caps]
      exact ahead.concurrent.mpr concurrent
    · obtain ⟨limit, known, within⟩ := headroom dimension positive
      refine ⟨limit, by rw [ahead.caps]; exact known, ?_⟩
      rw [ahead.totals]
      exact within

omit [ClockFloat F] in
theorem Ahead.granted {after : BudgetLedger F} (ahead : Ahead start earlier ledger)
    (concurrent : (start.inflight.length : Int) < start.caps.effectiveConcurrencyCap)
    (gates : SameGates ledger after)
    (totals : ∀ dimension, after.reservedTotals dimension =
      ledger.reservedTotals dimension + item.amount dimension) :
    Ahead start (earlier ++ [item]) after where
  caps := gates.caps.trans ahead.caps
  deadline := gates.deadline.trans ahead.deadline
  killSwitch := gates.killSwitch.trans ahead.killSwitch
  concurrent := by
    have before := ahead.concurrent.mpr concurrent
    have fewer := gates.inflight
    exact ⟨fun _ => concurrent, fun _ => by omega⟩
  totals dimension := by
    rw [totals, ahead.totals, requested_append]
    simp only [requested, List.map_cons, List.map_nil, List.sum_cons, List.sum_nil]
    omega

/-- The entry was reserved. -/
def DispatchDecision.IsReserved (decision : DispatchDecision) : Prop :=
  decision.reservationResult = "reserved"

instance (decision : DispatchDecision) : Decidable decision.IsReserved :=
  inferInstanceAs (Decidable (_ = _))

theorem not_isReserved_denied (entry : QueueEntry) (detail : String) :
    ¬ (DispatchDecision.denied entry detail).IsReserved :=
  show ¬ "denied" = "reserved" by decide

/-- The cases that were reserved, in the order of the decisions. -/
def reservedUids (decisions : List DispatchDecision) : List String :=
  (decisions.filter fun decision => decision.IsReserved).map fun decision => decision.entry.caseUid

/-- The cases with something to reserve. -/
def dispatchable (items : List (SelectionItem F)) : List (SelectionItem F) :=
  items.filter fun item => item.isRealReservation

/-- No entry is reserved behind one that asked for something and was denied. -/
def StopsAtDenial (items : List (SelectionItem F)) (decisions : List DispatchDecision) : Prop :=
  ∀ before denied later, decisions = before ++ denied :: later → ¬ denied.IsReserved →
    (∃ item ∈ dispatchable items, item.caseUid = denied.entry.caseUid) →
    ∀ decision ∈ later, ¬ decision.IsReserved

/-- What a walk over the entries of some items leaves. -/
structure Reserves (admits : List (SelectionItem F) → SelectionItem F → Prop)
    (items : List (SelectionItem F)) (entries : List QueueEntry) (before after : BudgetLedger F)
    (decisions : List DispatchDecision) : Prop where
  entries : decisions.map DispatchDecision.entry = entries
  reserved : ∃ taken, LongestPrefix admits (dispatchable items) taken ∧
    reservedUids decisions = taken.map SelectionItem.caseUid ∧
    ∀ dimension, after.reservedTotals dimension =
      before.reservedTotals dimension + requested taken dimension
  stops : StopsAtDenial items decisions

variable {items : List (SelectionItem F)}

omit [ClockFloat F] in
/-- A denial in front of other decisions. -/
theorem stopsAtDenial_cons {decision : DispatchDecision} {decisions : List DispatchDecision}
    (named : decision.entry.caseUid = item.caseUid)
    (others : ∀ other ∈ items, other.caseUid ≠ item.caseUid)
    (apart : ∀ later ∈ decisions, later.entry.caseUid ≠ item.caseUid)
    (head : ¬ decision.IsReserved → item.isRealReservation = true →
      ∀ later ∈ decisions, ¬ later.IsReserved) (stops : StopsAtDenial items decisions) :
    StopsAtDenial (item :: items) (decision :: decisions) := by
  intro before denied later split refused ⟨asked, member, same⟩
  obtain ⟨asked_mem, real⟩ := List.mem_filter.mp member
  cases before with
  | nil =>
      obtain ⟨rfl, rfl⟩ := List.cons.inj split
      rcases List.mem_cons.mp asked_mem with rfl | inside
      · exact head refused real
      · exact absurd (same.trans named) (others asked inside)
  | cons first before =>
      obtain ⟨rfl, rfl⟩ := List.cons.inj split
      rcases List.mem_cons.mp asked_mem with rfl | inside
      · exact absurd same.symm (apart denied (List.mem_append_right _ List.mem_cons_self))
      · exact stops before denied later rfl refused
          ⟨asked, List.mem_filter.mpr ⟨inside, real⟩, same⟩

/-- The queue entries of items, from a position on. -/
def entriesOf (items : List (SelectionItem F)) (position : Nat) : List QueueEntry :=
  (items.zipIdx position).map fun placed => queueEntry placed.1 placed.2

omit [ClockFloat F] in
theorem entriesOf_cons (items : List (SelectionItem F)) (position : Nat) :
    entriesOf (item :: items) position =
      queueEntry item position :: entriesOf items (position + 1) := rfl

omit [ClockFloat F] in
theorem uids_entriesOf (items : List (SelectionItem F)) (position : Nat) :
    (entriesOf items position).map QueueEntry.caseUid = items.map SelectionItem.caseUid := by
  induction items generalizing position with
  | nil => rfl
  | cons item items ih =>
      rw [entriesOf_cons, List.map_cons, List.map_cons, ih]
      rfl

omit [ClockFloat F] in
/-- A decision of the walk is about a case of the items. -/
theorem Reserves.apart {admits : List (SelectionItem F) → SelectionItem F → Prop} {position : Nat}
    {before after : BudgetLedger F} {decisions : List DispatchDecision}
    (reserves : Reserves admits items (entriesOf items position) before after decisions)
    (others : ∀ other ∈ items, other.caseUid ≠ item.caseUid) :
    ∀ later ∈ decisions, later.entry.caseUid ≠ item.caseUid := by
  intro later member
  have there : later.entry.caseUid ∈ (entriesOf items position).map QueueEntry.caseUid := by
    rw [← reserves.entries, List.map_map]
    exact List.mem_map.mpr ⟨later, member, rfl⟩
  rw [uids_entriesOf] at there
  obtain ⟨other, held, same⟩ := List.mem_map.mp there
  exact same ▸ others other held

/-- Nothing is reserved once the budget is exhausted. -/
theorem walk_exhausted (readings : Nat)
    (found : ∀ item ∈ items, itemOf selection item.caseUid = .ok item) (position : Nat) :
    walk sha256Hex selection clock ledger readings true (entriesOf items position) =
      (ledger, .ok ((entriesOf items position).map fun entry =>
        .denied entry "prefix exhausted: budget consumed by earlier queue entries")) := by
  induction items generalizing position with
  | nil => rfl
  | cons item items ih =>
      obtain ⟨here, later⟩ := List.forall_mem_cons.mp found
      rw [entriesOf_cons, walk]
      simp only [show (queueEntry item position).caseUid = item.caseUid from rfl, here]
      rw [if_pos trivial, ih later]
      rfl

/-- **What the walk reserves**, by induction on the queue: the ledger stays ahead of the start by
what was reserved, so it has room for the next item exactly when the start admits it there. -/
theorem walk_reserves (found : ∀ item ∈ items, itemOf selection item.caseUid = .ok item)
    (valid : ∀ item ∈ items, item.validate = .ok ())
    (distinct : (items.map SelectionItem.caseUid).Nodup) (position : Nat)
    (ahead : Ahead start earlier ledger) :
    ∃ after decisions,
      walk sha256Hex selection clock ledger earlier.length false (entriesOf items position) =
        (after, .ok decisions) ∧
      Reserves (fun more => Admits start clock (earlier ++ more)) items (entriesOf items position)
        ledger after decisions := by
  induction items generalizing position earlier ledger with
  | nil =>
      refine ⟨ledger, [], rfl, rfl, ⟨[], .nil, rfl, fun _ => by simp [requested]⟩, ?_⟩
      intro before denied later split
      simp at split
  | cons item items ih =>
      obtain ⟨here, foundLater⟩ := List.forall_mem_cons.mp found
      obtain ⟨validHere, validLater⟩ := List.forall_mem_cons.mp valid
      obtain ⟨fresh, distinctLater⟩ := List.nodup_cons.mp distinct
      have others : ∀ other ∈ items, other.caseUid ≠ item.caseUid :=
        fun other member same => fresh (List.mem_map.mpr ⟨other, member, same⟩)
      rw [entriesOf_cons, walk]
      simp only [show (queueEntry item position).caseUid = item.caseUid from rfl, here]
      rw [if_neg Bool.false_ne_true]
      by_cases real : item.isRealReservation = true
      · rw [if_neg (by rw [real]; decide)]
        have kept : dispatchable (item :: items) = item :: dispatchable items := by
          rw [dispatchable, List.filter_cons_of_pos real, dispatchable]
        by_cases admitted : Admits start clock earlier item
        · -- granted: the walk goes on ahead of the start by this item too
          obtain ⟨middle, reservation, reserved, gates, totals⟩ :=
            reserveInFull_of_room sha256Hex validHere real
              (ahead.room_iff.mpr admitted)
          obtain ⟨after, decisions, walked, reserves⟩ := ih foundLater validLater distinctLater
            (position + 1) (ahead.granted admitted.concurrent gates totals)
          rw [reserved]
          rw [List.length_append, List.length_singleton] at walked
          simp only [walked]
          obtain ⟨taken, longest, uids, sums⟩ := reserves.reserved
          refine ⟨_, _, rfl, ?_, ⟨item :: taken, ?_, ?_, ?_⟩, ?_⟩
          · rw [List.map_cons, reserves.entries]
            rfl
          · rw [kept]
            refine .cons (by rwa [List.append_nil]) (longest.congr fun more next => ?_)
            rw [List.append_assoc, List.singleton_append]
          · rw [reservedUids, List.filter_cons_of_pos (by rfl), List.map_cons, List.map_cons]
            exact congrArg _ uids
          · intro dimension
            rw [sums, totals]
            simp only [requested, List.map_cons, List.sum_cons]
            omega
          · exact stopsAtDenial_cons rfl others (reserves.apart others)
              (fun refused => absurd rfl refused) reserves.stops
        · -- denied: the rest of the queue is exhausted
          obtain ⟨after, detail, denied, totals⟩ := reserveInFull_of_full sha256Hex
            validHere (fun room => admitted (ahead.room_iff.mp room))
          rw [denied]
          simp only [walk_exhausted _ foundLater]
          have none : ∀ entries : List QueueEntry, ∀ decision ∈ entries.map (fun entry =>
              DispatchDecision.denied entry
                "prefix exhausted: budget consumed by earlier queue entries"),
              ¬ decision.IsReserved := by
            intro entries decision member
            obtain ⟨entry, -, rfl⟩ := List.mem_map.mp member
            exact not_isReserved_denied _ _
          refine ⟨_, _, rfl, ?_, ⟨[], ?_, ?_, ?_⟩, ?_⟩
          · rw [List.map_cons, List.map_map]
            exact congrArg _ (List.map_id _)
          · rw [kept]
            exact .stop (by rwa [List.append_nil]) _
          · rw [reservedUids, List.filter_cons_of_neg (by simp [not_isReserved_denied])]
            rw [List.filter_eq_nil_iff.mpr fun decision member => by
              simpa using none _ decision member]
            rfl
          · intro dimension
            rw [totals]
            simp [requested]
          · intro before refused later split _ _ decision member
            cases before with
            | nil =>
                obtain ⟨-, rfl⟩ := List.cons.inj split
                exact none _ decision member
            | cons first before =>
                obtain ⟨-, rest⟩ := List.cons.inj split
                refine none (entriesOf items (position + 1)) decision ?_
                rw [rest]
                exact List.mem_append_right _ (List.mem_cons_of_mem _ member)
      · -- nothing to reserve: the entry is skipped and the walk goes on
        rw [if_pos (by simpa using real)]
        obtain ⟨after, decisions, walked, reserves⟩ := ih foundLater validLater distinctLater
          (position + 1) ahead
        simp only [walked]
        have kept : dispatchable (item :: items) = dispatchable items := by
          rw [dispatchable, List.filter_cons_of_neg real, dispatchable]
        obtain ⟨taken, longest, uids, sums⟩ := reserves.reserved
        refine ⟨_, _, rfl, ?_, ⟨taken, kept ▸ longest, ?_, sums⟩, ?_⟩
        · rw [List.map_cons, reserves.entries]
          rfl
        · rw [reservedUids, List.filter_cons_of_neg (by simp [not_isReserved_denied])]
          exact uids
        · exact stopsAtDenial_cons rfl others (reserves.apart others)
            (fun _ asked => absurd asked real) reserves.stops

end Walk

/-! ## The schedule of a selection -/

section Schedule

variable {F : Type} [ClockFloat F] {sha256Hex : ByteArray → String} {policy : SchedulingPolicy}
  {selection other : List (SelectionItem F)}

/-- A selection that is scheduled: the policy and the items are valid and no case stands twice. -/
structure Accepted (policy : SchedulingPolicy) (selection : List (SelectionItem F)) : Prop where
  policy : policy.validate = .ok ()
  items : ∀ item ∈ selection, item.validate = .ok ()
  distinct : (selection.map SelectionItem.caseUid).Nodup

omit [ClockFloat F] in
theorem foldlM_checkItem (selection : List (SelectionItem F)) :
    ∀ seen, (∃ checked, selection.foldlM checkItem seen = .ok checked) ↔
      (∀ item ∈ selection, item.validate = .ok () ∧ item.caseUid ∉ seen) ∧
        (selection.map SelectionItem.caseUid).Nodup := by
  induction selection with
  | nil => exact fun seen => ⟨fun _ => ⟨by simp, List.nodup_nil⟩, fun _ => ⟨seen, rfl⟩⟩
  | cons item selection ih =>
      intro seen
      simp only [List.foldlM_cons, bind_eq_ok, checkItem, refuse_eq_ok, pure_eq_ok]
      rw [List.forall_mem_cons, List.map_cons, List.nodup_cons]
      constructor
      · rintro ⟨checked, _, ⟨_, valid, _, fresh, rfl⟩, later⟩
        obtain ⟨each, distinct⟩ := (ih _).mp ⟨checked, later⟩
        refine ⟨⟨⟨valid, fresh⟩, fun other member => ⟨(each other member).1, fun known =>
          (each other member).2 (List.mem_cons_of_mem _ known)⟩⟩, ?_, distinct⟩
        intro again
        obtain ⟨other, member, same⟩ := List.mem_map.mp again
        exact (each other member).2 (same ▸ List.mem_cons_self)
      · rintro ⟨⟨⟨valid, fresh⟩, each⟩, new, distinct⟩
        obtain ⟨checked, later⟩ := (ih (item.caseUid :: seen)).mpr ⟨fun other member => by
          refine ⟨(each other member).1, fun known => ?_⟩
          rcases List.mem_cons.mp known with same | known
          · exact new (List.mem_map.mpr ⟨other, member, same⟩)
          · exact (each other member).2 known, distinct⟩
        exact ⟨checked, _, ⟨(), valid, ⟨⟩, fresh, rfl⟩, later⟩

omit [ClockFloat F] in
theorem buildQueue_eq_ok {queue : List QueueEntry} :
    buildQueue sha256Hex policy selection = .ok queue ↔
      Accepted policy selection ∧ queue = entriesOf (ordered sha256Hex policy selection) 0 := by
  unfold buildQueue
  simp only [bind_eq_ok, pure_eq_ok]
  constructor
  · rintro ⟨_, valid, checked, each, rfl⟩
    obtain ⟨items, distinct⟩ := (foldlM_checkItem selection []).mp ⟨checked, each⟩
    exact ⟨⟨valid, fun item member => (items item member).1, distinct⟩, rfl⟩
  · rintro ⟨⟨valid, items, distinct⟩, rfl⟩
    obtain ⟨checked, each⟩ := (foldlM_checkItem selection []).mpr
      ⟨fun item member => ⟨items item member, List.not_mem_nil⟩, distinct⟩
    exact ⟨(), valid, checked, each, rfl⟩

omit [ClockFloat F] in
/-- The item of a case is found when no case stands twice. -/
theorem itemOf_of_mem (distinct : (selection.map SelectionItem.caseUid).Nodup)
    {item : SelectionItem F} (member : item ∈ selection) :
    itemOf selection item.caseUid = .ok item := by
  rw [itemOf, fetch_eq_ok]
  cases found : selection.reverse.find? fun other => other.caseUid = item.caseUid with
  | none =>
      have := List.find?_eq_none.mp found item (List.mem_reverse.mpr member)
      simp at this
  | some other =>
      have same : other.caseUid = item.caseUid := by simpa using List.find?_some found
      have held := List.mem_reverse.mp (List.mem_of_find?_eq_some found)
      rw [List.inj_on_of_nodup_map distinct held member same]

omit [ClockFloat F] in
theorem Accepted.perm (same : selection.Perm other) (accepted : Accepted policy selection) :
    Accepted policy other where
  policy := accepted.policy
  items item member := accepted.items item (same.mem_iff.mpr member)
  distinct := (same.map _).nodup_iff.mp accepted.distinct

omit [ClockFloat F] in
theorem ordered_perm (same : selection.Perm other)
    (distinct : (selection.map SelectionItem.caseUid).Nodup) :
    ordered sha256Hex policy selection = ordered sha256Hex policy other := by
  refine sortBy_congr same ?_
  refine List.Nodup.of_map (fun key => (ofLex (ofLex key).2).2) ?_
  rw [List.map_map]
  exact distinct

/-- Two walks that find the same items are the same walk. -/
theorem walk_congr {clock : Nat → F} {entries : List QueueEntry}
    (same : ∀ entry ∈ entries, itemOf selection entry.caseUid = itemOf other entry.caseUid) :
    ∀ (ledger : BudgetLedger F) (readings : Nat) (exhausted : Bool),
      walk sha256Hex selection clock ledger readings exhausted entries =
        walk sha256Hex other clock ledger readings exhausted entries := by
  induction entries with
  | nil => exact fun _ _ _ => rfl
  | cons entry entries ih =>
      obtain ⟨here, later⟩ := List.forall_mem_cons.mp same
      intro ledger readings exhausted
      simp only [walk, here, ih later]

/-- The schedule of an accepted selection. -/
structure MaximalPrefix (sha256Hex : ByteArray → String) (policy : SchedulingPolicy)
    (selection : List (SelectionItem F)) (ledger : BudgetLedger F) (clock : Nat → F)
    (after : BudgetLedger F) (evidence : ScheduleEvidence) : Prop where
  orderFree : ∀ other, selection.Perm other →
    scheduleWithReservation sha256Hex policy other ledger clock = (after, .ok evidence)
  queue : evidence.queue = entriesOf (ordered sha256Hex policy selection) 0
  inQueueOrder : evidence.decisions.map DispatchDecision.entry = evidence.queue
  eachOnce : (evidence.queue.map QueueEntry.caseUid).Nodup ∧
    (evidence.queue.map QueueEntry.caseUid).Perm (selection.map SelectionItem.caseUid)
  reserved : ∃ taken,
    LongestPrefix (Admits ledger clock) (dispatchable (ordered sha256Hex policy selection)) taken ∧
      reservedUids evidence.decisions = taken.map SelectionItem.caseUid ∧
      ∀ dimension, after.reservedTotals dimension =
        ledger.reservedTotals dimension + requested taken dimension
  stops : StopsAtDenial selection evidence.decisions

/-- **Scheduling under a budget is a reproducible maximal prefix.** A schedule is returned exactly
for a valid policy and a valid selection without duplicates. -/
theorem schedule_is_maximal_prefix (sha256Hex : ByteArray → String) (policy : SchedulingPolicy)
    (selection : List (SelectionItem F)) (ledger : BudgetLedger F) (clock : Nat → F) :
    ((∃ after evidence,
      scheduleWithReservation sha256Hex policy selection ledger clock = (after, .ok evidence)) ↔
        Accepted policy selection) ∧
    ∀ after evidence,
      scheduleWithReservation sha256Hex policy selection ledger clock = (after, .ok evidence) →
        MaximalPrefix sha256Hex policy selection ledger clock after evidence := by
  have sorted : (ordered sha256Hex policy selection).Perm selection := perm_sortBy _
  have walked : ∀ accepted : Accepted policy selection, ∃ after decisions,
      walk sha256Hex selection clock ledger 0 false
        (entriesOf (ordered sha256Hex policy selection) 0) = (after, .ok decisions) ∧
      Reserves (fun more => Admits ledger clock ([] ++ more)) (ordered sha256Hex policy selection)
        (entriesOf (ordered sha256Hex policy selection) 0) ledger after decisions := by
    intro accepted
    exact walk_reserves
      (fun item member => itemOf_of_mem accepted.distinct (sorted.mem_iff.mp member))
      (fun item member => accepted.items item (sorted.mem_iff.mp member))
      ((sorted.map _).nodup_iff.mpr accepted.distinct) 0 (Ahead.refl ledger)
  constructor
  · constructor
    · rintro ⟨after, evidence, scheduled⟩
      unfold scheduleWithReservation at scheduled
      cases built : buildQueue sha256Hex policy selection with
      | error error =>
          rw [built] at scheduled
          cases scheduled
      | ok queue => exact (buildQueue_eq_ok.mp built).1
    · intro accepted
      obtain ⟨after, decisions, done, -⟩ := walked accepted
      unfold scheduleWithReservation
      rw [buildQueue_eq_ok.mpr ⟨accepted, rfl⟩]
      simp only [done]
      exact ⟨_, _, rfl⟩
  · intro after evidence scheduled
    have orderFree : ∀ other, selection.Perm other → Accepted policy selection →
        scheduleWithReservation sha256Hex policy other ledger clock =
          scheduleWithReservation sha256Hex policy selection ledger clock := by
      intro other same accepted
      unfold scheduleWithReservation
      rw [buildQueue_eq_ok.mpr ⟨accepted, rfl⟩, buildQueue_eq_ok.mpr ⟨accepted.perm same, rfl⟩,
        ← ordered_perm same accepted.distinct]
      simp only
      rw [walk_congr fun entry member => ?_]
      have there : entry.caseUid ∈
          (entriesOf (ordered sha256Hex policy selection) 0).map QueueEntry.caseUid :=
        List.mem_map.mpr ⟨entry, member, rfl⟩
      rw [uids_entriesOf] at there
      obtain ⟨item, held, uid⟩ := List.mem_map.mp there
      have inside := sorted.mem_iff.mp held
      rw [← uid, itemOf_of_mem accepted.distinct inside,
        itemOf_of_mem (accepted.perm same).distinct (same.mem_iff.mp inside)]
    have whole := scheduled
    unfold scheduleWithReservation at scheduled
    cases built : buildQueue sha256Hex policy selection with
    | error error =>
        rw [built] at scheduled
        cases scheduled
    | ok queue =>
        obtain ⟨accepted, rfl⟩ := buildQueue_eq_ok.mp built
        obtain ⟨last, decisions, done, reserves⟩ := walked accepted
        rw [built] at scheduled
        simp only [done] at scheduled
        obtain ⟨rfl, same⟩ := Prod.mk.inj scheduled
        obtain rfl := Except.ok.inj same
        refine ⟨fun other perm => (orderFree other perm accepted).trans whole, rfl,
          reserves.entries, ?_, reserves.reserved, ?_⟩
        · show ((entriesOf _ 0).map QueueEntry.caseUid).Nodup ∧
            ((entriesOf _ 0).map QueueEntry.caseUid).Perm _
          rw [uids_entriesOf]
          exact ⟨(sorted.map _).nodup_iff.mpr accepted.distinct, sorted.map _⟩
        · intro before denied later split refused asked
          refine reserves.stops before denied later split refused ?_
          obtain ⟨item, member, uid⟩ := asked
          exact ⟨item, (sorted.filter _).mem_iff.mpr member, uid⟩

end Schedule

/-! ## A sample -/

/-- A case that asks for one call. -/
def sampleItem (caseUid : String) (priority : SchedulingPriority) : SelectionItem ZeroFloat where
  caseUid := caseUid
  priority := priority
  inclusionReason := .ownCase
  reservationRequest := [("calls", .int 1)]
  distinct := by decide

def sampleSelection : List (SelectionItem ZeroFloat) :=
  [sampleItem ("planner::behavior_eval::BE-02::" ++ emptyHash) .changedSkill,
    sampleItem ("planner::behavior_eval::BE-01::" ++ emptyHash) .criticalSafety]

theorem accepted_sampleSelection : Accepted {} sampleSelection where
  policy := by decide
  items := by
    simp only [sampleSelection, List.forall_mem_cons]
    exact ⟨rfl, rfl, by simp⟩
  distinct := by decide +kernel

theorem schedule_of_sample :
    ∃ after evidence,
      scheduleWithReservation (fun _ => "") {} sampleSelection { caps := sampleCaps }
        (fun _ => .zero) = (after, .ok evidence) ∧
      MaximalPrefix (fun _ => "") {} sampleSelection { caps := sampleCaps } (fun _ => .zero) after
        evidence := by
  obtain ⟨returns, maximal⟩ := schedule_is_maximal_prefix (fun _ => "") {} sampleSelection
    { caps := sampleCaps } fun _ => .zero
  obtain ⟨after, evidence, scheduled⟩ := returns.mpr accepted_sampleSelection
  exact ⟨after, evidence, scheduled, maximal after evidence scheduled⟩

end Aegis.Runner
