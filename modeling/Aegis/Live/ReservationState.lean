/-
# Live.ReservationState — the reservation of one workflow run

`workflow_runtime.py`: one file holds the reservation that a run made against the shared allowance.
`reserve` overwrites the file, `trueUp` moves a spend into the ledger and clears what is outstanding,
and `cancel` keeps it as known exposure. None of them looks at the status that it finds.

`Accounted` compares the file with the history of the run. A call keeps it exactly when it does not
overwrite an outstanding amount and does not settle a reservation twice (`accounted_after_iff`), so a
whole run is accounted for exactly when every call was like that (`run_accounted_iff`).
-/
import Aegis.Budget.Conservation
import Aegis.Evidence.Verifier
import Aegis.Lib.PythonJson
import Aegis.Live.SmokeSpendMaps

namespace Aegis.Live

open Aegis.Lib
open Aegis.Lib.Guarded
open Aegis.Evidence (truthy)

set_option autoImplicit false

/-- `RESERVATION_STATE_SCHEMA`. -/
def reservationStateSchema : String := "ber-reservation-state/1.0.0"

inductive ReservationStatus
  | reserved
  | trueUp
  | cancelled
  deriving DecidableEq, Repr

def ReservationStatus.text : ReservationStatus → String
  | reserved => "RESERVED"
  | trueUp => "TRUE_UP"
  | cancelled => "CANCELLED"

def ReservationStatus.all : List ReservationStatus := [.reserved, .trueUp, .cancelled]

structure ReservationState where
  status : ReservationStatus
  outstandingReservationsCents : Nat
  ledgerSpendCents : Nat
  smokeSpendCents : Nat
  ceilingCents : Nat
  allowanceId : String
  workflowRunId : String
  identity : String
  deriving DecidableEq, Repr

/-- What a call to `reserve` is given. -/
structure ReserveRequest (F : Type) where
  allowanceId : String
  workflowRunId : Json F
  identity : String
  amountCents : Json F
  ledgerSpendCents : Json F
  smokeSpendCents : Json F
  ceilingCents : Json F

section Calls

variable {F : Type}

def ReservationState.fields (state : ReservationState) : List (String × Json F) :=
  [("schema", .str reservationStateSchema), ("status", .str state.status.text),
    ("outstanding_reservations_cents", .int state.outstandingReservationsCents),
    ("ledger_spend_cents", .int state.ledgerSpendCents),
    ("smoke_spend_cents", .int state.smokeSpendCents), ("ceiling_cents", .int state.ceilingCents),
    ("allowance_id", .str state.allowanceId), ("workflow_run_id", .str state.workflowRunId),
    ("identity", .str state.identity)]

/-- The state as the file holds it. -/
def ReservationState.payload (state : ReservationState) : Json F := .dict state.fields

/-- `json.dumps` writes every integer of the state. -/
def ReservationState.Writable (state : ReservationState) : Prop :=
  ∀ cents ∈ [state.outstandingReservationsCents, state.ledgerSpendCents, state.smokeSpendCents,
    state.ceilingCents], (natText cents).isSome = true

instance (state : ReservationState) : Decidable state.Writable :=
  inferInstanceAs (Decidable (∀ cents ∈ _, _))

variable [JsonFloat F] (shown : Shown F)

/-- `str(payload.get(key) or "")`. -/
def textOr (payload : Json F) (key : String) : Except String String :=
  let value := payload.getD key .null
  if truthy value = true then pythonStr shown value else pure ""

/-- `validate_state`. -/
def validateState (payload : Json F) : Except String ReservationState := do
  require (payload.isObject = true) "reservation state must be a mapping"
  require ((payload.getD "schema" .null).text? = some reservationStateSchema)
    "unsupported reservation state schema"
  let status ← fetch (ReservationStatus.all.find? fun status =>
      (payload.getD "status" .null).text? = some status.text)
    "reservation state has an invalid status"
  let outstanding ← strictCents (payload.getD "outstanding_reservations_cents" .null)
    "outstanding_reservations_cents"
  let ledger ← strictCents (payload.getD "ledger_spend_cents" .null) "ledger_spend_cents"
  let smoke ← strictCents (payload.getD "smoke_spend_cents" .null) "smoke_spend_cents"
  let ceiling ← strictCents (payload.getD "ceiling_cents" .null) "ceiling_cents"
  refuse (status = .trueUp ∧ outstanding ≠ 0)
    "a true-up state must have zero outstanding reservations"
  let allowanceId ← textOr shown payload "allowance_id"
  let workflowRunId ← textOr shown payload "workflow_run_id"
  let identity ← textOr shown payload "identity"
  pure ⟨status, outstanding, ledger, smoke, ceiling, allowanceId, workflowRunId, identity⟩

/-- `load_state`, of the file's JSON; none when there is no file or no JSON in it. -/
def loadState (file : Option (Json F)) : Except String ReservationState := do
  let payload ← fetch file "reservation state is unavailable"
  validateState shown payload

/-- `atomic_write_json` and the check of what was written: a state that cannot be written leaves the
file as it was. -/
def writeState (file : Option (Json F)) (state : ReservationState) :
    Except String ReservationState × Option (Json F) :=
  if state.Writable then (validateState shown state.payload, some state.payload)
  else (.error tooManyDigits, file)

/-- The state that a reservation starts with. -/
def reservedState (request : ReserveRequest F) : Except String ReservationState := do
  let amount ← strictCents request.amountCents "reservation amount"
  let workflowRunId ← pythonStr shown request.workflowRunId
  let ledger ← strictCents request.ledgerSpendCents "ledger_spend_cents"
  let smoke ← strictCents request.smokeSpendCents "smoke_spend_cents"
  let ceiling ← strictCents request.ceilingCents "ceiling_cents"
  pure ⟨.reserved, amount, ledger, smoke, ceiling, request.allowanceId, workflowRunId,
    request.identity⟩

/-- `reserve`. -/
def reserve (file : Option (Json F)) (request : ReserveRequest F) :
    Except String ReservationState × Option (Json F) :=
  match reservedState shown request with
  | .error message => (.error message, file)
  | .ok state => writeState shown file state

/-- The state after a true-up. -/
def settledState (file : Option (Json F)) (spentCents : Json F) : Except String ReservationState := do
  let state ← loadState shown file
  let spent ← strictCents spentCents "spent_cents"
  pure { state with
    status := .trueUp
    outstandingReservationsCents := 0
    ledgerSpendCents := state.ledgerSpendCents + spent }

/-- `true_up`. -/
def trueUp (file : Option (Json F)) (spentCents : Json F) :
    Except String ReservationState × Option (Json F) :=
  match settledState shown file spentCents with
  | .error message => (.error message, file)
  | .ok state => writeState shown file state

/-- `cancel`. -/
def cancel (file : Option (Json F)) : Except String ReservationState × Option (Json F) :=
  match loadState shown file with
  | .error message => (.error message, file)
  | .ok state => writeState shown file { state with status := .cancelled }

/-! ## What a file holds -/

variable {shown}

/-- A state that the checks accept. -/
def ReservationState.Valid (state : ReservationState) : Prop :=
  state.status = .trueUp → state.outstandingReservationsCents = 0

omit [JsonFloat F] in
theorem getD_payload (state : ReservationState) {key : String} {value : Json F}
    (field : (key, value) ∈ state.fields) : state.payload.getD key .null = value := by
  have distinct : ["schema", "status", "outstanding_reservations_cents", "ledger_spend_cents",
      "smoke_spend_cents", "ceiling_cents", "allowance_id", "workflow_run_id", "identity"].Nodup := by
    decide
  have distinct : ((state.fields (F := F)).map Prod.fst).Nodup := distinct
  exact Json.getD_dict distinct field _

theorem textOr_str {payload : Json F} {key text : String}
    (held : payload.getD key .null = .str text) : textOr shown payload key = .ok text := by
  unfold textOr
  rw [held]
  by_cases empty : text = ""
  · subst empty
    rfl
  · have shows : truthy (F := F) (.str text) = true := by simpa [truthy] using empty
    simp only [shows, if_true]
    rfl

omit [JsonFloat F] in
theorem find?_status (status : ReservationStatus) :
    (ReservationStatus.all.find? fun other => (Json.str (F := F) status.text).text? = some other.text) =
      some status := by
  cases status <;> rfl

variable {state : ReservationState}

/-- **A written state is read back.** -/
theorem validateState_payload (valid : state.Valid) :
    validateState shown state.payload = .ok state := by
  have held : ∀ field ∈ state.fields (F := F), state.payload.getD field.1 .null = field.2 :=
    fun field member => getD_payload state member
  simp only [ReservationState.fields, List.forall_mem_cons] at held
  obtain ⟨schema, status, outstanding, ledger, smoke, ceiling, allowance, run, identity, -⟩ := held
  unfold validateState
  simp only [bind_eq_ok, require_eq_ok, refuse_eq_ok, fetch_eq_ok, strictCents_eq_ok, pure_eq_ok]
  refine ⟨⟨⟩, rfl, ⟨⟩, by rw [schema]; rfl, state.status, by rw [status]; exact find?_status _, _,
    outstanding, _, ledger, _, smoke, _, ceiling, ⟨⟩, ?_, _, textOr_str allowance, _, textOr_str run,
    _, textOr_str identity, rfl⟩
  rintro ⟨settled, outstanding⟩
  exact outstanding (valid settled)

theorem writeState_of_valid {file : Option (Json F)} (valid : state.Valid) :
    writeState shown file state =
      if state.Writable then (.ok state, some state.payload) else (.error tooManyDigits, file) := by
  unfold writeState
  rw [validateState_payload valid]

theorem loadState_payload (valid : state.Valid) :
    loadState shown (some state.payload) = .ok state :=
  bind_eq_ok.mpr ⟨_, fetch_eq_ok.mpr rfl, validateState_payload valid⟩

omit [JsonFloat F] in
theorem reservedState_eq_ok {request : ReserveRequest F}
    (reserved : reservedState shown request = .ok state) :
    state.status = .reserved ∧ request.ledgerSpendCents = .int state.ledgerSpendCents := by
  unfold reservedState at reserved
  simp only [bind_eq_ok, pure_eq_ok, strictCents_eq_ok] at reserved
  obtain ⟨amount, -, run, -, ledger, isLedger, smoke, -, ceiling, -, rfl⟩ := reserved
  exact ⟨rfl, isLedger⟩

theorem settledState_eq_ok {settled : ReservationState} (valid : state.Valid) {spentCents : Json F}
    (done : settledState shown (some state.payload) spentCents = .ok settled) :
    ∃ spent : Nat, spentCents = .int spent ∧ settled = { state with
      status := .trueUp
      outstandingReservationsCents := 0
      ledgerSpendCents := state.ledgerSpendCents + spent } := by
  unfold settledState at done
  rw [loadState_payload valid] at done
  simp only [bind_eq_ok, pure_eq_ok, strictCents_eq_ok] at done
  obtain ⟨_, same, spent, isSpent, rfl⟩ := done
  obtain rfl := Except.ok.inj same
  exact ⟨spent, isSpent, rfl⟩

/-! ## Runs of calls -/

variable (shown)

/-- A reservation of the run, with the spends it was trued up with. -/
structure Reservation where
  amount : Nat
  spends : List Nat
  deriving DecidableEq, Repr

/-- What a reservation stands for: its spend, or its amount as long as it was not trued up. -/
def Reservation.exposure (reservation : Reservation) : Nat :=
  if reservation.spends = [] then reservation.amount else reservation.spends.sum

/-- The file, and the reservations that were made in it, the latest first. -/
structure ReservationRun (F : Type) where
  file : Option (Json F)
  reservations : List Reservation

inductive ReservationCall (F : Type)
  | reserve (request : ReserveRequest F)
  | trueUp (spentCents : Json F)
  | cancel
  /-- A crash in or between calls that leaves the file as it was. -/
  | crashed

def centsOf : Json F → Nat
  | .int cents => cents.toNat
  | _ => 0

/-- The latest reservation is trued up with one more spend. -/
def settleLatest (spent : Nat) : List Reservation → List Reservation
  | [] => []
  | latest :: earlier => { latest with spends := spent :: latest.spends } :: earlier

namespace ReservationRun

def start : ReservationRun F := ⟨none, []⟩

/-- What the next call sees in the file. -/
def held (run : ReservationRun F) : Option ReservationState :=
  match loadState shown run.file with
  | .ok state => some state
  | .error _ => none

def ledger (initial : Nat) (run : ReservationRun F) : Nat :=
  ((run.held shown).map ReservationState.ledgerSpendCents).getD initial

def outstanding (run : ReservationRun F) : Nat :=
  ((run.held shown).map ReservationState.outstandingReservationsCents).getD 0

/-- One call. A call that raises is not in the history. -/
def after (run : ReservationRun F) : ReservationCall F → ReservationRun F
  | .reserve request =>
      match reserve shown run.file request with
      | (.ok state, file) => ⟨file, ⟨state.outstandingReservationsCents, []⟩ :: run.reservations⟩
      | (.error _, file) => ⟨file, run.reservations⟩
  | .trueUp spentCents =>
      match trueUp shown run.file spentCents with
      | (.ok _, file) => ⟨file, settleLatest (centsOf spentCents) run.reservations⟩
      | (.error _, file) => ⟨file, run.reservations⟩
  | .cancel => ⟨(cancel shown run.file).2, run.reservations⟩
  | .crashed => run

/-- The run of a list of calls, the first call first. -/
def ofCalls (calls : List (ReservationCall F)) : ReservationRun F := calls.foldl (after shown) start

/-- A reserve is given the ledger spend of the state that it follows. -/
def Informed (initial : Nat) (run : ReservationRun F) : ReservationCall F → Prop
  | .reserve request => request.ledgerSpendCents = .int (run.ledger shown initial)
  | _ => True

/-- **The account of a run**: nothing of the exposure is forgotten or counted twice. -/
structure Accounted (initial : Nat) (run : ReservationRun F) : Prop where
  exposure : run.ledger shown initial + run.outstanding shown =
    initial + (run.reservations.map Reservation.exposure).sum
  once : ∀ reservation ∈ run.reservations, reservation.spends.length ≤ 1

/-- **The calls that keep the account**: a reserve that succeeds finds nothing outstanding, and a
true-up that succeeds finds the latest reservation not trued up yet. -/
def Keeps (run : ReservationRun F) : ReservationCall F → Prop
  | .reserve request => ∀ state, (reserve shown run.file request).1 = .ok state →
      run.outstanding shown = 0
  | .trueUp spentCents => ∀ state, (trueUp shown run.file spentCents).1 = .ok state →
      ∀ latest ∈ run.reservations.head?, latest.spends = []
  | _ => True

/-- The file belongs to the latest reservation. -/
inductive Shaped : ReservationRun F → Prop
  | start : Shaped start
  | made {state : ReservationState} {latest : Reservation} {earlier : List Reservation} :
      state.Valid →
      state.outstandingReservationsCents = (if latest.spends = [] then latest.amount else 0) →
      Shaped ⟨some state.payload, latest :: earlier⟩

variable {shown} {initial : Nat} {run : ReservationRun F}

theorem held_start : (start (F := F)).held shown = none := rfl

variable {state : ReservationState}

theorem held_made (valid : state.Valid) (reservations : List Reservation) :
    (⟨some state.payload, reservations⟩ : ReservationRun F).held shown = some state := by
  unfold held
  rw [loadState_payload valid]

variable (shown) in
/-- What a reserve does: it makes a new reservation, or nothing. -/
theorem reserve_cases (file : Option (Json F)) (request : ReserveRequest F) :
    (∃ message, reserve shown file request = (.error message, file)) ∨
      ∃ state : ReservationState, state.Valid ∧
        request.ledgerSpendCents = .int state.ledgerSpendCents ∧
        reserve shown file request = (.ok state, some state.payload) := by
  unfold reserve
  cases made : reservedState shown request with
  | error message => exact .inl ⟨message, rfl⟩
  | ok state =>
      obtain ⟨reserved, isLedger⟩ := reservedState_eq_ok made
      have valid : state.Valid := fun settled => by rw [reserved] at settled; cases settled
      show (∃ message, writeState shown file state = (.error message, file)) ∨ _
      by_cases writable : state.Writable
      · refine .inr ⟨state, valid, isLedger, ?_⟩
        show writeState shown file state = _
        rw [writeState_of_valid valid, if_pos writable]
      · refine .inl ⟨tooManyDigits, ?_⟩
        rw [writeState_of_valid valid, if_neg writable]

variable (shown) in
/-- What a true-up of a held state does: it moves a spend into the ledger, or nothing. -/
theorem trueUp_cases (valid : state.Valid) (spentCents : Json F) :
    (∃ message, trueUp shown (some state.payload) spentCents =
      (.error message, some state.payload)) ∨
      ∃ settled : ReservationState, settled.Valid ∧ settled.outstandingReservationsCents = 0 ∧
        settled.ledgerSpendCents = state.ledgerSpendCents + centsOf spentCents ∧
        trueUp shown (some state.payload) spentCents = (.ok settled, some settled.payload) := by
  unfold trueUp
  cases done : settledState shown (some state.payload) spentCents with
  | error message => exact .inl ⟨message, rfl⟩
  | ok settled =>
      obtain ⟨spent, rfl, same⟩ := settledState_eq_ok valid done
      have cleared : settled.outstandingReservationsCents = 0 := by rw [same]
      have moved : settled.ledgerSpendCents = state.ledgerSpendCents + spent := by rw [same]
      have settledValid : settled.Valid := fun _ => cleared
      show (∃ message, writeState shown _ settled = (.error message, _)) ∨ _
      rw [writeState_of_valid settledValid]
      by_cases writable : settled.Writable
      · refine .inr ⟨settled, settledValid, cleared, moved, ?_⟩
        show writeState shown _ settled = _
        rw [writeState_of_valid settledValid, if_pos writable]
      · exact .inl ⟨tooManyDigits, by rw [if_neg writable]⟩

variable (shown) in
/-- A cancellation keeps the amounts of a held state. -/
theorem cancel_cases (valid : state.Valid) :
    ∃ cancelled : ReservationState, cancelled.Valid ∧
      cancelled.outstandingReservationsCents = state.outstandingReservationsCents ∧
      cancelled.ledgerSpendCents = state.ledgerSpendCents ∧
      (cancel shown (some (state.payload (F := F)))).2 = some cancelled.payload := by
  have kept : ReservationState.Valid { state with status := .cancelled } := nofun
  unfold cancel
  rw [loadState_payload valid]
  show ∃ cancelled, _ ∧ _ ∧ _ ∧ (writeState shown _ _).2 = _
  rw [writeState_of_valid kept]
  by_cases writable : ReservationState.Writable { state with status := .cancelled }
  · rw [if_pos writable]
    exact ⟨_, kept, rfl, rfl, rfl⟩
  · rw [if_neg writable]
    exact ⟨state, valid, rfl, rfl, rfl⟩

variable (shown) in
/-- A call that raises leaves no trace. -/
def Raised (run : ReservationRun F) (call : ReservationCall F) : Prop :=
  run.after shown call = run ∧ run.Keeps shown call

variable (shown) in
theorem after_reserve (run : ReservationRun F) (request : ReserveRequest F) :
    Raised shown run (.reserve request) ∨
      ∃ state : ReservationState, state.Valid ∧
        request.ledgerSpendCents = .int state.ledgerSpendCents ∧
        (reserve shown run.file request).1 = .ok state ∧
        run.after shown (.reserve request) =
          ⟨some state.payload, ⟨state.outstandingReservationsCents, []⟩ :: run.reservations⟩ := by
  obtain ⟨message, failed⟩ | ⟨state, valid, isLedger, made⟩ :=
    reserve_cases shown run.file request
  · refine .inl ⟨by simp only [after, failed], fun state succeeded => ?_⟩
    rw [failed] at succeeded
    cases succeeded
  · exact .inr ⟨state, valid, isLedger, by rw [made], by simp only [after, made]⟩

variable (shown) in
theorem after_trueUp (valid : state.Valid) (spentCents : Json F) (reservations : List Reservation) :
    Raised shown ⟨some state.payload, reservations⟩ (.trueUp spentCents) ∨
      ∃ settled : ReservationState, settled.Valid ∧ settled.outstandingReservationsCents = 0 ∧
        settled.ledgerSpendCents = state.ledgerSpendCents + centsOf spentCents ∧
        (trueUp shown (some state.payload) spentCents).1 = .ok settled ∧
        after shown ⟨some state.payload, reservations⟩ (.trueUp spentCents) =
          ⟨some settled.payload, settleLatest (centsOf spentCents) reservations⟩ := by
  obtain ⟨message, failed⟩ | ⟨settled, settledValid, cleared, moved, done⟩ :=
    trueUp_cases shown valid spentCents
  · refine .inl ⟨by simp only [after, failed], fun settled succeeded => ?_⟩
    rw [failed] at succeeded
    cases succeeded
  · exact .inr ⟨settled, settledValid, cleared, moved, by rw [done], by simp only [after, done]⟩

variable (shown) in
theorem after_start_trueUp (spentCents : Json F) :
    Raised shown start (.trueUp spentCents) :=
  ⟨rfl, nofun⟩

theorem Shaped.after (shaped : Shaped run) (call : ReservationCall F) :
    Shaped (run.after shown call) := by
  cases call with
  | reserve request =>
      obtain ⟨raised, -⟩ | ⟨state, valid, -, -, made⟩ := after_reserve shown run request
      · rw [raised]
        exact shaped
      · rw [made]
        exact .made valid rfl
  | trueUp spentCents =>
      cases shaped with
      | start => exact .start
      | made valid same =>
          obtain ⟨raised, -⟩ | ⟨settled, settledValid, cleared, -, -, done⟩ :=
            after_trueUp shown valid spentCents (_ :: _)
          · rw [raised]
            exact .made valid same
          · rw [done]
            exact .made settledValid cleared
  | cancel =>
      cases shaped with
      | start => exact .start
      | made valid same =>
          obtain ⟨cancelled, cancelledValid, outstanding, -, done⟩ :=
            cancel_cases (F := F) shown valid
          simp only [ReservationRun.after, done]
          exact .made cancelledValid (outstanding.trans same)
  | crashed => exact shaped

theorem ledger_made (valid : state.Valid) (reservations : List Reservation) :
    (⟨some state.payload, reservations⟩ : ReservationRun F).ledger shown initial =
      state.ledgerSpendCents := by
  unfold ledger
  rw [held_made valid]
  rfl

theorem outstanding_made (valid : state.Valid) (reservations : List Reservation) :
    (⟨some state.payload, reservations⟩ : ReservationRun F).outstanding shown =
      state.outstandingReservationsCents := by
  unfold outstanding
  rw [held_made valid]
  rfl

theorem accounted_start : Accounted shown initial (start (F := F)) :=
  ⟨rfl, fun _ member => absurd member List.not_mem_nil⟩

/-- **One call keeps the account exactly when it is one of those that keep it.** -/
theorem accounted_after_iff (shaped : Shaped run) (accounted : Accounted shown initial run)
    {call : ReservationCall F} (informed : Informed shown initial run call) :
    Accounted shown initial (run.after shown call) ↔ Keeps shown run call := by
  obtain ⟨exposure, once⟩ := accounted
  cases call with
  | reserve request =>
      obtain ⟨raised, keeps⟩ | ⟨state, valid, isLedger, succeeded, made⟩ :=
        after_reserve shown run request
      · rw [raised]
        exact ⟨fun _ => keeps, fun _ => ⟨exposure, once⟩⟩
      · have given : state.ledgerSpendCents = run.ledger shown initial :=
          Int.ofNat.inj (Json.int.inj (isLedger.symm.trans informed))
        rw [made]
        constructor
        · intro accounted other _
          have total := accounted.exposure
          rw [ledger_made valid, outstanding_made valid, List.map_cons, List.sum_cons] at total
          simp only [Reservation.exposure, if_true] at total
          omega
        · intro keeps
          have clear := keeps state succeeded
          refine ⟨?_, List.forall_mem_cons.mpr ⟨Nat.zero_le 1, once⟩⟩
          rw [ledger_made valid, outstanding_made valid, List.map_cons, List.sum_cons]
          simp only [Reservation.exposure, if_true]
          omega
  | trueUp spentCents =>
      cases shaped with
      | start => exact ⟨fun _ => nofun, fun _ => accounted_start⟩
      | @made state latest earlier valid same =>
          obtain ⟨raised, keeps⟩ | ⟨settled, settledValid, cleared, moved, succeeded, done⟩ :=
            after_trueUp shown valid spentCents (latest :: earlier)
          · rw [raised]
            exact ⟨fun _ => keeps, fun _ => ⟨exposure, once⟩⟩
          · rw [done]
            constructor
            · intro accounted _ _ other isLatest
              obtain rfl := Option.some.inj isLatest
              have most := accounted.once _ List.mem_cons_self
              simpa using most
            · intro keeps
              have unsettled := keeps settled succeeded latest rfl
              rw [if_pos unsettled] at same
              rw [ledger_made valid, outstanding_made valid, List.map_cons, List.sum_cons] at exposure
              simp only [Reservation.exposure, if_pos unsettled] at exposure
              refine ⟨?_, List.forall_mem_cons.mpr ⟨?_, fun other member =>
                once other (List.mem_cons_of_mem _ member)⟩⟩
              · show ledger shown initial ⟨some settled.payload, _⟩ + _ = _
                rw [ledger_made settledValid, outstanding_made settledValid, settleLatest,
                  List.map_cons, List.sum_cons, unsettled]
                simp only [Reservation.exposure, List.cons_ne_nil, if_false, List.sum_cons,
                  List.sum_nil]
                omega
              · rw [unsettled]
                exact Nat.le_refl 1
  | cancel =>
      refine ⟨fun _ => trivial, fun _ => ?_⟩
      cases shaped with
      | start => exact accounted_start
      | @made state latest earlier valid same =>
          obtain ⟨cancelled, cancelledValid, outstanding, ledger, done⟩ :=
            cancel_cases (F := F) shown valid
          rw [ledger_made valid, outstanding_made valid] at exposure
          simp only [ReservationRun.after, done]
          refine ⟨?_, once⟩
          rw [ledger_made cancelledValid, outstanding_made cancelledValid, ledger, outstanding]
          exact exposure
  | crashed => exact ⟨fun _ => trivial, fun _ => ⟨exposure, once⟩⟩

variable (shown) in
theorem ofCalls_take_succ {calls : List (ReservationCall F)} {n : Nat} {call : ReservationCall F}
    (here : calls[n]? = some call) :
    ofCalls shown (calls.take (n + 1)) = (ofCalls shown (calls.take n)).after shown call := by
  unfold ofCalls
  rw [List.take_add_one, here, List.foldl_append]
  rfl

theorem shaped_ofCalls (calls : List (ReservationCall F)) : Shaped (ofCalls shown calls) := by
  unfold ofCalls
  exact List.foldlRecOn calls _ .start fun _ shaped call _ => shaped.after call

/-- **A run is accounted for exactly when every call keeps the account.** -/
theorem run_accounted_iff {calls : List (ReservationCall F)}
    (informed : ∀ n call, calls[n]? = some call →
      Informed shown initial (ofCalls shown (calls.take n)) call) :
    (∀ n ≤ calls.length, Accounted shown initial (ofCalls shown (calls.take n))) ↔
      ∀ n call, calls[n]? = some call → Keeps shown (ofCalls shown (calls.take n)) call := by
  constructor
  · intro accounted n call here
    have bound := (List.getElem?_eq_some_iff.mp here).1
    have next := accounted (n + 1) bound
    rw [ofCalls_take_succ shown here] at next
    exact (accounted_after_iff (shaped_ofCalls _) (accounted n (Nat.le_of_lt bound))
      (informed n call here)).mp next
  · intro keeps n
    induction n with
    | zero => exact fun _ => accounted_start
    | succ n ih =>
        intro bound
        have here := List.getElem?_eq_getElem bound
        rw [ofCalls_take_succ shown here]
        exact (accounted_after_iff (shaped_ofCalls _) (ih (Nat.le_of_succ_le bound))
          (informed n _ here)).mpr (keeps n _ here)

end ReservationRun

end Calls

/-! ## A sample -/

section Sample

open Aegis.Budget (ZeroFloat)
open ReservationRun

def sampleReservation (amount ledger : Nat) : ReservationCall ZeroFloat :=
  .reserve ⟨"pilot-a", .str "1", "trial", .int amount, .int ledger, .int 0, .int 12000⟩

/-- A reservation that is cancelled and then trued up. -/
def sampleCalls : List (ReservationCall ZeroFloat) := [sampleReservation 10 7, .cancel, .trueUp (.int 4)]

theorem informed_sampleCalls : ∀ n call, sampleCalls[n]? = some call →
    Informed sampleShown 7 (ofCalls sampleShown (sampleCalls.take n)) call := by
  intro n call here
  rcases n with _ | _ | _ | n
  · obtain rfl := Option.some.inj here
    rfl
  · obtain rfl := Option.some.inj here
    trivial
  · obtain rfl := Option.some.inj here
    trivial
  · cases here

theorem keeps_sampleCalls : ∀ n call, sampleCalls[n]? = some call →
    Keeps sampleShown (ofCalls sampleShown (sampleCalls.take n)) call := by
  intro n call here
  rcases n with _ | _ | _ | n
  · obtain rfl := Option.some.inj here
    exact fun _ _ => rfl
  · obtain rfl := Option.some.inj here
    trivial
  · obtain rfl := Option.some.inj here
    intro _ _ latest isLatest
    obtain rfl := Option.some.inj isLatest
    rfl
  · cases here

theorem sampleCalls_accounted :
    Accounted sampleShown 7 (ofCalls sampleShown sampleCalls) ∧
    ∀ n ≤ sampleCalls.length, Accounted sampleShown 7 (ofCalls sampleShown (sampleCalls.take n)) := by
  have each := (run_accounted_iff informed_sampleCalls).mpr keeps_sampleCalls
  exact ⟨each sampleCalls.length (Nat.le_refl _), each⟩

/-- Another reservation after the cancelled one. -/
def forgettingCalls : List (ReservationCall ZeroFloat) := [sampleReservation 10 0, .cancel, sampleReservation 5 0]

/-- **A reserve after a cancellation forgets the cancelled amount.** -/
theorem cancelled_exposure_forgotten :
    (∀ n call, forgettingCalls[n]? = some call →
      Informed sampleShown 0 (ofCalls sampleShown (forgettingCalls.take n)) call) ∧
    ¬ Accounted sampleShown 0 (ofCalls sampleShown forgettingCalls) := by
  constructor
  · intro n call here
    rcases n with _ | _ | _ | n
    · obtain rfl := Option.some.inj here
      rfl
    · obtain rfl := Option.some.inj here
      trivial
    · obtain rfl := Option.some.inj here
      rfl
    · cases here
  · intro accounted
    have total := accounted.exposure
    revert total
    decide

end Sample

end Aegis.Live
