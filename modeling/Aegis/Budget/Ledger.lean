/-
# Budget.Ledger — reservation and reconciliation before dispatch

`BudgetLedger` grants a reservation only inside the hard caps, takes the actual
use back against it, and appends one event for everything it does. With a store
attached every event is a line of the ledger file, and a checkpoint beside the
file pins its length, its last event and its digest.

A dictionary of amounts is a function from dimensions; the requests of a caller
are kept in the order in which they are checked. The clock is read at most once
in an operation, so an operation carries its reading.
-/
import Mathlib.Data.List.Sort
import Mathlib.Logic.Function.Basic
import Aegis.Lib.Decimal
import Aegis.Lib.Guarded
import Aegis.Lib.JsonParse

namespace Aegis.Budget

open Aegis.Lib
open Aegis.Lib.Guarded

set_option autoImplicit false

def schemaVersion : String := "1.0.0-wp2b1"

/-- `DIMENSIONS`. -/
inductive Dimension
  | dispatches
  | calls
  | assistantTurns
  | inputTokens
  | outputTokens
  | sessionSeconds
  | monetaryCents
  deriving DecidableEq, Repr

namespace Dimension

def text : Dimension → String
  | .dispatches => "dispatches"
  | .calls => "calls"
  | .assistantTurns => "assistant_turns"
  | .inputTokens => "input_tokens"
  | .outputTokens => "output_tokens"
  | .sessionSeconds => "session_seconds"
  | .monetaryCents => "monetary_cents"

def all : List Dimension :=
  [.dispatches, .calls, .assistantTurns, .inputTokens, .outputTokens, .sessionSeconds,
    .monetaryCents]

/-- `key in DIMENSIONS`. -/
def ofText? (key : String) : Option Dimension := all.find? (·.text == key)

@[simp] theorem ofText?_text (dimension : Dimension) : ofText? dimension.text = some dimension := by
  cases dimension <;> decide

theorem text_of_ofText? {key : String} {dimension : Dimension}
    (known : ofText? key = some dimension) : dimension.text = key := by
  have found := List.find?_some known
  simpa using found

theorem text_injective {left right : Dimension} (same : left.text = right.text) : left = right := by
  have texts : ofText? left.text = ofText? right.text := by rw [same]
  simpa using texts

theorem mem_all (dimension : Dimension) : dimension ∈ all := by
  cases dimension <;> decide

end Dimension

/-- The errors of the module, and the ones of the language that tampered files
can reach. -/
inductive BudgetError
  | budget (message : String)
  | denied (message : String)
  | integrity (message : String)
  | canonicalization (message : String)
  | typeError
  | valueError
  deriving DecidableEq, Repr

inductive CapabilityState
  | available
  | unavailable
  | unknown
  | disabled
  deriving DecidableEq, Repr

def CapabilityState.text : CapabilityState → String
  | .available => "AVAILABLE"
  | .unavailable => "UNAVAILABLE"
  | .unknown => "UNKNOWN"
  | .disabled => "DISABLED"

/-! ## Amounts -/

/-- A dictionary of amounts. -/
abbrev Amounts := Dimension → Option Nat

namespace Amounts

/-- `amounts.get(dimension, 0)`. -/
def at_ (amounts : Amounts) (dimension : Dimension) : Nat := (amounts dimension).getD 0

variable {F : Type}

/-- The dictionary as JSON fields. -/
def fields (amounts : Amounts) : List (String × Json F) :=
  Dimension.all.filterMap fun dimension =>
    (amounts dimension).map fun amount : Nat => (dimension.text, .int amount)

def json (amounts : Amounts) : Json F := .dict amounts.fields

end Amounts

/-- `validated[key] = value`. -/
def assignAmount (validated : List (Dimension × Nat)) (dimension : Dimension) (amount : Nat) :
    List (Dimension × Nat) :=
  if validated.any (·.1 == dimension) then
    validated.map fun entry => if entry.1 = dimension then (dimension, amount) else entry
  else validated ++ [(dimension, amount)]

/-- `dict(validated)`. -/
def amountsOf (validated : List (Dimension × Nat)) : Amounts := fun dimension =>
  validated.lookup dimension

/-- One turn of the loop of `_validate_amounts`. -/
def validateAmount {F : Type} (where_ : String) (validated : List (Dimension × Nat))
    (item : String × Json F) : Except BudgetError (List (Dimension × Nat)) := do
  let dimension ← fetch (Dimension.ofText? item.1)
    (.budget s!"{where_}: unknown budget dimension '{item.1}'")
  match item.2 with
  | .int value =>
      refuse (value < 0) (.budget s!"{where_}[{item.1}] must be a non-negative int")
      pure (assignAmount validated dimension value.toNat)
  | _ => .error (.budget s!"{where_}[{item.1}] must be a non-negative int")

/-- `_validate_amounts`. -/
def validateAmounts {F : Type} (amounts : Json F) (where_ : String) :
    Except BudgetError (List (Dimension × Nat)) :=
  match amounts with
  | .object items => items.foldlM (validateAmount where_) []
  | _ => .error (.budget s!"{where_} must be a mapping of dimension -> amount")

/-! ## Caps -/

/-- The floats of the clock: what the ledger does with readings besides writing
them down. -/
class ClockFloat (F : Type) extends JsonFloat F where
  ofInt : Int → F
  /-- `float(text)`. -/
  parse : String → Option F
  add : F → F → F
  /-- `left >= right`. -/
  atLeast : F → F → Bool
  positive : F → Bool

/-- A number of seconds, an `int` or a `float`. -/
inductive Seconds (F : Type)
  | whole (value : Int)
  | real (value : F)

namespace Seconds

variable {F : Type}

def json : Seconds F → Json F
  | .whole value => .int value
  | .real value => .float value

variable [ClockFloat F]

/-- `float(seconds)`. -/
def toFloat : Seconds F → F
  | .whole value => ClockFloat.ofInt value
  | .real value => value

def finitePositive : Seconds F → Bool
  | .whole value => decide (0 < value)
  | .real value => JsonFloat.finite value && ClockFloat.positive value

end Seconds

/-- Hard ceilings; the limits were validated when the caps were built. -/
structure BudgetCaps (F : Type) where
  limits : Amounts
  concurrencyCap : Int
  wallClockDeadlineSeconds : Option (Seconds F)
  concurrencyCapability : CapabilityState

namespace BudgetCaps

variable {F : Type}

/-- Concurrency defaults to 1 wherever the capability is unproven. -/
def effectiveConcurrencyCap (caps : BudgetCaps F) : Int :=
  if caps.concurrencyCapability ≠ .available then 1 else caps.concurrencyCap

def toDict (caps : BudgetCaps F) : Json F :=
  .dict [
    ("limits", caps.limits.json),
    ("concurrency_cap", .int caps.concurrencyCap),
    ("effective_concurrency_cap", .int caps.effectiveConcurrencyCap),
    ("wall_clock_deadline_seconds", (caps.wallClockDeadlineSeconds.map Seconds.json).getD .null),
    ("concurrency_capability", .str caps.concurrencyCapability.text)]

def validate [ClockFloat F] (caps : BudgetCaps F) : Except BudgetError Unit := do
  refuse (caps.concurrencyCap < 1) (.budget "concurrency_cap must be an int >= 1")
  require (caps.wallClockDeadlineSeconds.all Seconds.finitePositive = true)
    (.budget "wall_clock_deadline_seconds must be a finite positive number")

end BudgetCaps

/-! ## The ledger -/

structure Reservation where
  reservationId : String
  amounts : Amounts

/-- The label, reason and detail of a replayed denial are whatever the event holds. -/
structure DenialRecord (F : Type) where
  requestLabel : Json F
  requested : List (String × Json F)
  reasonCode : Json F
  detail : Json F

def DenialRecord.fields {F : Type} (denial : DenialRecord F) : List (String × Json F) :=
  [("request_label", denial.requestLabel), ("requested", .object denial.requested),
    ("reason_code", denial.reasonCode), ("detail", denial.detail)]

/-- The ledger file and the checkpoint beside it. -/
structure Store where
  ledger : ByteArray
  checkpoint : ByteArray

/-- The state of a ledger; `store` is the content of its store path, if it has one. -/
structure BudgetLedger (F : Type) where
  caps : BudgetCaps F
  store : Option Store := none
  events : List (Json F) := []
  reservedTotals : Dimension → Int := fun _ => 0
  actualTotals : Dimension → Int := fun _ => 0
  releasedTotals : Dimension → Int := fun _ => 0
  inflight : List (Json F × Amounts) := []
  denials : List (DenialRecord F) := []
  killSwitchEngaged : Bool := false
  sequence : Nat := 0
  chainHead : String := "GENESIS"
  deadlineAt : Option F := none

section Digest

variable {F : Type} [ClockFloat F] (sha256Hex : ByteArray → String)

/-- `sha256_hex_of_text(canonical_json(value))`. -/
def digestOf (value : Json F) : String := sha256Hex (String.ofList value.canonical).toUTF8

/-- The line of an event in the ledger file. -/
def lineOf (event : Json F) : ByteArray := (String.ofList (event.canonical ++ ['\n'])).toUTF8

namespace BudgetLedger

/-- `_write_checkpoint`: what it writes for the bytes of the ledger file. -/
def checkpoint (ledger : BudgetLedger F) (ledgerBytes : ByteArray) : Json F :=
  .dict [
    ("checkpoint_kind", .str "budget-ledger-checkpoint"),
    ("schema_version", .str schemaVersion),
    ("final_sequence", .int ledger.sequence),
    ("chain_head", .str ledger.chainHead),
    ("caps_sha256", .str (digestOf sha256Hex ledger.caps.toDict)),
    ("ledger_sha256", .str (sha256Hex ledgerBytes)),
    ("ledger_bytes", .int ledgerBytes.size)]

/-- `{"sequence": ..., "prev": ..., **event}`. -/
def chained (ledger : BudgetLedger F) (event : List (String × Json F)) : Json F :=
  .dict ([("sequence", .int (ledger.sequence + 1 : Nat)), ("prev", .str ledger.chainHead)] ++ event)

/-- `_append_event`, for an event without infinite floats. -/
def appendEvent (ledger : BudgetLedger F) (event : List (String × Json F)) : BudgetLedger F :=
  let chained := ledger.chained event
  let written := { ledger with
    sequence := ledger.sequence + 1
    chainHead := digestOf sha256Hex chained
    events := ledger.events ++ [chained] }
  { written with
    store := ledger.store.map fun store =>
      let bytes := store.ledger ++ lineOf chained
      ⟨bytes, (String.ofList (written.checkpoint sha256Hex bytes).canonical).toUTF8⟩ }

/-- `opened_at + float(caps.wall_clock_deadline_seconds)`, when there is a deadline. -/
def deadlineFrom (caps : BudgetCaps F) (openedAt : F) : Option F :=
  caps.wallClockDeadlineSeconds.map fun seconds => ClockFloat.add openedAt seconds.toFloat

/-- The event that opens a store. -/
def openedEvent (caps : BudgetCaps F) (openedAt : F) : List (String × Json F) :=
  [("event", .str "LEDGER_OPENED"), ("caps", caps.toDict)] ++
    match deadlineFrom caps openedAt with
    | none => []
    | some deadline => [("opened_at", .float openedAt), ("deadline_at", .float deadline)]

/-- `BudgetLedger(caps, store_path)`, with the reading of the clock it takes when
there is a deadline. -/
def open_ (caps : BudgetCaps F) (store : Option Store) (now : F) :
    Except BudgetError (BudgetLedger F) := do
  caps.validate
  refuse (store.any (fun held => held.ledger.size != 0) = true)
    (.integrity ("ledger store already exists; a restart must load the existing ledger, " ++
      "never silently reset it (use BudgetLedger.load)"))
  let ledger : BudgetLedger F :=
    { caps := caps, store := store, deadlineAt := deadlineFrom caps now }
  if store.isSome = true then do
    let opened := openedEvent caps now
    require ((ledger.chained opened).finite = true) (.canonicalization "non-finite float")
    pure (ledger.appendEvent sha256Hex opened)
  else pure ledger

def deadlineExceeded (ledger : BudgetLedger F) (now : F) : Bool :=
  ledger.deadlineAt.any fun at_ => ClockFloat.atLeast now at_

/-- `_headroom_violation`. -/
def headroomViolation (ledger : BudgetLedger F) : List (Dimension × Nat) → Option String
  | [] => none
  | (dimension, amount) :: rest =>
      if amount = 0 then ledger.headroomViolation rest
      else
        match ledger.caps.limits dimension with
        | none =>
            if dimension = .monetaryCents then
              some ("monetary ceiling is not enforceable (monetary cost UNKNOWN); reserve " ++
                "enforceable proxy units instead")
            else
              some (s!"{dimension.text}: no configured hard ceiling; a request for an uncapped " ++
                "dimension is denied by default")
        | some limit =>
            if (limit : Int) < ledger.reservedTotals dimension + amount then
              some (s!"{dimension.text}: reserved {ledger.reservedTotals dimension} + requested " ++
                s!"{amount} exceeds cap {limit}")
            else ledger.headroomViolation rest

/-- `_deny`. -/
def deny (ledger : BudgetLedger F) (requestLabel : String) (requested : Amounts) (detail : String) :
    BudgetLedger F × Except BudgetError Reservation :=
  let denial : DenialRecord F :=
    { requestLabel := .str requestLabel
      requested := Dict.ofFields requested.fields
      reasonCode := .str "BUDGET_CAP"
      detail := .str detail }
  ({ ledger with denials := ledger.denials ++ [denial] }.appendEvent sha256Hex
      (("event", .str "DENY") :: denial.fields),
    .error (.denied s!"reservation denied for '{requestLabel}': {detail}"))

/-- The kill switch, with its event. -/
def engageKillSwitch (ledger : BudgetLedger F) (reason : String) : BudgetLedger F :=
  { ledger with killSwitchEngaged := true }.appendEvent sha256Hex
    [("event", .str "KILL_SWITCH"), ("reason", .str reason)]

/-- The kill switch is engaged unless it was before. -/
def ensureKillSwitch (ledger : BudgetLedger F) (reason : String) : BudgetLedger F :=
  if ledger.killSwitchEngaged = true then ledger else ledger.engageKillSwitch sha256Hex reason

def nextReservationId (ledger : BudgetLedger F) : String :=
  "resv-" ++ zeroPadded 6 (ledger.sequence + 1)

/-- `self._inflight[reservation_id] = amounts`. -/
def putInflight (inflight : List (Json F × Amounts)) (reservationId : Json F) (amounts : Amounts) :
    List (Json F × Amounts) :=
  if inflight.any (·.1.same reservationId) then
    inflight.map fun entry => if entry.1.same reservationId then (entry.1, amounts) else entry
  else inflight ++ [(reservationId, amounts)]

/-- `self._inflight.get(reservation_id)`. -/
def held? (inflight : List (Json F × Amounts)) (reservationId : Json F) : Option Amounts :=
  (inflight.find? (·.1.same reservationId)).map (·.2)

/-- `self._inflight.pop(reservation_id)`. -/
def popInflight (inflight : List (Json F × Amounts)) (reservationId : Json F) :
    List (Json F × Amounts) :=
  inflight.filter fun entry => !entry.1.same reservationId

/-- The reserved totals after the loop over a granted request. -/
def addReserved (totals : Dimension → Int) (validated : List (Dimension × Nat)) : Dimension → Int :=
  validated.foldl (fun totals entry => Function.update totals entry.1 (totals entry.1 + entry.2))
    totals

/-- `reserve`, at a reading of the clock. -/
def reserve (ledger : BudgetLedger F) (now : F) (requestLabel : String) (amounts : Json F) :
    BudgetLedger F × Except BudgetError Reservation :=
  match validateAmounts amounts "reserve" with
  | .error error => (ledger, .error error)
  | .ok validated =>
      let requested := amountsOf validated
      if ledger.deadlineExceeded now = true then
        (ledger.ensureKillSwitch sha256Hex "wall-clock deadline exceeded").deny sha256Hex
          requestLabel requested "wall-clock deadline exceeded"
      else if ledger.killSwitchEngaged = true then
        ledger.deny sha256Hex requestLabel requested "kill switch engaged"
      else if validated.any (fun entry => decide (0 < entry.2)) = false then
        ledger.deny sha256Hex requestLabel requested "empty or all-zero reservation request"
      else if ledger.caps.effectiveConcurrencyCap ≤ ledger.inflight.length then
        ledger.deny sha256Hex requestLabel requested
          s!"concurrency cap {ledger.caps.effectiveConcurrencyCap} reached"
      else
        match ledger.headroomViolation validated with
        | some violation => ledger.deny sha256Hex requestLabel requested violation
        | none =>
            let reservationId := ledger.nextReservationId
            ({ ledger with
                reservedTotals := addReserved ledger.reservedTotals validated
                inflight := putInflight ledger.inflight (.str reservationId) requested }.appendEvent
              sha256Hex
              [("event", .str "RESERVE"), ("reservation_id", .str reservationId),
                ("request_label", .str requestLabel), ("amounts", requested.json)],
              .ok ⟨reservationId, requested⟩)

/-- The actual use that a settlement adds in a dimension. -/
def usedIn (held actuals : Amounts) (dimension : Dimension) : Int :=
  match held dimension with
  | some _ => actuals.at_ dimension
  | none => 0

/-- What a settlement releases in a dimension. -/
def unusedIn (held actuals : Amounts) (dimension : Dimension) : Int :=
  match held dimension with
  | some reserved => reserved - actuals.at_ dimension
  | none => 0

/-- The totals after the loop over a settled reservation. -/
def settleTotals (ledger : BudgetLedger F) (held actuals : Amounts) : BudgetLedger F :=
  { ledger with
    actualTotals := fun dimension => ledger.actualTotals dimension + usedIn held actuals dimension
    releasedTotals := fun dimension =>
      ledger.releasedTotals dimension + unusedIn held actuals dimension
    reservedTotals := fun dimension =>
      ledger.reservedTotals dimension - unusedIn held actuals dimension }

/-- The dimensions in which the actual use exceeds the reservation. -/
def overruns (held : Amounts) (validated : List (Dimension × Nat)) : List (Dimension × Nat) :=
  validated.filter fun entry => decide (held.at_ entry.1 < entry.2)

def overrunsJson (held : Amounts) (overruns : List (Dimension × Nat)) : Json F :=
  .dict (overruns.map fun entry => (entry.1.text,
    .dict [("actual", .int entry.2), ("reserved", .int (held.at_ entry.1))]))

/-- `reconcile`. -/
def reconcile (ledger : BudgetLedger F) (reservationId : String) (actuals : Json F) :
    BudgetLedger F × Except BudgetError Unit :=
  match validateAmounts actuals "reconcile" with
  | .error error => (ledger, .error error)
  | .ok validated =>
      match held? ledger.inflight (.str reservationId) with
      | none =>
          (ledger, .error (.budget
            s!"unknown or already-reconciled reservation '{reservationId}'"))
      | some held =>
          let excess := overruns held validated
          if excess ≠ [] then
            ((ledger.appendEvent sha256Hex
                [("event", .str "DRIFT"), ("reservation_id", .str reservationId),
                  ("overruns", overrunsJson held excess)]).ensureKillSwitch sha256Hex
                "reservation overrun (drift)",
              .error (.budget (s!"actual usage exceeds reservation '{reservationId}': " ++
                s!"{(excess.map (·.1.text)).insertionSort (· ≤ ·)} — drift recorded and kill " ++
                "switch engaged (reservation preserved)")))
          else
            (({ ledger with
                inflight := popInflight ledger.inflight (.str reservationId) }.settleTotals held
                (amountsOf validated)).appendEvent sha256Hex
              [("event", .str "RECONCILE"), ("reservation_id", .str reservationId),
                ("actuals", (amountsOf validated).json)],
              .ok ())

/-! ## One call -/

/-- A call on a ledger, with its arguments and the reading of the clock. -/
inductive Operation (F : Type)
  | reserve (now : F) (requestLabel : String) (amounts : Json F)
  | reconcile (reservationId : String) (actuals : Json F)
  | engageKillSwitch (reason : String)

/-- The ledger after a call, and the reservation that the call granted. -/
def run (ledger : BudgetLedger F) : Operation F → BudgetLedger F × Option Reservation
  | .reserve now requestLabel amounts =>
      let done := ledger.reserve sha256Hex now requestLabel amounts
      (done.1, done.2.toOption)
  | .reconcile reservationId actuals =>
      ((ledger.reconcile sha256Hex reservationId actuals).1, none)
  | .engageKillSwitch reason => (ledger.engageKillSwitch sha256Hex reason, none)

end BudgetLedger

end Digest

end Aegis.Budget
