/-
# Budget.Loading — a ledger reconstructed from its store

`BudgetLedger.load` trusts the checkpoint first, then folds over the lines of the
ledger file: every event must carry the next sequence number and the digest of
the event before it, and each kind of event repeats what the live ledger did when
it appended the event. What the files hold is arbitrary; a message that quotes
a value of a file is kept without the quotation.
-/
import Aegis.Budget.Ledger
import Aegis.Lib.TextLines

namespace Aegis.Budget

open Aegis.Lib
open Aegis.Lib.Guarded

set_option autoImplicit false

section Values

variable {F : Type}

/-- Whether a value can be a key of a dictionary. -/
def hashable : Json F → Bool
  | .array _ => false
  | .object _ => false
  | _ => true

/-- An item of a sequence that `dict` takes for a key with its value. A key is a
text: the dictionaries of the ledger have no others. -/
def pairOf : Json F → Except BudgetError (String × Json F)
  | .array [.str key, value] => .ok (key, value)
  | .array [_, _] => .error .typeError
  | .array _ => .error .valueError
  | .str text =>
      match text.toList with
      | [key, value] => .ok (String.ofList [key], .str (String.ofList [value]))
      | _ => .error .valueError
  | _ => .error .typeError

/-- `dict(value)`. -/
def dictOf : Json F → Except BudgetError (List (String × Json F))
  | .object fields => .ok fields
  | .array items => do
      let pairs ← items.mapM pairOf
      pure (Dict.ofFields pairs)
  | .str text => if text = "" then .ok [] else .error .valueError
  | _ => .error .typeError

/-- `float(value)`. -/
def floatOf [ClockFloat F] : Json F → Except BudgetError F
  | .bool value => .ok (ClockFloat.ofInt (if value then 1 else 0))
  | .int value => .ok (ClockFloat.ofInt value)
  | .float value => .ok value
  | .str text => fetch (ClockFloat.parse text) .valueError
  | _ => .error .typeError

end Values

/-- Where the loop over the lines stands; the next event is expected to have the
sequence number after `index`. -/
structure Replay (F : Type) where
  ledger : BudgetLedger F
  chainHead : String := "GENESIS"
  index : Nat := 0
  seenReservations : List (Json F) := []

namespace Replay

variable {F : Type} [ClockFloat F]

/-- The first line. -/
def opened (replay : Replay F) (caps : BudgetCaps F) (event : Json F) :
    Except BudgetError (Replay F) := do
  require ((event.getD "event" .null).same (.str "LEDGER_OPENED") = true)
    (.integrity "ledger store does not begin with LEDGER_OPENED")
  require ((event.getD "caps" .null).same caps.toDict = true)
    (.integrity ("ledger caps differ from the recorded caps; a restart cannot silently change " ++
      "or reset the budget"))
  match event.get? "deadline_at" with
  | none => pure replay
  | some deadline => do
      let at_ ← floatOf deadline
      pure { replay with ledger := { replay.ledger with deadlineAt := some at_ } }

/-- A RESERVE event. -/
def reserve (replay : Replay F) (event : Json F) : Except BudgetError (Replay F) := do
  let reservationId := event.getD "reservation_id" .null
  require (hashable reservationId = true) .typeError
  refuse (replay.seenReservations.any (·.same reservationId) = true)
    (.integrity "duplicate reservation id in the ledger")
  let amounts ← validateAmounts (event.getD "amounts" (.object [])) "replay"
  pure { replay with
    seenReservations := replay.seenReservations ++ [reservationId]
    ledger := { replay.ledger with
      reservedTotals := BudgetLedger.addReserved replay.ledger.reservedTotals amounts
      inflight := BudgetLedger.putInflight replay.ledger.inflight reservationId
        (amountsOf amounts) } }

/-- A RECONCILE event. -/
def reconcile (replay : Replay F) (event : Json F) : Except BudgetError (Replay F) := do
  let reservationId := event.getD "reservation_id" .null
  require (replay.ledger.inflight = [] ∨ hashable reservationId = true) .typeError
  let held ← fetch (BudgetLedger.held? replay.ledger.inflight reservationId)
    (.integrity "RECONCILE for unknown reservation")
  let actuals ← validateAmounts (event.getD "actuals" (.object [])) "replay"
  match BudgetLedger.overruns held actuals with
  | [] =>
      pure { replay with
        ledger := { replay.ledger with
          inflight := BudgetLedger.popInflight replay.ledger.inflight reservationId }.settleTotals
            held (amountsOf actuals) }
  | (dimension, actual) :: _ =>
      .error (.integrity (s!"replayed RECONCILE actual {dimension.text}={actual} exceeds its " ++
        s!"reservation {held.at_ dimension}"))

/-- A DENY event. -/
def deny (replay : Replay F) (event : Json F) : Except BudgetError (Replay F) := do
  let requested ← dictOf (event.getD "requested" (.object []))
  let denial : DenialRecord F :=
    { requestLabel := event.getD "request_label" (.str "")
      requested := requested
      reasonCode := event.getD "reason_code" (.str "BUDGET_CAP")
      detail := event.getD "detail" (.str "") }
  pure { replay with ledger := { replay.ledger with denials := replay.ledger.denials ++ [denial] } }

/-- An event after the first. -/
def apply (replay : Replay F) (event : Json F) : Except BudgetError (Replay F) :=
  match event.getD "event" .null with
  | .str "RESERVE" => replay.reserve event
  | .str "RECONCILE" => replay.reconcile event
  -- A recorded overrun; the reservation stayed in flight.
  | .str "DRIFT" => .ok replay
  | .str "DENY" => replay.deny event
  | .str "KILL_SWITCH" =>
      .ok { replay with ledger := { replay.ledger with killSwitchEngaged := true } }
  | .str "LEDGER_OPENED" => .error (.integrity "duplicate LEDGER_OPENED event")
  | _ => .error (.integrity "unknown ledger event kind")

variable (sha256Hex : ByteArray → String)

/-- The replay after an event that fits the chain, before it is applied. -/
def recorded (replay : Replay F) (event : Json F) : Replay F :=
  { replay with
    chainHead := digestOf sha256Hex event
    index := replay.index + 1
    ledger := { replay.ledger with events := replay.ledger.events ++ [event] } }

/-- One turn of the loop, for an event that was parsed. -/
def step (caps : BudgetCaps F) (replay : Replay F) (event : Json F) :
    Except BudgetError (Replay F) := do
  require ((event.getD "sequence" .null).same (.int (replay.index + 1 : Nat)) = true)
    (.integrity (s!"non-contiguous ledger sequence at line {replay.index}: expected " ++
      s!"{replay.index + 1}"))
  require ((event.getD "prev" .null).same (.str replay.chainHead) = true)
    (.integrity (s!"broken ledger hash chain at sequence {replay.index + 1} (an event was " ++
      "edited, removed, or reordered)"))
  require (event.finite = true) (.canonicalization "non-finite float")
  if replay.index = 0 then (replay.recorded sha256Hex event).opened caps event
  else (replay.recorded sha256Hex event).apply event

/-- One turn of the loop. -/
def line (caps : BudgetCaps F) (replay : Replay F) (line : List Char) :
    Except BudgetError (Replay F) := do
  let event ← fetch (Json.parse line) (.integrity "corrupt (unparseable) ledger line")
  require (event.isObject = true) (.integrity "ledger line is not an object")
  replay.step sha256Hex caps event

end Replay

/-- `BudgetLedger.load`, on the content of the two files. -/
def BudgetLedger.load {F : Type} [ClockFloat F] (sha256Hex : ByteArray → String)
    (caps : BudgetCaps F) (ledgerFile checkpointFile : Option ByteArray) :
    Except BudgetError (BudgetLedger F) := do
  let ledgerBytes ← fetch ledgerFile (.integrity "no ledger store")
  caps.validate
  let checkpointBytes ← fetch checkpointFile
    (.integrity ("missing ledger checkpoint; the ledger cannot be trusted without its terminal " ++
      "anchor"))
  let checkpoint : Json F ← fetch ((decodeText checkpointBytes).bind Json.parse)
    (.integrity "corrupt ledger checkpoint")
  require (checkpoint.isObject = true ∧
      (checkpoint.getD "checkpoint_kind" .null).same (.str "budget-ledger-checkpoint") = true)
    (.integrity "ledger checkpoint has the wrong kind")
  require ((checkpoint.getD "schema_version" .null).same (.str schemaVersion) = true)
    (.integrity "ledger checkpoint has missing or unsupported schema_version")
  require ((checkpoint.getD "caps_sha256" .null).same (.str (digestOf sha256Hex caps.toDict)) = true)
    (.integrity "checkpoint caps hash differs from the recorded caps")
  require ((checkpoint.getD "ledger_sha256" .null).same (.str (sha256Hex ledgerBytes)) = true)
    (.integrity "ledger bytes do not match the checkpoint (tail truncation, rollback, or tamper)")
  let text ← fetch (decodeText ledgerBytes) .valueError
  require (visibleLines text ≠ []) (.integrity "ledger store is empty")
  let replay ← (visibleLines text).foldlM (Replay.line sha256Hex caps) { ledger := { caps := caps } }
  require ((checkpoint.getD "final_sequence" .null).same (.int replay.index) = true)
    (.integrity "checkpoint final_sequence does not match the ledger tail")
  require ((checkpoint.getD "chain_head" .null).same (.str replay.chainHead) = true)
    (.integrity "checkpoint chain head does not match the replayed ledger")
  pure { replay.ledger with
    sequence := replay.index
    chainHead := replay.chainHead
    store := some ⟨ledgerBytes, checkpointBytes⟩ }

end Aegis.Budget
