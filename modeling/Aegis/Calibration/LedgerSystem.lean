/-
# Calibration.LedgerSystem — any number of handles on one file

A `Workspace` is the ledger file and the handles that processes hold on it. A
process opens a handle in up to three moments (read the file, append `GENESIS`
when it declares a fresh history, append `SEGMENT_OPENED`), calls operations on
it in any order, and may vanish at any moment. Handles are addressed by their
position; nothing is assumed about the `run_id`s they drew.

The file is kept inside a history that also marks the reservations that a
`release_unused` dropped, in the order in which everything happened.
-/
import Aegis.Calibration.LedgerMoves
import Aegis.Lib.Runs

namespace Aegis.Calibration

open Aegis.Lib.Runs

set_option autoImplicit false

/-- A mark of the history: an event that is in the file, or a reservation that a
handle released without using it. -/
inductive Mark
  | appended (event : LedgerEvent)
  | released (attemptId : String)
  deriving DecidableEq, Repr

def Mark.event? : Mark → Option LedgerEvent
  | .appended event => some event
  | .released _ => none

/-- The ledger file at the end of a history. -/
def fileOf (history : List Mark) : List LedgerEvent := history.filterMap Mark.event?

@[simp] theorem fileOf_nil : fileOf [] = [] := rfl

@[simp] theorem fileOf_append (earlier later : List Mark) :
    fileOf (earlier ++ later) = fileOf earlier ++ fileOf later := by
  simp [fileOf]

@[simp] theorem fileOf_appended (event : LedgerEvent) : fileOf [.appended event] = [event] := rfl

@[simp] theorem fileOf_released (attemptId : String) : fileOf [.released attemptId] = [] := rfl

/-- How far the constructor of a handle has come; `lost` is a handle whose
constructor raised or whose process is gone. -/
inductive Phase
  | genesisDue
  | segmentDue
  | ready
  | lost
  deriving DecidableEq, Repr

/-- A handle, and the reservations that were released through it. -/
structure Handle where
  ledger : CalibrationLedger
  phase : Phase
  released : List Reservation := []

structure Workspace where
  history : List Mark
  handles : List Handle

namespace Workspace

def empty : Workspace := ⟨[], []⟩

def file (workspace : Workspace) : List LedgerEvent := fileOf workspace.history

end Workspace

/-- What can happen next. -/
inductive LedgerStep
  | load (runId : String) (declareFirstSegment : Bool)
  | construct (handle : Nat) (disk : Disk)
  | call (handle : Nat) (disk : Disk) (operation : CalibrationLedger.Operation)
  | crash (handle : Nat)
  deriving DecidableEq, Repr

/-- The marks for the events that a call appended to a file. -/
def marksAfter (before after : List LedgerEvent) : List Mark :=
  (after.drop before.length).map .appended

@[simp] theorem marksAfter_self (file : List LedgerEvent) : marksAfter file file = [] := by
  simp [marksAfter]

@[simp] theorem marksAfter_append (file : List LedgerEvent) (event : LedgerEvent) :
    marksAfter file (file ++ [event]) = [.appended event] := by
  simp [marksAfter]

/-- The reservations that an operation drops from a handle's memory. -/
def dropped (ledger : CalibrationLedger) : CalibrationLedger.Operation → List Reservation
  | .releaseUnused reservationId =>
      ledger.pending.filter (·.reservationId == reservationId)
  | _ => []

theorem dropped_of_other (ledger : CalibrationLedger) {operation : CalibrationLedger.Operation}
    (other : ¬ ∃ reservationId, operation = .releaseUnused reservationId) :
    dropped ledger operation = [] := by
  cases operation with
  | releaseUnused reservationId => exact absurd ⟨reservationId, rfl⟩ other
  | _ => rfl

variable (digest : EventContent → String)

namespace Handle

/-- The next append of the constructor; `none` when there is none to make. -/
def construct (disk : Disk) (handle : Handle) (file : List LedgerEvent) :
    Option (Handle × List LedgerEvent) :=
  let advance (done : Outcome Unit) (next : Phase) : Handle × List LedgerEvent :=
    (⟨done.ledger, if done.result = .ok () then next else .lost, handle.released⟩, done.file)
  match handle.phase with
  | .genesisDue =>
      some (advance (handle.ledger.appendGenesis digest disk file) .segmentDue)
  | .segmentDue =>
      some (advance (handle.ledger.appendSegmentOpened digest disk file) .ready)
  | _ => none

/-- A call on a handle that is ready for calls. -/
def call (disk : Disk) (operation : CalibrationLedger.Operation) (handle : Handle)
    (file : List LedgerEvent) : Option (Handle × List LedgerEvent) :=
  if handle.phase = .ready then
    let done := handle.ledger.run digest disk file operation
    some (⟨done.ledger, .ready, handle.released ++ dropped handle.ledger operation⟩, done.file)
  else none

end Handle

namespace Workspace

/-- Let one handle act on the file; `releases` are the reservations it drops. -/
def actOn (workspace : Workspace) (position : Nat) (releases : Handle → List Reservation)
    (act : Handle → List LedgerEvent → Option (Handle × List LedgerEvent)) : Workspace :=
  match workspace.handles[position]? with
  | none => workspace
  | some handle =>
      match act handle workspace.file with
      | none => workspace
      | some (next, file) =>
          { history := workspace.history ++ marksAfter workspace.file file ++
              (releases handle).map fun reservation => .released reservation.reservationId
            handles := workspace.handles.set position next }

def step (workspace : Workspace) : LedgerStep → Workspace
  | .load runId declareFirstSegment =>
      match CalibrationLedger.open? digest runId declareFirstSegment workspace.file with
      | .error _ => workspace
      | .ok ledger =>
          { workspace with
            handles := workspace.handles ++
              [⟨ledger, if workspace.file = [] then .genesisDue else .segmentDue, []⟩] }
  | .construct position disk =>
      workspace.actOn position (fun _ => []) (Handle.construct digest disk)
  | .call position disk operation =>
      workspace.actOn position
        (fun handle => if handle.phase = .ready then dropped handle.ledger operation else [])
        (Handle.call digest disk operation)
  | .crash position =>
      workspace.actOn position (fun _ => []) fun handle file =>
        some ({ handle with phase := .lost }, file)

end Workspace

/-- A history of the ledger file: a run of steps from a workspace without one. -/
def LedgerRun (steps : List LedgerStep) (workspace : Workspace) : Prop :=
  Run (fun before step after => before.step digest step = after) Workspace.empty steps workspace

/-- The workspace that a list of steps leads to. -/
def workspaceAfter (digest : EventContent → String) (steps : List LedgerStep) : Workspace :=
  steps.foldl (Workspace.step digest) .empty

theorem ledgerRun_after (digest : EventContent → String) (steps : List LedgerStep) :
    LedgerRun digest steps (workspaceAfter digest steps) :=
  Run.of_foldl _ _

/-- A digest that tells events apart by their position. -/
def sampleDigest (content : EventContent) : String := Aegis.Lib.zeroPadded 6 content.eventSeq

/-- A first handle, opened on a fresh file. -/
def openingSteps (runId : String) : List LedgerStep :=
  [.load runId true, .construct 0 .stable, .construct 0 .stable]

end Aegis.Calibration
