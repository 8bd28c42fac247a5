/-
# DeliveryControl.CheckedConnection — a durable commit on a path that changed

`CheckedSQLiteConnection` of `owned_paths.py`: `commit`, `rollback` and `close` run the checks of the
owned path around the calls of SQLite. A check passes or raises, whatever the other checks did. When
SQLite committed and the check after it found the path changed, `commit` keeps and raises
`OwnedPathChangedAfterCommit`.

`committed_signal_observed`: a caller that rolls back in its `except` clauses and closes in its
`finally` clause observes that exception, whatever the later checks find. The signal is about the
check of `commit`: a change found later is a plain error (`later_change_plain`).
-/
import Mathlib.Tactic.Common

namespace Aegis.DeliveryControl

set_option autoImplicit false

/-- What a call raises. -/
inductive PathFault
  | pathCapabilityUnavailable (message : String)
  | ownedPathChangedAfterCommit (message : String)
  | sqliteError (message : String)
  | osError (message : String)
  deriving DecidableEq, Repr

/-- What one check of the owned path finds. The file system call of a check raises an `OSError` of
its own, for one when the file is gone. -/
inductive PathCheck
  | passes
  | unavailable (message : String)
  | osError (message : String)
  deriving DecidableEq, Repr

def PathCheck.failure : PathCheck → Option PathFault
  | passes => none
  | unavailable message => some (.pathCapabilityUnavailable message)
  | osError message => some (.osError message)

/-- What `assert_current` and `check_sidecars` find. -/
structure PathChecks where
  assertCurrent : PathCheck
  checkSidecars : PathCheck
  deriving DecidableEq, Repr

def PathChecks.failure (checks : PathChecks) : Option PathFault :=
  match checks.assertCurrent.failure with
  | some fault => some fault
  | none => checks.checkSidecars.failure

/-- A check that fails raises `PathCapabilityUnavailable`. -/
def PathChecks.Typed (checks : PathChecks) : Prop :=
  checks.failure = none ∨ ∃ error, checks.failure = some (.pathCapabilityUnavailable error)

/-- What SQLite does with a call on an open connection. A failed call can end the transaction. -/
inductive SqliteOutcome
  | done
  | failed (message : String) (inTransaction : Bool)
  deriving DecidableEq, Repr

/-- `capability` says whether `_owned_path_capability` is set, `committed` is the message of
`_committed_integrity_error`. -/
structure CheckedSQLiteConnection where
  capability : Bool
  committed : Option String
  inTransaction : Bool
  closed : Bool
  deriving DecidableEq, Repr

namespace CheckedSQLiteConnection

variable (connection : CheckedSQLiteConnection)

/-- A call of SQLite that leaves no transaction open. -/
def sqlite (outcome : SqliteOutcome) : CheckedSQLiteConnection × Option PathFault :=
  if connection.closed = true then
    (connection, some (.sqliteError "Cannot operate on a closed database."))
  else
    match outcome with
    | .done => ({ connection with inTransaction := false }, none)
    | .failed message inTransaction =>
        ({ connection with inTransaction }, some (.sqliteError message))

/-- `_check_owned_path`. -/
def checkOwnedPath (checks : PathChecks) : Option PathFault :=
  if connection.capability = true then checks.failure else none

def committedMessage (error : String) : String :=
  "transaction committed, but owned path integrity was lost: " ++ error

/-- The end of `commit`, once SQLite committed. -/
def afterCommit (checks : PathChecks) : CheckedSQLiteConnection × Option PathFault :=
  match connection.checkOwnedPath checks with
  | some (.pathCapabilityUnavailable error) =>
      ({ connection with committed := some (committedMessage error) },
        some (.ownedPathChangedAfterCommit (committedMessage error)))
  | fault => (connection, fault)

/-- `commit`: `assert_current` finds `before`, and `_check_owned_path` finds `after`. -/
def commit (before : PathCheck) (outcome : SqliteOutcome) (after : PathChecks) :
    CheckedSQLiteConnection × Option PathFault :=
  let begun := { connection with committed := none }
  match if connection.capability = true then before.failure else none with
  | some fault => (begun, some fault)
  | none =>
      match begun.sqlite outcome with
      | (ended, some fault) => (ended, some fault)
      | (ended, none) => ended.afterCommit after

/-- `rollback`. Without an open transaction SQLite has nothing to do. -/
def rollback (outcome : SqliteOutcome) (checks : PathChecks) :
    CheckedSQLiteConnection × Option PathFault :=
  match connection.committed, connection.inTransaction with
  | some message, false => (connection, some (.ownedPathChangedAfterCommit message))
  | _, inTransaction =>
      let cleared := { connection with committed := none }
      match cleared.sqlite (if inTransaction = true then outcome else .done) with
      | (ended, some fault) => (ended, some fault)
      | (ended, none) => (ended, ended.checkOwnedPath checks)

/-- What `close` raises. -/
def closeFault (checks : PathChecks) : Option PathFault :=
  match connection.checkOwnedPath checks, connection.committed with
  | some (.pathCapabilityUnavailable _), some message =>
      some (.ownedPathChangedAfterCommit message)
  | fault, _ => fault

/-- `close`. -/
def close (checks : PathChecks) : CheckedSQLiteConnection × Option PathFault :=
  (⟨false, none, false, true⟩, connection.closeFault checks)

/-- A statement, which can open or end a transaction. -/
def execute (inTransaction : Bool) (fault : Option String) :
    CheckedSQLiteConnection × Option PathFault :=
  if connection.closed = true then
    (connection, some (.sqliteError "Cannot operate on a closed database."))
  else ({ connection with inTransaction }, fault.map .sqliteError)

end CheckedSQLiteConnection

/-- A call, and what the path checks and SQLite do in it. -/
inductive ConnectionCall
  | execute (inTransaction : Bool) (fault : Option String)
  | commit (before : PathCheck) (outcome : SqliteOutcome) (after : PathChecks)
  | rollback (outcome : SqliteOutcome) (checks : PathChecks)
  | close (checks : PathChecks)
  deriving DecidableEq, Repr

namespace CheckedSQLiteConnection

def call (connection : CheckedSQLiteConnection) :
    ConnectionCall → CheckedSQLiteConnection × Option PathFault
  | .execute inTransaction fault => connection.execute inTransaction fault
  | .commit before outcome after => connection.commit before outcome after
  | .rollback outcome checks => connection.rollback outcome checks
  | .close checks => connection.close checks

/-- Calls one after the other, up to the first that raises. -/
def run (connection : CheckedSQLiteConnection) :
    List ConnectionCall → CheckedSQLiteConnection × Option PathFault
  | [] => (connection, none)
  | first :: rest =>
      match connection.call first with
      | (next, none) => next.run rest
      | (next, some fault) => (next, some fault)

/-- Nested `except BaseException: connection.rollback(); raise` clauses, innermost first. What a
rollback raises takes the place of the exception that is passed on. -/
def unwind (connection : CheckedSQLiteConnection) (pending : PathFault) :
    List (SqliteOutcome × PathChecks) → CheckedSQLiteConnection × PathFault
  | [] => (connection, pending)
  | (outcome, checks) :: rest =>
      match connection.rollback outcome checks with
      | (next, none) => next.unwind pending rest
      | (next, some fault) => next.unwind fault rest

end CheckedSQLiteConnection

/-- A body of calls under nested `except` clauses that roll back, in a `finally` clause that
closes. -/
structure GuardedBody where
  body : List ConnectionCall
  rollbacks : List (SqliteOutcome × PathChecks)
  closing : PathChecks
  deriving DecidableEq, Repr

/-- The exception that the caller observes. -/
def GuardedBody.observed (guarded : GuardedBody) (connection : CheckedSQLiteConnection) :
    Option PathFault :=
  match connection.run guarded.body with
  | (ended, none) => ended.closeFault guarded.closing
  | (ended, some fault) =>
      let unwound := ended.unwind fault guarded.rollbacks
      match unwound.1.closeFault guarded.closing with
      | some fault => some fault
      | none => some unwound.2

/-! ## The signal of a durable commit -/

namespace CheckedSQLiteConnection

/-- The signal is kept and no transaction is open. -/
structure Signals (connection : CheckedSQLiteConnection) (message : String) : Prop where
  kept : connection.committed = some message
  ended : connection.inTransaction = false

variable {connection ended : CheckedSQLiteConnection} {message : String}

/-- SQLite committed, and the path check after it failed. -/
theorem commit_signals {after : PathChecks} {error : String}
    (opened : connection.closed = false) (capability : connection.capability = true)
    (lost : after.failure = some (.pathCapabilityUnavailable error)) :
    ∃ ended, connection.commit .passes .done after =
        (ended, some (.ownedPathChangedAfterCommit (committedMessage error))) ∧
      ended.Signals (committedMessage error) := by
  obtain ⟨_, committed, inTransaction, _⟩ := connection
  obtain rfl : _ = true := capability
  obtain rfl : _ = false := opened
  have checked : (⟨true, none, false, false⟩ : CheckedSQLiteConnection).checkOwnedPath after =
      some (.pathCapabilityUnavailable error) := by
    unfold checkOwnedPath
    rw [if_pos rfl, lost]
  refine ⟨⟨true, some (committedMessage error), false, false⟩, ?_, ⟨rfl, rfl⟩⟩
  show (⟨true, none, false, false⟩ : CheckedSQLiteConnection).afterCommit after = _
  unfold afterCommit
  rw [checked]

/-- A rollback raises the signal again and changes nothing. -/
theorem Signals.rollback (signals : connection.Signals message) (outcome : SqliteOutcome)
    (checks : PathChecks) :
    connection.rollback outcome checks =
      (connection, some (.ownedPathChangedAfterCommit message)) := by
  unfold CheckedSQLiteConnection.rollback
  rw [signals.kept, signals.ended]

/-- Closing raises the signal or nothing. -/
theorem Signals.closeFault (signals : connection.Signals message) {checks : PathChecks}
    (typed : checks.Typed) :
    connection.closeFault checks = none ∨
      connection.closeFault checks = some (.ownedPathChangedAfterCommit message) := by
  have checked : connection.checkOwnedPath checks = none ∨
      ∃ error, connection.checkOwnedPath checks = some (.pathCapabilityUnavailable error) := by
    unfold checkOwnedPath
    split
    · exact typed
    · exact .inl rfl
  unfold CheckedSQLiteConnection.closeFault
  rcases checked with passed | ⟨error, failed⟩
  · rw [passed]
    exact .inl rfl
  · rw [failed, signals.kept]
    exact .inr rfl

/-- Rollbacks pass the signal on. -/
theorem Signals.unwind (signals : connection.Signals message)
    (rollbacks : List (SqliteOutcome × PathChecks)) :
    connection.unwind (.ownedPathChangedAfterCommit message) rollbacks =
      (connection, .ownedPathChangedAfterCommit message) := by
  induction rollbacks with
  | nil => rfl
  | cons first rest ih =>
      obtain ⟨outcome, checks⟩ := first
      unfold CheckedSQLiteConnection.unwind
      rw [signals.rollback outcome checks]
      exact ih

theorem run_append {before rest : List ConnectionCall}
    (ran : connection.run before = (ended, none)) :
    connection.run (before ++ rest) = ended.run rest := by
  induction before generalizing connection with
  | nil =>
      obtain rfl : connection = ended := congrArg Prod.fst ran
      rfl
  | cons first before ih =>
      unfold run at ran
      rw [List.cons_append, run]
      cases called : connection.call first with
      | mk next fault =>
          rw [called] at ran
          cases fault with
          | none => exact ih ran
          | some fault => cases congrArg Prod.snd ran

end CheckedSQLiteConnection

/-- **The caller of a durable commit observes the signal.** Before the commit there may be any
calls; after it, any number of `except` clauses roll back and the `finally` clause closes. -/
theorem committed_signal_observed {connection held : CheckedSQLiteConnection}
    {before rest : List ConnectionCall} {after closing : PathChecks} {error : String}
    (ran : connection.run before = (held, none)) (opened : held.closed = false)
    (capability : held.capability = true)
    (lost : after.failure = some (.pathCapabilityUnavailable error)) (typed : closing.Typed)
    (rollbacks : List (SqliteOutcome × PathChecks)) :
    GuardedBody.observed ⟨before ++ .commit .passes .done after :: rest, rollbacks, closing⟩
        connection =
      some (.ownedPathChangedAfterCommit (CheckedSQLiteConnection.committedMessage error)) := by
  obtain ⟨ended, committed, signals⟩ :=
    CheckedSQLiteConnection.commit_signals opened capability lost
  have body : connection.run (before ++ .commit .passes .done after :: rest) =
      (ended, some (.ownedPathChangedAfterCommit
        (CheckedSQLiteConnection.committedMessage error))) := by
    rw [CheckedSQLiteConnection.run_append ran, CheckedSQLiteConnection.run]
    show (match held.commit .passes .done after with
      | (next, none) => next.run rest
      | (next, some fault) => (next, some fault)) = _
    rw [committed]
  unfold GuardedBody.observed
  rw [body]
  show (match (ended.unwind _ rollbacks).1.closeFault closing with
    | some fault => some fault
    | none => some (ended.unwind _ rollbacks).2) = _
  rw [signals.unwind rollbacks]
  rcases signals.closeFault typed with quiet | again
  · rw [quiet]
  · rw [again]

/-! ## A connection of an owned path -/

/-- What `connect_checked` returns. -/
def connected : CheckedSQLiteConnection := ⟨true, none, false, false⟩

def passing : PathChecks := ⟨.passes, .passes⟩

def swapped : PathChecks := ⟨.unavailable "owned database leaf identity changed", .passes⟩

theorem signal_of_sample :
    GuardedBody.observed
        ⟨[.execute true none] ++ [.commit .passes .done swapped], [(.done, swapped)], swapped⟩
        connected =
      some (.ownedPathChangedAfterCommit
        (CheckedSQLiteConnection.committedMessage "owned database leaf identity changed")) :=
  committed_signal_observed rfl rfl rfl rfl (.inr ⟨_, rfl⟩) _

/-- The commit and its check succeed, and the check of `close` finds the path changed. -/
theorem later_change_plain :
    connected.run [.execute true none, .commit .passes .done passing] = (connected, none) ∧
      GuardedBody.observed ⟨[.execute true none, .commit .passes .done passing], [], swapped⟩
        connected = some (.pathCapabilityUnavailable "owned database leaf identity changed") := by
  decide

end Aegis.DeliveryControl
