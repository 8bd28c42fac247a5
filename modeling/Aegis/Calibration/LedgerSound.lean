/-
# Calibration.LedgerSound — the memory of a current handle is what the log says

`Follows ledger released history` relates a handle to the history of its file:
`past` are the attempts recorded before it was opened, `left` the attempts that
were started and not recorded then, `recorded` the reservations behind all
recorded attempts. Every act of the handle keeps it (`Follows.act`), so does a
release, and a fresh or reopened handle starts with it (`follows_open`).

`Sound` is the invariant of a whole workspace; `run_sound` holds it over every
history.
-/
import Aegis.Calibration.LedgerTracking

namespace Aegis.Calibration

open Aegis.Lib
open Aegis.Lib.Guarded
open Aegis.Lib.Runs

set_option autoImplicit false

structure Follows (ledger : CalibrationLedger) (released : List Reservation)
    (history : List Mark) (past : List LedgerEntry) (left recorded : List Reservation) :
    Prop where
  entries : entriesOf (fileOf history) = past ++ ledger.entries
  started : (replayed (fileOf history)).started.Perm (left ++ ledger.pending ++ released)
  /-- A handle that found orphans neither starts nor records anything. -/
  quiet : left ≠ [] → ledger.entries = [] ∧ ledger.pending = [] ∧ released = []
  orphans : ledger.orphans = (left.map (·.reservationId)).insertionSort (· ≤ ·)
  prior : ledger.prior = .ofLines (past.map LedgerEntry.line ++ left.map Reservation.line)
  numbered : ∀ reservation ∈ ledger.pending ++ released,
    ∃ number ≤ ledger.attemptCounter,
      reservation.reservationId = CalibrationLedger.attemptId ledger.runId number
  distinct : ((ledger.pending ++ released).map (·.reservationId)).Nodup
  nonneg : ∀ reservation ∈ ledger.pending, 0 ≤ reservation.worstCaseChargeNanousd
  segments : (replayed (fileOf history)).segments = ledger.segments
  runState : (replayed (fileOf history)).runState = ledger.runState
  holdout : (replayed (fileOf history)).holdoutTransition = ledger.holdoutTransition
  metadata : ledger.metadataOk = (fileOf history).any (·.body.metadataSuccess)
  faces : recorded.map Reservation.face = (entriesOf (fileOf history)).map LedgerEntry.face
  starts : (startsOf (fileOf history)).Perm (recorded ++ (replayed (fileOf history)).started)
  standing : (unreleased history).Subperm (recorded ++ left ++ ledger.pending)
  open_ : left = [] → (outstanding history).Subperm ledger.pending
  /-- A transition the handle did not find on opening is its own. -/
  own : ledger.holdoutReopened = false → ∀ binding, ledger.holdoutTransition = some binding →
    ∃ event ∈ fileOf history, event.runId = ledger.runId ∧ event.body = .holdoutTransition binding

/-- The memory of the handle is what the history says. -/
def Tracks (ledger : CalibrationLedger) (released : List Reservation) (history : List Mark) :
    Prop :=
  ∃ past left recorded, Follows ledger released history past left recorded

variable {digest : EventContent → String} {ledger : CalibrationLedger}
  {released : List Reservation} {history : List Mark} {past : List LedgerEntry}
  {left recorded : List Reservation}

theorem Follows.logged (follows : Follows ledger released history past left recorded) :
    Logged (fileOf history) :=
  ⟨recorded, follows.faces, follows.starts⟩

/-- Without orphans the started attempts are the pending and the released ones. -/
theorem Follows.left_eq_nil (follows : Follows ledger released history past left recorded)
    (none : ledger.orphans = []) : left = [] := by
  have sorted := follows.orphans
  rw [none] at sorted
  have length := congrArg List.length sorted
  simpa [List.length_insertionSort] using length.symm

theorem Follows.idle (follows : Follows ledger released history past left recorded)
    {after : CalibrationLedger} (idle : CalibrationLedger.Idle ledger after) :
    Follows after released history past left recorded := by
  have counter := idle.counter
  rw [idle.same] at counter ⊢
  exact { follows with
    numbered := fun reservation member => by
      obtain ⟨number, within, named⟩ := follows.numbered reservation member
      exact ⟨number, within.trans counter, named⟩ }

/-! ## Releases -/

theorem unreleased_releases (history : List Mark) (dropped : List Reservation) :
    (unreleased (history ++ dropped.map fun reservation => .released reservation.reservationId)).Sublist
      (unreleased history) := by
  induction dropped using List.reverseRecOn with
  | nil => simp
  | append_singleton dropped reservation ih =>
      rw [List.map_append, ← List.append_assoc, List.map_singleton, unreleased_released]
      exact (popAttempt_sublist _ _).trans ih

theorem outstanding_releases (history : List Mark) (dropped : List Reservation) :
    (outstanding (history ++ dropped.map fun reservation => .released reservation.reservationId)).Sublist
      (outstanding history) := by
  induction dropped using List.reverseRecOn with
  | nil => simp
  | append_singleton dropped reservation ih =>
      rw [List.map_append, ← List.append_assoc, List.map_singleton, outstanding_released]
      exact (popAttempt_sublist _ _).trans ih

@[simp] theorem fileOf_releases (dropped : List Reservation) :
    fileOf (dropped.map fun reservation => Mark.released reservation.reservationId) = [] := by
  simp [fileOf, Mark.event?]

/-- Releases through any handle leave the link to the log of this one. -/
theorem Follows.releases (follows : Follows ledger released history past left recorded)
    (dropped : List Reservation) :
    Follows ledger released
      (history ++ dropped.map fun reservation => .released reservation.reservationId)
      past left recorded := by
  have same : fileOf (history ++
      dropped.map fun reservation => Mark.released reservation.reservationId) = fileOf history := by
    simp
  exact {
    entries := by rw [same]; exact follows.entries
    started := by rw [same]; exact follows.started
    quiet := follows.quiet
    orphans := follows.orphans
    prior := follows.prior
    numbered := follows.numbered
    distinct := follows.distinct
    nonneg := follows.nonneg
    segments := by rw [same]; exact follows.segments
    runState := by rw [same]; exact follows.runState
    holdout := by rw [same]; exact follows.holdout
    metadata := by rw [same]; exact follows.metadata
    faces := by rw [same]; exact follows.faces
    starts := by rw [same]; exact follows.starts
    standing := (unreleased_releases _ _).subperm.trans follows.standing
    open_ := fun none => (outstanding_releases _ _).subperm.trans (follows.open_ none)
    own := by rw [same]; exact follows.own }

/-- Popping an attempt from a whole keeps what it does not pop from the last part. -/
theorem Subperm.pop_append (kept attempts : List Reservation) (attemptId : String) :
    (popAttempt (kept ++ attempts) attemptId).Subperm (kept ++ popAttempt attempts attemptId) := by
  rw [popAttempt_append]
  exact ((popAttempt_sublist _ _).append (.refl _)).subperm

/-- The handle releases one of its own reservations. -/
theorem Follows.release (follows : Follows ledger released history past left recorded)
    (reservationId : String) :
    let dropped := ledger.pending.filter (·.reservationId == reservationId)
    Follows (ledger.releaseUnused reservationId) (released ++ dropped)
      (history ++ dropped.map fun reservation => .released reservation.reservationId)
      past left recorded := by
  intro dropped
  have marked := follows.releases dropped
  have parts : ledger.pending.Perm
      ((ledger.releaseUnused reservationId).pending ++ dropped) := by
    have split := List.filter_append_perm (fun held => held.reservationId != reservationId)
      ledger.pending
    simpa [CalibrationLedger.releaseUnused, popAttempt, dropped, bne] using split.symm
  have moved : (ledger.pending ++ released).Perm
      ((ledger.releaseUnused reservationId).pending ++ (released ++ dropped)) := by
    refine (parts.append_right released).trans ?_
    rw [List.append_assoc]
    exact List.perm_append_comm.append_left _
  obtain ⟨fewer, fewerOutstanding⟩ :
      (unreleased (history ++ dropped.map fun held => .released held.reservationId)).Subperm
        (recorded ++ left ++ (ledger.releaseUnused reservationId).pending) ∧
      (left = [] →
        (outstanding (history ++ dropped.map fun held => .released held.reservationId)).Subperm
          (ledger.releaseUnused reservationId).pending) := by
    cases cut : dropped with
    | nil =>
        rw [cut, List.append_nil] at parts
        simp only [List.map_nil, List.append_nil]
        exact ⟨follows.standing.trans (parts.append_left _).subperm,
          fun none => (follows.open_ none).trans parts.subperm⟩
    | cons first rest =>
        have named : first.reservationId = reservationId := by
          have member : first ∈ dropped := by simp [cut]
          simpa using (List.mem_filter.mp member).2
        rw [List.map_cons, ← List.singleton_append, ← List.append_assoc, named]
        refine ⟨(unreleased_releases _ rest).subperm.trans ?_,
          fun none => (outstanding_releases _ rest).subperm.trans ?_⟩
        · rw [unreleased_released]
          refine (follows.standing.filter _).trans (Subperm.pop_append _ _ _)
        · rw [outstanding_released]
          exact (follows.open_ none).filter _
  exact {
    entries := marked.entries
    started := marked.started.trans (by
      rw [List.append_assoc, List.append_assoc]
      exact moved.append_left left)
    quiet := fun some => by
      obtain ⟨recordedNone, pendingNone, releasedNone⟩ := follows.quiet some
      have none : dropped = [] := by simp [dropped, pendingNone]
      exact ⟨recordedNone, by simp [CalibrationLedger.releaseUnused, pendingNone, popAttempt],
        by rw [releasedNone, none]; rfl⟩
    orphans := follows.orphans
    prior := follows.prior
    numbered := fun reservation member =>
      follows.numbered reservation (moved.mem_iff.mpr member)
    distinct := (moved.map _).nodup_iff.mp follows.distinct
    nonneg := fun reservation member =>
      follows.nonneg reservation (mem_popAttempt.mp member).1
    segments := marked.segments
    runState := marked.runState
    holdout := marked.holdout
    metadata := marked.metadata
    faces := marked.faces
    starts := marked.starts
    standing := fewer
    open_ := fewerOutstanding
    own := marked.own }

/-! ## Appended events -/

variable {body : EventBody} {event : LedgerEvent} {operation : CalibrationLedger.Operation}

theorem Rehydration.put_started {state : Rehydration} (start : body.started? = none)
    (terminal : body.terminal? = none) :
    (state.put body).started = state.started := by
  cases body <;> simp_all [Rehydration.put, EventBody.started?, EventBody.terminal?]

theorem EventBody.metadataSuccess_of_terminal (terminal : body.terminal? = none) :
    body.metadataSuccess = false := by
  cases body <;> simp_all [metadataSuccess, terminal?]

/-- An event about no attempt: only segments, run state and holdout can change. -/
theorem Follows.neutral (follows : Follows ledger released history past left recorded)
    {after : CalibrationLedger} (start : event.body.started? = none)
    (terminal : event.body.terminal? = none)
    (same : after = { ledger with
      eventSeq := after.eventSeq
      prevHash := after.prevHash
      segments := after.segments
      runState := after.runState
      holdoutTransition := after.holdoutTransition })
    (segments : ((replayed (fileOf history)).put event.body).segments = after.segments)
    (runState : ((replayed (fileOf history)).put event.body).runState = after.runState)
    (holdout : ((replayed (fileOf history)).put event.body).holdoutTransition =
      after.holdoutTransition)
    (own : after.holdoutTransition = ledger.holdoutTransition ∨
      event.runId = ledger.runId ∧ ∀ binding, after.holdoutTransition = some binding →
        event.body = .holdoutTransition binding) :
    Follows after released (history ++ [.appended event]) past left recorded := by
  have file : fileOf (history ++ [.appended event]) = fileOf history ++ [event] := by simp
  have started : ((replayed (fileOf history)).put event.body).started =
      (replayed (fileOf history)).started := Rehydration.put_started start terminal
  have quiet := EventBody.metadataSuccess_of_terminal terminal
  rw [← replayed_append_singleton] at segments runState holdout
  rw [same] at segments runState holdout ⊢
  exact {
    entries := by simpa [file, terminal] using follows.entries
    started := by simpa [file, started] using follows.started
    quiet := follows.quiet
    orphans := follows.orphans
    prior := follows.prior
    numbered := follows.numbered
    distinct := follows.distinct
    nonneg := follows.nonneg
    segments := by rw [file, segments]
    runState := by rw [file, runState]
    holdout := by rw [file, holdout]
    metadata := by simpa [file, quiet] using follows.metadata
    faces := by simpa [file, terminal] using follows.faces
    starts := by simpa [file, start, started] using follows.starts
    standing := by simpa [start] using follows.standing
    open_ := by
      rw [outstanding_other start terminal]
      exact follows.open_
    own := fun fresh binding bound => by
      rw [file]
      rcases own with kept | ⟨wrote, names⟩
      · obtain ⟨event, member, named⟩ := follows.own fresh binding (kept ▸ bound)
        exact ⟨event, List.mem_append_left _ member, named⟩
      · exact ⟨event, by simp, wrote, names binding bound⟩ }

open CalibrationLedger in
/-- The reservation of an admitted request carries its worst case, which is no gain. -/
theorem checkReserve_ok {request : ReserveRequest} {worstCase : Int}
    (checked : ledger.checkReserve request = .ok worstCase) :
    ledger.orphans = [] ∧ 0 ≤ worstCase ∧
      ledger.admitStage request = .ok () ∧ ledger.admitKind request = .ok worstCase ∧
      ledger.spend none + ledger.pendingWorstCase none + worstCase ≤ maxTotalSpendNanousd ∧
      ledger.spend (some request.day) + ledger.pendingWorstCase (some request.day) + worstCase ≤
        maxSingleDaySpendNanousd := by
  simp only [checkReserve, bind_eq_ok, require_eq_ok, refuse_eq_ok, pure_eq_ok, not_lt,
    exists_const_iff] at checked
  obtain ⟨_, none, _, _, _, stage, worst, kind, _, _, _, total, _, day, rfl⟩ := checked
  refine ⟨none, ?_, stage, kind, total, day⟩
  unfold admitKind at kind
  split at kind
  · simp only [bind_eq_ok, require_eq_ok, refuse_eq_ok, pure_eq_ok] at kind
    obtain ⟨_, _, _, _, _, _, _, _, _, _, _, input, _, output, _, _, rfl⟩ := kind
    unfold worstCaseAttemptChargeNanousd inputPriceNanousdPerToken outputPriceNanousdPerToken
    omega
  · simp only [bind_eq_ok, refuse_eq_ok, pure_eq_ok] at kind
    obtain ⟨_, _, rfl⟩ := kind
    exact le_refl _

theorem attemptId_injective (runId : String) :
    Function.Injective (CalibrationLedger.attemptId runId) :=
  append_zeroPadded_injective (runId ++ "-att-") 6

/-- The number of the next attempt is new to the handle. -/
theorem Follows.fresh (follows : Follows ledger released history past left recorded)
    (request : CalibrationLedger.ReserveRequest) (worstCase : Int) :
    ∀ held ∈ ledger.pending ++ released,
      held.reservationId ≠ (ledger.reservationFor request worstCase).reservationId := by
  intro held member same
  obtain ⟨number, within, named⟩ := follows.numbered held member
  have := attemptId_injective ledger.runId (named.symm.trans same)
  omega

/-- The handle starts an attempt. -/
theorem Follows.start (follows : Follows ledger released history past left recorded)
    {request : CalibrationLedger.ReserveRequest} {worstCase : Int}
    (checked : ledger.checkReserve request = .ok worstCase)
    (body : event.body = .attemptStarted (ledger.reservationFor request worstCase))
    {after : CalibrationLedger}
    (same : after = { ledger with
      eventSeq := after.eventSeq
      prevHash := after.prevHash
      attemptCounter := ledger.attemptCounter + 1
      pending := ledger.pending ++ [ledger.reservationFor request worstCase] }) :
    Follows after released (history ++ [.appended event]) past left recorded := by
  obtain ⟨none, nonneg, -⟩ := checkReserve_ok checked
  obtain rfl := follows.left_eq_nil none
  have fresh := follows.fresh request worstCase
  have file : fileOf (history ++ [.appended event]) = fileOf history ++ [event] := by simp
  have started : (replayed (fileOf history ++ [event])).started =
      (replayed (fileOf history)).started ++ [ledger.reservationFor request worstCase] := by
    rw [replayed_append_singleton, body]
    exact putStarted_fresh fun held member =>
      fresh held (by simpa using follows.started.mem_iff.mp member)
  have others : ∀ state : Rehydration, (state.put event.body).segments = state.segments ∧
      (state.put event.body).runState = state.runState ∧
      (state.put event.body).holdoutTransition = state.holdoutTransition := by
    intro state
    rw [body]
    exact ⟨rfl, rfl, rfl⟩
  have regroup : (ledger.pending ++ released ++ [ledger.reservationFor request worstCase]).Perm
      (ledger.pending ++ [ledger.reservationFor request worstCase] ++ released) := by
    rw [List.append_assoc, List.append_assoc]
    exact List.perm_append_comm.append_left _
  rw [same]
  exact {
    entries := by simpa [file, body, EventBody.terminal?] using follows.entries
    started := by
      rw [file, started]
      exact (follows.started.append_right _).trans (by simpa using regroup)
    quiet := fun some => absurd rfl some
    orphans := follows.orphans
    prior := follows.prior
    numbered := fun reservation member => by
      rcases List.mem_append.mp (regroup.mem_iff.mpr member) with before | now
      · obtain ⟨number, within, named⟩ := follows.numbered reservation before
        exact ⟨number, Nat.le_succ_of_le within, named⟩
      · exact ⟨ledger.attemptCounter + 1, le_refl _, by rw [List.mem_singleton.mp now]; rfl⟩
    distinct := by
      refine (regroup.map _).nodup_iff.mp ?_
      rw [List.map_append, List.map_singleton, List.nodup_append_comm, List.singleton_append,
        List.nodup_cons]
      refine ⟨fun known => ?_, follows.distinct⟩
      obtain ⟨held, member, named⟩ := List.mem_map.mp known
      exact fresh held member named
    nonneg := fun reservation member => by
      rcases List.mem_append.mp member with before | now
      · exact follows.nonneg reservation before
      · rw [List.mem_singleton.mp now]
        exact nonneg
    segments := by rw [file, replayed_append_singleton, (others _).1, follows.segments]
    runState := by rw [file, replayed_append_singleton, (others _).2.1, follows.runState]
    holdout := by rw [file, replayed_append_singleton, (others _).2.2, follows.holdout]
    metadata := by simpa [file, body, EventBody.metadataSuccess] using follows.metadata
    faces := by simpa [file, body, EventBody.terminal?] using follows.faces
    starts := by
      rw [file, started, startsOf_append_singleton, body, ← List.append_assoc]
      exact follows.starts.append_right _
    standing := by
      rw [unreleased_appended, body, ← List.append_assoc]
      exact follows.standing.append (.refl _)
    open_ := fun _ => by
      rw [outstanding_started body]
      exact (follows.open_ rfl).append (.refl _)
    own := fun fresh binding bound => by
      obtain ⟨event, member, named⟩ := follows.own fresh binding bound
      exact ⟨event, by rw [file]; exact List.mem_append_left _ member, named⟩ }

/-- The handle records one of its pending attempts. -/
theorem Follows.record (follows : Follows ledger released history past left recorded)
    {reservation : Reservation} {report : CalibrationLedger.Report} {missing : Bool} {charge : Int}
    {tokens : ProviderUsage} (reserved : reservation ∈ ledger.pending)
    (body : event.body =
      .attemptTerminal (ledger.entryFor reservation report missing charge tokens))
    {after : CalibrationLedger}
    (same : after = { ledger.settle (ledger.entryFor reservation report missing charge tokens) with
      eventSeq := after.eventSeq
      prevHash := after.prevHash }) :
    Follows after released (history ++ [.appended event]) past left
      (recorded ++ [reservation]) := by
  have none : left = [] := by
    by_contra some
    rw [(follows.quiet some).2.1] at reserved
    cases reserved
  subst none
  have file : fileOf (history ++ [.appended event]) = fileOf history ++ [event] := by simp
  have started : (replayed (fileOf history ++ [event])).started =
      popAttempt (replayed (fileOf history)).started reservation.reservationId := by
    rw [replayed_append_singleton, body]
    rfl
  have others : ∀ state : Rehydration, (state.put event.body).segments = state.segments ∧
      (state.put event.body).runState = state.runState ∧
      (state.put event.body).holdoutTransition = state.holdoutTransition := by
    intro state
    rw [body]
    exact ⟨rfl, rfl, rfl⟩
  have known := follows.started
  rw [List.nil_append] at known
  have distinctPending : (ledger.pending.map (·.reservationId)).Nodup := by
    have distinct := follows.distinct
    rw [List.map_append] at distinct
    exact distinct.of_append_left
  have apart : ∀ held ∈ released, held.reservationId ≠ reservation.reservationId := by
    intro held member named
    have distinct := follows.distinct
    rw [List.map_append] at distinct
    exact List.disjoint_of_nodup_append distinct (List.mem_map_of_mem reserved)
      (by rw [← named]; exact List.mem_map_of_mem member)
  have popped : (popAttempt (replayed (fileOf history)).started reservation.reservationId).Perm
      (popAttempt ledger.pending reservation.reservationId ++ released) := by
    refine (known.filter _).trans ?_
    rw [List.filter_append]
    exact (List.Perm.of_eq (popAttempt_eq_self apart)).append_left _
  have taken : (replayed (fileOf history)).started.Perm
      (reservation :: popAttempt (replayed (fileOf history)).started reservation.reservationId) :=
    perm_popAttempt (known.mem_iff.mpr (List.mem_append_left _ reserved))
      ((known.map _).nodup_iff.mpr follows.distinct)
  rw [same]
  exact {
    entries := by
      rw [file, entriesOf_append_singleton, body, follows.entries, List.append_assoc]
      rfl
    started := by
      rw [file, started]
      exact popped
    quiet := fun some => absurd rfl some
    orphans := follows.orphans
    prior := follows.prior
    numbered := fun held member => follows.numbered held (by
      rcases List.mem_append.mp member with pending | gone
      · exact List.mem_append_left _ (mem_popAttempt.mp pending).1
      · exact List.mem_append_right _ gone)
    distinct := follows.distinct.sublist
      (((popAttempt_sublist _ _).append (.refl _)).map _)
    nonneg := fun held member => follows.nonneg held (mem_popAttempt.mp member).1
    segments := by rw [file, replayed_append_singleton, (others _).1, follows.segments]; rfl
    runState := by rw [file, replayed_append_singleton, (others _).2.1, follows.runState]; rfl
    holdout := by rw [file, replayed_append_singleton, (others _).2.2, follows.holdout]; rfl
    metadata := by
      rw [file, List.any_append, ← follows.metadata]
      simp [body, EventBody.metadataSuccess, CalibrationLedger.settle]
    faces := by
      rw [file, entriesOf_append_singleton, body, List.map_append, List.map_append, follows.faces]
      rfl
    starts := by
      rw [file, started, startsOf_append_singleton, body]
      simp only [EventBody.started?, Option.toList_none, List.append_nil]
      refine follows.starts.trans ((taken.append_left _).trans ?_)
      rw [List.append_assoc, List.singleton_append]
    standing := by
      rw [unreleased_appended, body]
      simp only [EventBody.started?, Option.toList_none, List.append_nil]
      refine follows.standing.trans (List.Perm.subperm ?_)
      rw [List.append_nil, List.append_assoc, List.singleton_append]
      exact (perm_popAttempt reserved distinctPending).append_left _
    open_ := fun _ => by
      rw [outstanding_terminal body]
      exact (follows.open_ rfl).filter _
    own := fun fresh binding bound => by
      obtain ⟨event, member, named⟩ := follows.own fresh binding bound
      exact ⟨event, by rw [file]; exact List.mem_append_left _ member, named⟩ }

variable (digest) in
/-- The link to the log is kept by every event the handle appends. -/
theorem Follows.act (follows : Follows ledger released history past left recorded)
    {effect : CalibrationLedger → CalibrationLedger}
    (act : CalibrationLedger.Act ledger operation body effect) :
    ∃ recorded, Follows (effect (ledger.advanced digest body)) released
      (history ++ [.appended (ledger.next digest body)]) past left recorded := by
  cases act with
  | started checked => exact ⟨recorded, follows.start checked rfl rfl⟩
  | terminal reserved _ => exact ⟨_, follows.record reserved rfl rfl⟩
  | runState _ =>
      exact ⟨recorded, follows.neutral rfl rfl rfl follows.segments rfl follows.holdout (.inl rfl)⟩
  | holdout _ => 
      refine ⟨recorded, follows.neutral rfl rfl rfl follows.segments rfl rfl (.inr ⟨rfl, ?_⟩)⟩
      rintro binding bound
      exact congrArg EventBody.holdoutTransition (Option.some.inj bound)
  | outcome =>
      exact ⟨recorded, follows.neutral rfl rfl rfl follows.segments follows.runState follows.holdout
        (.inl rfl)⟩
  | segmentBegin _ =>
      refine ⟨recorded, follows.neutral rfl rfl rfl ?_ follows.runState follows.holdout (.inl rfl)⟩
      exact congrArg (· ++ [_]) follows.segments
  | segmentEnd =>
      refine ⟨recorded, follows.neutral rfl rfl rfl ?_ follows.runState follows.holdout (.inl rfl)⟩
      exact congrArg (closeLast _) follows.segments
  | deadline =>
      exact ⟨recorded, follows.neutral rfl rfl rfl follows.segments follows.runState follows.holdout
        (.inl rfl)⟩

/-! ## Opening a handle -/

theorem rehydrate_ok {runId : String} {file : List LedgerEvent} {ledger : CalibrationLedger}
    (rehydrated : rehydrate runId file = .ok ledger) :
    ledger = {
      runId := runId
      eventSeq := file.length
      prevHash := headOf file
      prior := (replayed file).started.foldl Aggregates.addOrphan (replayed file).prior
      orphans := ((replayed file).started.map (·.reservationId)).insertionSort (· ≤ ·)
      segments := (replayed file).segments
      runState := (replayed file).runState
      metadataOk := file.any (·.body.metadataSuccess)
      holdoutTransition := (replayed file).holdoutTransition
      holdoutReopened := (replayed file).holdoutTransition.isSome } := by
  simp only [rehydrate, bind_eq_ok, refuse_eq_ok, pure_eq_ok] at rehydrated
  obtain ⟨state, turned, _, _, rfl⟩ := rehydrated
  rw [replayed_of_turns turned]

theorem outstanding_eq_nil (none : (replayed (fileOf history)).started = []) :
    outstanding history = [] := by
  rw [List.eq_nil_iff_forall_not_mem]
  intro reservation member
  obtain ⟨held, there, _⟩ := outstanding_started_of member
  rw [none] at there
  cases there

/-- A handle that has just read the file follows it. -/
theorem follows_open {runId : String} {declared : Bool} (logged : Logged (fileOf history))
    (verified : Verified digest (fileOf history))
    (opened : CalibrationLedger.open? digest runId declared (fileOf history) = .ok ledger) :
    ledger.Current digest (fileOf history) ∧ ledger.runId = runId ∧
      Tracks ledger [] history := by
  obtain ⟨recorded, faces, starts⟩ := logged
  have sublist := unreleased_sublist history
  unfold CalibrationLedger.open? at opened
  split at opened
  · rename_i fresh
    simp only [bind_eq_ok, require_eq_ok, pure_eq_ok] at opened
    obtain ⟨_, _, rfl⟩ := opened
    rw [fresh] at sublist faces starts
    have nothing : unreleased history = [] := List.sublist_nil.mp sublist
    have noneOpen : outstanding history = [] := outstanding_eq_nil (by rw [fresh]; rfl)
    refine ⟨⟨rfl, by rw [fresh]; rfl⟩, rfl, [], [], [], ?_⟩
    constructor <;> simp [fresh, nothing, noneOpen, entriesOf, startsOf]
    rfl
  · rename_i present
    simp only [bind_eq_ok] at opened
    obtain ⟨_, _, opened⟩ := opened
    have known := rehydrate_ok opened
    subst known
    refine ⟨⟨rfl, verified⟩, rfl, entriesOf (fileOf history), (replayed (fileOf history)).started,
      recorded, ?_⟩
    exact {
      entries := by simp
      started := by simp
      quiet := fun _ => ⟨rfl, rfl, rfl⟩
      orphans := rfl
      prior := by rw [replayed_prior, Aggregates.orphans_ofLines]
      numbered := by simp
      distinct := by simp
      nonneg := by simp
      segments := rfl
      runState := rfl
      holdout := rfl
      metadata := rfl
      faces := faces
      starts := starts
      standing := by
        rw [List.append_nil]
        exact sublist.subperm.trans starts.subperm
      open_ := fun none => by
        rw [outstanding_eq_nil none]
      own := fun fresh binding bound => by
        have none : (replayed (fileOf history)).holdoutTransition = none := by simpa using fresh
        cases none.symm.trans bound }

/-! ## The workspace -/

/-- What holds of one handle at a history. -/
structure Handle.Sound (digest : EventContent → String) (history : List Mark) (handle : Handle) :
    Prop where
  behind : handle.ledger.eventSeq ≤ (fileOf history).length
  unopened : handle.phase = .genesisDue → handle.ledger.eventSeq = 0
  opened : handle.phase = .segmentDue ∨ handle.phase = .ready → 0 < handle.ledger.eventSeq
  tracks : handle.ledger.Current digest (fileOf history) →
    Tracks handle.ledger handle.released history

/-- The file is a verified chain in which every started attempt is accounted for,
and every handle that knows its end knows it whole. -/
structure Sound (digest : EventContent → String) (workspace : Workspace) : Prop where
  verified : Verified digest workspace.file
  logged : Logged workspace.file
  handles : ∀ handle ∈ workspace.handles, handle.Sound digest workspace.history

/-- A current handle has read every event of a verified file. -/
theorem current_iff {file : List LedgerEvent} (verified : Verified digest file) :
    ledger.Current digest file ↔
      ledger.writeFailed = false ∧ ledger.eventSeq = file.length ∧ ledger.prevHash = headOf file := by
  unfold CalibrationLedger.Current
  rw [show loadVerifiedChain digest file = .ok (file.length, headOf file) from verified]
  simp only [Except.ok.injEq, Prod.mk.injEq]
  exact and_congr_right fun _ => and_congr eq_comm eq_comm

variable {handle : Handle} {workspace : Workspace}

/-- A handle that was current is stale once the file has grown without it. -/
theorem Handle.Sound.stale (sound : handle.Sound digest history)
    (verified : Verified digest (fileOf (history ++ [.appended event]))) :
    handle.Sound digest (history ++ [.appended event]) where
  behind := by
    rw [fileOf_append, fileOf_appended, List.length_append]
    exact sound.behind.trans (Nat.le_add_right _ _)
  unopened := sound.unopened
  opened := sound.opened
  tracks current := by
    have behind := sound.behind
    have length := ((current_iff verified).mp current).2.1
    rw [fileOf_append, fileOf_appended, List.length_append, List.length_singleton] at length
    omega

theorem Handle.Sound.releases (sound : handle.Sound digest history) (dropped : List Reservation) :
    handle.Sound digest
      (history ++ dropped.map fun reservation => .released reservation.reservationId) where
  behind := by simpa using sound.behind
  unopened := sound.unopened
  opened := sound.opened
  tracks current := by
    obtain ⟨past, left, recorded, follows⟩ := sound.tracks (by simpa using current)
    exact ⟨past, left, recorded, follows.releases dropped⟩

/-- One handle acts: it leaves the file, or it appends one event to it. -/
theorem Sound.actOn (sound : Sound digest workspace) {position : Nat}
    {releases : Handle → List Reservation}
    {act : Handle → List LedgerEvent → Option (Handle × List LedgerEvent)}
    (acts : ∀ handle next file, workspace.handles[position]? = some handle →
      handle.Sound digest workspace.history →
      act handle workspace.file = some (next, file) →
      (file = workspace.file ∧ next.Sound digest (workspace.history ++
        (releases handle).map fun reservation => .released reservation.reservationId)) ∨
      ∃ event, file = workspace.file ++ [event] ∧ releases handle = [] ∧
        Verified digest (workspace.file ++ [event]) ∧ Logged (workspace.file ++ [event]) ∧
        next.Sound digest (workspace.history ++ [.appended event])) :
    Sound digest (workspace.actOn position releases act) := by
  unfold Workspace.actOn
  cases found : workspace.handles[position]? with
  | none => exact sound
  | some handle =>
      have member := List.mem_of_getElem? found
      simp only
      cases done : act handle workspace.file with
      | none => exact sound
      | some outcome =>
          obtain ⟨next, file⟩ := outcome
          obtain ⟨rfl, kept⟩ | ⟨event, rfl, none, verified, logged, kept⟩ :=
            acts handle next file found (sound.handles handle member) done
          · simp only [marksAfter_self, List.append_nil]
            refine ⟨by simpa [Workspace.file] using sound.verified,
              by simpa [Workspace.file] using sound.logged, fun other there => ?_⟩
            rcases List.mem_or_eq_of_mem_set there with before | rfl
            · exact (sound.handles other before).releases _
            · exact kept
          · have file : fileOf (workspace.history ++ [.appended event]) =
                workspace.file ++ [event] := by simp [Workspace.file]
            simp only [marksAfter_append, none, List.map_nil, List.append_nil]
            refine ⟨by rw [Workspace.file, file]; exact verified,
              by rw [Workspace.file, file]; exact logged, fun other there => ?_⟩
            rcases List.mem_or_eq_of_mem_set there with before | rfl
            · exact (sound.handles other before).stale (by rw [file]; exact verified)
            · exact kept

/-- The event that a current handle appends extends the chain. -/
theorem Verified.next {file : List LedgerEvent} (verified : Verified digest file)
    (current : ledger.Current digest file) (genesis : checkGenesis file.length body = .ok ()) :
    Verified digest (file ++ [ledger.next digest body]) := by
  obtain ⟨_, length, head⟩ := (current_iff verified).mp current
  unfold CalibrationLedger.next
  rw [length, head]
  exact verified_append verified genesis

theorem CalibrationLedger.Act.not_genesis {effect : CalibrationLedger → CalibrationLedger}
    (act : CalibrationLedger.Act ledger operation body effect) : body.isGenesis = false := by
  cases act <;> rfl

theorem CalibrationLedger.Act.advances {effect : CalibrationLedger → CalibrationLedger}
    (act : CalibrationLedger.Act ledger operation body effect) :
    (effect (ledger.advanced digest body)).eventSeq = ledger.eventSeq + 1 := by
  cases act <;> rfl

/-- A call that may write keeps what holds of the handle, and of the file. -/
theorem Handle.Sound.moved {next : CalibrationLedger} {file : List LedgerEvent}
    (sound : handle.Sound digest history) (verified : Verified digest (fileOf history))
    (ready : handle.phase = .ready)
    (moved : CalibrationLedger.Moved digest operation handle.ledger (fileOf history) next file) :
    (file = fileOf history ∧ Handle.Sound digest history { handle with ledger := next }) ∨
    ∃ event, file = fileOf history ++ [event] ∧
      Verified digest (fileOf history ++ [event]) ∧ Logged (fileOf history ++ [event]) ∧
      Handle.Sound digest (history ++ [.appended event]) { handle with ledger := next } := by
  have open_ := sound.opened (.inr ready)
  have genesis : ∀ {operation : CalibrationLedger.Operation} {body : EventBody}
      {effect : CalibrationLedger → CalibrationLedger},
      CalibrationLedger.Act handle.ledger operation body effect →
        checkGenesis (fileOf history).length body = .ok () := by
    intro operation body effect act
    have some : (fileOf history).length ≠ 0 := by
      have := sound.behind
      omega
    rw [checkGenesis, if_neg some, refuse_eq_ok]
    simp [act.not_genesis]
  have unready : handle.phase ≠ .genesisDue := by simp [ready]
  cases moved with
  | idle idle =>
      have seq : next.eventSeq = handle.ledger.eventSeq := by rw [idle.same]
      refine .inl ⟨rfl, ?_⟩
      exact {
        behind := by rw [seq]; exact sound.behind
        unopened := fun due => absurd due unready
        opened := fun _ => by rw [seq]; exact open_
        tracks := fun current => by
          have known : handle.ledger.Current digest (fileOf history) := by
            obtain ⟨healthy, length, head⟩ := (current_iff verified).mp current
            rw [idle.same] at length head
            exact (current_iff verified).mpr ⟨idle.healthy healthy, length, head⟩
          obtain ⟨past, left, recorded, follows⟩ := sound.tracks known
          exact ⟨past, left, recorded, follows.idle idle⟩ }
  | @lost body effect _ act current idle failed =>
      have grown := verified.next current (genesis act)
      obtain ⟨past, left, recorded, follows⟩ := sound.tracks current
      obtain ⟨recorded', follows'⟩ := follows.act digest act
      refine .inr ⟨_, rfl, grown, by simpa using follows'.logged, ?_⟩
      exact {
        behind := by
          rw [idle.same, fileOf_append, List.length_append]
          exact sound.behind.trans (Nat.le_add_right _ _)
        unopened := fun due => absurd due unready
        opened := fun _ => by rw [idle.same]; exact open_
        tracks := fun current => absurd current.1 (by simp [failed]) }
  | @written body effect act current =>
      have grown := verified.next current (genesis act)
      obtain ⟨past, left, recorded, follows⟩ := sound.tracks current
      obtain ⟨recorded', follows'⟩ := follows.act digest act
      refine .inr ⟨_, rfl, grown, by simpa using follows'.logged, ?_⟩
      exact {
        behind := by
          rw [act.advances, fileOf_append, List.length_append]
          exact Nat.add_le_add_right sound.behind 1
        unopened := fun due => absurd due unready
        opened := fun _ => by rw [act.advances]; exact Nat.succ_pos _
        tracks := fun _ => ⟨past, left, recorded', follows'⟩ }

/-- An append of the constructor: an event about no attempt, and the next phase. -/
theorem Handle.Sound.constructed (sound : handle.Sound digest history) (disk : Disk) (next : Phase)
    (verified : Verified digest (fileOf history)) (later : next ≠ .genesisDue)
    (neutral : ∀ state : Rehydration, state.put body = state) (start : body.started? = none)
    (terminal : body.terminal? = none)
    (genesis : handle.ledger.Current digest (fileOf history) →
      checkGenesis (fileOf history).length body = .ok ()) :
    let done := handle.ledger.commit digest disk (fileOf history) body
      fun written => (written, (.ok () : Except CalibrationError Unit))
    let after : Handle :=
      ⟨done.ledger, if done.result = .ok () then next else .lost, handle.released⟩
    (done.file = fileOf history ∧ after.Sound digest history) ∨
    ∃ event, done.file = fileOf history ++ [event] ∧
      Verified digest (fileOf history ++ [event]) ∧ Logged (fileOf history ++ [event]) ∧
      after.Sound digest (history ++ [.appended event]) := by
  intro done after
  have follow : handle.ledger.Current digest (fileOf history) →
      Tracks (handle.ledger.advanced digest body) handle.released
        (history ++ [.appended (handle.ledger.next digest body)]) := by
    intro current
    obtain ⟨past, left, recorded, follows⟩ := sound.tracks current
    refine ⟨past, left, recorded, follows.neutral start terminal rfl ?_ ?_ ?_ (.inl rfl)⟩
    · rw [CalibrationLedger.next_body, neutral]
      exact follows.segments
    · rw [CalibrationLedger.next_body, neutral]
      exact follows.runState
    · rw [CalibrationLedger.next_body, neutral]
      exact follows.holdout
  obtain ⟨kept, ⟨_, raised⟩, same⟩ | ⟨current, grown, ⟨same, _, raised⟩ | ⟨same, answered⟩⟩ :=
    CalibrationLedger.commit_cases digest disk handle.ledger (fileOf history) body
      fun written => (written, (.ok () : Except CalibrationError Unit))
  · refine .inl ⟨kept, ?_⟩
    have lost : after.phase = .lost := by simp [after, done, raised]
    have seq : after.ledger.eventSeq = handle.ledger.eventSeq := by
      rcases same with same | same <;> simp [after, done, same, CalibrationLedger.failed]
    exact {
      behind := by rw [seq]; exact sound.behind
      unopened := fun due => by simp [lost] at due
      opened := fun due => by simp [lost] at due
      tracks := fun current => by
        rcases same with same | same
        · simp only [after, done, same] at current ⊢
          exact sound.tracks current
        · simp only [after, done, same] at current
          exact absurd current.1 (by simp [CalibrationLedger.failed]) }
  · obtain ⟨_, _, _, follows⟩ := follow current
    refine .inr ⟨_, grown, verified.next current (genesis current),
      by simpa using follows.logged, ?_⟩
    have lost : after.phase = .lost := by simp [after, done, raised]
    exact {
      behind := by
        simp only [after, done, same, CalibrationLedger.failed, fileOf_append, List.length_append]
        exact sound.behind.trans (Nat.le_add_right _ _)
      unopened := fun due => by simp [lost] at due
      opened := fun due => by simp [lost] at due
      tracks := fun current => by
        simp only [after, done, same] at current
        exact absurd current.1 (by simp [CalibrationLedger.failed]) }
  · obtain ⟨past, left, recorded, follows⟩ := follow current
    refine .inr ⟨_, grown, verified.next current (genesis current),
      by simpa using follows.logged, ?_⟩
    exact {
      behind := by
        simp only [after, done, same, CalibrationLedger.advanced, fileOf_append, List.length_append]
        exact Nat.add_le_add_right sound.behind 1
      unopened := fun due => by
        simp only [after, done, answered, if_true] at due
        exact absurd due later
      opened := fun _ => by
        simp only [after, done, same, CalibrationLedger.advanced]
        exact Nat.succ_pos _
      tracks := fun _ => by
        simp only [after, done, same]
        exact ⟨past, left, recorded, follows⟩ }

/-- A release keeps what holds of the handle. -/
theorem Handle.Sound.release (sound : handle.Sound digest history) (ready : handle.phase = .ready)
    (reservationId : String) :
    let dropped := handle.ledger.pending.filter (·.reservationId == reservationId)
    Handle.Sound digest
      (history ++ dropped.map fun reservation => .released reservation.reservationId)
      ⟨handle.ledger.releaseUnused reservationId, .ready, handle.released ++ dropped⟩ := by
  intro dropped
  exact {
    behind := by
      rw [fileOf_append, fileOf_releases, List.append_nil]
      exact sound.behind
    unopened := fun due => by cases due
    opened := fun _ => sound.opened (.inr ready)
    tracks := fun current => by
      rw [fileOf_append, fileOf_releases, List.append_nil] at current
      obtain ⟨past, left, recorded, follows⟩ := sound.tracks current
      exact ⟨past, left, recorded, follows.release reservationId⟩ }

/-- **One step keeps the workspace sound.** -/
theorem Sound.step (sound : Sound digest workspace) (label : LedgerStep) :
    Sound digest (workspace.step digest label) := by
  cases label with
  | load runId declared =>
      simp only [Workspace.step]
      split
      · exact sound
      · rename_i ledger opened
        obtain ⟨current, _, tracks⟩ := follows_open sound.logged sound.verified opened
        refine ⟨sound.verified, sound.logged, fun handle member => ?_⟩
        rcases List.mem_append.mp member with before | now
        · exact sound.handles handle before
        · obtain rfl := List.mem_singleton.mp now
          obtain ⟨_, length, _⟩ := (current_iff sound.verified).mp current
          have size : ledger.eventSeq = workspace.file.length := length
          exact {
            behind := length.le
            unopened := fun due => by
              by_cases fresh : workspace.file = [] <;> simp_all
            opened := fun due => by
              by_cases fresh : workspace.file = []
              · simp [fresh] at due
              · rw [size]
                exact List.length_pos_iff.mpr fresh
            tracks := fun _ => tracks }
  | construct position disk =>
      refine sound.actOn fun handle next file found held acted => ?_
      simp only [Handle.construct] at acted
      have genesisIf : handle.ledger.eventSeq = 0 → handle.ledger.Current digest workspace.file →
          checkGenesis workspace.file.length (.genesis workPackage authorizationId true) =
            .ok () := by
        intro zero current
        rw [← ((current_iff sound.verified).mp current).2.1, zero]
        simp [checkGenesis]
      have segmentIf : 0 < handle.ledger.eventSeq → handle.ledger.Current digest workspace.file →
          checkGenesis workspace.file.length (.segmentOpened (handle.ledger.eventSeq - 1)) =
            .ok () := by
        intro some current
        rw [← ((current_iff sound.verified).mp current).2.1, checkGenesis, if_neg some.ne']
        simp [EventBody.isGenesis]
      split at acted
      · rename_i due
        obtain ⟨rfl, rfl⟩ := Prod.mk.inj (Option.some.inj acted)
        obtain ⟨kept, after⟩ | ⟨event, grown, verified, logged, after⟩ :=
          held.constructed disk .segmentDue sound.verified (by decide)
            (fun _ => rfl) rfl rfl (genesisIf (held.unopened due))
        · refine .inl ⟨kept, ?_⟩
          rw [List.map_nil, List.append_nil]
          exact after
        · exact .inr ⟨event, grown, rfl, verified, logged, after⟩
      · rename_i due
        obtain ⟨rfl, rfl⟩ := Prod.mk.inj (Option.some.inj acted)
        obtain ⟨kept, after⟩ | ⟨event, grown, verified, logged, after⟩ :=
          held.constructed disk .ready sound.verified (by decide)
            (fun _ => rfl) rfl rfl (segmentIf (held.opened (.inl due)))
        · refine .inl ⟨kept, ?_⟩
          rw [List.map_nil, List.append_nil]
          exact after
        · exact .inr ⟨event, grown, rfl, verified, logged, after⟩
      · cases acted
  | call position disk operation =>
      refine sound.actOn fun handle next file found held acted => ?_
      unfold Handle.call at acted
      split at acted
      · rename_i ready
        obtain ⟨rfl, rfl⟩ := Prod.mk.inj (Option.some.inj acted)
        rw [if_pos ready]
        by_cases releasing : ∃ reservationId, operation = .releaseUnused reservationId
        · obtain ⟨reservationId, rfl⟩ := releasing
          exact .inl ⟨rfl, held.release ready reservationId⟩
        · have none := dropped_of_other handle.ledger releasing
          have moved := (CalibrationLedger.run_moved digest disk handle.ledger workspace.file
            operation).resolve_left releasing
          have next : ∀ after : CalibrationLedger,
              ({ handle with ledger := after } : Handle) =
                ⟨after, .ready, handle.released ++ dropped handle.ledger operation⟩ := by
            intro after
            rw [none, List.append_nil, ← ready]
          obtain ⟨kept, after⟩ | ⟨event, grown, verified, logged, after⟩ :=
            held.moved sound.verified ready moved
          · rw [next] at after
            refine .inl ⟨kept, ?_⟩
            rw [none, List.map_nil, List.append_nil]
            rw [none] at after
            exact after
          · rw [next] at after
            exact .inr ⟨event, grown, none, verified, logged, after⟩
      · cases acted
  | crash position =>
      simp only [Workspace.step]
      refine sound.actOn fun handle next file found held acted => ?_
      obtain ⟨rfl, rfl⟩ := Prod.mk.inj (Option.some.inj acted)
      refine .inl ⟨rfl, ?_⟩
      rw [List.map_nil, List.append_nil]
      exact {
        behind := held.behind
        unopened := fun due => by cases due
        opened := fun due => by rcases due with due | due <;> cases due
        tracks := held.tracks }

/-- **Over every history** the file is verified and every handle that knows its
end knows it whole. -/
theorem run_sound {steps : List LedgerStep} (run : LedgerRun digest steps workspace) :
    Sound digest workspace := by
  have keeps : ∀ before label after, Sound digest before → before.step digest label = after →
      Sound digest after := by
    rintro before label _ sound rfl
    exact sound.step label
  have initially : Sound digest Workspace.empty :=
    ⟨verified_nil digest, ⟨[], rfl, .nil⟩, fun _ member => by cases member⟩
  exact Run.invariant keeps initially run

/-! ## What a step adds to the history -/

/-- The bodies that the constructor of a handle appends. -/
def EventBody.isOpening : EventBody → Bool
  | .genesis _ _ _ => true
  | .segmentOpened _ => true
  | _ => false

theorem Workspace.actOn_history {position : Nat} {releases : Handle → List Reservation}
    {act : Handle → List LedgerEvent → Option (Handle × List LedgerEvent)} :
    (workspace.actOn position releases act).history = workspace.history ∨
    ∃ handle next file, workspace.handles[position]? = some handle ∧
      act handle workspace.file = some (next, file) ∧
      (workspace.actOn position releases act).history =
        workspace.history ++ marksAfter workspace.file file ++
          (releases handle).map fun reservation => .released reservation.reservationId := by
  unfold Workspace.actOn
  cases found : workspace.handles[position]? with
  | none => exact .inl rfl
  | some handle =>
      simp only
      cases done : act handle workspace.file with
      | none => exact .inl rfl
      | some outcome =>
          exact .inr ⟨handle, outcome.1, outcome.2, rfl, done, rfl⟩

variable (digest) in
theorem marksAfter_commit (disk : Disk) (ledger : CalibrationLedger) (file : List LedgerEvent)
    (body : EventBody) :
    let done := ledger.commit digest disk file body
      fun written => (written, (.ok () : Except CalibrationError Unit))
    marksAfter file done.file = [] ∨
      ledger.Current digest file ∧
        marksAfter file done.file = [.appended (ledger.next digest body)] := by
  intro done
  obtain ⟨kept, -, -⟩ | ⟨current, appended, -⟩ :=
    CalibrationLedger.commit_cases digest disk ledger file body
      fun written => (written, (.ok () : Except CalibrationError Unit))
  · exact .inl (by rw [show done.file = file from kept, marksAfter_self])
  · exact .inr ⟨current, by
      rw [show done.file = file ++ [ledger.next digest body] from appended, marksAfter_append]⟩

variable (digest) in
/-- A step adds releases to the history, or one event of a handle that knows the
whole log: one of its constructor or of an operation whose checks held. -/
theorem Workspace.step_history (workspace : Workspace) (label : LedgerStep) :
    (∃ dropped : List Reservation, (workspace.step digest label).history = workspace.history ++
      dropped.map fun reservation => .released reservation.reservationId) ∨
    ∃ handle ∈ workspace.handles, ∃ body,
      handle.ledger.Current digest workspace.file ∧
      (body.isOpening = true ∨ ∃ position disk operation effect,
        label = .call position disk operation ∧ workspace.handles[position]? = some handle ∧
          CalibrationLedger.Act handle.ledger operation body effect) ∧
      (workspace.step digest label).history =
        workspace.history ++ [.appended (handle.ledger.next digest body)] := by
  have nothing : ∀ {history : List Mark}, history = workspace.history →
      ∃ dropped : List Reservation, history = workspace.history ++
        dropped.map fun reservation => .released reservation.reservationId :=
    fun same => ⟨[], by simpa using same⟩
  cases label with
  | load runId declared =>
      simp only [Workspace.step]
      split <;> exact .inl (nothing rfl)
  | construct position disk =>
      simp only [Workspace.step]
      obtain same | ⟨handle, next, file, found, acted, grown⟩ := Workspace.actOn_history
      · exact .inl (nothing same)
      · rw [List.map_nil, List.append_nil] at grown
        simp only [Handle.construct] at acted
        split at acted
        · obtain ⟨-, rfl⟩ := Prod.mk.inj (Option.some.inj acted)
          rw [CalibrationLedger.appendGenesis] at grown
          obtain none | ⟨current, one⟩ := marksAfter_commit digest disk handle.ledger workspace.file
            (.genesis workPackage authorizationId true)
          · rw [none, List.append_nil] at grown
            exact .inl (nothing grown)
          · rw [one] at grown
            exact .inr ⟨handle, List.mem_of_getElem? found, _, current, .inl rfl, grown⟩
        · obtain ⟨-, rfl⟩ := Prod.mk.inj (Option.some.inj acted)
          rw [CalibrationLedger.appendSegmentOpened] at grown
          obtain none | ⟨current, one⟩ := marksAfter_commit digest disk handle.ledger workspace.file
            (.segmentOpened (handle.ledger.eventSeq - 1))
          · rw [none, List.append_nil] at grown
            exact .inl (nothing grown)
          · rw [one] at grown
            exact .inr ⟨handle, List.mem_of_getElem? found, _, current, .inl rfl, grown⟩
        · cases acted
  | call position disk operation =>
      simp only [Workspace.step]
      obtain same | ⟨handle, next, file, found, acted, grown⟩ := Workspace.actOn_history
      · exact .inl (nothing same)
      · unfold Handle.call at acted
        split at acted
        · rename_i ready
          obtain ⟨rfl, rfl⟩ := Prod.mk.inj (Option.some.inj acted)
          rw [if_pos ready] at grown
          by_cases releasing : ∃ reservationId, operation = .releaseUnused reservationId
          · obtain ⟨reservationId, rfl⟩ := releasing
            have unchanged : marksAfter workspace.file (handle.ledger.run digest disk workspace.file
                (.releaseUnused reservationId)).file = [] := marksAfter_self _
            rw [unchanged, List.append_nil] at grown
            exact .inl ⟨_, grown⟩
          · rw [dropped_of_other handle.ledger releasing, List.map_nil, List.append_nil] at grown
            have moved := (CalibrationLedger.run_moved digest disk handle.ledger workspace.file
              operation).resolve_left releasing
            generalize (handle.ledger.run digest disk workspace.file operation).ledger = after
              at moved
            generalize (handle.ledger.run digest disk workspace.file operation).file = file
              at moved grown
            cases moved with
            | idle _ =>
                rw [marksAfter_self, List.append_nil] at grown
                exact .inl (nothing grown)
            | lost act current _ _ =>
                rw [marksAfter_append] at grown
                exact .inr ⟨handle, List.mem_of_getElem? found, _, current,
                  .inr ⟨_, _, _, _, rfl, found, act⟩, grown⟩
            | written act current =>
                rw [marksAfter_append] at grown
                exact .inr ⟨handle, List.mem_of_getElem? found, _, current,
                  .inr ⟨_, _, _, _, rfl, found, act⟩, grown⟩
        · cases acted
  | crash position =>
      simp only [Workspace.step]
      obtain same | ⟨handle, next, file, found, acted, grown⟩ := Workspace.actOn_history
      · exact .inl (nothing same)
      · obtain ⟨rfl, rfl⟩ := Prod.mk.inj (Option.some.inj acted)
        rw [marksAfter_self] at grown
        exact .inl (nothing (by simpa using grown))

/-- **The rule for facts about the log.** What releases keep, what the events of a
constructor keep and what every checked act of a handle that follows the log
keeps, holds of the log over every history whose steps meet a condition. -/
theorem history_invariant_of {P : List Mark → Prop} {C : Workspace → LedgerStep → Prop}
    {steps : List LedgerStep} (initially : P [])
    (releases : ∀ history attemptId, P history → P (history ++ [.released attemptId]))
    (opens : ∀ history (ledger : CalibrationLedger) released body, Tracks ledger released history →
      body.isOpening = true → P history → P (history ++ [.appended (ledger.next digest body)]))
    (acts : ∀ (before : Workspace) position disk operation handle body effect,
      C before (.call position disk operation) → before.handles[position]? = some handle →
      Tracks handle.ledger handle.released before.history →
      CalibrationLedger.Act handle.ledger operation body effect → P before.history →
        P (before.history ++ [.appended (handle.ledger.next digest body)]))
    (run : Run (fun before step after => C before step ∧ before.step digest step = after)
      Workspace.empty steps workspace) :
    Sound digest workspace ∧ P workspace.history := by
  have keeps : ∀ before label after, (Sound digest before ∧ P before.history) →
      C before label → before.step digest label = after →
        Sound digest after ∧ P after.history := by
    rintro before label _ ⟨sound, held⟩ met rfl
    refine ⟨sound.step label, ?_⟩
    obtain ⟨dropped, grown⟩ | ⟨handle, member, body, current, origin, grown⟩ :=
      before.step_history digest label
    · have all : ∀ gone : List Reservation, P (before.history ++
          gone.map fun reservation => .released reservation.reservationId) := by
        intro gone
        induction gone using List.reverseRecOn with
        | nil => simpa using held
        | append_singleton gone reservation ih =>
            rw [List.map_append, List.map_singleton, ← List.append_assoc]
            exact releases _ _ ih
      rw [grown]
      exact all dropped
    · rw [grown]
      have tracks := (sound.handles handle member).tracks current
      rcases origin with opening | ⟨position, disk, operation, effect, rfl, found, act⟩
      · exact opens _ _ _ _ tracks opening held
      · exact acts _ _ _ _ _ _ _ met found tracks act held
  have starts : Sound digest Workspace.empty :=
    run_sound (show LedgerRun digest [] Workspace.empty from Run.nil)
  exact run.invariant (I := fun state => Sound digest state ∧ P state.history)
    (fun before label after held taken => keeps before label after held taken.1 taken.2)
    ⟨starts, initially⟩

/-- The rule for facts about the log that need no condition on the steps. -/
theorem history_invariant {P : List Mark → Prop} {steps : List LedgerStep} (initially : P [])
    (releases : ∀ history attemptId, P history → P (history ++ [.released attemptId]))
    (opens : ∀ history (ledger : CalibrationLedger) released body, Tracks ledger released history →
      body.isOpening = true → P history → P (history ++ [.appended (ledger.next digest body)]))
    (acts : ∀ history (ledger : CalibrationLedger) released operation body effect,
      Tracks ledger released history → CalibrationLedger.Act ledger operation body effect →
        P history → P (history ++ [.appended (ledger.next digest body)]))
    (run : LedgerRun digest steps workspace) : P workspace.history := by
  have free : Run (fun before step after => True ∧ before.step digest step = after)
      Workspace.empty steps workspace := by
    induction run with
    | nil => exact .nil
    | snoc _ taken ih => exact ih.snoc ⟨trivial, taken⟩
  exact (history_invariant_of (C := fun _ _ => True) initially releases opens
    (fun _ _ _ _ _ _ _ _ _ tracks act held => acts _ _ _ _ _ _ tracks act held) free).2

end Aegis.Calibration
