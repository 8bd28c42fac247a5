/-
# Calibration.Reopening — the file says what the handle knows

A handle adds its totals up as it goes; `_rehydrate` folds the file. Over every
history both are sums of the same account lines, so a process that opens the
file finds the accounting of the handle that wrote it (`Agrees`), with every
attempt that has no terminal event counted at its worst case and listed as an
orphan. `release_unused` writes nothing: a released attempt is an orphan of the
reopened ledger although the live handle has forgotten it
(`released_is_orphaned`).
-/
import Aegis.Calibration.LedgerCeilings
import Aegis.Calibration.LedgerHandles

namespace Aegis.Calibration

open Aegis.Lib.Guarded
open Aegis.Lib.Runs
open CalibrationLedger (onDay)

set_option autoImplicit false

/-- The worst cases of the attempts of a day, of all days for `none`. -/
def worstCases (day : Option String) (attempts : List Reservation) : Int :=
  ((attempts.filter fun reservation => onDay day reservation.day).map
    (·.worstCaseChargeNanousd)).sum

/-- The judgments of a list of attempts. -/
def judgmentsOf (attempts : List Reservation) : Finset String :=
  (attempts.filterMap (·.line.judgment?)).toFinset

theorem judgmentsOf_eq (attempts : List Reservation) :
    judgmentsOf attempts = ((attempts.map Reservation.line).filterMap Line.judgment?).toFinset := by
  rw [List.filterMap_map]
  rfl

/-- The reopened ledger has the accounting of the live one; the live handle's
pending attempts, and the ones released through it, count at their worst case
and are orphans. -/
structure Agrees (live : CalibrationLedger) (released : List Reservation)
    (reopened : CalibrationLedger) : Prop where
  counts : ∀ kind, reopened.count kind = live.count kind + released.countP (·.kind == kind)
  attemptsFor : ∀ judgment, reopened.attemptsFor judgment =
    live.attemptsFor judgment + released.countP (Reservation.isAttemptOf judgment)
  judgmentsTotal : live.cumulative.judgmentsTotal = live.judgmentIds.card ∧
    reopened.cumulative.judgmentsTotal =
      (live.judgmentIds ∪ judgmentsOf (live.pending ++ released)).card
  attemptsTotal : reopened.cumulative.attemptsTotal = live.cumulative.attemptsTotal +
    (live.pending ++ released).countP (·.kind == .judgmentAttempt)
  metadataRequests : reopened.cumulative.metadataRequests = live.cumulative.metadataRequests +
    (live.pending ++ released).countP (·.kind == .metadata)
  totalExternalRequests : reopened.cumulative.totalExternalRequests =
    live.cumulative.totalExternalRequests + (live.pending ++ released).length
  tokensTotal : reopened.cumulative.tokensTotal = live.cumulative.tokensTotal
  spendNanousdTotal : reopened.cumulative.spendNanousdTotal =
    live.cumulative.spendNanousdTotal + worstCases none (live.pending ++ released)
  spend : ∀ day, reopened.spend day =
    live.spend day + worstCases day (live.pending ++ released)
  runState : reopened.runState = live.runState
  segments : reopened.segments = live.segments
  metadataOk : reopened.metadataOk = live.metadataOk
  holdoutTransition : reopened.holdoutTransition = live.holdoutTransition
  orphans : reopened.orphans = (live.orphans ++
    (live.pending ++ released).map (·.reservationId)).insertionSort (· ≤ ·)
  noPending : reopened.pending = []

/-! ## The queries as sums of account lines -/

/-- A judgment attempt names its judgment. -/
def Line.Named (line : Line) : Prop :=
  line.kind = .judgmentAttempt → ∃ judgment, line.judgment = some judgment ∧ judgment ≠ ""

theorem Line.judgment?_eq {line : Line} (named : line.Named) (judgment : String) :
    (line.judgment? == some judgment) =
      (line.kind == .judgmentAttempt && line.judgment == some judgment) := by
  unfold Line.judgment?
  cases kind : line.kind with
  | metadata => rfl
  | judgmentAttempt =>
      obtain ⟨own, is, some⟩ := named kind
      simp [is, some]

section Queries

variable {ledger : CalibrationLedger} {lines : List Line}

/-- The account lines of a handle whose prior totals have lines of their own. -/
def CalibrationLedger.accountLines (ledger : CalibrationLedger) (prior : List Line) : List Line :=
  prior ++ ledger.entries.map LedgerEntry.line ++ ledger.pending.map Reservation.line

theorem requests_ofLines (lines : List Line) (kind : RequestKind) :
    (Aggregates.ofLines lines).requests kind = lines.countP (·.kind == kind) := by
  cases kind <;> rfl

theorem count_eq (prior : ledger.prior = .ofLines lines) (kind : RequestKind) :
    ledger.count kind = (ledger.accountLines lines).countP (·.kind == kind) := by
  unfold CalibrationLedger.count CalibrationLedger.accountLines
  rw [prior, requests_ofLines, List.countP_append, List.countP_append, List.countP_map,
    List.countP_map]
  simp only [Function.comp_def, LedgerEntry.line, Reservation.line]
  omega

theorem attemptsFor_eq (prior : ledger.prior = .ofLines lines)
    (entries : ∀ entry ∈ ledger.entries, entry.line.Named)
    (pending : ∀ reservation ∈ ledger.pending, reservation.line.Named) (judgment : String) :
    ledger.attemptsFor judgment = (ledger.accountLines lines).countP (·.judgment? == some judgment) := by
  unfold CalibrationLedger.attemptsFor CalibrationLedger.accountLines
  rw [prior, List.countP_append, List.countP_append, List.countP_map, List.countP_map]
  have recorded : ledger.entries.countP ((·.judgment? == some judgment) ∘ LedgerEntry.line) =
      ledger.entries.countP fun entry =>
        entry.requestKind == .judgmentAttempt && entry.logicalJudgmentId == some judgment :=
    List.countP_congr fun entry member => by
      rw [Function.comp_apply, Line.judgment?_eq (entries entry member)]
      rfl
  have waiting : ledger.pending.countP ((·.judgment? == some judgment) ∘ Reservation.line) =
      ledger.pending.countP fun reservation =>
        reservation.kind == .judgmentAttempt && reservation.logicalJudgmentId == some judgment :=
    List.countP_congr fun reservation member => by
      rw [Function.comp_apply, Line.judgment?_eq (pending reservation member)]
      rfl
  rw [recorded, waiting]
  simp only [Aggregates.ofLines]
  omega

/-- The charges of the lines of a day, of all days for `none`. -/
def chargeOn (day : Option String) (lines : List Line) : Int :=
  ((lines.filter fun line => onDay day line.day).map (·.charge)).sum

theorem chargeOn_append (day : Option String) (earlier later : List Line) :
    chargeOn day (earlier ++ later) = chargeOn day earlier + chargeOn day later := by
  simp [chargeOn]

theorem chargeOn_perm {left right : List Line} (perm : left.Perm right) (day : Option String) :
    chargeOn day left = chargeOn day right :=
  ((perm.filter _).map _).sum_eq

theorem chargeOn_reservations (day : Option String) (attempts : List Reservation) :
    chargeOn day (attempts.map Reservation.line) = worstCases day attempts := by
  simp [chargeOn, worstCases, List.filter_map, Function.comp_def, Reservation.line]

theorem spent_ofLines (lines : List Line) (day : Option String) :
    (Aggregates.ofLines lines).spent day = chargeOn day lines := by
  cases day with
  | none => simp [Aggregates.spent, Aggregates.ofLines, chargeOn, onDay]
  | some day =>
      simp only [Aggregates.spent, Aggregates.ofLines, chargeOn, onDay, Option.isNone_some,
        Bool.false_or]
      congr 3
      funext line
      simp [eq_comm]

theorem spend_eq (prior : ledger.prior = .ofLines lines) (day : Option String) :
    ledger.spend day = chargeOn day (lines ++ ledger.entries.map LedgerEntry.line) := by
  unfold CalibrationLedger.spend
  rw [prior, spent_ofLines, chargeOn_append]
  simp [chargeOn, List.filter_map, Function.comp_def, LedgerEntry.line]

theorem judgmentIds_eq (prior : ledger.prior = .ofLines lines)
    (entries : ∀ entry ∈ ledger.entries, entry.line.Named) :
    ledger.judgmentIds =
      ((lines ++ ledger.entries.map LedgerEntry.line).filterMap Line.judgment?).toFinset := by
  unfold CalibrationLedger.judgmentIds
  rw [prior, List.filterMap_append, List.toFinset_append, List.filterMap_map]
  congr 2
  refine List.filterMap_congr fun entry member => ?_
  simp only [Function.comp_apply, Line.judgment?, LedgerEntry.line]
  cases kind : entry.requestKind with
  | metadata => simp
  | judgmentAttempt =>
      obtain ⟨own, is, some⟩ := entries entry member kind
      have named : entry.logicalJudgmentId = Option.some own := is
      simp [named, some]

end Queries

/-! ## The running totals of a handle -/

/-- The totals a handle shows are those of its prior history and its entries. -/
structure Totalled (ledger : CalibrationLedger) : Prop where
  judgments : ledger.cumulative.judgmentsTotal = ledger.judgmentIds.card
  attempts : ledger.cumulative.attemptsTotal =
    ledger.prior.attempts + ledger.entries.countP (·.requestKind == .judgmentAttempt)
  metadata : ledger.cumulative.metadataRequests =
    ledger.prior.metadata + ledger.entries.countP (·.requestKind == .metadata)
  total : ledger.cumulative.totalExternalRequests =
    ledger.cumulative.attemptsTotal + ledger.cumulative.metadataRequests
  tokens : ledger.cumulative.tokensTotal =
    ledger.prior.tokens + (Aggregates.ofLines (ledger.entries.map LedgerEntry.line)).tokens
  spend : ledger.cumulative.spendNanousdTotal = ledger.spend none

theorem Totalled.congr {ledger after : CalibrationLedger} (totalled : Totalled ledger)
    (prior : after.prior = ledger.prior) (entries : after.entries = ledger.entries) :
    Totalled after := by
  have cumulative : after.cumulative = ledger.cumulative := by
    unfold CalibrationLedger.cumulative CalibrationLedger.baseline
    rw [prior, entries]
  have judgmentIds : after.judgmentIds = ledger.judgmentIds := by
    unfold CalibrationLedger.judgmentIds
    rw [prior, entries]
  have spend : after.spend none = ledger.spend none := by
    unfold CalibrationLedger.spend
    rw [prior, entries]
  exact {
    judgments := by rw [cumulative, judgmentIds]; exact totalled.judgments
    attempts := by rw [cumulative, prior, entries]; exact totalled.attempts
    metadata := by rw [cumulative, prior, entries]; exact totalled.metadata
    total := by rw [cumulative]; exact totalled.total
    tokens := by rw [cumulative, prior, entries]; exact totalled.tokens
    spend := by rw [cumulative, spend]; exact totalled.spend }

/-- A handle that has recorded nothing shows its baseline. -/
theorem Totalled.of_nil {ledger : CalibrationLedger} (none : ledger.entries = []) :
    Totalled ledger := by
  have cumulative : ledger.cumulative = ledger.baseline := by
    rw [CalibrationLedger.cumulative, none]
    rfl
  exact {
    judgments := by
      rw [cumulative, CalibrationLedger.judgmentIds, none]
      simp [CalibrationLedger.baseline]
    attempts := by rw [cumulative, none]; rfl
    metadata := by rw [cumulative, none]; rfl
    total := by rw [cumulative]; rfl
    tokens := by
      rw [cumulative, none]
      exact (ProviderUsage.add_zero _).symm
    spend := by
      rw [cumulative, CalibrationLedger.spend, none]
      exact (add_zero _).symm }

theorem Aggregates.tokens_append (earlier later : List Line) :
    (Aggregates.ofLines (earlier ++ later)).tokens =
      (Aggregates.ofLines earlier).tokens + (Aggregates.ofLines later).tokens := by
  simp [Aggregates.ofLines, ProviderUsage.add_def]

/-- An attempt without a terminal event has no tokens. -/
theorem Aggregates.tokens_reservations (attempts : List Reservation) :
    (Aggregates.ofLines (attempts.map Reservation.line)).tokens = .zero := by
  simp [Aggregates.ofLines, Reservation.line, ProviderUsage.zero, Function.comp_def]

theorem Aggregates.tokens_singleton (line : Line) :
    (Aggregates.ofLines [line]).tokens = line.tokens := by
  simp [Aggregates.ofLines]

theorem ProviderUsage.add_assoc (first second third : ProviderUsage) :
    first + second + third = first + (second + third) := by
  simp [ProviderUsage.add_def, Int.add_assoc]

/-- A recorded attempt joins the totals. -/
theorem Totalled.settle {ledger : CalibrationLedger} (totalled : Totalled ledger)
    (reservation : Reservation) (report : CalibrationLedger.Report) (missing : Bool) (charge : Int)
    (tokens : ProviderUsage) :
    Totalled (ledger.settle (ledger.entryFor reservation report missing charge tokens)) := by
  have cumulative : (ledger.settle
      (ledger.entryFor reservation report missing charge tokens)).cumulative =
        ledger.cumulativeAfter reservation charge tokens := by
    simp [CalibrationLedger.cumulative, CalibrationLedger.settle, CalibrationLedger.entryFor]
  exact {
    judgments := by
      rw [cumulative]
      simp only [CalibrationLedger.cumulativeAfter]
      congr 1
      ext judgment
      simp only [CalibrationLedger.judgmentIds, CalibrationLedger.settle,
        CalibrationLedger.entryFor, List.filterMap_append, List.toFinset_append]
      cases reservation.kind with
      | metadata => simp
      | judgmentAttempt => cases reservation.logicalJudgmentId <;> simp
    attempts := by
      rw [cumulative]
      simp only [CalibrationLedger.cumulativeAfter, CalibrationLedger.settle,
        CalibrationLedger.entryFor, List.countP_append, List.countP_singleton, beq_iff_eq]
      rw [totalled.attempts, Nat.add_assoc]
    metadata := by
      rw [cumulative]
      simp only [CalibrationLedger.cumulativeAfter, CalibrationLedger.settle,
        CalibrationLedger.entryFor, List.countP_append, List.countP_singleton, beq_iff_eq]
      rw [totalled.metadata]
      cases reservation.kind <;> simp [Nat.add_assoc]
    total := by
      rw [cumulative]
      simp only [CalibrationLedger.cumulativeAfter]
      rw [totalled.total]
      cases reservation.kind <;> simp <;> omega
    tokens := by
      rw [cumulative]
      simp only [CalibrationLedger.cumulativeAfter, CalibrationLedger.settle, List.map_append,
        List.map_cons, List.map_nil]
      rw [Aggregates.tokens_append, Aggregates.tokens_singleton, totalled.tokens,
        ProviderUsage.add_assoc]
      rfl
    spend := by
      rw [cumulative]
      simp only [CalibrationLedger.cumulativeAfter]
      rw [totalled.spend]
      simp [CalibrationLedger.spend, CalibrationLedger.settle, CalibrationLedger.entryFor, onDay,
        Int.add_assoc] }

variable {digest : EventContent → String}

theorem kept_totalled {P : List Mark → Prop} {C : Workspace → LedgerStep → Prop} :
    Kept digest P C fun _ ledger => Totalled ledger where
  opened := by
    intro history runId declared ledger _ _ opened
    unfold CalibrationLedger.open? at opened
    split at opened
    · simp only [bind_eq_ok, require_eq_ok, pure_eq_ok] at opened
      obtain ⟨_, _, rfl⟩ := opened
      exact .of_nil rfl
    · rw [bind_eq_ok] at opened
      obtain ⟨_, _, rehydrated⟩ := opened
      rw [rehydrate_ok rehydrated]
      exact .of_nil rfl
  grows := fun _ _ _ _ held => held
  idles := by
    intro file before after idle held
    rw [idle.same]
    exact held.congr rfl rfl
  releases := fun _ _ _ held => held.congr rfl rfl
  opens := fun _ _ _ _ _ _ held => held.congr rfl rfl
  acts := by
    intro before position disk operation handle body effect _ _ _ _ act held
    cases act with
    | @terminal reservation report missing charge tokens _ _ =>
        exact (held.settle reservation report missing charge tokens).congr rfl rfl
    | started _ => exact held.congr rfl rfl
    | runState _ => exact held.congr rfl rfl
    | holdout _ => exact held.congr rfl rfl
    | outcome => exact held.congr rfl rfl
    | segmentBegin _ => exact held.congr rfl rfl
    | segmentEnd => exact held.congr rfl rfl
    | deadline => exact held.congr rfl rfl

/-! ## The log can be read -/

/-- The handle that authorizes the holdout has released no reservation. -/
def ReadableStep (before : Workspace) : LedgerStep → Prop
  | .call position _ (.authorizeHoldoutTransition _) =>
      ∀ handle, before.handles[position]? = some handle → handle.released = []
  | _ => True

/-- `_rehydrate` accepts the file. -/
structure Readable (history : List Mark) : Prop where
  turns : (fileOf history).foldlM Rehydration.turn {} = .ok (replayed (fileOf history))
  metadata : (replayed (fileOf history)).holdoutTransition.isSome = true →
    (fileOf history).any (·.body.metadataSuccess) = true
  named : ∀ reservation ∈ startsOf (fileOf history), reservation.line.Named

/-- An event that a reader takes as it is. -/
theorem Readable.snoc {history : List Mark} (readable : Readable history) {event : LedgerEvent}
    (turn : (replayed (fileOf history)).turn event =
      .ok ((replayed (fileOf history)).put event.body))
    (metadata : ((replayed (fileOf history)).put event.body).holdoutTransition.isSome = true →
      (replayed (fileOf history)).holdoutTransition.isSome = true ∨
        (fileOf history).any (·.body.metadataSuccess) = true)
    (named : ∀ reservation ∈ event.body.started?, reservation.line.Named) :
    Readable (history ++ [.appended event]) where
  turns := by
    rw [fileOf_append, fileOf_appended, List.foldlM_append, readable.turns,
      replayed_append_singleton]
    show ([event].foldlM Rehydration.turn (replayed (fileOf history))) = _
    rw [List.foldlM_cons, turn]
    rfl
  metadata := by
    rw [fileOf_append, fileOf_appended, replayed_append_singleton, List.any_append]
    intro some
    rw [(metadata some).elim readable.metadata id, Bool.true_or]
  named := by
    intro reservation member
    rw [fileOf_append, fileOf_appended, startsOf_append_singleton] at member
    rcases List.mem_append.mp member with before | now
    · exact readable.named reservation before
    · exact named reservation (Option.mem_toList.mp now)

/-- An event about no attempt and no holdout. -/
theorem Readable.other {history : List Mark} (readable : Readable history) {event : LedgerEvent}
    (turn : ∀ state : Rehydration, state.turn event = .ok (state.put event.body))
    (same : ∀ state : Rehydration,
      (state.put event.body).holdoutTransition = state.holdoutTransition)
    (start : event.body.started? = none) : Readable (history ++ [.appended event]) := by
  refine readable.snoc (turn _) (fun some => ?_) (fun reservation member => ?_)
  · rw [same] at some
    exact .inl some
  · rw [start] at member
    cases member

theorem admitKind_named {ledger : CalibrationLedger} {request : CalibrationLedger.ReserveRequest}
    {worstCase : Int} (checked : ledger.checkReserve request = .ok worstCase) :
    (ledger.reservationFor request worstCase).line.Named := by
  obtain ⟨-, -, -, kind, -⟩ := checkReserve_ok checked
  intro attempt
  have attempt : request.kind = .judgmentAttempt := attempt
  unfold CalibrationLedger.admitKind at kind
  rw [attempt] at kind
  simp only [bind_eq_ok, fetch_eq_ok, refuse_eq_ok] at kind
  obtain ⟨judgment, of, _, named, -⟩ := kind
  exact ⟨judgment, of, named⟩

theorem admitHoldout_ok {ledger : CalibrationLedger} {binding : HoldoutBinding}
    (checked : ledger.admitHoldout binding = .ok ()) :
    validateHoldoutBinding binding = .ok () ∧ ledger.runState = some .ownerWait ∧
      ledger.holdoutTransition = none ∧ ledger.metadataOk = true ∧ ledger.orphans = [] ∧
      ledger.pending = [] ∧ ledger.segments.any Segment.isOpen = false := by
  simp only [CalibrationLedger.admitHoldout, bind_eq_ok, require_eq_ok, refuse_eq_ok] at checked
  obtain ⟨_, valid, _, waiting, _, single, _, ⟨metadata, orphans, pending⟩, closed⟩ := checked
  exact ⟨valid, waiting, by simpa using single, metadata, orphans, pending, by simpa using closed⟩

/-- Over every run in which the holdout is not authorized after a release, the
log can be read back. -/
theorem log_readable {steps : List LedgerStep} {workspace : Workspace}
    (run : Run (fun before step after => ReadableStep before step ∧
      before.step digest step = after) Workspace.empty steps workspace) :
    Readable workspace.history := by
  refine (history_invariant_of (P := Readable) (C := ReadableStep) ?_ ?_ ?_ ?_ run).2
  · refine ⟨rfl, fun some => ?_, fun _ member => ?_⟩
    · cases some
    · cases member
  · intro history attemptId readable
    have same : fileOf (history ++ [.released attemptId]) = fileOf history := by simp
    exact ⟨by rw [same]; exact readable.turns, by rw [same]; exact readable.metadata,
      by rw [same]; exact readable.named⟩
  · intro history ledger released body _ opening readable
    cases body with
    | genesis _ _ _ => exact readable.other (fun _ => rfl) (fun _ => rfl) rfl
    | segmentOpened _ => exact readable.other (fun _ => rfl) (fun _ => rfl) rfl
    | _ => cases opening
  · intro before position disk operation handle body effect met found tracks act readable
    obtain ⟨past, left, recorded, follows⟩ := tracks
    cases act with
    | @holdout binding checked =>
        obtain ⟨valid, waiting, single, metadata, orphans, pending, closed⟩ :=
          admitHoldout_ok checked
        have none := follows.left_eq_nil orphans
        have started := follows.started
        rw [none, pending, met handle found] at started
        refine readable.snoc ?_ ?_ (fun reservation member => by cases member)
        · simp only [Rehydration.turn, CalibrationLedger.next_body, Rehydration.put]
          rw [follows.holdout, follows.runState, follows.segments, single, waiting, closed,
            started.eq_nil]
          simp [refuse, require, valid]
        · intro _
          right
          rw [← follows.metadata, metadata]
    | started checked =>
        refine readable.snoc rfl (fun some => .inl some) (fun reservation member => ?_)
        obtain rfl := Option.some.inj member
        exact admitKind_named checked
    | terminal _ _ => exact readable.other (fun _ => rfl) (fun _ => rfl) rfl
    | runState _ => exact readable.other (fun _ => rfl) (fun _ => rfl) rfl
    | outcome => exact readable.other (fun _ => rfl) (fun _ => rfl) rfl
    | segmentBegin _ => exact readable.other (fun _ => rfl) (fun _ => rfl) rfl
    | segmentEnd => exact readable.other (fun _ => rfl) (fun _ => rfl) rfl
    | deadline => exact readable.other (fun _ => rfl) (fun _ => rfl) rfl

/-! ## The reopened ledger -/

/-- What `_rehydrate` makes of a file it accepts. -/
def CalibrationLedger.reader (runId : String) (file : List LedgerEvent) : CalibrationLedger where
  runId := runId
  eventSeq := file.length
  prevHash := headOf file
  prior := (replayed file).started.foldl Aggregates.addOrphan (replayed file).prior
  orphans := ((replayed file).started.map (·.reservationId)).insertionSort (· ≤ ·)
  segments := (replayed file).segments
  runState := (replayed file).runState
  metadataOk := file.any (·.body.metadataSuccess)
  holdoutTransition := (replayed file).holdoutTransition
  holdoutReopened := (replayed file).holdoutTransition.isSome

theorem Readable.rehydrates {history : List Mark} (readable : Readable history) (runId : String) :
    rehydrate runId (fileOf history) = .ok (.reader runId (fileOf history)) := by
  unfold rehydrate
  rw [bind_eq_ok]
  refine ⟨_, readable.turns, ?_⟩
  rw [bind_eq_ok]
  refine ⟨(), ?_, rfl⟩
  rw [refuse_eq_ok]
  rintro ⟨some, missing⟩
  rw [readable.metadata some] at missing
  cases missing

section Agreement

variable {ledger : CalibrationLedger} {released : List Reservation} {history : List Mark}
  {past : List LedgerEntry} {left recorded : List Reservation}

/-- The account lines that the handle found when it opened the file. -/
def priorLines (past : List LedgerEntry) (left : List Reservation) : List Line :=
  past.map LedgerEntry.line ++ left.map Reservation.line

/-- The account lines of the file are those of the handle and its releases. -/
theorem Follows.lines_perm (follows : Follows ledger released history past left recorded) :
    ((entriesOf (fileOf history)).map LedgerEntry.line ++
        (replayed (fileOf history)).started.map Reservation.line).Perm
      (ledger.accountLines (priorLines past left) ++ released.map Reservation.line) := by
  rw [follows.entries]
  refine ((follows.started.map Reservation.line).append_left _).trans ?_
  unfold CalibrationLedger.accountLines priorLines
  simp only [List.map_append, List.append_assoc]
  refine List.Perm.append_left _ ?_
  exact List.perm_append_comm_assoc _ _ _

variable (history) in
theorem reader_prior (runId : String) :
    (CalibrationLedger.reader runId (fileOf history)).prior =
      .ofLines ((entriesOf (fileOf history)).map LedgerEntry.line ++
        (replayed (fileOf history)).started.map Reservation.line) := by
  show (replayed (fileOf history)).started.foldl _ _ = _
  rw [replayed_prior, Aggregates.orphans_ofLines]

theorem reader_lines (runId : String) (file : List LedgerEvent) (lines : List Line) :
    (CalibrationLedger.reader runId file).accountLines lines = lines := by
  show lines ++ [] ++ [] = lines
  rw [List.append_nil, List.append_nil]

theorem Follows.mem_starts (follows : Follows ledger released history past left recorded)
    {reservation : Reservation} (member : reservation ∈ ledger.pending ++ released) :
    reservation ∈ startsOf (fileOf history) := by
  rw [follows.starts.mem_iff]
  refine List.mem_append_right _ (follows.started.mem_iff.mpr ?_)
  rw [List.append_assoc]
  exact List.mem_append_right _ member

/-- A recorded attempt was started, so it names its judgment. -/
theorem Follows.entry_named (follows : Follows ledger released history past left recorded)
    (readable : Readable history) {entry : LedgerEntry} (member : entry ∈ ledger.entries) :
    entry.line.Named := by
  have face : entry.face ∈ recorded.map Reservation.face := by
    rw [follows.faces, follows.entries]
    exact List.mem_map.mpr ⟨entry, List.mem_append_right _ member, rfl⟩
  obtain ⟨reservation, there, same⟩ := List.mem_map.mp face
  have named := readable.named reservation
    (follows.starts.mem_iff.mpr (List.mem_append_left _ there))
  have kind : reservation.kind = entry.requestKind := congrArg Prod.fst same
  have judgment : reservation.logicalJudgmentId = entry.logicalJudgmentId :=
    congrArg Prod.snd same
  intro attempt
  obtain ⟨own, is, some⟩ := named (kind.trans attempt)
  exact ⟨own, judgment.symm.trans is, some⟩

/-- Sorting does not depend on the order it starts from. -/
theorem insertionSort_perm {left right : List String} (perm : left.Perm right) :
    left.insertionSort (· ≤ ·) = right.insertionSort (· ≤ ·) := by
  have total : Std.Total fun (a b : String) => a ≤ b := ⟨String.le_total⟩
  have transitive : IsTrans String fun a b => a ≤ b := ⟨fun _ _ _ => String.le_trans⟩
  have sorted : ∀ list : List String, (list.insertionSort (· ≤ ·)).Pairwise (· ≤ ·) :=
    fun list => List.pairwise_insertionSort _ list
  have antisymm : ∀ a b, a ∈ left.insertionSort (· ≤ ·) → b ∈ right.insertionSort (· ≤ ·) →
      a ≤ b → b ≤ a → a = b := fun _ _ _ _ => String.le_antisymm
  exact List.Perm.eq_of_pairwise antisymm (sorted left) (sorted right)
    ((List.perm_insertionSort _ _).trans (perm.trans (List.perm_insertionSort _ _).symm))

theorem length_eq_kinds (attempts : List Reservation) :
    attempts.length =
      attempts.countP (·.kind == .judgmentAttempt) + attempts.countP (·.kind == .metadata) := by
  rw [List.length_eq_countP_add_countP fun reservation : Reservation =>
    reservation.kind == .judgmentAttempt]
  congr 1
  refine List.countP_congr fun reservation _ => ?_
  cases reservation.kind <;> decide

/-- **Live and reopened accounting agree** for a handle that follows a log that
can be read. -/
theorem Follows.agrees (follows : Follows ledger released history past left recorded)
    (readable : Readable history) (totalled : Totalled ledger) (runId : String) :
    Agrees ledger released (.reader runId (fileOf history)) := by
  have lines := follows.lines_perm
  have reader := reader_prior history runId
  have prior : ledger.prior = .ofLines (priorLines past left) := follows.prior
  have opened : Totalled (.reader runId (fileOf history)) := .of_nil rfl
  have entries : ∀ entry ∈ ledger.entries, entry.line.Named :=
    fun _ member => follows.entry_named readable member
  have unsettled : ∀ reservation ∈ ledger.pending ++ released, reservation.line.Named :=
    fun reservation member => readable.named reservation (follows.mem_starts member)
  have pending : ∀ reservation ∈ ledger.pending, reservation.line.Named :=
    fun reservation member => unsettled reservation (List.mem_append_left _ member)
  have counts : ∀ counted : Line → Bool,
      ((entriesOf (fileOf history)).map LedgerEntry.line ++
          (replayed (fileOf history)).started.map Reservation.line).countP counted =
        (ledger.accountLines (priorLines past left)).countP counted +
          released.countP (counted ∘ Reservation.line) := by
    intro counted
    rw [lines.countP_eq, List.countP_append, List.countP_map]
  have charges : ∀ day, chargeOn day ((entriesOf (fileOf history)).map LedgerEntry.line ++
      (replayed (fileOf history)).started.map Reservation.line) =
        ledger.spend day + worstCases day (ledger.pending ++ released) := by
    intro day
    rw [chargeOn_perm lines, spend_eq prior, ← chargeOn_reservations, List.map_append]
    unfold CalibrationLedger.accountLines
    simp only [chargeOn_append]
    omega
  have noEntries : ∀ entry ∈ (CalibrationLedger.reader runId (fileOf history)).entries,
      entry.line.Named := fun _ member => absurd member List.not_mem_nil
  have noPending : ∀ reservation ∈ (CalibrationLedger.reader runId (fileOf history)).pending,
      reservation.line.Named := fun _ member => absurd member List.not_mem_nil
  have requests : ∀ kind, (CalibrationLedger.reader runId (fileOf history)).prior.requests kind =
      ledger.prior.requests kind + ledger.entries.countP (·.requestKind == kind) +
        (ledger.pending ++ released).countP (·.kind == kind) := by
    intro kind
    have live := count_eq prior kind
    rw [reader, requests_ofLines, counts, ← live, List.countP_append]
    unfold CalibrationLedger.count
    simp only [Function.comp_def, Reservation.line]
    omega
  exact {
    counts := by
      intro kind
      rw [count_eq reader, reader_lines, counts, ← count_eq prior]
      rfl
    attemptsFor := by
      intro judgment
      rw [attemptsFor_eq reader noEntries noPending, reader_lines, counts,
        ← attemptsFor_eq prior entries pending]
      congr 1
      refine List.countP_congr fun reservation member => ?_
      rw [Function.comp_apply,
        Line.judgment?_eq (unsettled reservation (List.mem_append_right _ member))]
      rfl
    judgmentsTotal := by
      refine ⟨totalled.judgments, ?_⟩
      rw [opened.judgments, judgmentIds_eq reader noEntries, judgmentIds_eq prior entries]
      congr 1
      rw [judgmentsOf_eq, ← List.toFinset_append, ← List.filterMap_append]
      refine List.toFinset_eq_of_perm _ _ (List.Perm.filterMap _ ?_)
      show (_ ++ []).Perm _
      rw [List.append_nil]
      refine lines.trans (.of_eq ?_)
      unfold CalibrationLedger.accountLines
      simp only [List.map_append, List.append_assoc]
    attemptsTotal := by
      rw [opened.attempts, totalled.attempts]
      exact requests .judgmentAttempt
    metadataRequests := by
      rw [opened.metadata, totalled.metadata]
      exact requests .metadata
    totalExternalRequests := by
      have attempts := requests .judgmentAttempt
      have metadata := requests .metadata
      have sizes := length_eq_kinds (ledger.pending ++ released)
      rw [opened.total, totalled.total, opened.attempts, opened.metadata, totalled.attempts,
        totalled.metadata]
      simp only [Aggregates.requests] at attempts metadata
      show _ + 0 + (_ + 0) = _
      omega
    tokensTotal := by
      rw [opened.tokens, totalled.tokens, reader, prior, Aggregates.ofLines_perm lines]
      unfold CalibrationLedger.accountLines
      simp only [Aggregates.tokens_append, Aggregates.tokens_reservations]
      show _ + ProviderUsage.zero + ProviderUsage.zero + ProviderUsage.zero = _
      rw [ProviderUsage.add_zero, ProviderUsage.add_zero, ProviderUsage.add_zero]
    spendNanousdTotal := by
      rw [opened.spend, totalled.spend, spend_eq reader]
      show chargeOn none (_ ++ []) = _
      rw [List.append_nil]
      exact charges none
    spend := by
      intro day
      rw [spend_eq reader]
      show chargeOn day (_ ++ []) = _
      rw [List.append_nil]
      exact charges day
    runState := follows.runState
    segments := follows.segments
    metadataOk := follows.metadata.symm
    holdoutTransition := follows.holdout
    orphans := by
      show ((replayed (fileOf history)).started.map _).insertionSort _ = _
      rw [follows.orphans]
      refine insertionSort_perm ((follows.started.map _).trans ?_)
      rw [List.append_assoc, List.map_append]
      exact (List.perm_insertionSort _ _).symm.append_right _
    noPending := rfl }

/-- A current handle's append on a disk that does not fail. -/
theorem commit_stable {α : Type} {file : List LedgerEvent} (current : ledger.Current digest file)
    (body : EventBody)
    (finish : CalibrationLedger → CalibrationLedger × Except CalibrationError α) :
    ledger.commit digest .stable file body finish =
      ⟨(finish (ledger.advanced digest body)).1, file ++ [ledger.next digest body],
        (finish (ledger.advanced digest body)).2⟩ := by
  obtain ⟨healthy, loaded⟩ := current
  simp [CalibrationLedger.commit, CalibrationLedger.appendEvent, healthy, loaded,
    CalibrationLedger.advanced, CalibrationLedger.next]

end Agreement

/-- **Every log can be reopened with the same accounting.** Over every run in which
no handle authorizes the holdout after it released a reservation: whoever opens
the file of a current handle gets a ledger that agrees with it. -/
theorem reopening_agrees {steps : List LedgerStep} {workspace : Workspace}
    (run : Run (fun before step after => ReadableStep before step ∧
      before.step digest step = after) Workspace.empty steps workspace)
    {handle : Handle} (member : handle ∈ workspace.handles) (ready : handle.phase = .ready)
    (current : handle.ledger.Current digest workspace.file) (runId : String) (declared : Bool) :
    ∃ opened, CalibrationLedger.open? digest runId declared workspace.file = .ok opened ∧
      (opened.appendSegmentOpened digest .stable workspace.file).result = .ok () ∧
      Agrees handle.ledger handle.released
        (opened.appendSegmentOpened digest .stable workspace.file).ledger := by
  have sound : Sound digest workspace :=
    run_sound (run.invariant (I := fun state => ∃ steps, LedgerRun digest steps state)
      (fun _ label _ ⟨steps, before⟩ taken => ⟨steps ++ [label], before.snoc taken.2⟩)
      ⟨[], .nil⟩).choose_spec
  have readable := log_readable run
  have totalled := handles_invariant_of (kept_totalled (P := fun _ => True)) (fun _ _ _ => trivial)
    run handle member
  have held := sound.handles handle member
  obtain ⟨past, left, recorded, follows⟩ := held.tracks current
  have written : workspace.file ≠ [] := by
    have opened := held.opened (.inr ready)
    have behind := held.behind
    exact List.ne_nil_of_length_pos (lt_of_lt_of_le opened behind)
  have verified : loadVerifiedChain digest workspace.file =
      .ok (workspace.file.length, headOf workspace.file) := sound.verified
  refine ⟨.reader runId workspace.file, ?_, ?_⟩
  · unfold CalibrationLedger.open?
    rw [if_neg written, verified]
    exact readable.rehydrates runId
  · have fresh : (CalibrationLedger.reader runId workspace.file).Current digest workspace.file :=
      ⟨rfl, verified⟩
    rw [CalibrationLedger.appendSegmentOpened, commit_stable fresh]
    have agrees := follows.agrees readable totalled runId
    exact ⟨rfl, { agrees with }⟩

/-- A handle starts an attempt, releases it and starts another. -/
def restartedSteps : List LedgerStep :=
  openingSteps "seg-0a" ++
    [.call 0 .stable (.reserve sampleRequest), .call 0 .stable (.releaseUnused "seg-0a-att-000001"),
      .call 0 .stable (.reserve sampleRequest)]

theorem reopening_of_sample :
    ∃ opened, CalibrationLedger.open? sampleDigest "seg-1b" false
        (workspaceAfter sampleDigest restartedSteps).file = .ok opened ∧
      (opened.appendSegmentOpened sampleDigest .stable
        (workspaceAfter sampleDigest restartedSteps).file).result = .ok () ∧
      Agrees
        ((workspaceAfter sampleDigest restartedSteps).handles.get ⟨0, by decide +kernel⟩).ledger
        ((workspaceAfter sampleDigest restartedSteps).handles.get ⟨0, by decide +kernel⟩).released
        (opened.appendSegmentOpened sampleDigest .stable
          (workspaceAfter sampleDigest restartedSteps).file).ledger := by
  have run : Run (fun before step after => ReadableStep before step ∧
      before.step sampleDigest step = after) Workspace.empty restartedSteps
        (workspaceAfter sampleDigest restartedSteps) :=
    (((((Run.nil.snoc ⟨trivial, rfl⟩).snoc ⟨trivial, rfl⟩).snoc ⟨trivial, rfl⟩).snoc
      ⟨trivial, rfl⟩).snoc ⟨trivial, rfl⟩).snoc ⟨trivial, rfl⟩
  exact reopening_agrees run (List.get_mem _ _) (by decide +kernel)
    ⟨by decide +kernel, by decide +kernel⟩ "seg-1b" false

/-! ## A released attempt -/

/-- The only attempt of the run is released. -/
def releasedSteps : List LedgerStep :=
  openingSteps "seg-0a" ++
    [.call 0 .stable (.reserve sampleRequest), .call 0 .stable (.releaseUnused "seg-0a-att-000001")]

/-- The live handle has nothing pending and counts no attempt; whoever opens its
file counts one and finds it orphaned. -/
theorem released_is_orphaned :
    LedgerRun sampleDigest releasedSteps (workspaceAfter sampleDigest releasedSteps) ∧
      (workspaceAfter sampleDigest releasedSteps).handles.map (fun handle =>
        (handle.ledger.pending, handle.ledger.count .judgmentAttempt)) = [([], 0)] ∧
      (CalibrationLedger.open? sampleDigest "seg-1b" false
        (workspaceAfter sampleDigest releasedSteps).file).toOption.map (fun opened =>
          (opened.orphans, opened.count .judgmentAttempt)) = some (["seg-0a-att-000001"], 1) :=
  ⟨ledgerRun_after _ _, by decide +kernel, by decide +kernel⟩

end Aegis.Calibration
