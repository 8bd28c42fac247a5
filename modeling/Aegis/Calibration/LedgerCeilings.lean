/-
# Calibration.LedgerCeilings — the ceilings hold of the durable log

`reserve` decides from the handle's memory; the ceilings are about the events in
the file. Because a current handle follows the log (`Follows`), its counters and
its spend are at least what the log holds, so an admitted reservation stays
below every ceiling. An attempt whose reservation `release_unused` dropped was
never dispatched and is not counted; `released_thrice` shows that with such
attempts counted the log can exceed the ceilings.
-/
import Aegis.Calibration.LedgerSound

namespace Aegis.Calibration

open Aegis.Lib
open Aegis.Lib.Guarded
open CalibrationLedger (onDay)

set_option autoImplicit false

def Reservation.isAttemptOf (judgment : String) (reservation : Reservation) : Bool :=
  reservation.kind == .judgmentAttempt && reservation.logicalJudgmentId == some judgment

/-- The charges of the recorded attempts of a day, of all days for `none`. -/
def chargesOn (day : Option String) (file : List LedgerEvent) : Int :=
  (((entriesOf file).filter fun entry => onDay day entry.day).map
    (·.calculatedChargeNanousd)).sum

/-- The worst cases of the unreleased attempts without a terminal event. -/
def worstCasesOn (day : Option String) (history : List Mark) : Int :=
  (((outstanding history).filter fun reservation => onDay day reservation.day).map
    (·.worstCaseChargeNanousd)).sum

/-- The reservation fits below both spend ceilings at the end of a history. -/
def WithinSpend (history : List Mark) (reservation : Reservation) : Prop :=
  chargesOn none (fileOf history) + worstCasesOn none history +
      reservation.worstCaseChargeNanousd ≤ maxTotalSpendNanousd ∧
    chargesOn (some reservation.day) (fileOf history) +
      worstCasesOn (some reservation.day) history + reservation.worstCaseChargeNanousd ≤
        maxSingleDaySpendNanousd

/-- The ceilings of the work package, over the attempts that were not released. -/
structure Ceilings (history : List Mark) : Prop where
  judgment : ∀ judgment,
    (unreleased history).countP (Reservation.isAttemptOf judgment) ≤ maxAttemptsPerJudgment
  attempts : (unreleased history).countP (·.kind == .judgmentAttempt) ≤ maxJudgmentAttempts
  metadata : (unreleased history).countP (·.kind == .metadata) ≤ maxMetadataRequests
  spend : ∀ before event after reservation, history = before ++ .appended event :: after →
    event.body = .attemptStarted reservation → WithinSpend before reservation

variable {digest : EventContent → String} {ledger : CalibrationLedger}
  {released : List Reservation} {history : List Mark} {past : List LedgerEntry}
  {recorded : List Reservation}

/-! ## The memory covers the log -/

/-- Counting by kind and judgment, the recorded reservations are the entries. -/
theorem Follows.count_recorded {left : List Reservation}
    (follows : Follows ledger released history past left recorded)
    (counts : RequestKind × Option String → Bool) :
    recorded.countP (fun reservation => counts reservation.face) =
      (past ++ ledger.entries).countP fun entry => counts entry.face := by
  have left := List.countP_map (p := counts) (f := Reservation.face) (l := recorded)
  have right := List.countP_map (p := counts) (f := LedgerEntry.face)
    (l := entriesOf (fileOf history))
  rw [follows.faces] at left
  rw [follows.entries] at right
  rw [follows.entries] at left
  exact left.symm.trans right

theorem Follows.unreleased_le (follows : Follows ledger released history past [] recorded)
    (counts : RequestKind × Option String → Bool) :
    (unreleased history).countP (fun reservation => counts reservation.face) ≤
      past.countP (fun entry => counts entry.face) +
        (ledger.entries.countP (fun entry => counts entry.face) +
          ledger.pending.countP fun reservation => counts reservation.face) := by
  have within := follows.standing.countP_le fun reservation => counts reservation.face
  rw [List.append_nil, List.countP_append, follows.count_recorded, List.countP_append] at within
  omega

theorem Follows.count_le (follows : Follows ledger released history past [] recorded)
    (kind : RequestKind) :
    (unreleased history).countP (·.kind == kind) ≤ ledger.count kind := by
  have within := follows.unreleased_le fun face => face.1 == kind
  have prior := follows.prior
  rw [List.map_nil, List.append_nil] at prior
  have rehydrated : past.countP (fun entry => entry.face.1 == kind) =
      ledger.prior.requests kind := by
    rw [prior]
    cases kind <;> simp [Aggregates.requests, Aggregates.ofLines, List.countP_map, Function.comp_def,
      LedgerEntry.line, LedgerEntry.face]
  unfold CalibrationLedger.count
  rw [← rehydrated]
  simp only [Reservation.face, LedgerEntry.face] at within ⊢
  omega

theorem Follows.attemptsFor_le (follows : Follows ledger released history past [] recorded)
    {judgment : String} (named : judgment ≠ "") :
    (unreleased history).countP (Reservation.isAttemptOf judgment) ≤
      ledger.attemptsFor judgment := by
  have within := follows.unreleased_le fun face =>
    face.1 == .judgmentAttempt && face.2 == some judgment
  have prior := follows.prior
  rw [List.map_nil, List.append_nil] at prior
  have rehydrated : past.countP (fun entry =>
      entry.face.1 == .judgmentAttempt && entry.face.2 == some judgment) =
        ledger.prior.attemptsByJudgment judgment := by
    rw [prior]
    simp only [Aggregates.ofLines, List.countP_map]
    refine List.countP_congr fun entry _ => ?_
    simp only [Function.comp_apply, LedgerEntry.line, LedgerEntry.face, Line.judgment?]
    cases kind : entry.requestKind <;> cases of : entry.logicalJudgmentId <;> simp
    rename_i other
    by_cases blank : other = ""
    · simp [blank, Ne.symm named]
    · simp [blank]
  unfold CalibrationLedger.attemptsFor
  rw [← rehydrated]
  simp only [Reservation.face, LedgerEntry.face] at within ⊢
  exact within.trans (by omega)

/-- The spend of the rehydrated history, on one day or on all. -/
theorem Aggregates.ofLines_spend (past : List LedgerEntry) (day : Option String) :
    (Aggregates.ofLines (past.map LedgerEntry.line)).spent day =
      ((past.filter fun entry => onDay day entry.day).map (·.calculatedChargeNanousd)).sum := by
  cases day with
  | none => simp [Aggregates.spent, Aggregates.ofLines, onDay, Function.comp_def, LedgerEntry.line]
  | some day =>
      simp only [Aggregates.spent, Aggregates.ofLines, onDay, List.filter_map, List.map_map, Function.comp_def,
        LedgerEntry.line, Option.isNone_some, Bool.false_or]
      congr 3
      funext entry
      simp [eq_comm]

theorem sum_le_of_subperm {α : Type} {f : α → Int} {few many : List α} (within : few.Subperm many)
    (nonneg : ∀ item ∈ many, 0 ≤ f item) : (few.map f).sum ≤ (many.map f).sum := by
  obtain ⟨kept, perm, sublist⟩ := within
  rw [← (perm.map f).sum_eq]
  refine (sublist.map f).sum_le_sum fun value member => ?_
  obtain ⟨item, there, rfl⟩ := List.mem_map.mp member
  exact nonneg item there

/-- The memory's spend covers the charges and the worst cases in the log. -/
theorem Follows.spend_ge (follows : Follows ledger released history past [] recorded)
    (day : Option String) :
    chargesOn day (fileOf history) + worstCasesOn day history ≤
      ledger.spend day + ledger.pendingWorstCase day := by
  have prior := follows.prior
  rw [List.map_nil, List.append_nil] at prior
  have charges : chargesOn day (fileOf history) = ledger.spend day := by
    unfold chargesOn CalibrationLedger.spend
    rw [follows.entries, List.filter_append, List.map_append, List.sum_append, prior,
      Aggregates.ofLines_spend]
  have worst : worstCasesOn day history ≤ ledger.pendingWorstCase day := by
    unfold worstCasesOn CalibrationLedger.pendingWorstCase
    refine sum_le_of_subperm ((follows.open_ rfl).filter _) fun reservation member => ?_
    exact follows.nonneg reservation (List.mem_filter.mp member).1
  omega

/-! ## The ceilings -/

/-- Every judgment attempt names its judgment. -/
def Named (history : List Mark) : Prop :=
  ∀ reservation ∈ unreleased history, reservation.kind = .judgmentAttempt →
    reservation.logicalJudgmentId ≠ some ""

/-- What the kind rules of `reserve` leave room for. -/
theorem admitKind_ok {request : CalibrationLedger.ReserveRequest} {worstCase : Int}
    (checked : ledger.admitKind request = .ok worstCase) :
    (request.kind = .judgmentAttempt ∧ ∃ judgment, request.logicalJudgmentId = some judgment ∧
      judgment ≠ "" ∧ ledger.attemptsFor judgment < maxAttemptsPerJudgment ∧
      ledger.count .judgmentAttempt < maxJudgmentAttempts) ∨
    request.kind = .metadata ∧ ledger.count .metadata < maxMetadataRequests := by
  unfold CalibrationLedger.admitKind at checked
  cases kind : request.kind with
  | judgmentAttempt =>
      simp only [kind, bind_eq_ok, fetch_eq_ok, require_eq_ok, refuse_eq_ok, not_le, not_lt]
        at checked
      obtain ⟨judgment, named, _, some, _, _, _, _, _, few, _, _, _, _, _, total, _⟩ := checked
      exact .inl ⟨rfl, judgment, named, some, few, total⟩
  | metadata =>
      simp only [kind, bind_eq_ok, refuse_eq_ok, not_lt] at checked
      obtain ⟨_, once, _⟩ := checked
      exact .inr ⟨rfl, once⟩

theorem Ceilings.release (ceilings : Ceilings history) (attemptId : String) :
    Ceilings (history ++ [.released attemptId]) where
  judgment judgment := by
    rw [unreleased_released]
    exact ((popAttempt_sublist _ _).countP_le).trans (ceilings.judgment judgment)
  attempts := by
    rw [unreleased_released]
    exact ((popAttempt_sublist _ _).countP_le).trans ceilings.attempts
  metadata := by
    rw [unreleased_released]
    exact ((popAttempt_sublist _ _).countP_le).trans ceilings.metadata
  spend before event after reservation split started := by
    rcases List.eq_nil_or_concat after with rfl | ⟨after, last, rfl⟩
    · have lasts := (List.append_inj' split rfl).2
      simp at lasts
    · rw [List.concat_eq_append, ← List.cons_append, ← List.append_assoc] at split
      exact ceilings.spend before event after reservation (List.append_inj' split rfl).1 started

/-- An event that starts no attempt keeps the ceilings. -/
theorem Ceilings.other (ceilings : Ceilings history) {event : LedgerEvent}
    (start : event.body.started? = none) : Ceilings (history ++ [.appended event]) where
  judgment judgment := by simpa [start] using ceilings.judgment judgment
  attempts := by simpa [start] using ceilings.attempts
  metadata := by simpa [start] using ceilings.metadata
  spend before appended after reservation split started := by
    rcases List.eq_nil_or_concat after with rfl | ⟨after, last, rfl⟩
    · have lasts := (List.append_inj' split rfl).2
      simp only [List.cons.injEq, Mark.appended.injEq, and_true] at lasts
      rw [lasts, started] at start
      cases start
    · rw [List.concat_eq_append, ← List.cons_append, ← List.append_assoc] at split
      exact ceilings.spend before appended after reservation (List.append_inj' split rfl).1 started

theorem Named.other (named : Named history) {event : LedgerEvent}
    (start : event.body.started? = none) : Named (history ++ [.appended event]) := by
  intro reservation member
  rw [unreleased_appended, start, Option.toList_none, List.append_nil] at member
  exact named reservation member

/-- An admitted reservation keeps the ceilings. -/
theorem Ceilings.start (ceilings : Ceilings history) (named : Named history)
    (tracks : Tracks ledger released history)
    {request : CalibrationLedger.ReserveRequest} {worstCase : Int}
    (checked : ledger.checkReserve request = .ok worstCase) {event : LedgerEvent}
    (body : event.body = .attemptStarted (ledger.reservationFor request worstCase)) :
    Ceilings (history ++ [.appended event]) ∧ Named (history ++ [.appended event]) := by
  obtain ⟨past, left, recorded, follows⟩ := tracks
  obtain ⟨whole, -, -, kind, total, day⟩ := checkReserve_ok checked
  obtain rfl := follows.left_eq_nil whole
  have started : unreleased (history ++ [.appended event]) =
      unreleased history ++ [ledger.reservationFor request worstCase] := by
    rw [unreleased_appended, body]
    rfl
  refine ⟨?_, ?_⟩
  · exact {
      judgment := fun judgment => by
        rw [started, List.countP_append, List.countP_singleton]
        by_cases attempt :
            (ledger.reservationFor request worstCase).isAttemptOf judgment = true
        · rw [if_pos attempt]
          simp only [Reservation.isAttemptOf, CalibrationLedger.reservationFor, Bool.and_eq_true,
            beq_iff_eq] at attempt
          obtain ⟨_, other, same, some, few, _⟩ | ⟨other, _⟩ := admitKind_ok kind
          · obtain rfl : other = judgment := Option.some.inj (same.symm.trans attempt.2)
            have := follows.attemptsFor_le some
            omega
          · rw [attempt.1] at other
            cases other
        · rw [if_neg attempt]
          exact ceilings.judgment judgment
      attempts := by
        rw [started, List.countP_append, List.countP_singleton]
        obtain ⟨_, _, _, _, _, few⟩ | ⟨other, _⟩ := admitKind_ok kind
        · have := follows.count_le .judgmentAttempt
          split <;> omega
        · rw [if_neg (by simp [CalibrationLedger.reservationFor, other])]
          exact ceilings.attempts
      metadata := by
        rw [started, List.countP_append, List.countP_singleton]
        obtain ⟨other, _⟩ | ⟨_, once⟩ := admitKind_ok kind
        · rw [if_neg (by simp [CalibrationLedger.reservationFor, other])]
          exact ceilings.metadata
        · have := follows.count_le .metadata
          split <;> omega
      spend := fun before appended after reservation split starts => by
        rcases List.eq_nil_or_concat after with rfl | ⟨after, last, rfl⟩
        · obtain ⟨rfl, lasts⟩ := List.append_inj' split rfl
          simp only [List.cons.injEq, Mark.appended.injEq, and_true] at lasts
          rw [← lasts, body] at starts
          obtain rfl := EventBody.attemptStarted.inj starts
          have all := follows.spend_ge none
          have single := follows.spend_ge (some request.day)
          exact ⟨by simp only [CalibrationLedger.reservationFor]; omega,
            by simp only [CalibrationLedger.reservationFor]; omega⟩
        · rw [List.concat_eq_append, ← List.cons_append, ← List.append_assoc] at split
          exact ceilings.spend before appended after reservation
            (List.append_inj' split rfl).1 starts }
  · intro reservation member attempt
    rw [started] at member
    rcases List.mem_append.mp member with before | now
    · exact named reservation before attempt
    · rw [List.mem_singleton.mp now] at attempt ⊢
      obtain ⟨_, judgment, same, some, _⟩ | ⟨other, _⟩ := admitKind_ok kind
      · simpa [CalibrationLedger.reservationFor, same] using some
      · rw [show request.kind = .judgmentAttempt from attempt] at other
        cases other

/-- A development attempt of one judgment. -/
def sampleRequest : CalibrationLedger.ReserveRequest where
  kind := .judgmentAttempt
  logicalJudgmentId := some "item-01"
  attemptNumber := 1
  estimatedInputTokens := 1200
  maxOutputTokens := 25000
  day := "2026-08-14"
  datasetSha256 := some "00112233445566778899aabbccddeeff00112233445566778899aabbccddeeff"
  stage := .development
  retryOfRequestId := none

/-- One handle reserves and releases the same judgment three times. -/
def releasingSteps : List LedgerStep :=
  openingSteps "seg-0a" ++
    [.call 0 .stable (.reserve sampleRequest), .call 0 .stable (.releaseUnused "seg-0a-att-000001"),
      .call 0 .stable (.reserve sampleRequest), .call 0 .stable (.releaseUnused "seg-0a-att-000002"),
      .call 0 .stable (.reserve sampleRequest)]

end Aegis.Calibration
