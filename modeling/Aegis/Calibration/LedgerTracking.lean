/-
# Calibration.LedgerTracking — a current handle knows the whole log

The decisions of a handle are taken from its memory, the ceilings are about the
durable log. `Follows` is the link between the two: when a handle knows the last
event of the file, its memory is what the file says, entry by entry and
reservation by reservation. `Sound` states this for every handle of a workspace
at once, and `run_sound` is the induction over all histories: a write of one
handle makes every other handle stale for good.
-/
import Mathlib.Data.List.Perm.Subperm
import Mathlib.Algebra.BigOperators.Group.List.Basic
import Mathlib.Algebra.Order.BigOperators.Group.List
import Aegis.Calibration.LedgerSystem

namespace Aegis.Calibration

open Aegis.Lib
open Aegis.Lib.Guarded
open Aegis.Lib.Runs

set_option autoImplicit false

/-! ## Replaying a file without its checks -/

/-- What an event means to `_rehydrate`, whatever came before it. -/
def Rehydration.put (state : Rehydration) : EventBody → Rehydration
  | .attemptStarted reservation =>
      { state with started := putStarted state.started reservation }
  | .attemptTerminal entry =>
      { state with
        started := popAttempt state.started entry.internalRequestId
        prior := state.prior.addEntry entry }
  | .activeSegmentBegin stage at_ =>
      { state with segments := state.segments ++ [⟨stage, at_, none⟩] }
  | .activeSegmentEnd at_ => { state with segments := closeLast at_ state.segments }
  | .runStateTransition runState _ _ => { state with runState := some runState }
  | .holdoutTransition binding =>
      { state with
        holdoutTransition := some binding
        runState := some .holdoutActive }
  | _ => state

variable {event : LedgerEvent}

theorem Rehydration.turn_ok {state next : Rehydration} (turned : state.turn event = .ok next) :
    next = state.put event.body := by
  unfold Rehydration.turn at turned
  cases body : event.body <;> simp only [body] at turned <;> try exact (Except.ok.inj turned).symm
  simp only [bind_eq_ok, refuse_eq_ok, require_eq_ok, pure_eq_ok] at turned
  obtain ⟨_, _, _, _, _, _, _, _, _, _, rfl⟩ := turned
  rfl

def replayed (file : List LedgerEvent) : Rehydration :=
  file.foldl (fun state event => state.put event.body) {}

@[simp] theorem replayed_nil : replayed [] = {} := rfl

@[simp] theorem replayed_append_singleton (file : List LedgerEvent) (event : LedgerEvent) :
    replayed (file ++ [event]) = (replayed file).put event.body := by
  simp [replayed]

theorem replayed_of_turns {file : List LedgerEvent} {state : Rehydration}
    (turned : file.foldlM Rehydration.turn {} = .ok state) : state = replayed file := by
  induction file using List.reverseRecOn generalizing state with
  | nil => exact (Except.ok.inj turned).symm
  | append_singleton file event ih =>
      rw [List.foldlM_append, bind_eq_ok] at turned
      obtain ⟨middle, before, last⟩ := turned
      simp only [List.foldlM_cons, List.foldlM_nil, bind_pure] at last
      rw [replayed_append_singleton, ← ih before]
      exact Rehydration.turn_ok last

/-! ## What the log holds -/

def EventBody.terminal? : EventBody → Option LedgerEntry
  | .attemptTerminal entry => some entry
  | _ => none

def EventBody.started? : EventBody → Option Reservation
  | .attemptStarted reservation => some reservation
  | _ => none

/-- The recorded attempts of a file. -/
def entriesOf (file : List LedgerEvent) : List LedgerEntry := file.filterMap (·.body.terminal?)

/-- The started attempts of a file. -/
def startsOf (file : List LedgerEvent) : List Reservation := file.filterMap (·.body.started?)

@[simp] theorem entriesOf_append_singleton (file : List LedgerEvent) (event : LedgerEvent) :
    entriesOf (file ++ [event]) = entriesOf file ++ event.body.terminal?.toList := by
  cases terminal : event.body.terminal? <;> simp [entriesOf, terminal]

@[simp] theorem startsOf_append_singleton (file : List LedgerEvent) (event : LedgerEvent) :
    startsOf (file ++ [event]) = startsOf file ++ event.body.started?.toList := by
  cases started : event.body.started? <;> simp [startsOf, started]

/-- The started attempts that no handle released, in the order they were started. -/
def unreleased (history : List Mark) : List Reservation :=
  history.foldl (fun attempts mark =>
    match mark with
    | .appended event => attempts ++ event.body.started?.toList
    | .released attemptId => popAttempt attempts attemptId) []

/-- The unreleased attempts that have no terminal event. -/
def outstanding (history : List Mark) : List Reservation :=
  history.foldl (fun attempts mark =>
    match mark with
    | .appended event =>
        match event.body with
        | .attemptStarted reservation => attempts ++ [reservation]
        | .attemptTerminal entry => popAttempt attempts entry.internalRequestId
        | _ => attempts
    | .released attemptId => popAttempt attempts attemptId) []

@[simp] theorem unreleased_appended (history : List Mark) (event : LedgerEvent) :
    unreleased (history ++ [.appended event]) =
      unreleased history ++ event.body.started?.toList := by
  simp [unreleased]

@[simp] theorem unreleased_released (history : List Mark) (attemptId : String) :
    unreleased (history ++ [.released attemptId]) = popAttempt (unreleased history) attemptId := by
  simp [unreleased]

variable {reservation : Reservation}

theorem outstanding_started {history : List Mark} (body : event.body = .attemptStarted reservation) :
    outstanding (history ++ [.appended event]) = outstanding history ++ [reservation] := by
  simp [outstanding, body]

theorem outstanding_terminal {history : List Mark} {entry : LedgerEntry}
    (body : event.body = .attemptTerminal entry) :
    outstanding (history ++ [.appended event]) =
      popAttempt (outstanding history) entry.internalRequestId := by
  simp [outstanding, body]

theorem outstanding_other {history : List Mark} (start : event.body.started? = none)
    (terminal : event.body.terminal? = none) :
    outstanding (history ++ [.appended event]) = outstanding history := by
  cases body : event.body <;> simp_all [outstanding, EventBody.started?, EventBody.terminal?]

@[simp] theorem outstanding_released (history : List Mark) (attemptId : String) :
    outstanding (history ++ [.released attemptId]) =
      popAttempt (outstanding history) attemptId := by
  simp [outstanding]

theorem popAttempt_sublist (attempts : List Reservation) (attemptId : String) :
    (popAttempt attempts attemptId).Sublist attempts :=
  List.filter_sublist

theorem mem_popAttempt {attempts : List Reservation} {attemptId : String} :
    reservation ∈ popAttempt attempts attemptId ↔
      reservation ∈ attempts ∧ reservation.reservationId ≠ attemptId := by
  simp [popAttempt]

theorem popAttempt_append (left right : List Reservation) (attemptId : String) :
    popAttempt (left ++ right) attemptId =
      popAttempt left attemptId ++ popAttempt right attemptId := by
  simp [popAttempt]

theorem popAttempt_eq_self {attempts : List Reservation} {attemptId : String}
    (absent : ∀ reservation ∈ attempts, reservation.reservationId ≠ attemptId) :
    popAttempt attempts attemptId = attempts := by
  unfold popAttempt
  rw [List.filter_eq_self]
  simpa using absent

/-- Popping the one attempt with its id. -/
theorem perm_popAttempt {attempts : List Reservation} (member : reservation ∈ attempts)
    (distinct : (attempts.map (·.reservationId)).Nodup) :
    attempts.Perm (reservation :: popAttempt attempts reservation.reservationId) := by
  induction attempts with
  | nil => simp at member
  | cons first rest ih =>
      obtain ⟨fresh, distinct⟩ := List.nodup_cons.mp distinct
      rcases List.mem_cons.mp member with rfl | later
      · have absent : ∀ other ∈ rest, other.reservationId ≠ reservation.reservationId :=
          fun other there same => fresh (List.mem_map.mpr ⟨other, there, same⟩)
        have popped : popAttempt (reservation :: rest) reservation.reservationId = rest := by
          rw [← popAttempt_eq_self absent]
          simp [popAttempt]
        rw [popped]
      · have other : first.reservationId ≠ reservation.reservationId :=
          fun same => fresh (List.mem_map.mpr ⟨reservation, later, same.symm⟩)
        have popped : popAttempt (first :: rest) reservation.reservationId =
            first :: popAttempt rest reservation.reservationId := by
          simp [popAttempt, other]
        rw [popped]
        exact ((ih later distinct).cons first).trans (.swap _ _ _)

theorem putStarted_fresh {started : List Reservation}
    (fresh : ∀ held ∈ started, held.reservationId ≠ reservation.reservationId) :
    putStarted started reservation = started ++ [reservation] := by
  unfold putStarted
  rw [if_neg]
  simpa using fresh

/-- What counts about an attempt: its kind and its judgment. -/
def Reservation.face (reservation : Reservation) : RequestKind × Option String :=
  (reservation.kind, reservation.logicalJudgmentId)

def LedgerEntry.face (entry : LedgerEntry) : RequestKind × Option String :=
  (entry.requestKind, entry.logicalJudgmentId)

/-- Every started attempt of the file is either recorded or still started. -/
def Logged (file : List LedgerEvent) : Prop :=
  ∃ recorded : List Reservation,
    recorded.map Reservation.face = (entriesOf file).map LedgerEntry.face ∧
      (startsOf file).Perm (recorded ++ (replayed file).started)

theorem unreleased_sublist (history : List Mark) :
    (unreleased history).Sublist (startsOf (fileOf history)) := by
  induction history using List.reverseRecOn with
  | nil => exact .slnil
  | append_singleton history mark ih =>
      cases mark with
      | appended event =>
          rw [unreleased_appended, fileOf_append, fileOf_appended, startsOf_append_singleton]
          exact ih.append (.refl _)
      | released attemptId =>
          rw [unreleased_released, fileOf_append, fileOf_released, List.append_nil]
          exact (popAttempt_sublist _ _).trans ih

/-- An attempt that is outstanding is started for whoever rehydrates the file. -/
theorem outstanding_started_of {history : List Mark} (member : reservation ∈ outstanding history) :
    ∃ held ∈ (replayed (fileOf history)).started,
      held.reservationId = reservation.reservationId := by
  induction history using List.reverseRecOn with
  | nil => simp [outstanding] at member
  | append_singleton history mark ih =>
      cases mark with
      | released attemptId =>
          rw [outstanding_released] at member
          simpa using ih (mem_popAttempt.mp member).1
      | appended event =>
          rw [fileOf_append, fileOf_appended, replayed_append_singleton]
          cases body : event.body with
          | attemptStarted started =>
              rw [outstanding_started body] at member
              simp only [Rehydration.put, putStarted]
              rcases List.mem_append.mp member with before | now
              · obtain ⟨held, there, same⟩ := ih before
                split
                · by_cases replaced : held.reservationId = started.reservationId
                  · exact ⟨started, List.mem_map.mpr ⟨held, there, by simp [replaced]⟩,
                      by rw [← replaced, same]⟩
                  · exact ⟨held, List.mem_map.mpr ⟨held, there, by simp [replaced]⟩, same⟩
                · exact ⟨held, List.mem_append_left _ there, same⟩
              · obtain rfl : reservation = started := by simpa using now
                split
                · rename_i known
                  obtain ⟨held, there, same⟩ := List.any_eq_true.mp known
                  have named : held.reservationId = reservation.reservationId := by simpa using same
                  exact ⟨reservation, List.mem_map.mpr ⟨held, there, if_pos named⟩, rfl⟩
                · exact ⟨reservation, by simp, rfl⟩
          | attemptTerminal entry =>
              rw [outstanding_terminal body] at member
              obtain ⟨before, other⟩ := mem_popAttempt.mp member
              obtain ⟨held, there, same⟩ := ih before
              exact ⟨held, mem_popAttempt.mpr ⟨there, by rwa [same]⟩, same⟩
          | _ =>
              rw [outstanding_other (by simp [body, EventBody.started?])
                (by simp [body, EventBody.terminal?])] at member
              exact ih member

/-! ## Sums over account lines -/

/-- What one attempt adds to the totals. -/
structure Line where
  kind : RequestKind
  judgment : Option String
  day : String
  charge : Int
  tokens : ProviderUsage
  deriving DecidableEq, Repr

/-- A recorded attempt counts with its charge. -/
def LedgerEntry.line (entry : LedgerEntry) : Line :=
  ⟨entry.requestKind, entry.logicalJudgmentId, entry.day, entry.calculatedChargeNanousd,
    entry.tokens⟩

/-- An attempt without a terminal event counts with its worst case. -/
def Reservation.line (reservation : Reservation) : Line :=
  ⟨reservation.kind, reservation.logicalJudgmentId, reservation.day,
    reservation.worstCaseChargeNanousd, .zero⟩

/-- The judgment a line counts for. -/
def Line.judgment? (line : Line) : Option String :=
  match line.kind, line.judgment with
  | .judgmentAttempt, some judgment => if judgment = "" then none else some judgment
  | _, _ => none

/-- The totals of a list of account lines. -/
def Aggregates.ofLines (lines : List Line) : Aggregates where
  attempts := lines.countP (·.kind == .judgmentAttempt)
  metadata := lines.countP (·.kind == .metadata)
  spendTotal := (lines.map (·.charge)).sum
  daySpend day := ((lines.filter (·.day == day)).map (·.charge)).sum
  tokens := ⟨(lines.map (·.tokens.inputTokens)).sum, (lines.map (·.tokens.outputTokens)).sum,
    (lines.map (·.tokens.reasoningTokens)).sum, (lines.map (·.tokens.cachedInputTokens)).sum⟩
  judgmentIds := (lines.filterMap Line.judgment?).toFinset
  attemptsByJudgment judgment := lines.countP (·.judgment? == some judgment)

theorem Aggregates.ofLines_perm {left right : List Line} (perm : left.Perm right) :
    Aggregates.ofLines left = Aggregates.ofLines right := by
  simp only [Aggregates.ofLines, Aggregates.mk.injEq]
  refine ⟨perm.countP_eq _, perm.countP_eq _, (perm.map _).sum_eq, ?_, ?_, ?_, ?_⟩
  · funext day
    exact ((perm.filter _).map _).sum_eq
  · rw [(perm.map _).sum_eq, (perm.map (·.tokens.outputTokens)).sum_eq,
      (perm.map (·.tokens.reasoningTokens)).sum_eq,
      (perm.map (·.tokens.cachedInputTokens)).sum_eq]
  · exact List.toFinset_eq_of_perm _ _ (perm.filterMap _)
  · funext judgment
    exact perm.countP_eq _

theorem Aggregates.daySpend_snoc (lines : List Line) (line : Line) :
    (Aggregates.ofLines (lines ++ [line])).daySpend =
      Function.update (Aggregates.ofLines lines).daySpend line.day
        ((Aggregates.ofLines lines).daySpend line.day + line.charge) := by
  funext day
  by_cases same : line.day = day
  · subst same
    simp [Aggregates.ofLines]
  · simp [Aggregates.ofLines, same, Function.update_of_ne (Ne.symm same)]

/-- A line of a judgment: the judgment is seen and has one more attempt. -/
theorem Aggregates.judgments_snoc (lines : List Line) (line : Line) :
    (Aggregates.ofLines (lines ++ [line])).judgmentIds =
        (match line.judgment? with
          | some judgment => insert judgment (Aggregates.ofLines lines).judgmentIds
          | none => (Aggregates.ofLines lines).judgmentIds) ∧
      (Aggregates.ofLines (lines ++ [line])).attemptsByJudgment =
        (match line.judgment? with
          | some judgment => Function.update (Aggregates.ofLines lines).attemptsByJudgment judgment
              ((Aggregates.ofLines lines).attemptsByJudgment judgment + 1)
          | none => (Aggregates.ofLines lines).attemptsByJudgment) := by
  cases seen : line.judgment? with
  | none => simp [Aggregates.ofLines, seen]
  | some judgment =>
      refine ⟨?_, ?_⟩
      · ext other
        simp only [Aggregates.ofLines, List.filterMap_append, List.filterMap_cons, seen,
          List.filterMap_nil, List.mem_toFinset, List.mem_append, List.mem_singleton,
          Finset.mem_insert]
        exact or_comm
      · funext other
        by_cases same : judgment = other
        · subst same
          simp [Aggregates.ofLines, seen]
        · simp [Aggregates.ofLines, seen, same, Function.update_of_ne (Ne.symm same)]

/-- One more line, as the loops of `_rehydrate` add it. -/
theorem Aggregates.ofLines_snoc (lines : List Line) (line : Line) :
    Aggregates.ofLines (lines ++ [line]) =
      let charged := (Aggregates.ofLines lines).addCharge line.day line.charge
      { charged with tokens := charged.tokens + line.tokens }.addRequest line.kind
        line.judgment := by
  have days := Aggregates.daySpend_snoc lines line
  obtain ⟨seen, counted⟩ := Aggregates.judgments_snoc lines line
  have tokens : (Aggregates.ofLines (lines ++ [line])).tokens =
      (Aggregates.ofLines lines).tokens + line.tokens := by
    simp [Aggregates.ofLines, ProviderUsage.add_def]
  have spend : (Aggregates.ofLines (lines ++ [line])).spendTotal =
      (Aggregates.ofLines lines).spendTotal + line.charge := by
    simp [Aggregates.ofLines]
  have attempts : (Aggregates.ofLines (lines ++ [line])).attempts =
      (Aggregates.ofLines lines).attempts + if line.kind = .judgmentAttempt then 1 else 0 := by
    simp [Aggregates.ofLines, List.countP_singleton]
  have metadata : (Aggregates.ofLines (lines ++ [line])).metadata =
      (Aggregates.ofLines lines).metadata + if line.kind = .metadata then 1 else 0 := by
    simp [Aggregates.ofLines, List.countP_singleton]
  generalize Aggregates.ofLines (lines ++ [line]) = total at *
  generalize Aggregates.ofLines lines = before at *
  obtain ⟨kind, judgment, day, charge, lineTokens⟩ := line
  cases total
  simp only at days seen counted tokens spend attempts metadata
  subst days seen counted tokens spend attempts metadata
  cases kind with
  | metadata => simp [addRequest, addCharge, addDay, Line.judgment?]
  | judgmentAttempt =>
      cases judgment with
      | none => simp [addRequest, addCharge, addDay, addJudgment, Line.judgment?]
      | some judgment =>
          by_cases blank : judgment = ""
          · simp [addRequest, addCharge, addDay, addJudgment, Line.judgment?, blank]
          · simp [addRequest, addCharge, addDay, addJudgment, Line.judgment?, blank]

theorem Aggregates.addEntry_ofLines (lines : List Line) (entry : LedgerEntry) :
    (Aggregates.ofLines lines).addEntry entry = Aggregates.ofLines (lines ++ [entry.line]) :=
  (Aggregates.ofLines_snoc lines entry.line).symm

theorem Aggregates.addOrphan_ofLines (lines : List Line) (reservation : Reservation) :
    (Aggregates.ofLines lines).addOrphan reservation =
      Aggregates.ofLines (lines ++ [reservation.line]) := by
  rw [Aggregates.ofLines_snoc]
  simp [addOrphan, Reservation.line]

/-- The orphan loop of `_rehydrate`. -/
theorem Aggregates.orphans_ofLines (orphans : List Reservation) :
    ∀ lines : List Line, orphans.foldl Aggregates.addOrphan (Aggregates.ofLines lines) =
      Aggregates.ofLines (lines ++ orphans.map Reservation.line) := by
  induction orphans with
  | nil => simp
  | cons first rest ih =>
      intro lines
      rw [List.foldl_cons, Aggregates.addOrphan_ofLines, ih]
      simp

/-- The first loop of `_rehydrate` adds up the recorded attempts. -/
theorem replayed_prior (file : List LedgerEvent) :
    (replayed file).prior = Aggregates.ofLines ((entriesOf file).map LedgerEntry.line) := by
  induction file using List.reverseRecOn with
  | nil => rfl
  | append_singleton file event ih =>
      rw [replayed_append_singleton, entriesOf_append_singleton]
      cases body : event.body with
      | attemptTerminal entry =>
          simp only [Rehydration.put, EventBody.terminal?, Option.toList_some, List.map_append,
            List.map_cons, List.map_nil]
          rw [ih, Aggregates.addEntry_ofLines]
      | _ => simpa [Rehydration.put, EventBody.terminal?] using ih

end Aegis.Calibration
