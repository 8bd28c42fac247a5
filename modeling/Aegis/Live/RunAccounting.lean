/-
# Live.RunAccounting — every call of a live run is reserved, entered and counted

Whatever the transports do, the history of a run is a sequence of whole calls
(reserved, handed over, entered into the cost ledger) that a halt can only end.
The iterations of the plan are the rounds of the run: each has one record, and only
a round with a completed subject call and a completed judge call can be PASS or
FAIL. `Accounted` is the invariant of the loop; one call is described by
`Ready.meteredCall`, one iteration by `Ready.executeOne`.
-/
import Mathlib.Data.List.Dedup
import Aegis.Live.MeterAccounts
import Aegis.Live.Pipeline

namespace Aegis.Live

open Aegis.Lib
open Aegis.Lib.Guarded
open Aegis.Budget
open Pipeline

set_option autoImplicit false

/-! ## Calls -/

/-- A call that reached a transport, with its reservation and its entry. -/
structure Call where
  handle : ReservationHandle
  request : ProviderRequest
  entry : CostEntry

namespace Call

def history (call : Call) : List Happening :=
  [.reserved call.handle, .handed call.request, .entered call.entry]

/-- The reservation is for the request, the entry for the reservation. -/
structure Sound (call : Call) : Prop where
  asked : call.request.requestId = call.handle.callRef
  settled : EntryOf call.handle call.entry

/-- The call was settled at the usage of a response that can be graded. -/
def Complete (call : Call) : Prop := call.entry.reconciled = true ∧ call.entry.reasonCode = none

end Call

section Run

variable {F : Type} [ClockFloat F] {harness : Harness} {replies : Nat → Reply F}

/-- The calls between two states of a run. -/
structure Advances (before : Progress F) (calls : List Call) (after : Progress F) : Prop where
  history : after.history = before.history ++ calls.flatMap Call.history
  entries : after.meter.entries = before.meter.entries ++ calls.map Call.entry
  numbers : calls.map (fun call => call.handle.callIndex) =
    List.range' (before.meter.entries.length + 1) calls.length
  sound : ∀ call ∈ calls, call.Sound

omit [ClockFloat F] in
theorem Advances.refl (progress : Progress F) : Advances progress [] progress := by
  refine ⟨?_, ?_, rfl, fun _ member => absurd member List.not_mem_nil⟩
  · exact (List.append_nil _).symm
  · exact (List.append_nil _).symm

omit [ClockFloat F] in
theorem Advances.trans {first second third : Progress F} {calls later : List Call}
    (before : Advances first calls second) (after : Advances second later third) :
    Advances first (calls ++ later) third := by
  refine ⟨?_, ?_, ?_, ?_⟩
  · rw [after.history, before.history, List.flatMap_append, List.append_assoc]
  · rw [after.entries, before.entries, List.map_append, List.append_assoc]
  · have start : second.meter.entries.length + 1 =
        first.meter.entries.length + 1 + 1 * calls.length := by
      rw [before.entries, List.length_append, List.length_map]
      omega
    rw [List.map_append, before.numbers, after.numbers, start, List.length_append,
      List.range'_append]
  · intro call member
    rcases List.mem_append.mp member with earlier | now
    · exact before.sound call earlier
    · exact after.sound call now

/-- The recorded costs are within the ceiling, up to a final drift entry. -/
def Bounded (ceiling : Int) (entries : List CostEntry) : Prop :=
  (entries.map CostEntry.costCents).sum ≤ ceiling ∨
    ∃ entry, entries.getLast? = some entry ∧ entry.Drift

variable {ceiling : Int}

theorem Ready.bounded {meter : CostMeter F} (ready : Ready ceiling meter) (positive : 0 ≤ ceiling) :
    Bounded ceiling meter.entries :=
  .inl (ready.spent_le positive)

theorem bounded_drift {entries : List CostEntry} {entry : CostEntry} (drift : entry.Drift) :
    Bounded ceiling (entries ++ [entry]) :=
  .inr ⟨entry, List.getLast?_concat, drift⟩

/-- The result of a settlement: the call ends, or its entry is a drift entry. -/
def Settlement (ceiling : Int) (meter : CostMeter F) (handle : ReservationHandle)
    (done : CostMeter F × Except (Raised F) CostEntry) : Prop :=
  (∃ after entry, done = (after, .ok entry) ∧ Ready ceiling after ∧
      after.entries = meter.entries ++ [entry] ∧ EntryOf handle entry) ∨
  (∃ after halted entry, done = (after, .error (.live halted)) ∧
      after.entries = meter.entries ++ [entry] ∧ EntryOf handle entry ∧ entry.Drift)

/-- A failed dispatch is settled. -/
theorem Held.settleFailedDispatch {meter : CostMeter F} {handle : ReservationHandle}
    (held : Held ceiling meter handle) (harness : Harness) (error : LiveError F) :
    Settlement ceiling meter handle (settleFailedDispatch harness meter handle error) := by
  unfold Pipeline.settleFailedDispatch
  simp only
  split
  · rename_i input output servedModel _ _ _
    rcases held.settleUsage harness.sha256Hex input output servedModel _ _ _ with
      ⟨after, entry, done, ready, entries, of, -, -⟩ | drift
    · exact .inl ⟨after, entry, done, ready, entries, of⟩
    · exact .inr drift
  · exact .inl (held.releaseUnreconciled _ _)

omit [ClockFloat F] in
/-- The history after a settlement with one entry. -/
theorem settled_history {progress : Progress F} {meter : CostMeter F} {entry : CostEntry}
    (entries : meter.entries = progress.meter.entries ++ [entry]) :
    (settled progress meter).history = progress.history ++ [.entered entry] := by
  unfold settled
  rw [entries, List.drop_left]
  rfl

variable (harness replies) in
/-- The three ends of a metered call. -/
theorem Ready.meteredCall {α : Type} {progress : Progress F} (ready : Ready ceiling progress.meter)
    (role : String) (pin : ModelPin) {request : ProviderRequest}
    (positive : 1 ≤ request.maxOutputTokens)
    (outcome : ProviderResponse F → Except (LiveError F) (Completed × α)) :
    (∃ after error, meteredCall harness replies role pin request outcome progress =
        (after, .error (.live error)) ∧ Advances progress [] after ∧
        after.meter.entries = progress.meter.entries) ∨
    (∃ after error call, meteredCall harness replies role pin request outcome progress =
        (after, .error (.live error)) ∧ Advances progress [call] after ∧
        (Ready ceiling after.meter ∨ call.entry.Drift)) ∨
    (∃ after value call, meteredCall harness replies role pin request outcome progress =
        (after, .ok value) ∧ Advances progress [call] after ∧ Ready ceiling after.meter ∧
        call.Complete ∧ call.request = request) := by
  unfold Pipeline.meteredCall
  rcases ready.reserve harness.sha256Hex request.requestId pin
      request.system.utf8ByteSize request.userContent.utf8ByteSize positive with
    ⟨meter, error, denied, entries⟩ | ⟨meter, handle, granted, held, named, entries⟩
  · left
    rw [denied]
    exact ⟨_, _, rfl, ⟨(List.append_nil _).symm, entries.trans (List.append_nil _).symm, rfl,
      fun _ member => absurd member List.not_mem_nil⟩, entries⟩
  · right
    rw [granted]
    simp only
    have advance : ∀ {after : CostMeter F} {entry : CostEntry},
        after.entries = meter.entries ++ [entry] → EntryOf handle entry →
        Advances progress [⟨handle, request, entry⟩]
          (settled ⟨meter, progress.history ++ [.reserved handle, .handed request]⟩ after) := by
      intro after entry grown of
      refine ⟨?_, ?_, ?_, ?_⟩
      · rw [settled_history grown, List.append_assoc]
        rfl
      · exact grown.trans (by rw [entries]; rfl)
      · show [handle.callIndex] = [progress.meter.entries.length + 1]
        rw [held.numbered, entries]
      · intro call member
        obtain rfl := List.mem_singleton.mp member
        exact ⟨named.symm, of⟩
    cases dispatched role request (replies (requestedCalls progress.history)) outcome with
    | error error =>
        left
        simp only
        rcases held.settleFailedDispatch harness error with
          ⟨after, entry, done, ready, grown, of⟩ | ⟨after, halted, entry, done, grown, of, drift⟩
        · rw [done]
          exact ⟨_, _, _, rfl, advance grown of, .inl ready⟩
        · rw [done]
          exact ⟨_, _, _, rfl, advance grown of, .inr drift⟩
    | ok value =>
        obtain ⟨completed, value⟩ := value
        simp only
        unfold CostMeter.reconcile
        rcases held.settleUsage harness.sha256Hex completed.inputTokens
            completed.outputTokens completed.servedModel none none none with
          ⟨after, entry, done, ready, grown, of, reconciled, reason⟩ |
          ⟨after, halted, entry, done, grown, of, drift⟩
        · right
          rw [done]
          exact ⟨_, _, _, rfl, advance grown of, ready, ⟨reconciled, reason⟩, rfl⟩
        · left
          rw [done]
          exact ⟨_, _, _, rfl, advance grown of, .inr drift⟩

/-! ## One iteration -/

omit [ClockFloat F] in
theorem enforceInputBound_live {config : LiveConfig} {request : ProviderRequest} {raised : Raised F}
    (refused : enforceInputBound config request = .error raised) : ∃ error, raised = .live error := by
  unfold enforceInputBound at refused
  split at refused
  · exact ⟨_, (Except.error.inj refused).symm⟩
  · cases refused

/-- A request of the subject is built from the case, or refused by a `LiveError`. -/
theorem subject_request (setup : Setup) (pin : ModelPin) (iteration : Iteration F) :
    (∃ error, boundedSubjectRequest setup pin iteration = .error (.live error)) ∨
    ∃ request, boundedSubjectRequest setup pin iteration = .ok request ∧
      request.requestId = requestId iteration "subject" ∧
      request.maxOutputTokens = setup.config.maxOutputTokens := by
  have built : ∃ request : ProviderRequest, subjectRequest (F := F) setup.config pin
      (requestId iteration "subject") iteration.case_.prompt iteration.arm
      (if iteration.arm = .withSkill then some iteration.case_.skillInstructions else none) =
        .ok request ∧ request.requestId = requestId iteration "subject" ∧
      request.maxOutputTokens = setup.config.maxOutputTokens := by
    unfold subjectRequest
    rw [if_neg iteration.case_.prompt_nonempty]
    simp only
    cases iteration.arm with
    | withSkill =>
        simp only [if_true]
        rw [if_neg iteration.case_.instructions_nonempty]
        exact ⟨_, rfl, rfl, rfl⟩
    | baseline => exact ⟨_, rfl, rfl, rfl⟩
  obtain ⟨request, done, named, tokens⟩ := built
  unfold boundedSubjectRequest
  rw [done]
  cases bound : enforceInputBound (F := F) setup.config request with
  | error raised =>
      obtain ⟨error, rfl⟩ := enforceInputBound_live bound
      left
      refine ⟨error, ?_⟩
      show (enforceInputBound setup.config request >>= fun _ => pure request) = _
      rw [bound]
      rfl
  | ok _ =>
      right
      refine ⟨request, ?_, named, tokens⟩
      show (enforceInputBound setup.config request >>= fun _ => pure request) = _
      rw [bound]
      rfl

omit [ClockFloat F] in
theorem guardJudge_live {config : LiveConfig} {vendor message : String} {pin : ModelPin}
    {further : List (String × Json F)} {raised : Raised F}
    (refused : guardJudge config vendor pin message further = .error raised) :
    ∃ error, raised = .live error := by
  unfold guardJudge at refused
  split at refused
  · exact ⟨_, (Except.error.inj refused).symm⟩
  split at refused
  · exact ⟨_, (Except.error.inj refused).symm⟩
  · cases refused

/-- A request of the judge is built from the case, or refused by a `LiveError`. -/
theorem judge_request (harness : Harness) (setup : Setup) (pin : ModelPin) (iteration : Iteration F)
    (subject : SubjectResult) (subjectText : String) :
    (∃ error, boundedJudgeRequest harness setup pin iteration subject subjectText =
      .error (.live error)) ∨
    ∃ request, boundedJudgeRequest harness setup pin iteration subject subjectText = .ok request ∧
      request.requestId = requestId iteration "judge" ∧
      request.maxOutputTokens = setup.config.maxOutputTokens := by
  have built : (∃ error, judgeRequest harness setup.config pin (requestId iteration "judge")
        iteration.case_ iteration.subjectVendor subject subjectText = .error (.live error)) ∨
      ∃ request, judgeRequest harness setup.config pin (requestId iteration "judge")
        iteration.case_ iteration.subjectVendor subject subjectText = .ok request ∧
        request.requestId = requestId iteration "judge" ∧
        request.maxOutputTokens = setup.config.maxOutputTokens := by
    unfold judgeRequest
    cases guarded : guardJudge (F := F) setup.config iteration.subjectVendor pin
        "judge vendor equals the subject vendor: refusing to judge" [] with
    | error raised =>
        obtain ⟨error, rfl⟩ := guardJudge_live guarded
        exact .inl ⟨error, rfl⟩
    | ok _ =>
        have finite : ¬ iteration.case_.rubric.finite = false := by
          rw [iteration.case_.rubric_canonical]
          exact Bool.noConfusion
        rw [if_neg finite]
        split
        · exact .inl ⟨_, rfl⟩
        · exact .inr ⟨_, rfl, rfl, rfl⟩
  unfold boundedJudgeRequest
  rcases built with ⟨error, refused⟩ | ⟨request, done, named, tokens⟩
  · rw [refused]
    exact .inl ⟨error, rfl⟩
  rw [done]
  simp only [bind, Except.bind]
  split
  · exact .inl ⟨_, rfl⟩
  cases bound : enforceInputBound (F := F) setup.config request with
  | error raised =>
      obtain ⟨error, rfl⟩ := enforceInputBound_live bound
      exact .inl ⟨error, rfl⟩
  | ok _ => exact .inr ⟨request, rfl, named, tokens⟩

/-- An iteration of the plan with its calls and its record. -/
structure Round (F : Type) [JsonFloat F] where
  iteration : Iteration F
  calls : List Call
  record : ResultRecord

/-- The record is about the iteration, and a verdict has both of its calls. -/
structure Honest (round : Round F) : Prop where
  named : round.record.caseId = round.iteration.case_.caseId ∧
    round.record.arm = round.iteration.arm ∧ round.record.runIndex = round.iteration.runIndex ∧
    round.record.subjectVendor = round.iteration.subjectVendor
  verdict : round.record.resultState = .pass ∨ round.record.resultState = .fail →
    ∃ subject judge, round.calls = [subject, judge] ∧
      subject.request.requestId = requestId round.iteration "subject" ∧ subject.Complete ∧
      judge.request.requestId = requestId round.iteration "judge" ∧ judge.Complete

variable {judges : List (String × ModelPin)}

variable (harness replies) in
/-- The two ends of an iteration. -/
theorem Ready.executeOne {progress : Progress F} (ready : Ready ceiling progress.meter)
    (positive : 0 ≤ ceiling) (setup : Setup) {iteration : Iteration F} {pins : ModelPin × ModelPin}
    (pinned : pinsOf (F := F) judges iteration.subjectVendor = .ok pins) :
    (∃ after error calls, executeOne harness replies setup judges iteration progress =
        (after, .error (.live error)) ∧ Advances progress calls after ∧
        Bounded ceiling after.meter.entries) ∨
    (∃ after record calls, executeOne harness replies setup judges iteration progress =
        (after, .ok record) ∧ Advances progress calls after ∧ Ready ceiling after.meter ∧
        Honest ⟨iteration, calls, record⟩) := by
  have tokens := setup.config.tokens_positive
  have same : Bounded ceiling progress.meter.entries := ready.bounded positive
  have failed : ∀ {before after : Progress F} {call : Call}, Advances before [call] after →
      (Ready ceiling after.meter ∨ call.entry.Drift) → Bounded ceiling after.meter.entries := by
    intro before after call advances cases
    rcases cases with settled | drift
    · exact settled.bounded positive
    · rw [advances.entries]
      exact bounded_drift drift
  unfold Pipeline.executeOne
  rw [pinned]
  simp only
  rcases subject_request setup pins.1 iteration with ⟨error, refused⟩ | ⟨request, built, named, bound⟩
  · rw [refused]
    exact .inl ⟨progress, error, [], rfl, .refl progress, same⟩
  rw [built]
  simp only
  rcases ready.meteredCall harness replies "subject" pins.1
      (bound.symm ▸ tokens) (subjectOutcome harness pins.1 request) with
    ⟨after, error, denied, advances, kept⟩ | ⟨after, error, call, raised, advances, ends⟩ |
    ⟨after, ⟨completed, subject⟩, first, done, advances, ready, complete, asked⟩
  · rw [denied]
    exact .inl ⟨after, error, [], rfl, advances, kept ▸ same⟩
  · rw [raised]
    exact .inl ⟨after, error, [call], rfl, advances, failed advances ends⟩
  rw [done]
  simp only
  rcases judge_request harness setup pins.2 iteration subject completed.text with
    ⟨error, refused⟩ | ⟨judgeRequest, built, judgeNamed, bound⟩
  · rw [refused]
    exact .inl ⟨after, error, [first], rfl, advances, ready.bounded positive⟩
  rw [built]
  simp only
  rcases ready.meteredCall harness replies "judge" pins.2
      (bound.symm ▸ tokens)
      (judgeOutcome harness pins.2 iteration.case_ completed.text judgeRequest) with
    ⟨last, error, denied, further, kept⟩ | ⟨last, error, call, raised, further, ends⟩ |
    ⟨last, ⟨answered, judge⟩, second, done, further, ready', complete', asked'⟩
  · rw [denied]
    exact .inl ⟨last, error, [first], rfl, advances.trans further, kept ▸ ready.bounded positive⟩
  · rw [raised]
    exact .inl ⟨last, error, [first, call], rfl, advances.trans further, failed further ends⟩
  rw [done]
  simp only
  right
  have calls : ∃ subject judge, [first, second] = [subject, judge] ∧
      subject.request.requestId = requestId iteration "subject" ∧ subject.Complete ∧
      judge.request.requestId = requestId iteration "judge" ∧ judge.Complete :=
    ⟨first, second, rfl, asked ▸ named, complete, asked' ▸ judgeNamed, complete'⟩
  cases setup.mode with
  | dryRun =>
      exact ⟨last, _, [first, second], rfl, advances.trans further, ready',
        ⟨⟨rfl, rfl, rfl, rfl⟩, fun _ => calls⟩⟩
  | live =>
      exact ⟨last, _, [first, second], rfl, advances.trans further, ready',
        ⟨⟨rfl, rfl, rfl, rfl⟩, fun _ => calls⟩⟩

/-! ## The loop -/

/-- The accounts of a run after these rounds. -/
structure Accounted (ceiling : Int) (rounds : List (Round F)) (results : List ResultRecord)
    (stopReason : Option String) (progress : Progress F) : Prop where
  /-- Whole calls, and nothing after a halt. -/
  history : progress.history = (rounds.flatMap Round.calls).flatMap Call.history ++
    (stopReason.map Happening.halted).toList
  /-- One entry for each call, in the same order. -/
  entries : progress.meter.entries = (rounds.flatMap Round.calls).map Call.entry
  numbers : (rounds.flatMap Round.calls).map (fun call => call.handle.callIndex) =
    List.range' 1 (rounds.flatMap Round.calls).length
  sound : ∀ call ∈ rounds.flatMap Round.calls, call.Sound
  bounded : Bounded ceiling progress.meter.entries
  results : results = rounds.map Round.record
  honest : ∀ round ∈ rounds, Honest round

/-- The calls of one more round. -/
theorem Accounted.advance {rounds : List (Round F)} {results : List ResultRecord}
    {before after : Progress F} (accounted : Accounted ceiling rounds results none before)
    {round : Round F} (advances : Advances before round.calls after) (honest : Honest round)
    (bounded : Bounded ceiling after.meter.entries) :
    Accounted ceiling (rounds ++ [round]) (results ++ [round.record]) none after := by
  have calls : (rounds ++ [round]).flatMap Round.calls =
      rounds.flatMap Round.calls ++ round.calls := by
    rw [List.flatMap_append, List.flatMap_singleton]
  refine ⟨?_, ?_, ?_, ?_, bounded, ?_, ?_⟩
  · rw [advances.history, accounted.history, calls, List.flatMap_append]
    simp
  · rw [advances.entries, accounted.entries, calls, List.map_append]
  · have start : before.meter.entries.length + 1 =
        1 + 1 * (rounds.flatMap Round.calls).length := by
      rw [accounted.entries, List.length_map]
      omega
    rw [calls, List.map_append, accounted.numbers, advances.numbers, start, List.length_append,
      List.range'_append]
  · intro call member
    rw [calls] at member
    rcases List.mem_append.mp member with earlier | now
    · exact accounted.sound call earlier
    · exact advances.sound call now
  · rw [accounted.results, List.map_append, List.map_singleton]
  · intro other member
    rcases List.mem_append.mp member with earlier | now
    · exact accounted.honest other earlier
    · exact List.mem_singleton.mp now ▸ honest

/-- The invariant of the loop. -/
structure LoopState (ceiling : Int) (rounds : List (Round F)) (state : RunState F) : Prop where
  accounted : Accounted ceiling rounds state.results state.stopReason state.progress
  ready : state.stopReason = none → Ready ceiling state.progress.meter

/-- A record without a verdict. -/
theorem honest_resultRecord (setup : Setup) (iteration : Iteration F) (calls : List Call)
    {state : ResultState} (none_ : state ≠ .pass ∧ state ≠ .fail) (reason : Option String) :
    Honest (⟨iteration, calls, resultRecord setup iteration state reason none none none none⟩ :
      Round F) := by
  refine ⟨⟨rfl, rfl, rfl, rfl⟩, ?_⟩
  rintro (pass | fail)
  · exact absurd pass none_.1
  · exact absurd fail none_.2

variable (harness replies) in
/-- **One turn of the loop** adds one round. -/
theorem LoopState.turn {rounds : List (Round F)} {state : RunState F}
    (loop : LoopState ceiling rounds state) (positive : 0 ≤ ceiling) (setup : Setup)
    {iteration : Iteration F} {pins : ModelPin × ModelPin}
    (pinned : pinsOf (F := F) judges iteration.subjectVendor = .ok pins) :
    ∃ next round, turn harness replies setup judges state iteration = .ok next ∧
      round.iteration = iteration ∧ LoopState ceiling (rounds ++ [round]) next := by
  obtain ⟨accounted, ready⟩ := loop
  unfold Pipeline.turn
  cases stopped : state.stopReason with
  | some reason =>
      rw [stopped] at accounted
      refine ⟨_, ⟨iteration, [], resultRecord setup iteration .unrun (some reason) none none none
        none⟩, rfl, rfl, ⟨?_, fun running => by cases running⟩⟩
      have calls : (rounds ++ [(⟨iteration, [], resultRecord setup iteration .unrun (some reason)
          none none none none⟩ : Round F)]).flatMap Round.calls = rounds.flatMap Round.calls := by
        rw [List.flatMap_append, List.flatMap_singleton, List.append_nil]
      refine ⟨?_, ?_, ?_, ?_, accounted.bounded, ?_, ?_⟩
      · rw [calls]
        exact accounted.history
      · rw [calls]
        exact accounted.entries
      · rw [calls]
        exact accounted.numbers
      · rw [calls]
        exact accounted.sound
      · rw [List.map_append, ← accounted.results]
        rfl
      · intro other member
        rcases List.mem_append.mp member with earlier | now
        · exact accounted.honest other earlier
        · obtain rfl := List.mem_singleton.mp now
          have unrun : ResultState.unrun ≠ .pass ∧ ResultState.unrun ≠ .fail := by decide
          exact honest_resultRecord setup iteration [] unrun _
  | none =>
      rw [stopped] at accounted
      simp only
      rcases (ready stopped).executeOne harness replies positive setup pinned with
        ⟨after, error, calls, raised, advances, bounded⟩ |
        ⟨after, record, calls, done, advances, further, honest⟩
      · rw [raised]
        have unfinished : (if state.progress.meter.attempts < after.meter.attempts then
              ResultState.error else .unrun) ≠ .pass ∧
            (if state.progress.meter.attempts < after.meter.attempts then
              ResultState.error else .unrun) ≠ .fail := by
          split <;> decide
        have halted := accounted.advance advances
          (honest_resultRecord setup iteration calls unfinished (some error.reasonCode)) bounded
        refine ⟨_, _, rfl, rfl, ⟨⟨?_, halted.entries, halted.numbers, halted.sound, halted.bounded,
          halted.results, halted.honest⟩, fun running => by cases running⟩⟩
        show after.history ++ [Happening.halted error.reasonCode] = _
        rw [halted.history]
        simp
      · rw [done]
        have next := accounted.advance advances honest (further.bounded positive)
        exact ⟨_, ⟨iteration, calls, record⟩, rfl, rfl, ⟨next, fun _ => further⟩⟩

variable (harness replies) in
/-- The loop makes a round of every planned iteration. -/
theorem LoopState.foldlM {setup : Setup} (positive : 0 ≤ ceiling) {iterations : List (Iteration F)}
    (pinned : ∀ iteration ∈ iterations, ∃ pins,
      pinsOf (F := F) judges iteration.subjectVendor = .ok pins) {rounds : List (Round F)}
    {state : RunState F} (loop : LoopState ceiling rounds state) :
    ∃ last later, iterations.foldlM (Pipeline.turn harness replies setup judges) state = .ok last ∧
      later.map Round.iteration = iterations ∧ LoopState ceiling (rounds ++ later) last := by
  induction iterations generalizing rounds state with
  | nil => exact ⟨state, [], rfl, rfl, (List.append_nil rounds).symm ▸ loop⟩
  | cons iteration iterations ih =>
      obtain ⟨pins, found⟩ := pinned iteration (List.mem_cons_self ..)
      obtain ⟨next, round, done, same, advanced⟩ :=
        loop.turn harness replies positive setup found
      obtain ⟨last, later, folded, names, final⟩ :=
        ih (fun other member => pinned other (List.mem_cons_of_mem _ member)) advanced
      refine ⟨last, round :: later, ?_, ?_, ?_⟩
      · rw [List.foldlM_cons, done]
        exact folded
      · rw [List.map_cons, same, names]
      · rw [List.append_assoc] at final
        exact final

/-! ## The run -/

omit [ClockFloat F] in
/-- Every vendor of the configuration has its pins. -/
theorem authorized_pins {setup : Setup}
    (authorized : authorizeJudges (F := F) setup.gate setup.config = .ok judges) {vendor : String}
    (member : vendor ∈ setup.config.subjectVendors) :
    ∃ pins, pinsOf (F := F) judges vendor = .ok pins := by
  have keys : ∀ (vendors : List String) (judges : List (String × ModelPin)),
      vendors.mapM (authorizeJudge (F := F) setup.gate setup.config) = .ok judges →
        vendor ∈ vendors → (judges.lookup vendor).isSome = true := by
    intro vendors
    induction vendors with
    | nil => exact fun _ _ member => absurd member List.not_mem_nil
    | cons first vendors ih =>
        intro judges done member
        simp only [List.mapM_cons, bind_eq_ok, pure_eq_ok] at done
        obtain ⟨judge, one, rest, others, rfl⟩ := done
        simp only [authorizeJudge, bind_eq_ok, pure_eq_ok] at one
        obtain ⟨pin, -, _, -, rfl⟩ := one
        by_cases same : vendor = first
        · subst same
          simp
        · rw [List.lookup_cons, beq_false_of_ne same]
          exact ih rest others ((List.mem_cons.mp member).resolve_left same)
  have judged := keys _ judges authorized
    ((List.mem_insertionSort _).mpr (List.mem_dedup.mpr member))
  have subject := setup.config.vendors_pinned vendor member
  unfold pinsOf
  obtain ⟨judgePin, found⟩ := Option.isSome_iff_exists.mp judged
  obtain ⟨subjectPin, pinned⟩ := Option.isSome_iff_exists.mp subject
  rw [found, pinned]
  exact ⟨_, rfl⟩

/-- A planned iteration is about a vendor of the configuration. -/
theorem planned_vendor {setup : Setup} {cases : List (LiveCase F)} {iteration : Iteration F}
    (member : iteration ∈ planned setup cases) :
    iteration.subjectVendor ∈ setup.config.subjectVendors := by
  simp only [planned, List.mem_flatMap, List.mem_map] at member
  obtain ⟨case_, -, arm, -, runIndex, -, vendor, known, rfl⟩ := member
  split at known
  · exact List.mem_of_mem_take known
  · exact known

theorem ceilingCents_pos (setup : Setup) : 0 < ceilingCents setup := by
  have config := setup.config.ceiling_positive
  have gate := setup.gate.ceiling_positive
  have cap := setup.gate.cap_positive
  unfold ceilingCents OwnerGateRecord.effectiveCeilingCents smokeCeilingCents
  simp only
  split <;> omega

variable (harness) in
/-- The meter of a run starts ready. -/
theorem new_ready {maxCalls maxOutputTokens : Int} (ceiling_pos : 0 < ceiling)
    (calls_pos : 1 ≤ maxCalls) (tokens_pos : 1 ≤ maxOutputTokens) :
    ∃ meter : CostMeter F, CostMeter.new harness.sha256Hex ceiling maxCalls maxOutputTokens =
      .ok meter ∧ Ready ceiling meter ∧ meter.entries = [] := by
  have opened : BudgetLedger.open_ harness.sha256Hex (CostMeter.caps (F := F) maxCalls ceiling) none
      JsonFloat.nan = .ok { caps := CostMeter.caps maxCalls ceiling } := rfl
  have accounts := accounts_open opened
  unfold CostMeter.new
  rw [if_neg (by omega), if_neg (by omega), if_neg (by omega), opened]
  exact ⟨_, rfl, ⟨⟨⟨_, accounts⟩, rfl, rfl⟩, rfl, rfl, rfl⟩, rfl⟩

end Run

end Aegis.Live
