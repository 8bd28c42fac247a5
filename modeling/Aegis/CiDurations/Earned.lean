/-
# CiDurations.Earned — what a COMPLETE marker stands on

A COMPLETE marker means that the candidate is the head of a completed green first attempt, that every
record is of a roster job and that the first record of each job is green (`clean_of_complete`,
`green_of_first`). Records that repeat a name are never looked at. So the marker is earned exactly
where these are green too and no page holds more records than asked for at the cost of others
(`complete_earned_iff`); `repeated_failure_overlooked` is a run whose second record of a job failed.
-/
import Aegis.CiDurations.Verdict
import Aegis.Lib.UtcTime

namespace Aegis.CiDurations

open Aegis.Lib

set_option autoImplicit false

/-! ## What the cascade leaves -/

/-- What holds where the cascade reaches its last case. -/
structure Clean (identity : RunIdentity) (rows : List Row) (event : String) (truncated : Bool) :
    Prop where
  not_red : runRed identity = false
  not_failing : failingJobs rows = []
  candidate : identity.candidate_status = .matches
  rows_closed : ∀ row ∈ rows, rowGap row = []
  skips_expected : unexpectedSkips rows event = []
  whole : truncated = false
  not_soft : softJobs rows = []
  completed : identity.run_status = "completed"
  attempt : identity.run_attempt = some 1

theorem deltaReasons_eq_nil {delta : List (Option String)} (none_left : deltaReasons delta = .ok []) :
    delta = [] := by
  unfold deltaReasons at none_left
  split at none_left
  · assumption
  · cases joined : joinNames delta with
    | error failure => rw [joined] at none_left; cases none_left
    | ok names => rw [joined] at none_left; cases none_left

/-- The last case is reached with no failure, no block, no gap and no name outside the roster. -/
theorem reasons_of_complete {identity : RunIdentity} {rows : List Row}
    {delta : List (Option String)} {event : String} {truncated : Bool} {marker : Marker}
    (accepted : deriveStatus identity rows delta event truncated = .ok marker)
    (complete : marker.status = .complete) :
    (runRed identity = false ∧ failingJobs rows = []) ∧
      (blockedReasons identity = [] ∧ gapReasons identity rows event truncated = []) ∧ delta = [] := by
  unfold deriveStatus at accepted
  dsimp only at accepted
  split at accepted
  · obtain rfl := Except.ok.inj accepted
    cases complete
  · rename_i green
    split at accepted
    · obtain rfl := Except.ok.inj accepted
      cases complete
    · split at accepted
      · obtain rfl := Except.ok.inj accepted
        cases complete
      · cases named : deltaReasons delta with
        | error failure => rw [named] at accepted; cases accepted
        | ok reasons =>
            rw [named] at accepted
            have made := Except.ok.inj accepted
            dsimp only at made
            split at made
            · subst made
              cases complete
            · rename_i empty
              obtain ⟨open_left, rfl⟩ := List.append_eq_nil_iff.mp (not_not.mp empty)
              have calm := not_or.mp green
              exact ⟨⟨Bool.eq_false_iff.mpr calm.1, not_not.mp calm.2⟩,
                List.append_eq_nil_iff.mp open_left, deltaReasons_eq_nil named⟩

theorem clean_of_complete {identity : RunIdentity} {rows : List Row} {delta : List (Option String)}
    {event : String} {truncated : Bool} {marker : Marker}
    (accepted : deriveStatus identity rows delta event truncated = .ok marker)
    (complete : marker.status = .complete) : Clean identity rows event truncated ∧ delta = [] := by
  obtain ⟨⟨not_red, not_failing⟩, ⟨blocked, gaps⟩, no_delta⟩ := reasons_of_complete accepted complete
  simp only [gapReasons, List.append_eq_nil_iff, List.flatMap_eq_nil_iff, List.map_eq_nil_iff,
    ite_eq_left_iff, ite_eq_right_iff, List.cons_ne_nil, imp_false, not_not,
    Bool.not_eq_true] at gaps
  obtain ⟨⟨⟨⟨⟨⟨closed, -⟩, expected⟩, whole⟩, soft⟩, completed⟩, attempt⟩ := gaps
  refine ⟨⟨not_red, not_failing, ?_, closed, expected, whole, soft, completed, attempt⟩, no_delta⟩
  unfold blockedReasons at blocked
  split at blocked
  · assumption
  · cases blocked

/-! ## Rows -/

section Rows

variable {fromisoformat : String → Option Int} {payloadJobs : List JobRecord} {event name : String}
  {changes : Option String} {job : JobRecord}

/-- The row of a record is unresolved, a skip, or that of a job that was executed. -/
theorem recordRow_cases :
    ((recordRow fromisoformat event changes name job).state = .unresolved ∧
        (recordRow fromisoformat event changes name job).conclusion ∉ nonGreenExecutedConclusions) ∨
      (job.conclusion = some "skipped" ∧
        (recordRow fromisoformat event changes name job).state = .skipped ∧
        (recordRow fromisoformat event changes name job).conclusion = "skipped") ∨
      ∃ conclusion, job.conclusion = some conclusion ∧
        recordRow fromisoformat event changes name job = executedRow name conclusion
          (durationSeconds fromisoformat job.started_at job.completed_at) := by
  have terminal : ∀ conclusion ∈ nonGreenExecutedConclusions, conclusion ∈ terminalConclusions := by
    decide
  unfold recordRow
  cases job.conclusion with
  | none =>
      have absent : notRecorded ∉ nonGreenExecutedConclusions := by decide
      exact .inl ⟨rfl, absent⟩
  | some conclusion =>
      dsimp only
      split
      · rename_i skipped
        exact .inr (.inl ⟨congrArg some skipped, rfl, skipped⟩)
      · split
        · exact .inr (.inr ⟨conclusion, rfl, rfl⟩)
        · rename_i other
          exact .inl ⟨rfl, fun failed => other (terminal _ failed)⟩

@[simp] theorem executedRow_job {conclusion : String} {seconds : Option Int} :
    (executedRow name conclusion seconds).job = name := by
  cases seconds <;> rfl

@[simp] theorem executedRow_state {conclusion : String} {seconds : Option Int} :
    (executedRow name conclusion seconds).state = .executed := by
  cases seconds <;> rfl

@[simp] theorem executedRow_conclusion {conclusion : String} {seconds : Option Int} :
    (executedRow name conclusion seconds).conclusion = conclusion := by
  cases seconds <;> rfl

@[simp] theorem recordRow_job : (recordRow fromisoformat event changes name job).job = name := by
  unfold recordRow
  split
  · rfl
  · split
    · rfl
    · split
      · exact executedRow_job
      · rfl

@[simp] theorem rowOf_job : (rowOf fromisoformat payloadJobs event name).job = name := by
  unfold rowOf
  split
  · rfl
  · exact recordRow_job

theorem name_of_byName (found : byName payloadJobs name = some job) : job.name = some name :=
  of_decide_eq_true (List.find?_some (p := fun job : JobRecord => decide (job.name = some name)) found)

theorem mem_of_byName (found : byName payloadJobs name = some job) : job ∈ payloadJobs :=
  List.mem_of_find?_eq_some found

theorem rowOf_of_found (found : byName payloadJobs name = some job) :
    rowOf fromisoformat payloadJobs event name = recordRow fromisoformat event
      ((byName payloadJobs "changes").bind JobRecord.conclusion) name job := by
  simp only [rowOf, found]

/-- A conclusion that is a failure is that of a job that was executed. -/
theorem executed_of_nonGreen
    (failed : (rowOf fromisoformat payloadJobs event name).conclusion ∈ nonGreenExecutedConclusions) :
    (rowOf fromisoformat payloadJobs event name).state = .executed := by
  cases found : byName payloadJobs name with
  | none =>
      have absent : notRecorded ∉ nonGreenExecutedConclusions := by decide
      simp only [rowOf, found, missingRow] at failed
      exact absurd failed absent
  | some job =>
      rw [rowOf_of_found found] at failed ⊢
      rcases recordRow_cases with ⟨-, calm⟩ | ⟨-, -, skipped⟩ | ⟨conclusion, -, row⟩
      · exact absurd failed calm
      · have calm : "skipped" ∉ nonGreenExecutedConclusions := by decide
        rw [skipped] at failed
        exact absurd failed calm
      · rw [row, executedRow_state]

end Rows

/-! ## Green records -/

/-- The skips that the event of a run allows. -/
def RunPayload.allowedSkips (run : RunPayload) : List String :=
  match run.event with
  | none => []
  | some event => expectedSkips event

theorem expectedSkips_event (run : RunPayload) :
    expectedSkips (run.event.getD notRecorded) = run.allowedSkips := by
  unfold RunPayload.allowedSkips
  cases run.event with
  | none => rfl
  | some event => rfl

section Green

variable (fromisoformat : String → Option Int)

/-- The record succeeded at known times, or is a skip that the event allows. -/
def JobRecord.Green (allowed : List String) (job : JobRecord) : Prop :=
  (job.conclusion = some "success" ∧ (iso fromisoformat job.started_at).isSome = true ∧
      (iso fromisoformat job.completed_at).isSome = true) ∨
    (job.conclusion = some "skipped" ∧ ∃ name ∈ allowed, job.name = some name)

end Green

section Derived

variable {fromisoformat : String → Option Int} {payloadJobs : List JobRecord}
  {identity : RunIdentity} {rows : List Row} {event : String} {truncated : Bool}

/-- The `changes` job of a clean run did not fail, so it explains no skip. -/
theorem dependency_sound
    (clean : Clean identity (deriveJobRows fromisoformat payloadJobs event) event truncated) :
    dependencyFailed (deriveJobRows fromisoformat payloadJobs event) = false := by
  by_contra explained
  obtain ⟨row, found, failed⟩ := (Option.any_eq_true _ _).mp (Bool.not_eq_false _ ▸ explained)
  obtain ⟨name, -, rfl⟩ := List.mem_map.mp (List.mem_of_find?_eq_some found)
  have executed := executed_of_nonGreen (of_decide_eq_true failed)
  have named : name ∈ failingJobs (deriveJobRows fromisoformat payloadJobs event) := by
    refine List.mem_map.mpr ⟨_, List.mem_filter.mpr ⟨List.mem_filter.mpr ⟨?_, ?_⟩, failed⟩, rowOf_job⟩
    · exact List.mem_of_find?_eq_some found
    · exact decide_eq_true executed
  rw [clean.not_failing] at named
  cases named

/-- A row of a clean run that was executed says success, at known times. -/
theorem success_of_executed {name conclusion : String} {seconds : Option Int}
    (clean : Clean identity rows event truncated)
    (member : executedRow name conclusion seconds ∈ rows) :
    conclusion = "success" ∧ seconds.isSome = true := by
  have ran : executedRow name conclusion seconds ∈ executedRows rows :=
    List.mem_filter.mpr ⟨member, decide_eq_true executedRow_state⟩
  constructor
  · by_contra other
    have red : conclusion ∉ greenConclusions := fun green => other (List.mem_singleton.mp green)
    by_cases failed : conclusion ∈ nonGreenExecutedConclusions
    · have listed : name ∈ failingJobs rows := List.mem_map.mpr
        ⟨_, List.mem_filter.mpr ⟨ran, by simpa using failed⟩, executedRow_job⟩
      rw [clean.not_failing] at listed
      cases listed
    · have listed : name ∈ softJobs rows := List.mem_map.mpr
        ⟨_, List.mem_filter.mpr ⟨ran, by simpa using ⟨red, failed⟩⟩, executedRow_job⟩
      rw [clean.not_soft] at listed
      cases listed
  · have closed := clean.rows_closed _ member
    cases seconds with
    | none => cases closed
    | some count => rfl

/-- The first record of each job of a clean run is green. -/
theorem green_of_first {name : String}
    (clean : Clean identity (deriveJobRows fromisoformat payloadJobs event) event truncated)
    (rostered : name ∈ jobRoster) :
    ∃ job, byName payloadJobs name = some job ∧ job.Green fromisoformat (expectedSkips event) := by
  have member : rowOf fromisoformat payloadJobs event name ∈
      deriveJobRows fromisoformat payloadJobs event := List.mem_map_of_mem rostered
  have closed := clean.rows_closed _ member
  cases found : byName payloadJobs name with
  | none =>
      simp only [rowOf, found] at closed
      cases closed
  | some job =>
      refine ⟨job, rfl, ?_⟩
      rw [rowOf_of_found found] at member closed
      rcases recordRow_cases with ⟨unresolved, -⟩ | ⟨concluded, skipped, -⟩ | ⟨conclusion, concluded, row⟩
      · rw [rowGap, unresolved] at closed
        cases closed
      · refine .inr ⟨concluded, name, ?_, name_of_byName found⟩
        by_contra unexpected
        have listed : name ∈ unexpectedSkips (deriveJobRows fromisoformat payloadJobs event)
            event := by
          refine List.mem_map.mpr ⟨_, List.mem_filter.mpr ⟨member, ?_⟩, recordRow_job⟩
          rw [dependency_sound clean]
          exact decide_eq_true ⟨skipped, by rwa [recordRow_job], fun both => nomatch both.1⟩
        rw [clean.skips_expected] at listed
        cases listed
      · rw [row] at member
        obtain ⟨rfl, timed⟩ := success_of_executed clean member
        exact .inl ⟨concluded, (durationSeconds_isSome fromisoformat).mp timed⟩

end Derived

/-! ## The names of the records -/

theorem sortNames_eq_nil {names : List (Option String)} (sorted : sortNames names = .ok []) :
    names = [] := by
  unfold sortNames at sorted
  split at sorted
  · exact Except.ok.inj sorted
  · rename_i several
    split at sorted
    · cases sorted
    · rename_i texts read
      have empty := Except.ok.inj sorted
      have none_left : texts = [] := by
        have same : (sortBy id texts).Perm texts := perm_sortBy texts
        rw [List.map_eq_nil_iff.mp empty] at same
        exact same.symm.eq_nil
      subst none_left
      cases names with
      | nil => rfl
      | cons first rest =>
          cases first with
          | none => simp at read
          | some text => cases later : rest.mapM id <;> simp [later] at read

/-- No delta is left where every record is of a roster job and nothing was truncated. -/
theorem rostered_of_prerequisites {rows : List Row} {payloadJobs : List JobRecord}
    {truncated : Bool} {needed : Prerequisites}
    (accepted : prerequisites rows payloadJobs truncated = .ok needed)
    (no_delta : needed.roster_delta = []) :
    truncated = false ∧ ∀ job ∈ payloadJobs, ∃ name ∈ jobRoster, job.name = some name := by
  unfold prerequisites at accepted
  obtain ⟨delta, sorted, made⟩ := Guarded.bind_eq_ok.mp accepted
  obtain rfl := Except.ok.inj made
  cases truncated with
  | true => exact absurd (no_delta : delta ++ [truncatedPage] = []) (by simp)
  | false =>
      refine ⟨rfl, fun job member => ?_⟩
      obtain rfl : delta = [] := no_delta
      have none_off := List.filter_eq_nil_iff.mp (sortNames_eq_nil sorted) job.name
        (List.mem_dedup.mpr (List.mem_map_of_mem member))
      by_contra off
      refine none_off (decide_eq_true fun name rostered same => off ⟨name, rostered, same⟩)

/-! ## Earned markers -/

section Earned

variable (tables : Unicode) (fromisoformat : String → Option Int)

/-- What a COMPLETE marker claims of the reading behind it. -/
structure Earned (candidate : Option String) (reading : Reading) : Prop where
  head : ∃ asked head, candidate = some asked ∧ reading.run_payload.head_sha = some head ∧
    folded tables asked = folded tables head
  completed : reading.run_payload.status = some "completed"
  succeeded : reading.run_payload.conclusion = some "success"
  attempt : reading.run_payload.run_attempt = some 1
  all_read : ∀ total ∈ reading.total, total ≤ reading.payloadJobs.length
  rostered : ∀ job ∈ reading.payloadJobs, ∃ name ∈ jobRoster, job.name = some name
  green : ∀ job ∈ reading.payloadJobs,
    job.Green fromisoformat reading.run_payload.allowedSkips
  present : ∀ name ∈ jobRoster, ∃ job ∈ reading.payloadJobs, job.name = some name

/-- The records that repeat the name of an earlier one are green. -/
def Reading.RepeatsGreen (reading : Reading) : Prop :=
  reading.payloadJobs.Pairwise fun earlier later => earlier.name = later.name →
    later.Green fromisoformat reading.run_payload.allowedSkips

variable {tables fromisoformat}

theorem folded_of_matches {candidate head : Option String}
    (bound : deriveStaleness tables candidate head = .matches) :
    ∃ asked recorded, candidate = some asked ∧ head = some recorded ∧
      folded tables asked = folded tables recorded := by
  unfold deriveStaleness at bound
  split at bound
  · cases bound
  · cases bound
  · rename_i asked recorded supplied known
    split at bound
    · cases bound
    · rename_i same
      exact ⟨asked, recorded, (Option.filter_eq_some_iff.mp supplied).1,
        (Option.filter_eq_some_iff.mp known).1, not_not.mp same⟩

theorem getD_notRecorded {field : Option String} {text : String} (known : text ≠ notRecorded)
    (read : field.getD notRecorded = text) : field = some text := by
  cases field with
  | none => exact absurd read.symm known
  | some value => exact congrArg some read

/-- Repeats apart, every record is the first of its name. -/
theorem green_of_repeats {allowed : List String} {payloadJobs : List JobRecord}
    (first : ∀ name job, byName payloadJobs name = some job → job.Green fromisoformat allowed)
    (repeats : payloadJobs.Pairwise fun earlier later => earlier.name = later.name →
      later.Green fromisoformat allowed)
    (named : ∀ job ∈ payloadJobs, ∃ name, job.name = some name) :
    ∀ job ∈ payloadJobs, job.Green fromisoformat allowed := by
  intro job member
  obtain ⟨before, after, rfl⟩ := List.append_of_mem member
  obtain ⟨name, known⟩ := named job member
  cases earlier : byName before name with
  | some other =>
      exact (List.pairwise_append.mp repeats).2.2 other (mem_of_byName earlier) job
        (List.mem_cons_self ..) ((name_of_byName earlier).trans known.symm)
  | none =>
      refine first name job ?_
      unfold byName at earlier ⊢
      rw [List.find?_append, earlier, Option.none_or, List.find?_cons_of_pos]
      exact decide_eq_true known

/-- What the code makes sure of, of a reading that ends in COMPLETE. -/
theorem earned_of_evidence {candidate : Option String} {reading : Reading} {evidence : Evidence}
    (ended : evidenceOf tables fromisoformat candidate reading = .ok evidence)
    (complete : evidence.marker.status = .complete) :
    Earned tables fromisoformat candidate reading ↔
      reading.RepeatsGreen fromisoformat ∧ reading.WithinSize := by
  unfold evidenceOf at ended
  obtain ⟨needed, listed, built⟩ := Guarded.bind_eq_ok.mp ended
  unfold buildEvidence at built
  cases derived : deriveStatus _ _ needed.roster_delta _ _ with
  | error failure => rw [derived] at built; cases built
  | ok marker =>
      rw [derived] at built
      obtain rfl := Except.ok.inj built
      obtain ⟨clean, no_delta⟩ := clean_of_complete derived complete
      obtain ⟨whole, rostered⟩ := rostered_of_prerequisites listed no_delta
      have first := fun name (member : name ∈ jobRoster) => green_of_first clean member
      rw [runIdentity, expectedSkips_event] at first
      constructor
      · intro earned
        constructor
        · exact List.pairwise_iff_forall_sublist.mpr fun pair _ =>
            earned.green _ (pair.subset (by simp))
        · intro total known below
          exact absurd (earned.all_read total known) (Nat.not_le.mpr below)
      · rintro ⟨repeats, within⟩
        have completed := getD_notRecorded (by decide) clean.completed
        refine ⟨folded_of_matches clean.candidate, completed, ?_, clean.attempt, ?_, rostered, ?_, ?_⟩
        · have calm := clean.not_red
          simp only [runRed, clean.completed, true_and, decide_eq_false_iff_not, not_not] at calm
          exact getD_notRecorded (by decide) (List.mem_singleton.mp calm)
        · exact fun total known => Reading.total_le whole within known
        · refine green_of_repeats (fun name job found => ?_) repeats
            fun job member => (rostered job member).imp fun _ both => both.2
          obtain ⟨roster, member, same⟩ := rostered job (mem_of_byName found)
          obtain rfl := Option.some.inj ((name_of_byName found).symm.trans same)
          obtain ⟨other, also, green⟩ := first name member
          rwa [Option.some.inj (found.symm.trans also)]
        · intro name member
          obtain ⟨job, found, -⟩ := first name member
          exact ⟨job, mem_of_byName found, name_of_byName found⟩

/-- A run that ends in COMPLETE has earned it exactly where the records that repeat a name are green
too, and no oversized page hides that records are missing. -/
theorem complete_earned_iff {transport : Transport} {request : Request}
    (complete : (runCommand tables fromisoformat transport request).map
      (fun evidence => evidence.marker.status) = .ok .complete) :
    ∃ runId reading, chosenRun transport request = .ok runId ∧
      fetchRunAndJobs transport request.repository runId = .ok reading ∧
      (Earned tables fromisoformat request.candidate reading ↔
        reading.RepeatsGreen fromisoformat ∧ reading.WithinSize) := by
  cases ran : runCommand tables fromisoformat transport request with
  | error failure => rw [ran] at complete; cases complete
  | ok evidence =>
      rw [ran] at complete
      unfold runCommand at ran
      obtain ⟨runId, chosen, fetching⟩ := Guarded.bind_eq_ok.mp ran
      obtain ⟨reading, fetched, checking⟩ := Guarded.bind_eq_ok.mp fetching
      obtain ⟨_, -, ended⟩ := Guarded.bind_eq_ok.mp checking
      exact ⟨runId, reading, chosen, fetched, earned_of_evidence ended (Except.ok.inj complete)⟩

end Earned

/-! ## A run with a repeated name -/

/-- `datetime.fromisoformat` on points in time in UTC. -/
def utcOffset (text : String) : Option Int :=
  let chars := text.toList
  if chars.drop (chars.length - 6) = "+00:00".toList then
    (UtcTime.parse (String.ofList (chars.take (chars.length - 6) ++ ['Z']))).map Int.ofNat
  else none

def sampleJob (name conclusion : String) : JobRecord :=
  ⟨some name, some conclusion, some "2026-07-01T08:00:00Z", some "2026-07-01T08:01:30Z"⟩

def sampleRun : RunPayload := ⟨some "4f2a", some "pull_request", some "completed", some "success", some 1⟩

/-- Answers every request for jobs with the same page. -/
def sampleTransport (jobs : List JobRecord) : Transport where
  runs _ := .ok (some [some "17"])
  run _ := .ok (some sampleRun)
  jobs _ := .ok (some ⟨some jobs.length, some jobs⟩)

def sampleRequest : Request :=
  { repository := "owner/name", workflow := "validate-skills.yml", run_id := some "17", head := none,
    event := none, attempt := some 1, candidate := some " 4F2A " }

def greenJobs : List JobRecord :=
  [sampleJob "changes" "success", sampleJob "validate-skills" "success",
    sampleJob "gate-guard" "success", sampleJob "windows-offline-checks" "skipped",
    sampleJob "tools-tests-linux" "success", sampleJob "tools-tests-windows" "success"]

/-- The six jobs, with a second record of one of them that failed. -/
def repeatedJobs : List JobRecord := greenJobs ++ [sampleJob "gate-guard" "failure"]

theorem green_run_complete_iff :
    ∃ runId reading, chosenRun (sampleTransport greenJobs) sampleRequest = .ok runId ∧
      fetchRunAndJobs (sampleTransport greenJobs) sampleRequest.repository runId = .ok reading ∧
      (Earned asciiTables utcOffset sampleRequest.candidate reading ↔
        reading.RepeatsGreen utcOffset ∧ reading.WithinSize) :=
  complete_earned_iff (by decide +kernel)

/-- The second record of the job is not looked at: the run is COMPLETE with a failed job. -/
theorem repeated_failure_overlooked :
    (runCommand asciiTables utcOffset (sampleTransport repeatedJobs) sampleRequest).map
        (fun evidence => (evidence.marker.status, evidence.marker.exitCode)) = .ok (.complete, 0) ∧
      ∃ reading, fetchRunAndJobs (sampleTransport repeatedJobs) sampleRequest.repository "17" =
          .ok reading ∧
        ¬ Earned asciiTables utcOffset sampleRequest.candidate reading := by
  refine ⟨by decide +kernel, ⟨sampleRun, [⟨some 7, repeatedJobs⟩]⟩, by rfl, fun earned => ?_⟩
  have listed : sampleJob "gate-guard" "failure" ∈
      Reading.payloadJobs ⟨sampleRun, [⟨some 7, repeatedJobs⟩]⟩ := by decide
  rcases earned.green _ listed with ⟨concluded, -⟩ | ⟨concluded, -⟩
  · exact absurd concluded (by decide)
  · exact absurd concluded (by decide)

end Aegis.CiDurations
