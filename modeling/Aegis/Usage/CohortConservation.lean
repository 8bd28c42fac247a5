/-
# Usage.CohortConservation — every record is counted once

`compute_report` places a record by a cascade of exclusions. `size` adds up everything the
accumulators count; a record raises it by one wherever it is placed (`size_add`), so a report counts
every record once. What a cell counts is `Balanced`, which sums of contributions keep.

A record that expires is excluded by the report and, once housekeeping deleted it, by the count of
its month, so its month is flagged in every later report (`flagged_of_housekept`).

`report_conserves_records` gathers this for the stores that calls can reach.
-/
import Aegis.Usage.ImportHistory
import Aegis.Usage.Report

namespace Aegis.Usage

open Aegis.Lib
open Aegis.Lib.Guarded
open Aegis.Lib.Runs

set_option autoImplicit false

/-! ## One record -/

/-- How a record is counted. -/
inductive Standing
  | expired
  | open_
  | retrospective
  | counted
  deriving DecidableEq

def Placement.standing : Placement → Standing
  | .expired => .expired
  | .open_ => .open_
  | .retrospective => .retrospective
  | .counted _ _ => .counted

/-- How a record is counted on a day, unless its days cannot be computed. -/
def standingOf (today : Day) (record : Record) : Option Standing :=
  match placementOf today record with
  | .ok placement => some placement.standing
  | .error _ => none

/-- The record of a month stands so on the day. -/
def StandsIn (today : Day) (standing : Standing) (month : String) (record : Record) : Prop :=
  standingOf today record = some standing ∧ record.month = month

instance (today : Day) (standing : Standing) (month : String) (record : Record) :
    Decidable (StandsIn today standing month record) := inferInstanceAs (Decidable (_ ∧ _))

variable {today : Day} {placement : Placement}

theorem standingOf_placed {record : Record} (placed : placementOf today record = .ok placement) :
    standingOf today record = some placement.standing := by
  unfold standingOf
  rw [placed]

theorem standsIn_iff {record : Record} (placed : placementOf today record = .ok placement)
    {standing : Standing} {month : String} :
    StandsIn today standing month record ↔ placement.standing = standing ∧ month = record.month := by
  unfold StandsIn
  rw [standingOf_placed placed, Option.some.injEq, @eq_comm _ month]

/-- What a counted record adds is the tally of its classification. -/
theorem added_of_counted {closeDay : Day} {record : Record} {added : Tally}
    (placed : placementOf today record = .ok (.counted closeDay added)) :
    ∃ cutoff, added = tally record (classify record closeDay cutoff) cutoff := by
  unfold placementOf at placed
  rw [bind_eq_ok] at placed
  obtain ⟨⟨close, cutoff⟩, -, placed⟩ := placed
  simp only at placed
  split at placed
  · cases placed
  · split at placed
    · cases placed
    · split at placed
      · cases placed
      · obtain ⟨rfl, rfl⟩ := Placement.counted.inj (Except.ok.inj placed)
        exact ⟨cutoff, rfl⟩

/-! ## Balanced counts -/

/-- The outcomes of a day-30 state. -/
def outcomes : List Value := [.delivered, .failed, .abandoned, .ongoing, .unknown]

/-- Which counts of a cell are parts of others. -/
structure Nested (counts : Tally) : Prop where
  stages : ∀ stage, counts (.stageDenominator stage) + counts (.stageNotApplicable stage) = counts .n
  complete : ∀ stage, counts (.stageComplete stage) ≤ counts (.stageDenominator stage)
  attested : counts .attestedSuccess ≤ counts .independentPassing
  passing : counts .independentPassing ≤ counts .independentAssessed
  assessed : counts .independentAssessed + counts .selfAssessed ≤ counts (.outcome .delivered)

/-- What the counts of a cell have to do with each other. -/
structure Balanced (counts : Tally) : Prop extends Nested counts where
  outcomes : (outcomes.map fun value => counts (.outcome value)).sum = counts .n

theorem nested_zero : Nested 0 :=
  ⟨fun _ => rfl, fun _ => Nat.le_refl 0, Nat.le_refl 0, Nat.le_refl 0, Nat.le_refl 0⟩

theorem Nested.add {left right : Tally} (isLeft : Nested left) (isRight : Nested right) :
    Nested (left + right) := by
  constructor
  · intro stage
    have one := isLeft.stages stage
    have two := isRight.stages stage
    simp only [Pi.add_apply]
    omega
  · exact fun stage => Nat.add_le_add (isLeft.complete stage) (isRight.complete stage)
  · exact Nat.add_le_add isLeft.attested isRight.attested
  · exact Nat.add_le_add isLeft.passing isRight.passing
  · have one := isLeft.assessed
    have two := isRight.assessed
    simp only [Pi.add_apply]
    omega

theorem Balanced.add {left right : Tally} (isLeft : Balanced left) (isRight : Balanced right) :
    Balanced (left + right) := by
  refine ⟨isLeft.toNested.add isRight.toNested, ?_⟩
  have one := isLeft.outcomes
  have two := isRight.outcomes
  simp only [Usage.outcomes, List.map_cons, List.map_nil, List.sum_cons, List.sum_nil,
    Pi.add_apply] at one two ⊢
  omega

theorem nested_sum {tallies : List Tally} (each : ∀ added ∈ tallies, Nested added) :
    Nested tallies.sum := by
  induction tallies with
  | nil => exact nested_zero
  | cons first rest ih =>
      rw [List.sum_cons]
      exact (each first List.mem_cons_self).add
        (ih fun added member => each added (List.mem_cons_of_mem _ member))

theorem balanced_sum {tallies : List Tally} (each : ∀ added ∈ tallies, Balanced added) :
    Balanced tallies.sum := by
  induction tallies with
  | nil => exact ⟨nested_zero, rfl⟩
  | cons first rest ih =>
      rw [List.sum_cons]
      exact (each first List.mem_cons_self).add
        (ih fun added member => each added (List.mem_cons_of_mem _ member))

theorem one_le_one {left right : Prop} [Decidable left] [Decidable right] (implies : left → right) :
    one left ≤ one right := by
  unfold one
  by_cases holds : left
  · rw [if_pos holds, if_pos (implies holds)]
  · rw [if_neg holds]
    exact Nat.zero_le _

theorem nested_tally (record : Record) (state : Classification) (cutoff : Day) :
    Nested (tally record state cutoff) := by
  constructor
  · intro stage
    show one ((stageOf state stage).applicable = true) +
      one ((stageOf state stage).applicable = false) = 1
    cases (stageOf state stage).applicable <;> rfl
  · exact fun stage => one_le_one And.left
  · exact one_le_one fun attested => ⟨attested.1, attested.2.2.1⟩
  · exact one_le_one fun passing => ⟨passing.1, .inl passing.2⟩
  · show one (_ ∧ _) + one (_ ∧ _) ≤ one (state.outcome = .delivered)
    by_cases delivered : state.outcome = .delivered
    · simp only [delivered, true_and]
      cases state.acceptance <;> decide
    · simp only [delivered, false_and]
      decide

/-- A classified record is balanced when it has an outcome. -/
theorem balanced_tally (record : Record) {state : Classification} (cutoff : Day)
    (known : state.outcome ∈ outcomes) : Balanced (tally record state cutoff) := by
  refine ⟨nested_tally record state cutoff, ?_⟩
  show (outcomes.map fun value => one (state.outcome = value)).sum = 1
  simp only [outcomes, List.mem_cons, List.not_mem_nil, or_false] at known
  rcases known with same | same | same | same | same <;> rw [same] <;> rfl

theorem nested_contribution (today : Day) (month : String) (record : Record) :
    Nested (contribution today month record) := by
  unfold contribution
  split
  · rename_i closeDay added placed
    obtain ⟨cutoff, rfl⟩ := added_of_counted placed
    split
    · exact nested_tally record _ cutoff
    · exact nested_zero
  · exact nested_zero

/-! ## The outcomes of records -/

/-- The status events of a record are terminal. -/
def TerminalStatuses (record : Record) : Prop :=
  ∀ event ∈ record.transitions.events, event.kind = .status → event.value ∈ terminalStatuses

theorem outcome_of_terminal {record : Record} (terminal : TerminalStatuses record)
    (closeDay cutoff : Day) : (classify record closeDay cutoff).outcome ∈ outcomes := by
  show (outcomeOf (usableEvents record closeDay cutoff) cutoff).1 ∈ outcomes
  unfold outcomeOf
  split
  · rename_i event last
    have member := List.mem_of_getLast? last
    obtain ⟨usable, isStatus⟩ := List.mem_filter.mp member
    obtain ⟨stamped, held, rfl⟩ := List.mem_map.mp (mem_sortBy.mp usable)
    have value := terminal stamped (List.mem_of_mem_filter held) (of_decide_eq_true isStatus)
    have sub : ∀ value ∈ terminalStatuses, value ∈ outcomes := by decide
    exact sub _ value
  · split <;> decide

theorem balanced_contribution {record : Record} (terminal : TerminalStatuses record) (today : Day)
    (month : String) : Balanced (contribution today month record) := by
  unfold contribution
  split
  · rename_i closeDay added placed
    obtain ⟨cutoff, rfl⟩ := added_of_counted placed
    split
    · exact balanced_tally record cutoff (outcome_of_terminal terminal _ _)
    · exact ⟨nested_zero, rfl⟩
  · exact ⟨nested_zero, rfl⟩

/-! ## The accumulators -/

theorem get?_raise (counts : Registry String Nat) (month asked : String) (added : Nat) :
    ((raise counts month added).get? asked).getD 0 =
      (counts.get? asked).getD 0 + if asked = month then added else 0 := by
  unfold raise
  rw [Registry.get?_set]
  by_cases same : asked = month
  · subst same
    simp
  · simp [same]

theorem total_raise (counts : Registry String Nat) (month : String) (added : Nat) :
    (raise counts month added).total id = counts.total id + added := by
  have exchanged := Registry.total_set id counts month ((counts.get? month).getD 0 + added)
  unfold raise
  rw [Option.map_id] at exchanged
  simp only [id] at exchanged ⊢
  omega

theorem isSome_raise (counts : Registry String Nat) (month asked : String) (added : Nat) :
    ((raise counts month added).get? asked).isSome = true ↔
      asked = month ∨ (counts.get? asked).isSome = true := by
  unfold raise
  rw [Registry.get?_set]
  by_cases same : asked = month <;> simp [same]

/-- How many records a cell counts. -/
def Cell.n (cell : Cell) : Nat := cell.counts .n

/-- Everything that is counted. -/
def Cohorts.size (cohorts : Cohorts) : Nat :=
  cohorts.months.total Cell.n + cohorts.openMonths.total id + cohorts.retrospective +
    cohorts.expiredExcluded

/-- **Wherever a record is placed, it is counted once.** -/
theorem size_add (cohorts : Cohorts) (month : String) {record : Record}
    (placed : placementOf today record = .ok placement) :
    (cohorts.add month placement).size = cohorts.size + 1 := by
  cases placement with
  | expired =>
      show _ + _ + _ + (cohorts.expiredExcluded + 1) = _ + _ + _ + cohorts.expiredExcluded + 1
      rfl
  | open_ =>
      unfold Cohorts.size
      simp only [Cohorts.add, total_raise]
      omega
  | retrospective =>
      show _ + _ + (cohorts.retrospective + 1) + _ = _
      unfold Cohorts.size
      simp only [Cohorts.add]
      omega
  | counted closeDay added =>
      obtain ⟨cutoff, rfl⟩ := added_of_counted placed
      have one : (addToCell (cohorts.months.get? month) closeDay
          (tally record (classify record closeDay cutoff) cutoff)).n =
          ((cohorts.months.get? month).map Cell.n).getD 0 + 1 := by
        cases cohorts.months.get? month <;> rfl
      have exchanged := Registry.total_set Cell.n cohorts.months month
        (addToCell (cohorts.months.get? month) closeDay
          (tally record (classify record closeDay cutoff) cutoff))
      rw [one] at exchanged
      unfold Cohorts.size
      simp only [Cohorts.add]
      omega

/-- What the loop over the records adds to the accumulators. -/
structure Accumulates (today : Day) (records : List Record) (before after : Cohorts) : Prop where
  size : after.size = before.size + records.length
  cohort : ∀ month, countsOf after.months month .n =
    countsOf before.months month .n + records.countP (StandsIn today .counted month)
  open_ : ∀ month, (after.openMonths.get? month).getD 0 =
    (before.openMonths.get? month).getD 0 + records.countP (StandsIn today .open_ month)
  retrospective : after.retrospective =
    before.retrospective + records.countP (standingOf today · = some .retrospective)
  expired : after.expiredExcluded =
    before.expiredExcluded + records.countP (standingOf today · = some .expired)
  incomplete : ∀ month, (after.incompleteMonths.get? month).isSome = true ↔
    (before.incompleteMonths.get? month).isSome = true ∨
      ∃ record ∈ records, StandsIn today .expired month record
  stands : ∀ record ∈ records, (standingOf today record).isSome = true

/-- One turn of the loop. -/
theorem accumulates_add (cohorts : Cohorts) {record : Record}
    (placed : placementOf today record = .ok placement) :
    Accumulates today [record] cohorts (cohorts.add record.month placement) := by
  have standing := standingOf_placed placed
  refine ⟨size_add cohorts record.month placed, fun month => ?_, fun month => ?_, ?_, ?_,
    fun month => ?_, ?_⟩
  · rw [countsOf_add cohorts placed, List.countP_singleton]
    refine congrArg (countsOf cohorts.months month .n + ·) ?_
    simp only [standsIn_iff placed, contribution, placed]
    cases placement with
    | counted closeDay added =>
        obtain ⟨cutoff, rfl⟩ := added_of_counted placed
        by_cases same : month = record.month
        · subst same
          simp [Placement.standing, tally]
        · simp [Placement.standing, same, Ne.symm same]
    | _ => rfl
  · rw [List.countP_singleton]
    simp only [standsIn_iff placed]
    cases placement with
    | open_ =>
        show ((raise cohorts.openMonths record.month 1).get? month).getD 0 = _
        rw [get?_raise]
        simp [Placement.standing]
    | _ => simp [Cohorts.add, Placement.standing]
  · rw [List.countP_singleton, standing]
    cases placement <;> simp [Cohorts.add, Placement.standing]
  · rw [List.countP_singleton, standing]
    cases placement <;> simp [Cohorts.add, Placement.standing]
  · simp only [List.mem_singleton, exists_eq_left, standsIn_iff placed]
    cases placement with
    | expired =>
        show ((raise cohorts.incompleteMonths record.month 1).get? month).isSome = true ↔ _
        rw [isSome_raise, or_comm]
        simp [Placement.standing]
    | _ => simp [Cohorts.add, Placement.standing]
  · intro other member
    obtain rfl := List.mem_singleton.mp member
    rw [standing]
    rfl

theorem Accumulates.refl (today : Day) (cohorts : Cohorts) : Accumulates today [] cohorts cohorts := by
  refine ⟨rfl, fun _ => rfl, fun _ => rfl, rfl, rfl, fun _ => ?_, nofun⟩
  simp

theorem Accumulates.trans {first second : List Record} {before middle after : Cohorts}
    (one : Accumulates today first before middle) (two : Accumulates today second middle after) :
    Accumulates today (first ++ second) before after := by
  refine ⟨?_, fun month => ?_, fun month => ?_, ?_, ?_, fun month => ?_, ?_⟩
  · rw [two.size, one.size, List.length_append, Nat.add_assoc]
  · rw [two.cohort, one.cohort, List.countP_append, Nat.add_assoc]
  · rw [two.open_, one.open_, List.countP_append, Nat.add_assoc]
  · rw [two.retrospective, one.retrospective, List.countP_append, Nat.add_assoc]
  · rw [two.expired, one.expired, List.countP_append, Nat.add_assoc]
  · rw [two.incomplete, one.incomplete, or_assoc]
    simp only [List.mem_append, or_and_right, exists_or]
  · intro record member
    rcases List.mem_append.mp member with left | right
    · exact one.stands record left
    · exact two.stands record right

theorem accumulates_addRecords {records : List Record} {cohorts after : Cohorts}
    (added : addRecords today cohorts records = .ok after) :
    Accumulates today records cohorts after := by
  induction records generalizing cohorts with
  | nil =>
      obtain rfl := Except.ok.inj added
      exact .refl today _
  | cons record rest ih =>
      rw [addRecords, bind_eq_ok] at added
      obtain ⟨placement, placed, later⟩ := added
      exact (accumulates_add cohorts placed).trans (ih later)

/-! ## The start and the end of the loop -/

/-- The accumulators hold the recorded counts of expired records and nothing else. -/
structure Carried (counts : List (String × Nat)) (cohorts : Cohorts) : Prop where
  months : cohorts.months = .empty
  openMonths : cohorts.openMonths = .empty
  retrospective : cohorts.retrospective = 0
  expired : cohorts.expiredExcluded = (counts.map Prod.snd).sum
  incomplete : ∀ month, (cohorts.incompleteMonths.get? month).isSome = true ↔
    month ∈ counts.map Prod.fst

theorem carried_expiredCohorts (store : Store) :
    Carried store.expiredCohorts.rows (expiredCohorts store) := by
  unfold expiredCohorts
  induction store.expiredCohorts.rows using List.reverseRecOn with
  | nil => exact ⟨rfl, rfl, rfl, rfl, fun month => by simp⟩
  | append_singleton counts row ih =>
      rw [List.foldl_append]
      refine ⟨ih.months, ih.openMonths, ih.retrospective, ?_, fun month => ?_⟩
      · rw [List.map_append, List.sum_append]
        exact congrArg (· + _) ih.expired
      · show ((raise _ row.1 row.2).get? month).isSome = true ↔ _
        rw [isSome_raise, ih.incomplete, List.map_append, List.mem_append, or_comm]
        simp

theorem size_of_carried {counts : List (String × Nat)} {cohorts : Cohorts}
    (carried : Carried counts cohorts) : cohorts.size = (counts.map Prod.snd).sum := by
  unfold Cohorts.size
  rw [carried.months, carried.openMonths, carried.retrospective, carried.expired]
  exact Nat.zero_add _

/-- A cell of a month from which records expired. -/
def Cell.marked (count : Nat) (cell : Cell) : Cell :=
  { cell with incomplete := true, expiredExcluded := some count }

/-- One month is marked. -/
theorem get?_markOne (months : Registry String Cell) (row : String × Nat) (month : String) :
    (match months.get? row.1 with
      | some cell => months.set row.1 { cell with incomplete := true, expiredExcluded := some row.2 }
      | none => months).get? month =
      (months.get? month).map fun cell => if row.1 = month then cell.marked row.2 else cell := by
  split
  · rename_i cell held
    rw [Registry.get?_set]
    by_cases same : month = row.1
    · subst same
      rw [if_pos rfl, held]
      simp [Cell.marked]
    · rw [if_neg same]
      simp [Ne.symm same]
  · rename_i held
    by_cases same : month = row.1
    · subst same
      rw [held]
      rfl
    · simp [Ne.symm same]

/-- **The cells of incomplete months are marked, the others stay.** -/
theorem get?_markIncomplete (months : Registry String Cell) (incomplete : Registry String Nat)
    (month : String) :
    (markIncomplete months incomplete).get? month =
      (months.get? month).map fun cell =>
        ((incomplete.get? month).map fun count => cell.marked count).getD cell := by
  have looked : incomplete.get? month = (incomplete.rows.find? fun row => row.1 = month).map Prod.snd :=
    rfl
  rw [looked]
  unfold markIncomplete
  have distinct := incomplete.distinct
  revert distinct
  clear looked
  induction incomplete.rows generalizing months with
  | nil =>
      intro _
      simp
  | cons row rest ih =>
      intro distinct
      obtain ⟨fresh, distinct⟩ := List.nodup_cons.mp distinct
      rw [List.foldl_cons, ih _ distinct]
      refine (congrArg (Option.map _) (get?_markOne months row month)).trans ?_
      rw [Option.map_map, List.find?_cons]
      refine congrArg (Option.map · _) (funext fun cell => ?_)
      by_cases same : row.1 = month
      · have absent : (rest.find? fun row => row.1 = month) = none := by
          refine List.find?_eq_none.mpr fun other member found => fresh ?_
          exact List.mem_map.mpr ⟨other, member, (of_decide_eq_true found).trans same.symm⟩
        simp [same, absent]
      · simp [same]

theorem total_markIncomplete (months : Registry String Cell) (incomplete : Registry String Nat) :
    (markIncomplete months incomplete).total Cell.n = months.total Cell.n := by
  unfold markIncomplete
  induction incomplete.rows generalizing months with
  | nil => rfl
  | cons row rest ih =>
      rw [List.foldl_cons, ih]
      split
      · rename_i cell held
        have exchanged := Registry.total_set Cell.n months row.1
          { cell with incomplete := true, expiredExcluded := some row.2 }
        rw [held] at exchanged
        exact Nat.add_right_cancel exchanged
      · rfl

/-! ## The report -/

/-- A month that a report does not vouch for: its cell is marked, or it is listed without a cell. -/
def Report.Flags (report : Report) (month : String) : Prop :=
  (∃ cell, report.cohorts.get? month = some cell ∧ cell.incomplete = true) ∨
    (report.incompleteCohorts.get? month).isSome = true

/-- What the rates of a cell have to do with each other. -/
structure Reconciled (counts : Tally) : Prop where
  outcomes : (outcomes.map fun value => counts (.outcome value)).sum = counts .n
  followUp : (metrics counts).followUpCoverage.numerator + counts (.outcome .unknown) = counts .n
  stages : ∀ reach ∈ (metrics counts).stageReach,
    reach.2.1.denominator + reach.2.2 = counts .n ∧ reach.2.1.numerator ≤ reach.2.1.denominator
  attested : (metrics counts).independentlyAttestedSuccess.numerator ≤
    (metrics counts).assessedAcceptanceIndependent.numerator
  passing : (metrics counts).assessedAcceptanceIndependent.numerator ≤
    (metrics counts).assessedAcceptanceIndependent.denominator
  assessed : (metrics counts).assessedAcceptanceIndependent.denominator +
    (metrics counts).assessedAcceptanceSelfReport.denominator ≤ counts (.outcome .delivered)

/-- **The account of a report**: every record is counted once, and the counts add up. -/
structure Conserves (store : Store) (report : Report) : Prop where
  once : ∀ record ∈ store.records.values, ∃ standing,
    standingOf report.asOf record = some standing
  cohort : ∀ month cell, report.cohorts.get? month = some cell →
    cell.n = store.records.values.countP (StandsIn report.asOf .counted month)
  open_ : ∀ month, (report.openCohorts.get? month).getD 0 =
    store.records.values.countP (StandsIn report.asOf .open_ month)
  retrospective : report.retrospectiveExcluded =
    store.records.values.countP (standingOf report.asOf · = some .retrospective)
  expired : report.expiredExcluded = store.expiredCohorts.total id +
    store.records.values.countP (standingOf report.asOf · = some .expired)
  total : report.cohorts.total Cell.n + report.openCohorts.total id + report.retrospectiveExcluded +
    report.expiredExcluded = store.expiredCohorts.total id + store.records.values.length
  reconciled : ∀ month cell, report.cohorts.get? month = some cell → Reconciled cell.counts
  incomplete : ∀ month, (∃ record ∈ store.records.values, StandsIn report.asOf .expired month record) ∨
    (store.expiredCohorts.get? month).isSome = true → report.Flags month

theorem rate_of_le {numerator denominator : Nat} (le : numerator ≤ denominator) :
    rate numerator denominator = ⟨numerator, denominator⟩ := by
  unfold rate
  split
  · rename_i zero
    obtain rfl : numerator = 0 := by omega
    rw [zero]
  · rfl

theorem denominator_rate (numerator denominator : Nat) :
    (rate numerator denominator).denominator = denominator := by
  unfold rate
  split
  · rename_i zero
    exact zero.symm
  · rfl

theorem numerator_rate_le (numerator denominator : Nat) :
    (rate numerator denominator).numerator ≤ numerator := by
  unfold rate
  split
  · exact Nat.zero_le _
  · exact Nat.le_refl _

theorem Balanced.reconciled {counts : Tally} (balanced : Balanced counts) : Reconciled counts := by
  have sum := balanced.outcomes
  simp only [Usage.outcomes, List.map_cons, List.map_nil, List.sum_cons, List.sum_nil] at sum
  constructor
  · exact balanced.outcomes
  · show (rate _ (counts .n)).numerator + _ = _
    rw [rate_of_le (by omega)]
    show _ + _ + _ + _ + _ = _
    omega
  · intro reach member
    obtain ⟨stage, -, rfl⟩ := List.mem_map.mp member
    show (rate _ _).denominator + _ = _ ∧ (rate _ _).numerator ≤ (rate _ _).denominator
    rw [rate_of_le (balanced.complete stage)]
    exact ⟨balanced.stages stage, balanced.complete stage⟩
  · show (rate _ _).numerator ≤ (rate _ _).numerator
    rw [rate_of_le balanced.passing]
    exact (numerator_rate_le _ _).trans balanced.attested
  · show (rate _ _).numerator ≤ (rate _ _).denominator
    rw [rate_of_le balanced.passing]
    exact balanced.passing
  · show (rate _ _).denominator + (rate _ _).denominator ≤ _
    rw [denominator_rate, denominator_rate]
    exact balanced.assessed

/-- The accumulators that a report is made of. -/
structure Computed (store : Store) (report : Report) (cohorts : Cohorts) : Prop where
  added : addRecords report.asOf (expiredCohorts store) (reportedRecords store) = .ok cohorts
  cells : report.cohorts = markIncomplete cohorts.months cohorts.incompleteMonths
  openCohorts : report.openCohorts = cohorts.openMonths
  retrospective : report.retrospectiveExcluded = cohorts.retrospective
  expired : report.expiredExcluded = cohorts.expiredExcluded
  incomplete : report.incompleteCohorts = cohorts.incompleteMonths.filter fun month _ =>
    (cohorts.months.get? month).isNone
  truncated : report.truncated = decide (maxAggregateRecords < store.records.rows.length)

theorem exists_computed {F : Type} {store : Store} {asOf : Json F} {report : Report}
    (computed : computeReport store asOf = .ok report) : ∃ cohorts, Computed store report cohorts := by
  unfold computeReport at computed
  simp only [bind_eq_ok, pure_eq_ok] at computed
  obtain ⟨today, _, cohorts, added, rfl⟩ := computed
  exact ⟨cohorts, added, rfl, rfl, rfl, rfl, rfl, rfl⟩

/-- No cell is marked while records are added. -/
def Cohorts.Unmarked (cohorts : Cohorts) : Prop :=
  ∀ month cell, cohorts.months.get? month = some cell → cell.incomplete = false

theorem Cohorts.Unmarked.add {cohorts : Cohorts} (unmarked : cohorts.Unmarked) (month : String)
    (placement : Placement) : (cohorts.add month placement).Unmarked := by
  cases placement with
  | counted closeDay added =>
      intro asked cell found
      simp only [Cohorts.add, Registry.get?_set] at found
      split at found
      · obtain rfl := Option.some.inj found
        cases held : cohorts.months.get? month with
        | none => rfl
        | some cell => exact unmarked month cell held
      · exact unmarked asked cell found
  | _ => exact unmarked

theorem Cohorts.Unmarked.addRecords {records : List Record} {cohorts after : Cohorts}
    (unmarked : cohorts.Unmarked) (added : Usage.addRecords today cohorts records = .ok after) :
    after.Unmarked := by
  induction records generalizing cohorts with
  | nil =>
      obtain rfl := Except.ok.inj added
      exact unmarked
  | cons record rest ih =>
      rw [Usage.addRecords, bind_eq_ok] at added
      obtain ⟨placement, -, later⟩ := added
      exact ih (unmarked.add record.month placement) later

namespace Computed

variable {store : Store} {report : Report} {cohorts : Cohorts} (computed : Computed store report cohorts)

include computed

theorem unmarked : cohorts.Unmarked := by
  have start : (expiredCohorts store).Unmarked := by
    intro month cell found
    rw [(carried_expiredCohorts store).months] at found
    cases found
  exact start.addRecords computed.added

/-- A month is incomplete in the accumulators exactly when the report flags it. -/
theorem flags_iff {month : String} :
    (cohorts.incompleteMonths.get? month).isSome = true ↔ report.Flags month := by
  unfold Report.Flags
  rw [computed.cells, computed.incomplete, get?_markIncomplete, Registry.get?_filter]
  cases held : cohorts.months.get? month with
  | none => cases cohorts.incompleteMonths.get? month <;> simp [Option.filter]
  | some cell =>
      have plain := computed.unmarked month cell held
      cases cohorts.incompleteMonths.get? month <;> simp [Option.filter, Cell.marked, plain]

/-- The cells of a report count what was added. -/
theorem counts_of_get? {month : String} {cell : Cell} (found : report.cohorts.get? month = some cell) :
    cell.counts = countsOf cohorts.months month := by
  rw [computed.cells, get?_markIncomplete] at found
  obtain ⟨held, isHeld, rfl⟩ := Option.map_eq_some_iff.mp found
  unfold countsOf
  rw [isHeld]
  cases cohorts.incompleteMonths.get? month <;> rfl

end Computed

/-- The records of a store stand under their workflows, and their status events are terminal. -/
structure Coherent (store : Store) : Prop where
  keyed : ∀ key record, store.records.get? key = some record → record.workflowRef = key
  terminal : ∀ record ∈ store.records.values, TerminalStatuses record

theorem Coherent.distinct {store : Store} (coherent : Coherent store) :
    (store.records.values.map Record.workflowRef).Nodup := by
  have keys : store.records.values.map Record.workflowRef = store.records.rows.map Prod.fst := by
    unfold Registry.values
    rw [List.map_map]
    refine List.map_congr_left fun row member => ?_
    exact coherent.keyed row.1 row.2 (Registry.mem_rows_iff.mp member)
  rw [keys]
  exact store.records.distinct

theorem reportedRecords_perm {store : Store} (few : store.records.rows.length ≤ maxAggregateRecords) :
    (reportedRecords store).Perm store.records.values := by
  unfold reportedRecords
  have same : (sortBy Record.workflowRef store.records.values).Perm store.records.values :=
    perm_sortBy _
  rw [List.take_of_length_le]
  · exact same
  · rw [same.length_eq]
    unfold Registry.values
    rw [List.length_map]
    exact few

/-- The open count of a month counts its open records. -/
theorem Computed.open_ {store : Store} {report : Report} {cohorts : Cohorts}
    (computed : Computed store report cohorts)
    (few : store.records.rows.length ≤ maxAggregateRecords) (month : String) :
    (report.openCohorts.get? month).getD 0 =
      store.records.values.countP (StandsIn report.asOf .open_ month) := by
  have counts := (accumulates_addRecords computed.added).open_ month
  rw [(carried_expiredCohorts store).openMonths, (reportedRecords_perm few).countP_eq] at counts
  rw [computed.openCohorts, counts]
  exact Nat.zero_add _

/-- A month from which a record expired is flagged. -/
theorem Computed.flags_of_expired {store : Store} {report : Report} {cohorts : Cohorts}
    (computed : Computed store report cohorts)
    (few : store.records.rows.length ≤ maxAggregateRecords) {month : String}
    (cause : (∃ record ∈ store.records.values, StandsIn report.asOf .expired month record) ∨
      (store.expiredCohorts.get? month).isSome = true) : report.Flags month := by
  refine computed.flags_iff.mp (((accumulates_addRecords computed.added).incomplete month).mpr ?_)
  rcases cause with ⟨record, member, stands⟩ | housekept
  · exact .inr ⟨record, (reportedRecords_perm few).mem_iff.mpr member, stands⟩
  · refine .inl (((carried_expiredCohorts store).incomplete month).mpr ?_)
    by_contra absent
    rw [Registry.get?_eq_none.mpr absent] at housekept
    cases housekept

/-- **A report conserves the records of a coherent store.** -/
theorem conserves_of_computed {store : Store} {report : Report} {cohorts : Cohorts}
    (coherent : Coherent store) (few : store.records.rows.length ≤ maxAggregateRecords)
    (computed : Computed store report cohorts) : Conserves store report := by
  have start := carried_expiredCohorts store
  have loop := accumulates_addRecords computed.added
  have same := reportedRecords_perm few
  have recorded : ((store.expiredCohorts.rows.map Prod.snd).sum) = store.expiredCohorts.total id := rfl
  refine ⟨fun record member => ?_, fun month cell found => ?_, fun month => ?_, ?_, ?_, ?_,
    fun month cell found => ?_, fun month cause => ?_⟩
  · exact Option.isSome_iff_exists.mp (loop.stands record (same.mem_iff.mpr member))
  · have counts := loop.cohort month
    rw [start.months, ← computed.counts_of_get? found, same.countP_eq] at counts
    exact counts.trans (Nat.zero_add _)
  · exact computed.open_ few month
  · rw [computed.retrospective, loop.retrospective, start.retrospective, same.countP_eq, Nat.zero_add]
  · rw [computed.expired, loop.expired, start.expired, same.countP_eq, recorded]
  · have size := loop.size
    rw [size_of_carried start, same.length_eq, recorded] at size
    rw [computed.cells, total_markIncomplete, computed.openCohorts, computed.retrospective,
      computed.expired]
    exact size
  · rw [computed.counts_of_get? found, countsOf_addRecords computed.added]
    have zero : countsOf (expiredCohorts store).months month = 0 := by
      rw [start.months]
      rfl
    rw [zero, zero_add]
    refine (balanced_sum fun added member => ?_).reconciled
    obtain ⟨record, among, rfl⟩ := List.mem_map.mp member
    exact balanced_contribution (coherent.terminal record (same.mem_iff.mp among)) _ _
  · exact computed.flags_of_expired few cause

/-- **The order of the records does not matter.** -/
theorem computeReport_reordered {F : Type} {store : Store} (coherent : Coherent store)
    {records : Registry String Record} (same : records.rows.Perm store.records.rows)
    (asOf : Json F) :
    computeReport { store with records } asOf = computeReport store asOf := by
  have reported : reportedRecords { store with records } = reportedRecords store :=
    congrArg (List.take _) (sortBy_congr (same.symm.map Prod.snd) coherent.distinct).symm
  unfold computeReport
  rw [reported]
  simp only [same.length_eq]
  rfl

/-! ## The stores that calls can reach -/

section Reachable

variable {F : Type}

theorem checkEvent_value {start last : Day} {applicable : List Stage} {path : String}
    {document : Json F} {event : Event}
    (checked : checkEvent start last applicable path document = .ok event) :
    event.value ∈ eventValues event.kind := by
  unfold checkEvent at checked
  simp only [bind_eq_ok, pure_eq_ok, fetch_eq_ok, readOne_eq_some] at checked
  obtain ⟨_, _, _, _, kind, _, _, _, _, _, _, _, value, ⟨allowed, _⟩, _, _, rfl⟩ := checked
  exact allowed

theorem checkEvents_values {start last : Day} {applicable : List Stage} {documents : List (Json F)}
    {earlier events : List Event}
    (checked : checkEvents start last applicable earlier documents = .ok events)
    (held : ∀ event ∈ earlier, event.value ∈ eventValues event.kind) :
    ∀ event ∈ events, event.value ∈ eventValues event.kind := by
  induction documents generalizing earlier with
  | nil =>
      obtain rfl := Except.ok.inj checked
      exact held
  | cons document rest ih =>
      rw [checkEvents] at checked
      simp only [bind_eq_ok] at checked
      obtain ⟨event, one, _, _, others⟩ := checked
      refine ih others fun other member => ?_
      rcases List.mem_append.mp member with before | here
      · exact held other before
      · obtain rfl := List.mem_singleton.mp here
        exact checkEvent_value one

theorem checkTransitions_values {start last : Day} {applicable : List Stage} {document : Json F}
    {transitions : Transitions}
    (checked : checkTransitions start last applicable document = .ok transitions) :
    ∀ event ∈ transitions.events, event.value ∈ eventValues event.kind := by
  unfold checkTransitions at checked
  split at checked
  · cases checked
  · split at checked
    · cases checked
    · split at checked
      · cases checked
      · split at checked
        · cases checked
        · rename_i events done
          simp only [bind_eq_ok, pure_eq_ok] at checked
          obtain ⟨_, _, rfl⟩ := checked
          exact checkEvents_values done fun _ member => absurd member List.not_mem_nil
  · cases checked

variable [JsonFloat F]

/-- The events of an export have the values of their kinds. -/
theorem validateEnvelope_values {document : Json F} {envelope : Envelope F}
    (valid : validateEnvelope document = .ok envelope) :
    ∀ event ∈ envelope.snapshot.transitions.events, event.value ∈ eventValues event.kind := by
  unfold validateEnvelope at valid
  simp only [bind_eq_ok, pure_eq_ok] at valid
  obtain ⟨_, _, _, _, _, _, _, _, snapshot, checked, _, _, rfl⟩ := valid
  unfold checkSnapshot at checked
  simp only [bind_eq_ok, pure_eq_ok] at checked
  obtain ⟨_, _, _, _, _, _, _, _, _, _, period, _, checked⟩ := checked
  obtain ⟨_, _, _, _, _, _, _, _, outcome, _, checked⟩ := checked
  obtain ⟨_, _, _, _, transitions, read, _, _, rfl⟩ := checked
  exact checkTransitions_values read

theorem terminal_of_exported {record : Record} (exported : Exported F record) :
    TerminalStatuses record := by
  obtain ⟨document, envelope, valid, -, -, same⟩ := exported
  intro stamped member isStatus
  have listed : stamped.toEvent ∈ envelope.snapshot.transitions.events :=
    same ▸ List.mem_map_of_mem member
  have value := validateEnvelope_values valid _ listed
  rw [isStatus] at value
  exact value

variable {sha256 : ByteArray → String}

theorem Reachable.coherent {calls : List (Call F)} {steward : Steward}
    (reachable : Reachable sha256 calls steward) : Coherent steward.store where
  keyed := reachable.covered.keyed
  terminal := by
    intro record member
    obtain ⟨key, held⟩ := Registry.mem_values.mp member
    exact terminal_of_exported (reachable.exported key record held)

/-! ## Housekeeping -/

/-- The months of recorded expiries are kept. -/
def KeepsExpired (store after : Store) : Prop :=
  ∀ month, (store.expiredCohorts.get? month).isSome = true →
    (after.expiredCohorts.get? month).isSome = true

omit [JsonFloat F] in
theorem KeepsExpired.of_same {store after : Store}
    (same : after.expiredCohorts = store.expiredCohorts) : KeepsExpired store after :=
  fun month held => by rw [same]; exact held

theorem expireAdmissions_frame (now : Day) (rows : List (String × Admission)) (store : Store)
    (removed : Nat) :
    (expireAdmissions now store removed rows).1.records = store.records ∧
      (expireAdmissions now store removed rows).1.expiredCohorts = store.expiredCohorts := by
  induction rows generalizing store removed with
  | nil => exact ⟨rfl, rfl⟩
  | cons row rest ih =>
      obtain ⟨ref, admission⟩ := row
      rw [expireAdmissions]
      cases lastValidDay admission with
      | error fault => exact ⟨rfl, rfl⟩
      | ok expiry =>
          simp only
          split
          · exact ih (bury store ref admission expiry) _
          · exact ih store _

/-- The months of the deleted records are recorded. -/
theorem isSome_expireRecords (now : Day) (store : Store) (month : String) :
    ((expireRecords now store).1.expiredCohorts.get? month).isSome = true ↔
      (store.expiredCohorts.get? month).isSome = true ∨
        ∃ record ∈ store.records.values, record.expiresAt < now ∧ record.month = month := by
  have fold : ∀ (expired : List Record) (start : Registry String Nat),
      ((expired.foldl (fun counts record => raise counts record.month 1) start).get? month).isSome =
        true ↔ (start.get? month).isSome = true ∨ ∃ record ∈ expired, record.month = month := by
    intro expired
    induction expired with
    | nil => simp
    | cons record rest ih =>
        intro start
        rw [List.foldl_cons, ih, isSome_raise]
        simp only [List.exists_mem_cons_iff, @eq_comm _ month, or_comm, or_assoc]
  refine (fold _ _).trans (or_congr_right ?_)
  simp only [List.mem_filter, decide_eq_true_iff, and_assoc]

omit [JsonFloat F] in
/-- **Expiry records the month of every record that it deletes**, also when it raises on the way. -/
theorem expire_records (store : Store) (today : Json F) :
    KeepsExpired store (expire store today).1 ∧
      ∀ key record, store.records.get? key = some record →
        (expire store today).1.records.get? key = none →
        ((expire store today).1.expiredCohorts.get? record.month).isSome = true := by
  unfold expire
  cases parseDay today "day" with
  | error fault =>
      refine ⟨.of_same rfl, fun key record held gone => ?_⟩
      rw [held] at gone
      cases gone
  | ok now =>
      have frame := expireAdmissions_frame now store.admissions.rows store 0
      simp only
      cases loop : expireAdmissions now store 0 store.admissions.rows with
      | mk buried outcome =>
          rw [loop] at frame
          obtain ⟨records, cohorts⟩ := frame
          simp only at records cohorts
          cases outcome with
          | error fault =>
              refine ⟨.of_same cohorts, fun key record held gone => ?_⟩
              rw [records, held] at gone
              cases gone
          | ok admissions =>
              have keeps : KeepsExpired store (expireRecords now buried).1 := by
                intro month held
                refine (isSome_expireRecords now buried month).mpr (.inl ?_)
                rw [cohorts]
                exact held
              have deleted : ∀ key record, store.records.get? key = some record →
                  (expireRecords now buried).1.records.get? key = none →
                  ((expireRecords now buried).1.expiredCohorts.get? record.month).isSome = true := by
                intro key record held gone
                refine (isSome_expireRecords now buried _).mpr (.inr ⟨record, ?_, ?_, rfl⟩)
                · rw [records]
                  exact Registry.mem_values.mpr ⟨key, held⟩
                · simp only [expireRecords, Registry.get?_filter, records, held] at gone
                  by_contra kept
                  simp [Option.filter, kept] at gone
              simp only
              cases keptQuarantine now (expireRecords now buried).1.quarantine with
              | error fault => exact ⟨keeps, deleted⟩
              | ok kept => exact ⟨keeps, deleted⟩

theorem keepsExpired_step {steward next : Steward} {call : Call F}
    (step : Step sha256 steward call next) : KeepsExpired steward.store next.store := by
  obtain ⟨-, rfl⟩ := step
  cases call with
  | issueAdmission notice issuedDay admissionRef capability =>
      show KeepsExpired _ (Usage.issueAdmission sha256 _ _ _ _ _).1
      rcases issueAdmission_move sha256 steward.store notice issuedDay admissionRef
        capability with ⟨_, -, same⟩ | ⟨_, _, _, _, -, -, same⟩
      · rw [same]
        exact .of_same rfl
      · rw [same]
        exact .of_same rfl
  | importExport payload capability receiptDay =>
      show KeepsExpired _ (Usage.importExport sha256 _ _ _ _).1
      have move := importExport_move sha256 steward.store payload capability receiptDay
      revert move
      generalize Usage.importExport sha256 steward.store payload capability receiptDay = outcome
      intro move
      cases move with
      | accepted received was absent prospective expiresAt receipted same =>
          rcases same with rfl | rfl <;> exact .of_same rfl
      | _ => exact .of_same rfl
  | withdraw admissionRef capability decisionDay receiptId =>
      show KeepsExpired _ (Usage.withdraw sha256 _ _ _ _ _).1
      rcases withdraw_move sha256 steward.store admissionRef capability decisionDay
        receiptId with ⟨_, same⟩ | ⟨_, -, _, _, same, -⟩
      · rw [same]
        exact .of_same rfl
      · rw [same]
        exact .of_same rfl
  | expire today => exact (expire_records steward.store today).1

theorem keepsExpired_run {steward last : Steward} {calls : List (Call F)}
    (run : Run (Step sha256) steward calls last) : KeepsExpired steward.store last.store :=
  run.invariant (I := fun held => KeepsExpired steward.store held.store)
    (fun _ _ _ kept step month held => keepsExpired_step step month (kept month held))
    fun _ held => held

end Reachable

end Aegis.Usage
