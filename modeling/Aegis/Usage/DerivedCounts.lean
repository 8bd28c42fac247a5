/-
# Usage.DerivedCounts — what follows from a published entry by subtraction

An entry publishes counts of which some are parts of others, so their differences are disclosed
with them. `PublishedCohort.disclosed` lists the counts and the differences.

The floors of `publishable_report` cover every count that is published and the inapplicable records
of a stage. They cover neither the records that a stage applies to and did not complete nor the
deliveries without an attested success: `disclosed_floored_iff`.
-/
import Aegis.Usage.Publishing

namespace Aegis.Usage

open Aegis.Lib
open Aegis.Lib.Guarded
open Aegis.Lib.Runs

set_option autoImplicit false

def AllFloored (counts : List Nat) : Prop := ∀ count ∈ counts, Floored count

instance (counts : List Nat) : Decidable (AllFloored counts) :=
  inferInstanceAs (Decidable (∀ _ ∈ _, _))

@[simp] theorem allFloored_nil : AllFloored [] := nofun

@[simp] theorem allFloored_cons {count : Nat} {counts : List Nat} :
    AllFloored (count :: counts) ↔ Floored count ∧ AllFloored counts :=
  List.forall_mem_cons

@[simp] theorem allFloored_append {left right : List Nat} :
    AllFloored (left ++ right) ↔ AllFloored left ∧ AllFloored right :=
  List.forall_mem_append

/-! ## Disclosed counts -/

/-- The two counts of a rate. -/
def Rate.counts (rate : Rate) : List Nat := [rate.numerator, rate.denominator]

/-- A stage cell discloses its counts, the applicable records that did not complete the stage and the
rest of the cohort. -/
def stageDisclosed (n : Nat) : Shown (Rate × Nat) → List Nat
  | .value (rate, notApplicable) =>
      rate.counts ++ [notApplicable, rate.denominator - rate.numerator, n - rate.denominator]
  | .withheld _ => []

/-- An attestation cell discloses its counts and the deliveries without an attested success. -/
def attestedDisclosed (delivered : Nat) : Shown Rate → List Nat
  | .value rate => rate.counts ++ [delivered - rate.numerator]
  | .withheld _ => []

def lateDisclosed : Shown Nat → List Nat
  | .value value => [value]
  | .withheld _ => []

/-- What an entry publishes, and what follows from it by subtraction. -/
def PublishedCohort.disclosed (entry : PublishedCohort) : List Nat :=
  entry.n :: (entry.outcomes.map Prod.snd ++ entry.delivery30d.counts ++
    entry.followUpCoverage.counts ++
    entry.stageReach.flatMap (fun reach => stageDisclosed entry.n reach.2) ++
    attestedDisclosed (entry.count .delivered) entry.independentlyAttestedSuccess ++
    lateDisclosed entry.lateEntries ++ lateDisclosed entry.lateEvents)

/-! ## The condition -/

/-- The stage cell passes the floors. -/
def Cell.ShowsStage (cell : Cell) (stage : Stage) : Prop :=
  stageFloor ≤ cell.counts (.stageDenominator stage) ∧
    Floored (cell.counts (.stageComplete stage)) ∧ Floored (cell.counts (.stageNotApplicable stage))

/-- No stage cell that passes the floors leaves a few records incomplete, and when the attested
successes pass theirs they are all deliveries or leave out several. -/
structure Cell.Separated (cell : Cell) : Prop where
  stages : ∀ stage, cell.ShowsStage stage →
    cell.counts (.stageComplete stage) = cell.counts (.stageDenominator stage) ∨
      cell.counts (.stageComplete stage) + cellFloor ≤ cell.counts (.stageDenominator stage)
  attested : Floored (cell.counts .attestedSuccess) →
    cell.counts .attestedSuccess = cell.counts (.outcome .delivered) ∨
      cell.counts .attestedSuccess + cellFloor ≤ cell.counts (.outcome .delivered)

/-! ## Each cell of an entry -/

theorem Floored.add {left right : Nat} (isLeft : Floored left) (isRight : Floored right) :
    Floored (left + right) := by
  unfold Floored at *
  omega

theorem floored_of_floor {count : Nat} (enough : outcomeFloor ≤ count) : Floored count := by
  unfold Floored cellFloor
  unfold outcomeFloor at enough
  omega

/-- A difference is small exactly when the part is neither the whole nor far below it. -/
theorem floored_sub_iff {part whole : Nat} (le : part ≤ whole) :
    Floored (whole - part) ↔ part = whole ∨ part + cellFloor ≤ whole := by
  unfold Floored
  omega

theorem allFloored_flooredLate (value : Nat) : AllFloored (lateDisclosed (flooredLate value)) := by
  unfold flooredLate
  split
  · exact allFloored_nil
  · rename_i large
    exact allFloored_cons.mpr ⟨floored_iff.mpr large, allFloored_nil⟩

theorem allFloored_attested {counts : Tally} (n : outcomeFloor ≤ counts .n)
    (le : counts .attestedSuccess ≤ counts (.outcome .delivered)) :
    AllFloored (attestedDisclosed (counts (.outcome .delivered))
        (flooredAttestation (metrics counts).independentlyAttestedSuccess)) ↔
      (Floored (counts .attestedSuccess) →
        counts .attestedSuccess = counts (.outcome .delivered) ∨
          counts .attestedSuccess + cellFloor ≤ counts (.outcome .delivered)) := by
  have positive : counts .n ≠ 0 := by
    unfold outcomeFloor at n
    omega
  have same : (metrics counts).independentlyAttestedSuccess = ⟨counts .attestedSuccess, counts .n⟩ :=
    if_neg positive
  rw [same]
  unfold flooredAttestation
  by_cases small : 0 < counts .attestedSuccess ∧ counts .attestedSuccess < cellFloor
  · have withheld : ¬ Floored (counts .attestedSuccess) := fun floored => floored_iff.mp floored small
    rw [if_pos small]
    exact ⟨fun _ floored => absurd floored withheld, fun _ => allFloored_nil⟩
  · have floored := floored_iff.mpr small
    rw [if_neg small]
    simp only [attestedDisclosed, Rate.counts, allFloored_append, allFloored_cons, allFloored_nil,
      and_true, floored, floored_of_floor n, true_and, true_implies, floored_sub_iff le]

theorem allFloored_stage {counts : Tally} (nested : Nested counts) (stage : Stage) :
    AllFloored (stageDisclosed (counts .n)
        (flooredStage (rate (counts (.stageComplete stage)) (counts (.stageDenominator stage)),
          counts (.stageNotApplicable stage)))) ↔
      (stageFloor ≤ counts (.stageDenominator stage) ∧ Floored (counts (.stageComplete stage)) ∧
          Floored (counts (.stageNotApplicable stage)) →
        counts (.stageComplete stage) = counts (.stageDenominator stage) ∨
          counts (.stageComplete stage) + cellFloor ≤ counts (.stageDenominator stage)) := by
  rw [rate_of_le (nested.complete stage)]
  unfold flooredStage
  split
  · rename_i shown
    have whole := nested.stages stage
    -- the rest of the cohort is the inapplicable records
    have rest : counts .n - counts (.stageDenominator stage) = counts (.stageNotApplicable stage) := by
      omega
    have denominator : Floored (counts (.stageDenominator stage)) := floored_of_floor shown.1
    have complete : Floored (counts (.stageComplete stage)) := shown.2.1
    have notApplicable : Floored (counts (.stageNotApplicable stage)) := shown.2.2
    simp only [stageDisclosed, Rate.counts, rest, allFloored_append, allFloored_cons, allFloored_nil,
      and_true, complete, denominator, notApplicable, true_and,
      floored_sub_iff (nested.complete stage), (show stageFloor ≤ _ from shown.1), true_implies]
  · rename_i hidden
    exact ⟨fun _ shown => absurd shown hidden, fun _ => allFloored_nil⟩

/-- **The entry of a publishable month discloses no small count exactly when its cell is separated.** -/
theorem disclosed_entryOf {report : Report} {month : String} {cell : Cell} (nested : Nested cell.counts)
    (publishable : Publishable report month cell) :
    AllFloored (entryOf month cell).disclosed ↔ cell.Separated := by
  have enough : outcomeFloor ≤ cell.counts .n := publishable.floor
  have n : Floored (cell.counts .n) := floored_of_floor enough
  have positive : cell.counts .n ≠ 0 := by
    unfold outcomeFloor at enough
    omega
  have small : ∀ value ∈ outcomes, Floored (cell.counts (.outcome value)) := publishable.outcomes
  have delivered := small .delivered (by decide)
  have outcomes : AllFloored ((entryOf month cell).outcomes.map Prod.snd) := by
    intro count member
    simp only [entryOf, List.map_map, List.mem_map, Function.comp_apply] at member
    obtain ⟨value, among, rfl⟩ := member
    exact small value among
  have delivery : AllFloored (entryOf month cell).delivery30d.counts := by
    show AllFloored (rate _ _).counts
    unfold rate
    rw [if_neg positive]
    exact allFloored_cons.mpr ⟨delivered, allFloored_cons.mpr ⟨n, allFloored_nil⟩⟩
  have followUp : AllFloored (entryOf month cell).followUpCoverage.counts := by
    have discovered := ((delivered.add (small .failed (by decide))).add
      (small .abandoned (by decide))).add (small .ongoing (by decide))
    show AllFloored (rate _ _).counts
    unfold rate
    rw [if_neg positive]
    exact allFloored_cons.mpr ⟨discovered, allFloored_cons.mpr ⟨n, allFloored_nil⟩⟩
  have stages : AllFloored ((entryOf month cell).stageReach.flatMap fun reach =>
      stageDisclosed (entryOf month cell).n reach.2) ↔
        ∀ stage ∈ Usage.stages, AllFloored (stageDisclosed (cell.counts .n)
          (flooredStage (rate (cell.counts (.stageComplete stage))
            (cell.counts (.stageDenominator stage)), cell.counts (.stageNotApplicable stage)))) := by
    unfold AllFloored
    simp only [entryOf, metrics, List.map_map, List.forall_mem_flatMap, List.forall_mem_map,
      Function.comp_apply]
    rfl
  have late := allFloored_flooredLate (cell.counts .lateEntries)
  have events := allFloored_flooredLate (cell.counts .lateEvents)
  have attested := allFloored_attested enough
    ((nested.attested.trans nested.passing).trans (le_of_add_le_left nested.assessed))
  have every : ∀ stage, stage ∈ Usage.stages := by
    intro stage
    cases stage <;> decide
  unfold PublishedCohort.disclosed
  rw [count_entryOf month cell (by decide)]
  simp only [allFloored_cons, allFloored_append, stages, outcomes, delivery, followUp, true_and]
  constructor
  · rintro ⟨-, ⟨⟨shown, isAttested⟩, -⟩, -⟩
    exact ⟨fun stage => (allFloored_stage nested stage).mp (shown stage (every stage)),
      attested.mp isAttested⟩
  · intro separated
    refine ⟨n, ⟨⟨fun stage _ => ?_, attested.mpr separated.attested⟩, late⟩, events⟩
    exact (allFloored_stage nested stage).mpr (separated.stages stage)

/-- The counts of a cell of a report are nested. -/
theorem nested_cell {F : Type} {store : Store} {asOf : Json F} {report : Report} {month : String}
    {cell : Cell} (computed : computeReport store asOf = .ok report)
    (found : report.cohorts.get? month = some cell) : Nested cell.counts := by
  have counts := cell_counts computed month
  unfold countsOf at counts
  rw [found] at counts
  rw [show cell.counts = _ from counts]
  apply nested_sum
  intro added member
  obtain ⟨record, -, rfl⟩ := List.mem_map.mp member
  exact nested_contribution _ _ _

/-- **When no small count can be recovered from a published entry**: exactly when the cell of its month
is separated. -/
theorem disclosed_floored_iff {F : Type} {store : Store} {asOf : Json F} {report : Report} {view : View}
    (computed : computeReport store asOf = .ok report)
    (published : publishableReport report = .ok view) :
    ∀ entry ∈ view.cohorts, ∃ cell, report.cohorts.get? entry.month = some cell ∧
      (AllFloored entry.disclosed ↔ cell.Separated) := by
  obtain ⟨-, rfl⟩ := publishableReport_eq_ok.mp published
  intro entry member
  obtain ⟨cell, found, same, publishable⟩ := (viewed_viewOf report).cell entry member
  refine ⟨cell, found, ?_⟩
  rw [same]
  exact disclosed_entryOf (nested_cell computed found) publishable

/-- What the entries of the numbered report disclose. -/
def numberedDisclosures : List (List Nat) :=
  ((numberedReport >>= publishableReport).toOption.map fun view =>
    view.cohorts.map PublishedCohort.disclosed).getD []

theorem exists_numbered : ∃ report view, numberedReport = .ok report ∧
    publishableReport report = .ok view ∧
    numberedDisclosures = view.cohorts.map PublishedCohort.disclosed := by
  have shown : numberedDisclosures ≠ [] := by decide +kernel
  cases computed : numberedReport with
  | error fault =>
      simp only [numberedDisclosures, computed] at shown
      exact absurd rfl shown
  | ok report =>
      cases published : publishableReport report with
      | error fault =>
          have empty : numberedDisclosures = [] := by
            unfold numberedDisclosures
            rw [computed]
            show (((publishableReport report).toOption.map _).getD [] : List (List Nat)) = []
            rw [published]
            rfl
          exact absurd empty shown
      | ok view =>
          refine ⟨report, view, rfl, published, ?_⟩
          unfold numberedDisclosures
          rw [computed]
          show (((publishableReport report).toOption.map _).getD [] : List (List Nat)) = _
          rw [published]
          rfl

/-- The iff for the sample's entry. -/
theorem numbered_iff : ∃ report view, numberedReport = .ok report ∧
    publishableReport report = .ok view ∧
    ∀ entry ∈ view.cohorts, ∃ cell, report.cohorts.get? entry.month = some cell ∧
      (AllFloored entry.disclosed ↔ cell.Separated) := by
  obtain ⟨report, view, computed, published, -⟩ := exists_numbered
  exact ⟨report, view, computed, published, disclosed_floored_iff computed published⟩

/-- Three of 25 workflows did not complete the build stage, and the published stage cell shows it:
22 of 25. -/
theorem three_unbuilt_recovered : ∃ report view, numberedReport = .ok report ∧
    publishableReport report = .ok view ∧ ∃ entry ∈ view.cohorts,
      3 ∈ entry.disclosed ∧ ¬ AllFloored entry.disclosed := by
  obtain ⟨report, view, computed, published, same⟩ := exists_numbered
  have recovered : (numberedDisclosures.any fun disclosed => 3 ∈ disclosed) = true := by
    decide +kernel
  obtain ⟨disclosed, member, three⟩ := List.any_eq_true.mp recovered
  rw [same] at member
  obtain ⟨entry, shown, rfl⟩ := List.mem_map.mp member
  have small : 3 ∈ entry.disclosed := of_decide_eq_true three
  refine ⟨report, view, computed, published, entry, shown, small, fun floored => ?_⟩
  exact absurd (floored 3 small) (by decide)

end Aegis.Usage
