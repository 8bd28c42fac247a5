/-
# Usage.Publishing — which cohorts a report publishes

`publishableReport` goes through the months of a report in order. Whether a month is withheld
(`withheldFor`) depends on its cell and on the counts of the last published month; at the end a
month that would stand alone may be withdrawn again (`complement`).

`Decided` says what the loop has decided after some months, and one turn keeps it
(`Decided.turn`). `publication_follows_rules` states the disclosure rules across months.
-/
import Aegis.Usage.CohortConservation
import Mathlib.Data.List.Chain

namespace Aegis.Usage

open Aegis.Lib
open Aegis.Lib.Guarded

set_option autoImplicit false

/-! ## The view -/

def outcomeFloor : Nat := 20
def cellFloor : Nat := 5
def stageFloor : Nat := 20

/-- Why a month is withheld. -/
inductive Suppression
  | retentionIncomplete
  | cohortOpen
  | cohortBelowFloor
  | sparseOutcome (cells : List Value)
  | differencingWithheld
  | complementarySuppression
  deriving DecidableEq

structure SuppressedCohort where
  month : String
  reason : Suppression
  deriving DecidableEq

inductive CellReason | sparseLateCell | sparseAttestationCell | sparseStageCell
  deriving DecidableEq

/-- A cell of an entry. -/
inductive Shown (α : Type)
  | value (value : α)
  | withheld (reason : CellReason)
  deriving DecidableEq

inductive Flag | dominantContributorReview
  deriving DecidableEq

structure PublishedCohort where
  month : String
  closedOn : Day
  n : Nat
  outcomes : List (Value × Nat)
  delivery30d : Rate
  followUpCoverage : Rate
  independentlyAttestedSuccess : Shown Rate
  /-- For each stage its rate and its count of inapplicable records. -/
  stageReach : List (Stage × Shown (Rate × Nat))
  lateEntries : Shown Nat
  lateEvents : Shown Nat
  flags : List Flag

/-- The suppressed view of a report. Its constant texts are left out. -/
structure View where
  asOf : Day
  cohorts : List PublishedCohort
  suppressedCohorts : List SuppressedCohort
  withdrawals : Nat

/-- `floored_late`. -/
def flooredLate (value : Nat) : Shown Nat :=
  if 0 < value ∧ value < cellFloor then .withheld .sparseLateCell else .value value

/-- The attestation cell of an entry. -/
def flooredAttestation (attested : Rate) : Shown Rate :=
  if 0 < attested.numerator ∧ attested.numerator < cellFloor then .withheld .sparseAttestationCell
  else .value attested

/-- A stage cell of an entry. -/
def flooredStage (metric : Rate × Nat) : Shown (Rate × Nat) :=
  if stageFloor ≤ metric.1.denominator ∧
      (metric.1.numerator = 0 ∨ cellFloor ≤ metric.1.numerator) ∧
      (metric.2 = 0 ∨ cellFloor ≤ metric.2) then .value metric
  else .withheld .sparseStageCell

/-- The outcome counts of a cell, in the order in which months are compared. -/
def Cell.outcomeCounts (cell : Cell) : List Nat := outcomes.map fun value => cell.counts (.outcome value)

/-- The outcomes of a cell with a small count. -/
def Cell.sparse (cell : Cell) : List Value :=
  outcomes.filter fun value =>
    0 < cell.counts (.outcome value) ∧ cell.counts (.outcome value) < cellFloor

/-- Two months differ by a small count in some outcome. -/
def differsSlightly (last counts : List Nat) : Bool :=
  (last.zip counts).any fun pair => ((pair.1 : Int) - pair.2).natAbs ∈ [1, 2, 3, 4]

/-- The review flag: half of a small cohort is of one outcome. -/
def flagsOf (cell : Cell) : List Flag :=
  if cell.n ≤ 2 * cell.outcomeCounts.foldl max 0 ∧ cell.n < 40 then [.dominantContributorReview]
  else []

/-- The entry of a published month. -/
def entryOf (month : String) (cell : Cell) : PublishedCohort where
  month
  closedOn := cell.closedOn
  n := cell.n
  outcomes := outcomes.map fun value => (value, cell.counts (.outcome value))
  delivery30d := (metrics cell.counts).delivery30d
  followUpCoverage := (metrics cell.counts).followUpCoverage
  independentlyAttestedSuccess :=
    flooredAttestation (metrics cell.counts).independentlyAttestedSuccess
  stageReach := (metrics cell.counts).stageReach.map fun reach => (reach.1, flooredStage reach.2)
  lateEntries := flooredLate (cell.counts .lateEntries)
  lateEvents := flooredLate (cell.counts .lateEvents)
  flags := flagsOf cell

/-! ## The loop over the months -/

/-- What the loop carries. -/
structure Disclosure where
  published : List PublishedCohort
  lastCounts : Option (List Nat)
  suppressed : List SuppressedCohort

/-- Why a month with a cell is withheld, unless it is published. -/
def withheldFor (report : Report) (lastCounts : Option (List Nat)) (month : String) (cell : Cell) :
    Option Suppression :=
  if cell.incomplete = true then some .retentionIncomplete
  else if (report.openCohorts.get? month).isSome = true then some .cohortOpen
  else if cell.n < outcomeFloor then some .cohortBelowFloor
  else if cell.sparse ≠ [] then some (.sparseOutcome (sortBy Vocabulary.text cell.sparse))
  else if (lastCounts.any fun last => differsSlightly last cell.outcomeCounts) = true then
    some .differencingWithheld
  else none

/-- One turn of the loop. -/
def Disclosure.turn (report : Report) (carried : Disclosure) (row : String × Cell) : Disclosure :=
  match withheldFor report carried.lastCounts row.1 row.2 with
  | some reason => { carried with suppressed := carried.suppressed ++ [⟨row.1, reason⟩] }
  | none => { carried with
      published := carried.published ++ [entryOf row.1 row.2]
      lastCounts := some row.2.outcomeCounts }

/-- The months of a dictionary, sorted. -/
def sortedMonths {α : Type} (months : Registry String α) : List String :=
  sortBy id (months.rows.map Prod.fst)

/-- The months that never reached a cell: those known from expired records, then the open ones. -/
def withoutCell (report : Report) : List SuppressedCohort :=
  ((sortedMonths report.incompleteCohorts).filter fun month =>
    (report.cohorts.get? month).isNone).map (⟨·, .retentionIncomplete⟩) ++
  ((sortedMonths report.openCohorts).filter fun month =>
    (report.cohorts.get? month).isNone ∧ (report.incompleteCohorts.get? month).isNone).map
      (⟨·, .cohortOpen⟩)

/-- A month that alone would be published beside a withheld one is withheld too. -/
def complement (report : Report) (carried : Disclosure) : Disclosure :=
  match carried.published with
  | [only] =>
      if 1 < report.cohorts.rows.length ∨
          (carried.suppressed.any fun item => item.month < only.month) = true then
        { carried with
          published := []
          suppressed := carried.suppressed ++ [⟨only.month, .complementarySuppression⟩] }
      else carried
  | _ => carried

/-- The cells of a report in the order of their months. -/
def sortedCells (report : Report) : List (String × Cell) := sortBy Prod.fst report.cohorts.rows

/-- The view of an untruncated report. -/
def viewOf (report : Report) : View :=
  let decided := complement report
    ((sortedCells report).foldl (Disclosure.turn report) ⟨[], none, withoutCell report⟩)
  { asOf := report.asOf
    cohorts := decided.published
    suppressedCohorts := decided.suppressed
    withdrawals := report.withdrawals }

/-- `publishable_report`. -/
def publishableReport (report : Report) : Except Fault View := do
  refuse (report.truncated = true) (.contractError "report_truncated"
    ("the retained store exceeded the aggregate record cap; " ++
      "a partial cohort is never publishable") "")
  pure (viewOf report)

/-! ## Small counts -/

/-- A count that singles nobody out. -/
def Floored (count : Nat) : Prop := count = 0 ∨ cellFloor ≤ count

instance (count : Nat) : Decidable (Floored count) := inferInstanceAs (Decidable (_ ∨ _))

theorem floored_iff {count : Nat} : Floored count ↔ ¬ (0 < count ∧ count < cellFloor) := by
  unfold Floored
  omega

/-- Two counts are equal or far from each other. -/
def Apart (left right : Nat) : Prop :=
  left = right ∨ left + cellFloor ≤ right ∨ right + cellFloor ≤ left

theorem apart_iff {left right : Nat} :
    Apart left right ↔ ((left : Int) - right).natAbs ∉ [1, 2, 3, 4] := by
  unfold Apart cellFloor
  simp only [List.mem_cons, List.not_mem_nil, or_false]
  omega

/-- The count that an entry publishes for an outcome. -/
def PublishedCohort.count (entry : PublishedCohort) (value : Value) : Nat :=
  (entry.outcomes.lookup value).getD 0

@[simp] theorem month_entryOf (month : String) (cell : Cell) : (entryOf month cell).month = month := rfl

theorem count_entryOf (month : String) (cell : Cell) {value : Value} (member : value ∈ outcomes) :
    (entryOf month cell).count value = cell.counts (.outcome value) := by
  simp only [outcomes, List.mem_cons, List.not_mem_nil, or_false] at member
  rcases member with rfl | rfl | rfl | rfl | rfl <;> rfl

/-- The outcome counts of two entries are apart. -/
def EntriesApart (earlier later : PublishedCohort) : Prop :=
  ∀ value ∈ outcomes, Apart (earlier.count value) (later.count value)

theorem differsSlightly_eq_false {last cell : Cell}
    (far : differsSlightly last.outcomeCounts cell.outcomeCounts = false) {value : Value}
    (member : value ∈ outcomes) :
    Apart (last.counts (.outcome value)) (cell.counts (.outcome value)) := by
  unfold differsSlightly Cell.outcomeCounts at far
  rw [List.zip_map', List.any_map, List.any_eq_false] at far
  apply apart_iff.mpr
  intro slight
  exact far value member (decide_eq_true slight)

/-- What a month must meet to be published, whichever months came before it. -/
structure Publishable (report : Report) (month : String) (cell : Cell) : Prop where
  complete : cell.incomplete = false
  closed : report.openCohorts.get? month = none
  floor : outcomeFloor ≤ cell.n
  outcomes : ∀ value ∈ outcomes, Floored (cell.counts (.outcome value))

variable {report : Report} {month : String}

/-- **Every published month passes every check of the loop.** -/
theorem publishable_of_kept {lastCounts : Option (List Nat)} {cell : Cell}
    (kept : withheldFor report lastCounts month cell = none) :
    Publishable report month cell ∧
      ∀ last : Cell, lastCounts = some last.outcomeCounts → ∀ value ∈ outcomes,
        Apart (last.counts (.outcome value)) (cell.counts (.outcome value)) := by
  unfold withheldFor at kept
  split at kept
  · cases kept
  rename_i complete
  split at kept
  · cases kept
  rename_i closed
  split at kept
  · cases kept
  rename_i floor
  split at kept
  · cases kept
  rename_i sparse
  split at kept
  · cases kept
  rename_i far
  refine ⟨⟨by simpa using complete, by simpa using closed, Nat.not_lt.mp floor, ?_⟩, ?_⟩
  · intro value member
    apply floored_iff.mpr
    intro small
    apply sparse
    intro none
    exact List.filter_eq_nil_iff.mp none value member (decide_eq_true small)
  · rintro last rfl value member
    exact differsSlightly_eq_false (by simpa using far) member

/-! ## What the loop decides -/

def Disclosure.months (carried : Disclosure) : List String :=
  carried.published.map PublishedCohort.month ++ carried.suppressed.map SuppressedCohort.month

/-- What the loop has decided about some months. -/
structure Decided (report : Report) (start : List SuppressedCohort) (rows : List (String × Cell))
    (carried : Disclosure) : Prop where
  listed : carried.months.Perm (start.map SuppressedCohort.month ++ rows.map Prod.fst)
  published : ∀ entry ∈ carried.published, ∃ row ∈ rows, entry = entryOf row.1 row.2 ∧
    Publishable report row.1 row.2
  apart : carried.published.IsChain EntriesApart
  last : carried.lastCounts =
    carried.published.getLast?.map fun entry => entry.outcomes.map Prod.snd

theorem decided_start (report : Report) (start : List SuppressedCohort) :
    Decided report start [] ⟨[], none, start⟩ :=
  ⟨by simp [Disclosure.months], nofun, .nil, rfl⟩

theorem Decided.turn {start : List SuppressedCohort} {rows : List (String × Cell)}
    {carried : Disclosure} (decided : Decided report start rows carried) (row : String × Cell) :
    Decided report start (rows ++ [row]) (carried.turn report row) := by
  have earlier : ∀ entry ∈ carried.published, ∃ held ∈ rows ++ [row],
      entry = entryOf held.1 held.2 ∧ Publishable report held.1 held.2 := by
    intro entry member
    obtain ⟨held, among, facts⟩ := decided.published entry member
    exact ⟨held, List.mem_append_left _ among, facts⟩
  unfold Disclosure.turn
  cases kept : withheldFor report carried.lastCounts row.1 row.2 with
  | some reason =>
      refine ⟨?_, earlier, decided.apart, decided.last⟩
      have listed := decided.listed.append_right [row.1]
      simpa [Disclosure.months] using listed
  | none =>
      obtain ⟨publishable, far⟩ := publishable_of_kept kept
      refine ⟨?_, ?_, ?_, by simp [entryOf, Cell.outcomeCounts, Function.comp_def]⟩
      · -- the month goes to the end of the published ones
        have listed := decided.listed.append_right [row.1]
        refine List.Perm.trans ?_ (by simpa using listed)
        simp only [Disclosure.months, List.map_append, List.map_singleton, List.append_assoc,
          month_entryOf]
        have swap : ([row.1] ++ carried.suppressed.map SuppressedCohort.month).Perm
            (carried.suppressed.map SuppressedCohort.month ++ [row.1]) := List.perm_append_comm
        exact swap.append_left _
      · intro entry member
        rcases List.mem_append.mp member with before | now
        · exact earlier entry before
        · obtain rfl := List.mem_singleton.mp now
          exact ⟨row, by simp, rfl, publishable⟩
      · apply List.isChain_append.mpr
        refine ⟨decided.apart, .singleton _, ?_⟩
        intro entry isLast next isNext value member
        obtain rfl := Option.some.inj isNext
        obtain ⟨held, -, rfl, -⟩ := decided.published entry (List.mem_of_getLast? isLast)
        rw [count_entryOf _ _ member, count_entryOf _ _ member]
        apply far held.2 _ value member
        rw [decided.last, isLast]
        simp [entryOf, Cell.outcomeCounts, Function.comp_def]

theorem decided_run (report : Report) (start : List SuppressedCohort) (rows : List (String × Cell)) :
    Decided report start rows (rows.foldl (Disclosure.turn report) ⟨[], none, start⟩) := by
  induction rows using List.reverseRecOn with
  | nil => exact decided_start report start
  | append_singleton rows row ih =>
      rw [List.foldl_append]
      exact ih.turn row

/-! ## The view of a report -/

/-- The months that occur in a report. -/
def Report.Lists (report : Report) (month : String) : Prop :=
  (report.cohorts.get? month).isSome = true ∨ (report.openCohorts.get? month).isSome = true ∨
    (report.incompleteCohorts.get? month).isSome = true

def View.months (view : View) : List String :=
  view.cohorts.map PublishedCohort.month ++ view.suppressedCohorts.map SuppressedCohort.month

/-- **The disclosure rules across months.** -/
structure FollowsRules (store : Store) (report : Report) (view : View) : Prop where
  once : view.months.Nodup
  listed : ∀ month, month ∈ view.months ↔ report.Lists month
  closed : ∀ entry ∈ view.cohorts, report.openCohorts.get? entry.month = none ∧
    ∀ record ∈ store.records.values, ¬ StandsIn report.asOf .open_ entry.month record
  retained : ∀ entry ∈ view.cohorts, ¬ report.Flags entry.month ∧
    store.expiredCohorts.get? entry.month = none ∧
    ∀ record ∈ store.records.values, ¬ StandsIn report.asOf .expired entry.month record
  floor : ∀ entry ∈ view.cohorts, outcomeFloor ≤ entry.n
  outcomes : ∀ entry ∈ view.cohorts, ∀ value ∈ outcomes, Floored (entry.count value)
  apart : view.cohorts.IsChain EntriesApart
  alone : ∀ only, view.cohorts = [only] → ∀ item ∈ view.suppressedCohorts,
    ¬ item.month < only.month ∧ report.cohorts.get? item.month = none

theorem mem_sortedMonths {α : Type} {months : Registry String α} :
    month ∈ sortedMonths months ↔ (months.get? month).isSome = true := by
  unfold sortedMonths
  rw [mem_sortBy, ← not_iff_not, ← Registry.get?_eq_none]
  simp

theorem nodup_sortedMonths {α : Type} (months : Registry String α) : (sortedMonths months).Nodup :=
  (perm_sortBy _).nodup_iff.mpr months.distinct

theorem months_withoutCell (report : Report) :
    (withoutCell report).map SuppressedCohort.month =
      ((sortedMonths report.incompleteCohorts).filter fun month =>
        (report.cohorts.get? month).isNone) ++
      (sortedMonths report.openCohorts).filter fun month =>
        (report.cohorts.get? month).isNone ∧ (report.incompleteCohorts.get? month).isNone := by
  unfold withoutCell
  rw [List.map_append, List.map_map, List.map_map]
  exact congrArg₂ (· ++ ·) (List.map_id _) (List.map_id _)

/-- The months before the loop and the months of the loop. -/
def decidedMonths (report : Report) : List String :=
  (withoutCell report).map SuppressedCohort.month ++ (sortedCells report).map Prod.fst

theorem mem_sortedCells {row : String × Cell} :
    row ∈ sortedCells report ↔ row ∈ report.cohorts.rows := mem_sortBy

theorem mem_cells :
    month ∈ (sortedCells report).map Prod.fst ↔ (report.cohorts.get? month).isSome = true := by
  have same : (sortedCells report).Perm report.cohorts.rows := perm_sortBy _
  rw [(same.map Prod.fst).mem_iff, ← not_iff_not, ← Registry.get?_eq_none]
  simp

theorem mem_withoutCell :
    month ∈ (withoutCell report).map SuppressedCohort.month ↔
      report.cohorts.get? month = none ∧ ((report.openCohorts.get? month).isSome = true ∨
        (report.incompleteCohorts.get? month).isSome = true) := by
  rw [months_withoutCell]
  simp only [List.mem_append, List.mem_filter, mem_sortedMonths, decide_eq_true_iff,
    Option.isNone_iff_eq_none]
  cases report.incompleteCohorts.get? month <;> simp [and_comm]

theorem nodup_decidedMonths (report : Report) : (decidedMonths report).Nodup := by
  have cells : ((sortedCells report).map Prod.fst).Nodup :=
    ((perm_sortBy _).map Prod.fst).nodup_iff.mpr report.cohorts.distinct
  apply List.nodup_append'.mpr
  refine ⟨?_, cells, ?_⟩
  · rw [months_withoutCell]
    apply List.nodup_append'.mpr
    refine ⟨(nodup_sortedMonths _).filter _, (nodup_sortedMonths _).filter _, ?_⟩
    intro month known isOpen
    have incomplete := mem_sortedMonths.mp (List.mem_of_mem_filter known)
    have absent := (List.mem_filter.mp isOpen).2
    simp only [decide_eq_true_iff, Option.isNone_iff_eq_none] at absent
    rw [absent.2] at incomplete
    cases incomplete
  · intro month without cell
    have present := mem_cells.mp cell
    rw [(mem_withoutCell.mp without).1] at present
    cases present

theorem mem_decidedMonths :
    month ∈ decidedMonths report ↔ report.Lists month := by
  unfold decidedMonths Report.Lists
  rw [List.mem_append, mem_withoutCell, mem_cells]
  cases report.cohorts.get? month <;> simp

/-- The last step of a view: it keeps the loop's decisions, or withdraws the only month. -/
theorem complement_cases (report : Report) (carried : Disclosure) :
    complement report carried = carried ∧
        (∀ only, carried.published = [only] → report.cohorts.rows.length ≤ 1 ∧
          ∀ item ∈ carried.suppressed, ¬ item.month < only.month) ∨
      ∃ only, carried.published = [only] ∧ complement report carried = { carried with
        published := []
        suppressed := carried.suppressed ++ [⟨only.month, .complementarySuppression⟩] } := by
  unfold complement
  split
  · rename_i only isOnly
    by_cases beside : 1 < report.cohorts.rows.length ∨
        (carried.suppressed.any fun item => item.month < only.month) = true
    · exact .inr ⟨only, isOnly, if_pos beside⟩
    · refine .inl ⟨if_neg beside, fun other isOther => ?_⟩
      obtain rfl := List.singleton_inj.mp (isOnly.symm.trans isOther)
      obtain ⟨few, none⟩ := not_or.mp beside
      refine ⟨Nat.not_lt.mp few, fun item member earlier => none ?_⟩
      exact List.any_eq_true.mpr ⟨item, member, decide_eq_true earlier⟩
  · rename_i several
    exact .inl ⟨rfl, fun only isOnly => absurd isOnly (several only)⟩

theorem months_complement (report : Report) (carried : Disclosure) :
    (complement report carried).months.Perm carried.months := by
  rcases complement_cases report carried with ⟨same, -⟩ | ⟨only, isOnly, same⟩
  · rw [same]
  · rw [same]
    simp only [Disclosure.months, isOnly, List.map_append, List.map_cons, List.map_nil,
      List.nil_append]
    exact List.perm_append_comm

/-- A published month has a cell. -/
theorem Decided.cell {start : List SuppressedCohort} {carried : Disclosure}
    (decided : Decided report start (sortedCells report) carried) {entry : PublishedCohort}
    (member : entry ∈ carried.published) : ∃ cell,
      report.cohorts.get? entry.month = some cell ∧ entry = entryOf entry.month cell ∧
        Publishable report entry.month cell := by
  obtain ⟨row, among, rfl, publishable⟩ := decided.published entry member
  exact ⟨row.2, Registry.mem_rows_iff.mp (mem_sortedCells.mp among), rfl, publishable⟩

/-- What the view of a report says, whatever computed the report. -/
structure Viewed (report : Report) (view : View) : Prop where
  months : view.months.Perm (decidedMonths report)
  cell : ∀ entry ∈ view.cohorts, ∃ cell, report.cohorts.get? entry.month = some cell ∧
    entry = entryOf entry.month cell ∧ Publishable report entry.month cell
  apart : view.cohorts.IsChain EntriesApart
  alone : ∀ only, view.cohorts = [only] → report.cohorts.rows.length ≤ 1 ∧
    ∀ item ∈ view.suppressedCohorts, ¬ item.month < only.month

theorem publishableReport_eq_ok {view : View} :
    publishableReport report = .ok view ↔ report.truncated = false ∧ viewOf report = view := by
  unfold publishableReport
  simp only [bind_eq_ok, refuse_eq_ok, pure_eq_ok, Bool.not_eq_true, exists_const]

theorem viewed_viewOf (report : Report) : Viewed report (viewOf report) := by
  have decided := decided_run report (withoutCell report) (sortedCells report)
  have months := (months_complement report _).trans decided.listed
  unfold viewOf
  rcases complement_cases report ((sortedCells report).foldl (Disclosure.turn report)
    ⟨[], none, withoutCell report⟩) with ⟨same, alone⟩ | ⟨only, isOnly, same⟩
  · rw [same] at months ⊢
    exact ⟨months, fun entry member => decided.cell member, decided.apart, alone⟩
  · rw [same] at months ⊢
    exact ⟨months, nofun, .nil, nofun⟩

/-- The cohort of a flagged month is not published. -/
theorem Viewed.not_flags {store : Store} {view : View} {cohorts : Cohorts}
    (viewed : Viewed report view) (computed : Computed store report cohorts)
    {entry : PublishedCohort} (member : entry ∈ view.cohorts) : ¬ report.Flags entry.month := by
  obtain ⟨cell, held, -, publishable⟩ := viewed.cell entry member
  rintro (⟨other, found, incomplete⟩ | listed)
  · obtain rfl := Option.some.inj (held.symm.trans found)
    rw [publishable.complete] at incomplete
    cases incomplete
  · -- a month is listed apart only when it has no cell
    rw [computed.incomplete, Registry.get?_filter] at listed
    rw [computed.cells, get?_markIncomplete] at held
    obtain ⟨counted, isCounted, -⟩ := Option.map_eq_some_iff.mp held
    rw [isCounted] at listed
    cases found : cohorts.incompleteMonths.get? entry.month <;> simp [found, Option.filter] at listed

theorem eq_of_few (few : report.cohorts.rows.length ≤ 1) {left right : String} {one two : Cell}
    (isLeft : report.cohorts.get? left = some one) (isRight : report.cohorts.get? right = some two) :
    left = right := by
  have inLeft := Registry.mem_rows_iff.mpr isLeft
  have inRight := Registry.mem_rows_iff.mpr isRight
  obtain ⟨i, below, atLeft⟩ := List.getElem_of_mem inLeft
  obtain ⟨j, above, atRight⟩ := List.getElem_of_mem inRight
  obtain rfl : i = j := by omega
  exact congrArg Prod.fst (atLeft.symm.trans atRight)

/-- **Publication follows the disclosure rules across months**: every untruncated report has a view
that lists every month once, publishes only closed months whose counts are not small and far from
those of the month published before, and never a month alone beside a withheld one. -/
theorem publication_follows_rules {F : Type} {store : Store} {asOf : Json F} {report : Report}
    (computed : computeReport store asOf = .ok report) (untruncated : report.truncated = false) :
    ∃ view, publishableReport report = .ok view ∧ FollowsRules store report view := by
  have viewed := viewed_viewOf report
  obtain ⟨cohorts, made⟩ := exists_computed computed
  have few : store.records.rows.length ≤ maxAggregateRecords := by
    have small := made.truncated
    rw [untruncated] at small
    exact Nat.not_lt.mp (of_decide_eq_false small.symm)
  refine ⟨_, publishableReport_eq_ok.mpr ⟨untruncated, rfl⟩, ⟨viewed.months.nodup_iff.mpr (nodup_decidedMonths report),
    fun month => viewed.months.mem_iff.trans mem_decidedMonths, fun entry member => ?_,
    fun entry member => ?_, fun entry member => ?_, fun entry member value among => ?_,
    viewed.apart, fun only isOnly item member => ?_⟩⟩
  · obtain ⟨cell, -, -, publishable⟩ := viewed.cell entry member
    have none := made.open_ few entry.month
    rw [publishable.closed] at none
    refine ⟨publishable.closed, fun record held isOpen => ?_⟩
    exact List.countP_eq_zero.mp none.symm record held (decide_eq_true isOpen)
  · have unflagged := viewed.not_flags made member
    refine ⟨unflagged, ?_, fun record held expired => ?_⟩
    · by_contra housekept
      apply unflagged
      exact made.flags_of_expired few (.inr (Option.isSome_iff_ne_none.mpr housekept))
    · exact unflagged (made.flags_of_expired few (.inl ⟨record, held, expired⟩))
  · obtain ⟨cell, -, same, publishable⟩ := viewed.cell entry member
    rw [same]
    exact publishable.floor
  · obtain ⟨cell, -, same, publishable⟩ := viewed.cell entry member
    rw [same, count_entryOf _ _ among]
    exact publishable.outcomes value among
  · obtain ⟨one, notEarlier⟩ := viewed.alone only isOnly
    refine ⟨notEarlier item member, ?_⟩
    by_contra retained
    obtain ⟨other, found⟩ := Option.ne_none_iff_exists'.mp retained
    obtain ⟨cell, held, -⟩ := viewed.cell only (by simp [isOnly])
    -- the one cell is published, so its month is not withheld
    have distinct := viewed.months.nodup_iff.mpr (nodup_decidedMonths report)
    unfold View.months at distinct
    have disjoint := (List.nodup_append'.mp distinct).2.2
    apply disjoint (List.mem_map_of_mem (by simp [isOnly] : only ∈ (viewOf report).cohorts))
    rw [eq_of_few one held found]
    exact List.mem_map_of_mem member

/-! ## A sample -/

def numberedRef (index : Nat) : String :=
  "wf-000000000000000000000000000000" ++ String.ofList (Day.twoDigits index)

theorem marchYear : 1 ≤ 2026 ∧ 2026 ≤ 9999 := by decide

theorem marchMonth : 1 ≤ 3 ∧ 3 ≤ 12 := by decide

def marchDay (day : Nat) (inMonth : 1 ≤ day ∧ day ≤ 31) : Day := ⟨2026, 3, day, marchYear, marchMonth, inMonth⟩

theorem marchFirst : 1 ≤ 1 ∧ 1 ≤ 31 := by decide

theorem marchSecond : 1 ≤ 2 ∧ 2 ≤ 31 := by decide

theorem marchThird : 1 ≤ 3 ∧ 3 ≤ 31 := by decide

theorem marchFourth : 1 ≤ 4 ∧ 4 ≤ 31 := by decide

/-- A delivery, and the completion of the build stage or not. -/
def numberedEvents (built : Bool) : List StampedEvent :=
  let delivery : Event :=
    ⟨"evt-00000000000000000000000000000000", .status, marchDay 3 marchThird, .delivered, none⟩
  let build : Event :=
    ⟨"evt-00000000000000000000000000000001", .stage, marchDay 2 marchSecond, .complete, some .build⟩
  let received := marchDay 4 marchFourth
  if built then [⟨build, received⟩, ⟨delivery, received⟩] else [⟨delivery, received⟩]

/-- The record of a numbered workflow: of 25 the last three did not complete the build stage. -/
def numberedRecord (index : Nat) : Record where
  workflowRef := numberedRef index
  enrollment := ⟨marchDay 1 marchFirst, stages, true, sampleRef "crit-"⟩
  enrollmentFingerprint := ""
  revision := 1
  exportRef := sampleRef "exp-"
  firstReceiptDay := marchDay 4 marchFourth
  lastReceiptDay := marchDay 4 marchFourth
  expiresAt := ⟨2026, 6, 2, marchYear, by decide, by decide⟩
  prospective := true
  lateEntries := 0
  transitions := ⟨numberedEvents (index < 22), by cases decide (index < 22) <;> decide +kernel⟩
  canonicalExport := ""

/-- A store with 25 delivered workflows of one month. -/
def numberedStore : Store :=
  { newStore with
    records := ⟨(List.range 25).map fun index => (numberedRef index, numberedRecord index), by
      decide +kernel⟩ }

/-- The report of a numbered store on the day after its cohort closed. -/
def numberedReport : Except Fault Report :=
  computeReport numberedStore (.str "2026-04-08" : Json Budget.ZeroFloat)

theorem rules_of_numbered : ∃ report view, numberedReport = .ok report ∧
    publishableReport report = .ok view ∧ FollowsRules numberedStore report view := by
  have reports : (numberedReport.toOption.any fun report => report.truncated = false) = true := by
    decide +kernel
  cases computed : numberedReport with
  | error fault =>
      rw [computed] at reports
      cases reports
  | ok report =>
      rw [computed] at reports
      have untruncated : report.truncated = false := of_decide_eq_true reports
      obtain ⟨view, published, rules⟩ := publication_follows_rules computed untruncated
      exact ⟨report, view, rfl, published, rules⟩

end Aegis.Usage
