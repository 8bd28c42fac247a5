/-
# Readability.JudgedOnce — what the classification of the reader pages guarantees

One turn of the loop appends the page to one list (`judgePage_turn`), and a page that it accepts or
calls small is vouched for by the row it is judged by and by git (`Vouched`). So a run gives every
page one list, and the official count is the number of pages that are neither accepted nor small and
covered (`classification_judges_once`). A disposition that is not in force leaves every list as it is
(`judgePages_onlyInForce`).
-/
import Aegis.Readability.Judging
import Mathlib.Data.List.Nodup

namespace Aegis.Readability

open Aegis.Lib Aegis.Lib.Guarded

set_option autoImplicit false

/-- The lists that a page can be appended to. -/
inductive Bucket
  | pending
  | unknown
  | undecided
  | withdrawn
  | partialGap
  | accepted
  | small
  deriving DecidableEq, Repr

/-- The pages of a list. -/
def Buckets.paths (buckets : Buckets) : Bucket → List String
  | .pending => buckets.pending.map DriftRecord.path
  | .unknown => buckets.unknown.map UnknownRecord.path
  | .undecided => buckets.undecided.map UndecidedRecord.path
  | .withdrawn => buckets.withdrawn.map WithdrawnRecord.path
  | .partialGap => buckets.partialGaps.map PublicDisposition.path
  | .accepted => buckets.accepted.map DriftRecord.path
  | .small => buckets.small.map DriftRecord.path

/-! ## One turn -/

/-- The page is judged by the row. -/
def JudgedBy (run : Judging) (path : String) (row : IndexRow) : Prop :=
  ∃ indexed, run.indexRow? path = some indexed ∧ judgedRow run path indexed = some row

/-- The row that a page is judged by is no withdrawal and no lost commit, its revision is an ancestor
of main, and its drift is known and within the threshold. -/
structure Vouched (run : Judging) (record : DriftRecord) : Prop where
  row : ∃ row, JudgedBy run record.path row ∧ row.event_kind ≠ some "withdrawal" ∧
    row.event_kind ≠ some "lost-commit" ∧ row.last_acceptance_sha = some record.sha
  ancestor : isAncestor run.git record.sha remoteMain
  counted : ∃ why, numstat run.git record.sha run.refSha record.path =
    .ok (some record.changed_lines, why)
  scanned : ∃ head, newSections run.git record.sha run.refSha record.path = (some false, head)
  within : record.changed_lines ≤ lineThreshold
  covered : record.targeted_review_covers = targetedCovers run.events record.path

/-- A turn appended the page to one list. -/
structure Turn (run : Judging) (path : String) (state next : Buckets) (bucket : Bucket) : Prop where
  paths : ∀ other, next.paths other = state.paths other ++ if other = bucket then [path] else []
  accepted : ∀ record ∈ next.accepted,
    record ∈ state.accepted ∨ (Vouched run record ∧ record.changed_lines = 0)
  small : ∀ record ∈ next.small, record ∈ state.small ∨ Vouched run record

section Turns

variable {run : Judging} {path : String} {state next : Buckets}

/-- A turn that leaves the accepted and the small pages as they are. -/
theorem Turn.aside {bucket : Bucket} (accepted : next.accepted = state.accepted)
    (small : next.small = state.small)
    (paths : ∀ other, next.paths other = state.paths other ++ if other = bucket then [path] else []) :
    Turn run path state next bucket where
  paths := paths
  accepted _ member := .inl (accepted ▸ member)
  small _ member := .inl (small ▸ member)

theorem judgeDrift_turn {row : IndexRow} {sha : String} (judged : JudgedBy run path row)
    (notWithdrawn : row.event_kind ≠ some "withdrawal") (notLost : row.event_kind ≠ some "lost-commit")
    (isSha : row.last_acceptance_sha = some sha)
    (done : judgeDrift run path row sha state = .ok next) :
    ∃ bucket, Turn run path state next bucket := by
  unfold judgeDrift at done
  split at done
  · obtain rfl := pure_eq_ok.mp done
    exact ⟨.undecided, .aside rfl rfl fun other => by cases other <;> simp [Buckets.paths]⟩
  · rename_i reachable
    obtain ⟨counted, isCounted, done⟩ := bind_eq_ok.mp done
    split at done
    · obtain rfl := pure_eq_ok.mp done
      exact ⟨.undecided, .aside rfl rfl fun other => by cases other <;> simp [Buckets.paths]⟩
    · rename_i total why
      split at done
      · obtain rfl := pure_eq_ok.mp done
        exact ⟨.undecided, .aside rfl rfl fun other => by cases other <;> simp [Buckets.paths]⟩
      · rename_i section_ head isSection
        split at done
        · obtain rfl := pure_eq_ok.mp done
          exact ⟨.pending, .aside rfl rfl fun other => by cases other <;> simp [Buckets.paths]⟩
        · rename_i within
          obtain ⟨few, plain⟩ := not_or.mp within
          obtain rfl := Bool.eq_false_of_not_eq_true plain
          have vouched : Vouched run ⟨path, sha, total, false, head, row.evidence_source,
              row.event_kind, targetedCovers run.events path⟩ :=
            { row := ⟨row, judged, notWithdrawn, notLost, isSha⟩
              ancestor := not_not.mp reachable
              counted := ⟨why, isCounted⟩
              scanned := ⟨head, isSection⟩
              within := not_lt.mp few
              covered := rfl }
          split at done
          · rename_i none
            obtain rfl := pure_eq_ok.mp done
            refine ⟨.accepted, fun other => by cases other <;> simp [Buckets.paths], ?_,
              fun record member => .inl member⟩
            intro record member
            rcases List.mem_append.mp member with before | last
            · exact .inl before
            · obtain rfl := List.mem_singleton.mp last
              exact .inr ⟨vouched, none⟩
          · obtain rfl := pure_eq_ok.mp done
            refine ⟨.small, fun other => by cases other <;> simp [Buckets.paths],
              fun record member => .inl member, ?_⟩
            intro record member
            rcases List.mem_append.mp member with before | last
            · exact .inl before
            · obtain rfl := List.mem_singleton.mp last
              exact .inr vouched

theorem judgeRow_turn {row : IndexRow} (judged : JudgedBy run path row)
    (done : judgeRow run path row state = .ok next) : ∃ bucket, Turn run path state next bucket := by
  unfold judgeRow at done
  split at done
  · obtain rfl := pure_eq_ok.mp done
    exact ⟨.withdrawn, .aside rfl rfl fun other => by cases other <;> simp [Buckets.paths]⟩
  · rename_i notWithdrawn
    split at done
    · rename_i sha isSha
      split at done
      · obtain rfl := pure_eq_ok.mp done
        exact ⟨.undecided, .aside rfl rfl fun other => by cases other <;> simp [Buckets.paths]⟩
      · rename_i notLost
        exact judgeDrift_turn judged notWithdrawn notLost isSha done
    · obtain rfl := pure_eq_ok.mp done
      exact ⟨.undecided, .aside rfl rfl fun other => by cases other <;> simp [Buckets.paths]⟩

theorem judgeUndisposed_turn (done : judgeUndisposed run path state = .ok next) :
    ∃ bucket, Turn run path state next bucket := by
  unfold judgeUndisposed at done
  split at done
  · obtain rfl := pure_eq_ok.mp done
    exact ⟨.unknown, .aside rfl rfl fun other => by cases other <;> simp [Buckets.paths]⟩
  · rename_i row isRow
    split at done
    · obtain rfl := pure_eq_ok.mp done
      exact ⟨.unknown, .aside rfl rfl fun other => by cases other <;> simp [Buckets.paths]⟩
    · rename_i judged isJudged
      exact judgeRow_turn ⟨row, isRow, isJudged⟩ done

/-- Notes about dispositions are no list of pages. -/
theorem Turn.noted {noted : Buckets} {bucket : Bucket} (turn : Turn run path noted next bucket)
    (paths : ∀ other, noted.paths other = state.paths other) (accepted : noted.accepted = state.accepted)
    (small : noted.small = state.small) : Turn run path state next bucket where
  paths other := by rw [turn.paths other, paths other]
  accepted := accepted ▸ turn.accepted
  small := small ▸ turn.small

/-- **A turn appends the page to one list.** -/
theorem judgePage_turn (done : judgePage run path state = .ok next) :
    ∃ bucket, Turn run path state next bucket := by
  unfold judgePage at done
  split at done
  · exact judgeUndisposed_turn done
  · rename_i disposition isDisposition
    split at done
    · obtain ⟨bucket, turn⟩ := judgeUndisposed_turn done
      exact ⟨bucket, turn.noted (fun other => by cases other <;> rfl) rfl rfl⟩
    · split at done
      · obtain rfl := pure_eq_ok.mp done
        have page : disposition.path = path := by simpa using List.find?_some isDisposition
        refine ⟨.partialGap, .aside rfl rfl fun other => ?_⟩
        cases other <;> simp [Buckets.paths, publicDisposition, page]
      · obtain ⟨bucket, turn⟩ := judgeUndisposed_turn done
        exact ⟨bucket, turn.noted (fun other => by cases other <;> rfl) rfl rfl⟩

end Turns

/-! ## A run -/

/-- The lists hold the pages that were appended to them, in order. -/
structure Assigned (run : Judging) (state : Buckets) (pages : List String) (final : Buckets)
    (assign : String → Bucket) : Prop where
  paths : ∀ bucket, final.paths bucket =
    state.paths bucket ++ pages.filter fun page => assign page = bucket
  accepted : ∀ record ∈ final.accepted,
    record ∈ state.accepted ∨ (Vouched run record ∧ record.changed_lines = 0)
  small : ∀ record ∈ final.small, record ∈ state.small ∨ Vouched run record

theorem judgePages_assigned {run : Judging} {pages : List String} (distinct : pages.Nodup)
    {state final : Buckets} (done : judgePages run pages state = .ok final) :
    ∃ assign, Assigned run state pages final assign := by
  induction pages generalizing state with
  | nil =>
      obtain rfl := Except.ok.inj done
      exact ⟨fun _ => .unknown, fun bucket => by simp, fun record member => .inl member,
        fun record member => .inl member⟩
  | cons path later ih =>
      obtain ⟨next, first, rest⟩ := bind_eq_ok.mp done
      obtain ⟨fresh, distinct⟩ := List.nodup_cons.mp distinct
      obtain ⟨bucket, turn⟩ := judgePage_turn first
      obtain ⟨assign, assigned⟩ := ih distinct rest
      refine ⟨Function.update assign path bucket, fun other => ?_, fun record member => ?_,
        fun record member => ?_⟩
      · have same : later.filter (fun page => Function.update assign path bucket page = other) =
            later.filter fun page => assign page = other := by
          apply List.filter_congr
          intro page member
          have apart : page ≠ path := fun equal => fresh (equal ▸ member)
          rw [Function.update_of_ne apart]
        rw [assigned.paths other, turn.paths other, List.filter_cons, same, Function.update_self,
          List.append_assoc]
        by_cases here : other = bucket
        · simp [here]
        · simp [here, Ne.symm here]
      · rcases assigned.accepted record member with before | new
        · exact turn.accepted record before
        · exact .inr new
      · rcases assigned.small record member with before | new
        · exact turn.small record before
        · exact .inr new

/-- Every page is in one list, so the lists together have as many entries as there are pages. -/
theorem length_of_assign (pages : List String) (assign : String → Bucket) :
    (pages.filter fun page => assign page = .pending).length +
      (pages.filter fun page => assign page = .unknown).length +
      (pages.filter fun page => assign page = .undecided).length +
      (pages.filter fun page => assign page = .withdrawn).length +
      (pages.filter fun page => assign page = .partialGap).length +
      (pages.filter fun page => assign page = .accepted).length +
      (pages.filter fun page => assign page = .small).length = pages.length := by
  induction pages with
  | nil => rfl
  | cons page later ih =>
      cases isBucket : assign page <;>
        · simp [isBucket]
          omega

/-! ## Dispositions out of force -/

namespace Judging

variable (run : Judging)

/-- The disposition applies at the ref and is active for its page. -/
def InForce (disposition : Disposition) : Prop :=
  disposition.applicable = true ∧ dispositionIsActive disposition (run.indexRow? disposition.path)
    (run.effectiveId? disposition.path)

instance (disposition : Disposition) : Decidable (run.InForce disposition) :=
  inferInstanceAs (Decidable (_ ∧ _))

/-- The same run without the dispositions that are not in force. -/
def onlyInForce : Judging where
  git := run.git
  refSha := run.refSha
  readerRows := run.readerRows
  events := run.events
  dispositions :=
    { entries := run.dispositions.entries.filter fun disposition => run.InForce disposition
      distinct := run.dispositions.distinct.sublist ((List.filter_sublist).map _) }
  refRows := run.refRows

theorem disposition?_eq_some {path : String} {disposition : Disposition} :
    run.disposition? path = some disposition ↔
      disposition ∈ run.dispositions.entries ∧ disposition.path = path := by
  unfold disposition?
  constructor
  · intro found
    refine ⟨List.mem_reverse.mp (List.mem_of_find?_eq_some found), ?_⟩
    simpa using List.find?_some found
  · rintro ⟨member, page⟩
    cases found : run.dispositions.entries.reverse.find? fun other => other.path = path with
    | none =>
        have missed := List.find?_eq_none.mp found disposition (List.mem_reverse.mpr member)
        simp [page] at missed
    | some other =>
        have isOther : other ∈ run.dispositions.entries :=
          List.mem_reverse.mp (List.mem_of_find?_eq_some found)
        have otherPage : other.path = path := by simpa using List.find?_some found
        rw [List.inj_on_of_nodup_map run.dispositions.distinct isOther member
          (otherPage.trans page.symm)]

theorem disposition?_onlyInForce (path : String) :
    run.onlyInForce.disposition? path =
      (run.disposition? path).filter fun disposition => run.InForce disposition := by
  ext disposition
  rw [disposition?_eq_some, Option.filter_eq_some_iff, disposition?_eq_some]
  simp [onlyInForce]
  tauto

end Judging

/-- The lists of pages, without the notes about dispositions. -/
def Buckets.judged (buckets : Buckets) : Buckets :=
  { buckets with notApplied := [], notApplicable := [] }

section OutOfForce

variable {run : Judging}

theorem judgeDrift_judged (path : String) (row : IndexRow) (sha : String) (state : Buckets) :
    (judgeDrift run path row sha state).map Buckets.judged =
      judgeDrift run path row sha state.judged := by
  unfold judgeDrift
  split
  · rfl
  · cases numstat run.git sha run.refSha path with
    | error raised => rfl
    | ok counted =>
        obtain ⟨total, why⟩ := counted
        generalize newSections run.git sha run.refSha path = scanned
        obtain ⟨section_, head⟩ := scanned
        cases total with
        | none => rfl
        | some total =>
            cases section_ with
            | none => rfl
            | some section_ =>
                simp only [bind, Except.bind]
                split_ifs <;> rfl

theorem judgeRow_judged (path : String) (row : IndexRow) (state : Buckets) :
    (judgeRow run path row state).map Buckets.judged = judgeRow run path row state.judged := by
  unfold judgeRow
  split
  · rfl
  · split
    · split
      · rfl
      · exact judgeDrift_judged path row _ state
    · rfl

theorem judgeUndisposed_judged (path : String) (state : Buckets) :
    (judgeUndisposed run path state).map Buckets.judged =
      judgeUndisposed run path state.judged := by
  unfold judgeUndisposed
  split
  · rfl
  · split
    · rfl
    · exact judgeRow_judged path _ state

/-- Without the dispositions a page is judged alike. -/
theorem judgeUndisposed_onlyInForce (path : String) (state : Buckets) :
    judgeUndisposed run.onlyInForce path state = judgeUndisposed run path state := rfl

theorem judgePage_onlyInForce (path : String) (state : Buckets) :
    (judgePage run path state).map Buckets.judged = judgePage run.onlyInForce path state.judged := by
  have left := run.disposition?_onlyInForce path
  unfold judgePage
  cases found : run.disposition? path with
  | none =>
      rw [found, Option.filter_none] at left
      rw [left]
      exact judgeUndisposed_judged path state
  | some disposition =>
      have page : disposition.path = path := ((run.disposition?_eq_some).mp found).2
      by_cases inForce : run.InForce disposition
      · have kept : run.onlyInForce.disposition? path = some disposition := by
          rw [left, found, Option.filter_some, if_pos (decide_eq_true inForce)]
        obtain ⟨applicable, active⟩ := inForce
        rw [page] at active
        have activeThere : dispositionIsActive disposition (run.onlyInForce.indexRow? path)
          (run.onlyInForce.effectiveId? path) := active
        simp only [kept, applicable, active, activeThere, reduceCtorEq, if_false, if_true]
        rfl
      · have dropped : run.onlyInForce.disposition? path = none := by
          rw [left, found, Option.filter_some, if_neg (by simpa using inForce)]
        simp only [dropped]
        split
        · exact judgeUndisposed_judged path _
        · rename_i applicable
          have inactive : ¬ dispositionIsActive disposition (run.indexRow? path)
              (run.effectiveId? path) := by
            intro active
            exact inForce ⟨Bool.eq_true_of_not_eq_false applicable, page.symm ▸ active⟩
          rw [if_neg inactive]
          exact judgeUndisposed_judged path _

theorem judgePages_onlyInForce (pages : List String) (state : Buckets) :
    (judgePages run pages state).map Buckets.judged =
      judgePages run.onlyInForce pages state.judged := by
  induction pages generalizing state with
  | nil => rfl
  | cons path later ih =>
      have turn : (judgePage run path state).map Buckets.judged =
          judgePage run.onlyInForce path state.judged := judgePage_onlyInForce path state
      rw [judgePages, judgePages, ← turn]
      cases judgePage run path state with
      | error raised => rfl
      | ok next => exact ih next

end OutOfForce

/-! ## The classification -/

/-- Every page is in one list, the official count leaves out the accepted and the covered small pages,
these are vouched for, a withdrawal that the ref contains accepts no page, and the dispositions out of
force change no list. -/
structure JudgedOnce (run : Judging) (only : Option String) (pages : List String) (final : Buckets) :
    Prop where
  once : ∃ assign : String → Bucket, ∀ bucket,
    final.paths bucket = (selected only pages).filter fun page => assign page = bucket
  official : final.officialPending + final.accepted.length +
    (final.small.filter fun record => targetedCovers run.events record.path).length =
      (selected only pages).length
  accepted : ∀ record ∈ final.accepted, Vouched run record ∧ record.changed_lines = 0
  small : ∀ record ∈ final.small, Vouched run record
  withdrawn : ∀ path row, run.indexRow? path = some row → row.event_kind = some "withdrawal" →
    withdrawalCancelsAtRef run.git row run.refSha →
      path ∉ final.paths .accepted ∧ path ∉ final.paths .small
  dispositions : classification run.onlyInForce only pages = .ok final.judged

/-- A page that is vouched for is not judged by a withdrawal that the ref contains. -/
theorem Vouched.not_withdrawn {run : Judging} {record : DriftRecord} (vouched : Vouched run record)
    {row : IndexRow} (indexed : run.indexRow? record.path = some row)
    (cancels : withdrawalCancelsAtRef run.git row run.refSha) :
    row.event_kind ≠ some "withdrawal" := by
  intro isWithdrawal
  obtain ⟨judged, ⟨other, isOther, byRow⟩, notWithdrawn, -, -⟩ := vouched.row
  obtain rfl := Option.some.inj (indexed.symm.trans isOther)
  unfold judgedRow at byRow
  rw [if_neg fun replaced => replaced.2 cancels] at byRow
  obtain rfl := Option.some.inj byRow
  exact notWithdrawn isWithdrawal

/-- The small pages are those that a targeted review covers and those that none does. -/
theorem length_small {run : Judging} {final : Buckets}
    (small : ∀ record ∈ final.small, Vouched run record) :
    final.withinNotCovered.length +
      (final.small.filter fun record => targetedCovers run.events record.path).length =
        final.small.length := by
  have covered : final.small.filter (fun record => targetedCovers run.events record.path) =
      final.small.filter DriftRecord.targeted_review_covers :=
    List.filter_congr fun record member => (small record member).covered.symm
  have split := List.length_eq_length_filter_add (l := final.small) DriftRecord.targeted_review_covers
  rw [covered, split, Buckets.withinNotCovered, Nat.add_comm]

/-- **Every reader page is judged once and never over-accepted.** -/
theorem classification_judges_once {run : Judging} {only : Option String} {pages : List String}
    (distinct : pages.Nodup) {final : Buckets} (done : classification run only pages = .ok final) :
    JudgedOnce run only pages final := by
  obtain ⟨assign, assigned⟩ := judgePages_assigned (distinct.filter _) done
  have paths : ∀ bucket, final.paths bucket =
      (selected only pages).filter fun page => assign page = bucket := by
    intro bucket
    have whole := assigned.paths bucket
    have none : Buckets.empty.paths bucket = [] := by cases bucket <;> rfl
    rw [none, List.nil_append] at whole
    exact whole
  have accepted : ∀ record ∈ final.accepted, Vouched run record ∧ record.changed_lines = 0 :=
    fun record member => (assigned.accepted record member).resolve_left List.not_mem_nil
  have small : ∀ record ∈ final.small, Vouched run record :=
    fun record member => (assigned.small record member).resolve_left List.not_mem_nil
  refine ⟨⟨assign, paths⟩, ?_, accepted, small, ?_, ?_⟩
  · have total := length_of_assign (selected only pages) assign
    simp only [← paths, Buckets.paths, List.length_map] at total
    have split := length_small small
    unfold Buckets.officialPending
    omega
  · intro path row indexed isWithdrawal cancels
    constructor
    · intro member
      obtain ⟨record, isRecord, rfl⟩ := List.mem_map.mp member
      exact (accepted record isRecord).1.not_withdrawn indexed cancels isWithdrawal
    · intro member
      obtain ⟨record, isRecord, rfl⟩ := List.mem_map.mp member
      exact (small record isRecord).not_withdrawn indexed cancels isWithdrawal
  · have same : (judgePages run (selected only pages) Buckets.empty).map Buckets.judged =
        judgePages run.onlyInForce (selected only pages) Buckets.empty :=
      judgePages_onlyInForce _ _
    unfold classification at done ⊢
    rw [done] at same
    exact same.symm

/-- One page accepted at a revision of main, and one withdrawn. -/
def sampleJudging : Judging where
  git _ := ⟨0, "", ""⟩
  refSha := "9999999"
  readerRows :=
    [⟨"a.md", some "full-page-acceptance", some "1234567", none, none, none⟩,
      ⟨"b.md", some "withdrawal", some "1234567", none, none, none⟩]
  events := []
  dispositions := ⟨[], List.nodup_nil⟩
  refRows := []

def sampleBuckets : Buckets :=
  { Buckets.empty with
    unknown := [⟨"c.md", "no recorded acceptance row"⟩]
    accepted := [⟨"a.md", "1234567", 0, false, "", none, some "full-page-acceptance", false⟩]
    withdrawn := [⟨"b.md", some "1234567", some "withdrawal", none, none, none⟩] }

theorem sample_judged_once : JudgedOnce sampleJudging none ["a.md", "b.md", "c.md"] sampleBuckets :=
  classification_judges_once (by decide) (by rfl)

end Aegis.Readability
