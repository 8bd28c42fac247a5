/-
# Readability.Judging — the classification loop of the checker

The checker walks over the reader pages and appends each of them to one of seven lists, by the row
of the index, by the keeper table of the compared ref where the index's withdrawal postdates that
ref, by the partial dispositions, and by the answers of git. `judgePage` is one turn of the loop,
with the row the page is judged by given by `judgedRow`.
-/
import Aegis.Readability.KeeperTable

namespace Aegis.Readability

open Aegis.Lib Aegis.Lib.Guarded

set_option autoImplicit false

/-! ## Drift -/

/-- `int(text)`. -/
def intOfText (text : List Char) : Option Int :=
  let body := stripChars text
  let (negative, digits) :=
    match body with
    | '-' :: rest => (true, rest)
    | '+' :: rest => (false, rest)
    | _ => (false, body)
  let groups := digits.splitOn '_'
  if groups.all (fun group => !group.isEmpty && group.all fun c => (decimalValue? c).isSome) = true then
    (readDigits groups.flatten).map fun n => if negative then -(n : Int) else n
  else none

/-- The loop of `numstat` over the entries of the output. -/
def changedLines (path : String) : List (List Char) → Except String (Option Int × String)
  | [] => .ok (none, "path absent at the acceptance revision (added since)")
  | line :: later =>
      match line.splitOn '\t' with
      | [added, deleted, name] =>
          if name ≠ path.toList then changedLines path later
          else if added = ['-'] ∨ deleted = ['-'] then
            .ok (none, "binary file: git reports '-' for added/deleted")
          else do
            let plus ← fetch (intOfText added) "invalid literal for int()"
            let minus ← fetch (intOfText deleted) "invalid literal for int()"
            pure (some (plus + minus), "")
      | _ => changedLines path later

/-- `HEADING_RE`. -/
def addedHeadingPattern : Regex.Pattern :=
  Regex.sequence [Regex.start, Regex.literal "+", Regex.many (· == '#') 1 (some 6),
    Regex.literal " "]

section Drift

variable (git : Git)

/-- `numstat`: the added and deleted lines of a path, or why they are not known. -/
def numstat (sha ref path : String) : Except String (Option Int × String) :=
  let answer := git ["diff", "--numstat", sha, ref, "--", path]
  if answer.code ≠ 0 then
    .ok (none, "git diff --numstat failed: " ++ excerpt 120 answer.err)
  else
    match (lines answer.out.toList).filter fun line => line.any fun c => !isBlank c with
    | [] => .ok (some 0, "")
    | entries => changedLines path entries

/-- `new_sections`. -/
def newSections (sha ref path : String) : Option Bool × String :=
  let answer := git ["diff", sha, ref, "--", path]
  if answer.code ≠ 0 then (none, "git diff failed: " ++ excerpt 120 answer.err)
  else
    match (lines answer.out.toList).filter fun line => (addedHeadingPattern.match? line).isSome with
    | [] => (some false, "")
    | first :: _ => (some true, String.ofList ((first.take 80).drop 1))

end Drift

def lineThreshold : Int := 10

/-! ## What a run reads -/

/-- A row of the index's per-page view. Its fields may be null. -/
structure IndexRow where
  path : String
  event_kind : Option String
  last_acceptance_sha : Option String
  evidence_source : Option String
  reviewer : Option String
  date : Option String
  deriving DecidableEq, Repr

/-- An event of the index, as far as it is read. -/
structure IndexEvent where
  event_kind : String
  path : String
  deriving DecidableEq, Repr

/-- A partial disposition that `load_partial_dispositions` has returned. -/
structure Disposition where
  path : String
  disposition : String
  withdrawal_id : String
  withdrawal_revision : String
  evidence_source : String
  evidence_ref : String
  quote : String
  reviewer : String
  date : String
  applicable : Bool
  not_applicable_reason : String
  deriving DecidableEq, Repr

/-- `public_disposition`. -/
structure PublicDisposition where
  path : String
  disposition : String
  withdrawal_id : String
  withdrawal_revision : String
  evidence_source : String
  evidence_ref : String
  quote : String
  reviewer : String
  date : String
  deriving DecidableEq, Repr

def publicDisposition (disposition : Disposition) : PublicDisposition where
  path := disposition.path
  disposition := disposition.disposition
  withdrawal_id := disposition.withdrawal_id
  withdrawal_revision := disposition.withdrawal_revision
  evidence_source := disposition.evidence_source
  evidence_ref := disposition.evidence_ref
  quote := disposition.quote
  reviewer := disposition.reviewer
  date := disposition.date

/-- Dispositions of different pages: a second one of a page is refused when they are loaded. -/
structure Dispositions where
  entries : List Disposition
  distinct : (entries.map Disposition.path).Nodup

/-- What the loop reads: git, the compared ref, the index, the dispositions and the keeper table at
the ref. -/
structure Judging where
  git : Git
  refSha : String
  readerRows : List IndexRow
  events : List IndexEvent
  dispositions : Dispositions
  refRows : List KeeperRow

namespace Judging

variable (run : Judging)

/-- `rows_by_path.get(path)`: the last row of a page counts. -/
def indexRow? (path : String) : Option IndexRow :=
  run.readerRows.reverse.find? fun row => row.path = path

/-- `dispositions_by_path.get(path)`. -/
def disposition? (path : String) : Option Disposition :=
  run.dispositions.entries.reverse.find? fun disposition => disposition.path = path

/-- `effective_by_path.get(path)`. -/
def refRow? (path : String) : Option KeeperRow := Dict.get? (effectiveRows run.refRows) path

/-- `effective_id_by_path.get(path)`. -/
def effectiveId? (path : String) : Option String := (run.refRow? path).map KeeperRow.stable_id

end Judging

/-- `targeted_covers`. -/
def targetedCovers (events : List IndexEvent) (path : String) : Bool :=
  events.any fun event => event.event_kind = "targeted-review" && event.path = path

/-- `withdrawal_cancels_at_ref`. -/
def withdrawalCancelsAtRef (git : Git) (row : IndexRow) (refSha : String) : Prop :=
  match row.last_acceptance_sha with
  | none => True
  | some revision => isAncestor git revision refSha

instance (git : Git) (row : IndexRow) (refSha : String) :
    Decidable (withdrawalCancelsAtRef git row refSha) := by
  unfold withdrawalCancelsAtRef
  split <;> infer_instance

/-- `ref_effective_row`. -/
def refEffectiveRow (row : IndexRow) (refRow : KeeperRow) : IndexRow where
  path := row.path
  event_kind := some refRow.event_kind
  last_acceptance_sha := some refRow.revision
  evidence_source := some refRow.evidence_source
  reviewer := some refRow.reviewer
  date := some refRow.date

/-- `disposition_is_active`. -/
def dispositionIsActive (disposition : Disposition) (row : Option IndexRow)
    (effectiveId : Option String) : Prop :=
  (∀ id, effectiveId = some id → id = disposition.withdrawal_id) ∧
    match row with
    | none => True
    | some row => row.event_kind = some "withdrawal" ∧
        row.last_acceptance_sha = some disposition.withdrawal_revision

instance (disposition : Disposition) (row : Option IndexRow) (effectiveId : Option String) :
    Decidable (dispositionIsActive disposition row effectiveId) := by
  unfold dispositionIsActive
  cases row <;> cases effectiveId <;>
    simp only [reduceCtorEq, false_implies, implies_true, true_and, Option.some.injEq, forall_eq'] <;>
    infer_instance

/-- `str(value)[:12]`, of a text that may be null. -/
def shortText (value : Option String) : String := String.ofList ((value.getD "None").toList.take 12)

/-- `inactive_reason`. -/
def inactiveReason (row : Option IndexRow) (effectiveId : Option String) (disposition : Disposition) :
    String :=
  if effectiveId.any (· ≠ disposition.withdrawal_id) = true then
    "the keeper table's effective row for this page is not the declared one"
  else
    match row with
    | none => "the index has no row for this page"
    | some row => "the index records " ++ row.event_kind.getD "None" ++ " at " ++
        shortText row.last_acceptance_sha ++ ", not the declared withdrawal at that revision"

/-! ## The lists -/

/-- A page that is judged by its drift. -/
structure DriftRecord where
  path : String
  sha : String
  changed_lines : Int
  new_section : Bool
  new_section_line : String
  evidence_source : Option String
  event_kind : Option String
  targeted_review_covers : Bool
  deriving DecidableEq, Repr

structure UnknownRecord where
  path : String
  reason : String
  deriving DecidableEq, Repr

structure UndecidedRecord where
  path : String
  sha : Option String
  cause : String
  reason : String
  deriving DecidableEq, Repr

structure WithdrawnRecord where
  path : String
  sha : Option String
  event_kind : Option String
  evidence_source : Option String
  reviewer : Option String
  date : Option String
  deriving DecidableEq, Repr

/-- The lists that the loop appends to. -/
structure Buckets where
  pending : List DriftRecord
  unknown : List UnknownRecord
  undecided : List UndecidedRecord
  small : List DriftRecord
  accepted : List DriftRecord
  withdrawn : List WithdrawnRecord
  partialGaps : List PublicDisposition
  notApplied : List (Disposition × String)
  notApplicable : List Disposition
  deriving DecidableEq, Repr

def Buckets.empty : Buckets := ⟨[], [], [], [], [], [], [], [], []⟩

/-! ## One turn -/

section Turn

variable (run : Judging)

/-- The end of a turn: a page judged by an acceptance or a review, by git's answers. -/
def judgeDrift (path : String) (row : IndexRow) (sha : String) (state : Buckets) :
    Except String Buckets := do
  if ¬ containedInRemoteMain run.git sha then
    pure { state with
      undecided := state.undecided ++ [⟨path, some sha, "unreachable-acceptance",
        "the acceptance revision is not contained in refs/remotes/origin/main"⟩] }
  else
    let counted ← numstat run.git sha run.refSha path
    match counted with
    | (none, why) =>
        pure { state with
          undecided := state.undecided ++ [⟨path, some sha, "changed-lines-unavailable", why⟩] }
    | (some total, _) =>
        match newSections run.git sha run.refSha path with
        | (none, why) =>
            pure { state with
              undecided := state.undecided ++ [⟨path, some sha, "section-scan-unavailable", why⟩] }
        | (some section_, sectionHead) =>
            let record : DriftRecord := ⟨path, sha, total, section_, sectionHead, row.evidence_source,
              row.event_kind, targetedCovers run.events path⟩
            if total > lineThreshold ∨ section_ = true then
              pure { state with pending := state.pending ++ [record] }
            else if total = 0 then pure { state with accepted := state.accepted ++ [record] }
            else pure { state with small := state.small ++ [record] }

/-- A page judged by a row. -/
def judgeRow (path : String) (row : IndexRow) (state : Buckets) : Except String Buckets :=
  if row.event_kind = some "withdrawal" then
    pure { state with
      withdrawn := state.withdrawn ++ [⟨path, row.last_acceptance_sha, row.event_kind,
        row.evidence_source, row.reviewer, row.date⟩] }
  else
    match row.last_acceptance_sha with
    | some sha =>
        if row.event_kind = some "lost-commit" then
          pure { state with
            undecided := state.undecided ++ [⟨path, none, "lost-commit",
              "a lost-commit event is recorded, never bound, never dropped; the page counts pending " ++
                "until re-reviewed (D73 row 5)"⟩] }
        else judgeDrift run path row sha state
    | none =>
        pure { state with
          undecided := state.undecided ++ [⟨path, none, "lost-commit",
            "a lost-commit event is recorded, never bound, never dropped; the page counts pending " ++
              "until re-reviewed (D73 row 5)"⟩] }

/-- The row a page is judged by: the index's, or the effective one at the ref when the index's
withdrawal postdates the ref. -/
def judgedRow (path : String) (row : IndexRow) : Option IndexRow :=
  if row.event_kind = some "withdrawal" ∧ ¬ withdrawalCancelsAtRef run.git row run.refSha then
    (run.refRow? path).map (refEffectiveRow row)
  else some row

/-- A page that no active disposition takes. -/
def judgeUndisposed (path : String) (state : Buckets) : Except String Buckets :=
  match run.indexRow? path with
  | none =>
      pure { state with unknown := state.unknown ++ [⟨path, "no recorded acceptance row"⟩] }
  | some row =>
      match judgedRow run path row with
      | none =>
          pure { state with
            unknown := state.unknown ++ [⟨path,
              "no recorded acceptance row; the index's withdrawal at " ++
                shortText row.last_acceptance_sha ++ " postdates this ref"⟩] }
      | some judged => judgeRow run path judged state

/-- One turn of the loop. -/
def judgePage (path : String) (state : Buckets) : Except String Buckets :=
  match run.disposition? path with
  | none => judgeUndisposed run path state
  | some disposition =>
      if disposition.applicable = false then
        judgeUndisposed run path
          { state with notApplicable := state.notApplicable ++ [disposition] }
      else if dispositionIsActive disposition (run.indexRow? path) (run.effectiveId? path) then
        pure { state with partialGaps := state.partialGaps ++ [publicDisposition disposition] }
      else
        judgeUndisposed run path
          { state with
            notApplied := state.notApplied ++ [(disposition,
              inactiveReason (run.indexRow? path) (run.effectiveId? path) disposition)] }

/-- The loop over the pages. -/
def judgePages : List String → Buckets → Except String Buckets
  | [], state => .ok state
  | path :: later, state => do
      let next ← judgePage run path state
      judgePages later next

/-- The pages that `--path` leaves. -/
def selected (only : Option String) (pages : List String) : List String :=
  pages.filter fun path => decide (∀ asked, only = some asked → asked ≠ "" → path = asked)

/-- The classification of the reader pages. -/
def classification (only : Option String) (pages : List String) : Except String Buckets :=
  judgePages run (selected only pages) Buckets.empty

end Turn

/-! ## The counts -/

namespace Buckets

variable (buckets : Buckets)

def withinNotCovered : List DriftRecord :=
  buckets.small.filter fun record => !record.targeted_review_covers

def officialPending : Nat :=
  buckets.pending.length + buckets.unknown.length + buckets.undecided.length +
    buckets.withdrawn.length + buckets.partialGaps.length + buckets.withinNotCovered.length

end Buckets

/-- The counts of `summary`. -/
structure Summary where
  reader_pages_in_tree : Nat
  accepted_on_recorded_review : Nat
  provably_pending : Nat
  no_recorded_acceptance : Nat
  recorded_acceptance_within_10_lines : Nat
  within_10_not_covered_by_targeted_review : Nat
  cannot_decide : Nat
  withdrawn_pending_rereview : Nat
  partial_disposition_pending : Nat
  partial_dispositions_declared : Nat
  partial_dispositions_inactive : Nat
  partial_dispositions_not_applicable : Nat
  official_pending_count : Nat
  deriving DecidableEq, Repr

def summaryOf (run : Judging) (pages : List String) (buckets : Buckets) : Summary where
  reader_pages_in_tree := pages.length
  accepted_on_recorded_review := buckets.accepted.length
  provably_pending := buckets.pending.length
  no_recorded_acceptance := buckets.unknown.length
  recorded_acceptance_within_10_lines := buckets.small.length
  within_10_not_covered_by_targeted_review := buckets.withinNotCovered.length
  cannot_decide := buckets.undecided.length
  withdrawn_pending_rereview := buckets.withdrawn.length
  partial_disposition_pending := buckets.partialGaps.length
  partial_dispositions_declared := run.dispositions.entries.length
  partial_dispositions_inactive := buckets.notApplied.length
  partial_dispositions_not_applicable := buckets.notApplicable.length
  official_pending_count := buckets.officialPending

end Aegis.Readability
