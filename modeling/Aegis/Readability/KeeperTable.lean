/-
# Readability.KeeperTable — the keeper table and the events built from it

The tracker of a repository records keeper events in one table. `findTable` reads its rows,
`validateRows` checks them against git and turns them into events, and the view of each page is the
row that `latestPerPage` keeps of it: the one with the greatest stable ID as a text. The builder
applies it to the events (`deriveReaderPages`), the checker to the rows (`effectiveRows`).
-/
import Aegis.Lib.Dict
import Aegis.Lib.Guarded
import Aegis.Lib.PythonText
import Aegis.Lib.Regex
import Aegis.Lib.SourceLines
import Mathlib.Data.List.Infix

namespace Aegis.Readability

open Aegis.Lib Aegis.Lib.Guarded

set_option autoImplicit false

/-! ## Git -/

/-- What a git command answers. -/
structure GitAnswer where
  code : Int
  out : String
  err : String

/-- The answers of git to the commands that are run in one repository. -/
abbrev Git := List String → GitAnswer

/-- `text.strip()[:length]`. -/
def excerpt (length : Nat) (text : String) : String :=
  String.ofList ((stripChars text.toList).take length)

structure BuildError where
  message : String
  deriving DecidableEq, Repr

def remoteMain : String := "refs/remotes/origin/main"

section Commands

variable (git : Git)

/-- `git` of the builder: the output of a command that must succeed. -/
def gitOutput (args : List String) : Except BuildError String := do
  let answer := git args
  refuse (answer.code ≠ 0)
    ⟨"git " ++ " ".intercalate args ++ " failed: " ++ excerpt 200 answer.err⟩
  pure answer.out

def resolveRef (ref : String) : Except BuildError String := do
  let answer := git ["rev-parse", "--verify", "--quiet", ref ++ "^\x7bcommit\x7d"]
  refuse (answer.code ≠ 0) ⟨"cannot resolve --ref " ++ ref ++ ": " ++ excerpt 200 answer.err⟩
  pure (strip answer.out)

/-- `merge-base --is-ancestor`. -/
def isAncestor (sha ref : String) : Prop := (git ["merge-base", "--is-ancestor", sha, ref]).code = 0

instance (sha ref : String) : Decidable (isAncestor git sha ref) :=
  inferInstanceAs (Decidable (_ = _))

def containedInRemoteMain (sha : String) : Prop := isAncestor git sha remoteMain

instance (sha : String) : Decidable (containedInRemoteMain git sha) :=
  inferInstanceAs (Decidable (isAncestor git _ _))

def blobAt (revision path : String) : Except BuildError String := do
  let out ← gitOutput git ["rev-parse", revision ++ ":" ++ path]
  pure (strip out)

def isMarkdown (path : List Char) : Bool := ".md".toList.isSuffixOf path

/-- `tracked_markdown`, which is only asked for members. -/
def trackedMarkdown (ref : String) : Except BuildError (List String) := do
  let out ← gitOutput git ["ls-tree", "-r", "--name-only", ref]
  pure (((lines out.toList).filter isMarkdown).map String.ofList)

/-! ## The table -/

/-- A row of the consolidated keeper table. -/
structure KeeperRow where
  stable_id : String
  path : String
  event_kind : String
  revision : String
  blob_id : String
  quote : String
  reviewer : String
  evidence_source : String
  date : String
  deriving DecidableEq, Repr

def trackerRel : String := "docs/roadmaps/aegis-documentation-readability-backlog.md"

def schemaSentinel : String := "<!-- acceptance-index-schema: 1 -->"

/-- `line.lstrip().startswith("|")`. -/
def isTableLine (line : List Char) : Bool := (line.dropWhile isBlank).head? == some '|'

/-- The trimmed cells of a table line. -/
def tableCells (line : List Char) : List String :=
  let inner := ((stripChars line).dropWhile (· == '|')).rdropWhile (· == '|')
  (inner.splitOn '|').map fun cell => String.ofList (stripChars cell)

/-- The row of nine cells. -/
def rowOfCells (line : List Char) : List String → Except BuildError KeeperRow
  | [stable_id, path, event_kind, revision, blob_id, quote, reviewer, evidence_source, date] =>
      .ok ⟨stable_id, path, event_kind, revision, blob_id, quote, reviewer, evidence_source, date⟩
  | cells =>
      .error ⟨"malformed keeper row (expected 9 columns, got " ++ Nat.repr cells.length ++ "): " ++
        String.ofList (line.take 120)⟩

/-- The loop over the lines behind the header. -/
def tableRows : List (List Char) → Except BuildError (List KeeperRow)
  | [] => .ok []
  | line :: later =>
      if isTableLine line = false then .ok []
      else
        let cells := tableCells line
        if cells = [""] then .ok []
        else if cells.head? = some "---" then tableRows later
        else do
          let row ← rowOfCells line cells
          let rows ← tableRows later
          pure (row :: rows)

/-- The lines behind the first one that is accepted. -/
def linesBehind (accepts : List Char → Bool) (all : List (List Char)) (error : BuildError) :
    Except BuildError (List (List Char)) :=
  match all.dropWhile fun line => !accepts line with
  | [] => .error error
  | _ :: later => .ok later

/-- `find_table`. -/
def findTable (ref : String) : Except BuildError (List KeeperRow × String) := do
  let answer := git ["show", ref ++ ":" ++ trackerRel]
  refuse (answer.code ≠ 0)
    ⟨"cannot read " ++ trackerRel ++ " at " ++ ref ++ ": " ++ excerpt 200 answer.err⟩
  let trackerSha ← resolveRef git ref
  let behindSentinel ← linesBehind (fun line => stripChars line == schemaSentinel.toList)
    (lines answer.out.toList)
    ⟨trackerRel ++ " at " ++ ref ++ " has no sentinel; the consolidated keeper table is missing"⟩
  let behindHeader ← linesBehind
    (fun line => isTableLine line && decide ("Stable ID".toList <:+: line)) behindSentinel
    ⟨"the consolidated keeper table header row is missing"⟩
  let rows ← tableRows behindHeader
  refuse (rows = []) ⟨"the consolidated keeper table has no data rows"⟩
  pure (rows, trackerSha)

/-! ## Events -/

/-- `EVENT_KINDS`. -/
def eventKinds : List String :=
  ["full-page-acceptance", "targeted-review", "withdrawal", "lost-commit"]

/-- `LOST_COMMITS`. -/
def lostCommits : List String :=
  ["65bacc7d6b854205cf8bdcc7a1a58f8ef76dc6c7", "d3dcb62a335db83db1cc64dc0d0f8e52594d92f9",
    "3c44f4a", "e9cce7d", "288d993", "7f98950"]

/-- `SHA_RE`. -/
def shaPattern : Regex.Pattern :=
  Regex.sequence [Regex.start,
    Regex.many (fun c => c.isDigit || ('a' ≤ c && c ≤ 'f')) 7 (some 40), Regex.finish]

/-- A recorded event. A lost commit has no blob. -/
structure KeeperEvent where
  stable_id : String
  path : String
  event_kind : String
  revision : String
  blob_id : Option String
  quote : String
  reviewer : String
  evidence_source : String
  date : String
  deriving DecidableEq, Repr

/-- `a.startswith(b) or b.startswith(a)`. -/
def abbreviates (left right : String) : Bool :=
  right.toList.isPrefixOf left.toList || left.toList.isPrefixOf right.toList

/-- The checks of a lost commit, and its event. -/
def lostCommitEvent (row : KeeperRow) : Except BuildError KeeperEvent := do
  require (lostCommits.any (abbreviates row.revision) = true)
    ⟨row.stable_id ++ ": lost-commit revision is not one of the six named lost commits (D73 row 5)"⟩
  refuse (row.blob_id ≠ "—") ⟨row.stable_id ++ ": a lost-commit row must never bind a blob ID"⟩
  pure ⟨row.stable_id, row.path, row.event_kind, row.revision, none, row.quote, row.reviewer,
    row.evidence_source, row.date⟩

/-- The checks of an acceptance, a review or a withdrawal, and its event. -/
def boundEvent (ref : String) (tracked : List String) (row : KeeperRow) :
    Except BuildError KeeperEvent := do
  let sid := row.stable_id
  require ((shaPattern.match? row.revision.toList).isSome = true)
    ⟨sid ++ ": acceptance revision is not a commit id"⟩
  let full ← resolveRef git row.revision
  require (full = row.revision)
    ⟨sid ++ ": revision " ++ row.revision ++ " resolves to " ++ full ++
      ", not itself (never bind an abbreviation)"⟩
  require (containedInRemoteMain git full)
    ⟨sid ++ ": revision " ++ String.ofList (full.toList.take 12) ++
      " is not contained in refs/remotes/origin/main (main-containment rule; the page stays " ++
      "pending, the row is refused - a lost commit must be a lost-commit event, never an acceptance)"⟩
  require (row.path ∈ tracked) ⟨sid ++ ": page is not a tracked Markdown file"⟩
  let expectedBlob ← blobAt git full row.path
  require (row.blob_id = expectedBlob)
    ⟨sid ++ ": blob ID mismatch for " ++ row.path ++ " at " ++ String.ofList (full.toList.take 12)⟩
  let evidence := git ["show", ref ++ ":" ++ row.evidence_source]
  refuse (evidence.code ≠ 0) ⟨sid ++ ": evidence source is not readable"⟩
  require (row.quote.toList <:+: evidence.out.toList)
    ⟨sid ++ ": quote " ++ String.ofList (row.quote.toList.take 60) ++
      " is not found verbatim in " ++ row.evidence_source⟩
  require (row.revision.toList <:+: evidence.out.toList)
    ⟨sid ++ ": revision " ++ String.ofList (row.revision.toList.take 12) ++ " is not named in " ++
      row.evidence_source⟩
  pure ⟨sid, row.path, row.event_kind, full, some expectedBlob, row.quote, row.reviewer,
    row.evidence_source, row.date⟩

/-- One turn of `validate_rows`, with the stable IDs so far. -/
def validateRow (ref : String) (tracked seenIds : List String) (row : KeeperRow) :
    Except BuildError KeeperEvent := do
  refuse (row.stable_id ∈ seenIds) ⟨"duplicate stable ID"⟩
  require (row.event_kind ∈ eventKinds) ⟨row.stable_id ++ ": unknown event kind"⟩
  if row.event_kind = "lost-commit" then lostCommitEvent row else boundEvent git ref tracked row

def validateFrom (ref : String) (tracked : List String) :
    List String → List KeeperRow → Except BuildError (List KeeperEvent)
  | _, [] => .ok []
  | seenIds, row :: later => do
      let event ← validateRow git ref tracked seenIds row
      let events ← validateFrom ref tracked (row.stable_id :: seenIds) later
      pure (event :: events)

/-- `validate_rows`. -/
def validateRows (rows : List KeeperRow) (ref : String) : Except BuildError (List KeeperEvent) := do
  let tracked ← trackedMarkdown git ref
  validateFrom git ref tracked [] rows

end Commands

/-! ## The view of each page -/

/-- The loop that keeps of each page the entry with the greatest stable ID. -/
def latestPerPage {α : Type} (path stableId : α → String) : List (String × α) → List α →
    List (String × α)
  | latest, [] => latest
  | latest, entry :: later =>
      let next :=
        match Dict.get? latest (path entry) with
        | none => Dict.assign latest (path entry) entry
        | some current =>
            if stableId current < stableId entry then Dict.assign latest (path entry) entry
            else latest
      latestPerPage path stableId next later

/-- An entry of the per-page view of the index. -/
structure ReaderPage where
  path : String
  event_kind : String
  last_acceptance_sha : Option String
  blob_id : Option String
  reviewer : String
  evidence_source : String
  date : String
  acceptance_reachable : Bool
  deriving DecidableEq, Repr

/-- The entry of a page whose latest event this is. -/
def readerPage (path : String) (event : KeeperEvent) : ReaderPage where
  path := path
  event_kind := event.event_kind
  last_acceptance_sha := if event.event_kind = "lost-commit" then none else some event.revision
  blob_id := event.blob_id
  reviewer := event.reviewer
  evidence_source := event.evidence_source
  date := event.date
  acceptance_reachable := event.event_kind ≠ "lost-commit"

/-- `derive_reader_pages`. -/
def deriveReaderPages (events : List KeeperEvent) : List ReaderPage :=
  (latestPerPage KeeperEvent.path KeeperEvent.stable_id [] events).map fun entry =>
    readerPage entry.1 entry.2

/-- `effective_rows`. -/
def effectiveRows (rows : List KeeperRow) : List (String × KeeperRow) :=
  latestPerPage KeeperRow.path KeeperRow.stable_id [] rows

/-- `effective_stable_ids`. -/
def effectiveStableIds (rows : List KeeperRow) : List (String × String) :=
  (effectiveRows rows).map fun entry => (entry.1, entry.2.stable_id)

end Aegis.Readability
