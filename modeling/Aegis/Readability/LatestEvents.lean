/-
# Readability.LatestEvents — whether the effective event of a page is its latest one

`latestPerPage` keeps of each page the entry whose stable ID is greatest as a text
(`get?_latestPerPage`), in whatever order the entries come. Stable IDs are written with at least
three digits, so among IDs of one width this is the latest row; an ID of more digits comes behind a
shorter one only when its leading digits are no less. `latest_selected_iff` says for which tables
the builder and the checker judge every page by its latest row.
-/
import Aegis.Lib.DigitOrder
import Aegis.Readability.KeeperTable
import Mathlib.Data.List.MinMax
import Mathlib.Data.List.Nodup

namespace Aegis.Readability

open Aegis.Lib Aegis.Lib.Guarded

set_option autoImplicit false

/-! ## What the loop keeps -/

section Loop

variable {α : Type} {path stableId : α → String}

/-- The entry is one of its page with the greatest stable ID. -/
structure Greatest (path stableId : α → String) (entries : List α) (page : String) (entry : α) : Prop
    where
  mem : entry ∈ entries
  here : path entry = page
  greatest : ∀ other ∈ entries, path other = page → stableId other ≤ stableId entry

/-- The loop has kept of each page an entry with the greatest stable ID. -/
structure Kept (path stableId : α → String) (latest : List (String × α)) (seen : List α) : Prop where
  found : ∀ page entry, Dict.get? latest page = some entry → Greatest path stableId seen page entry
  missed : ∀ page, Dict.get? latest page = none → ∀ entry ∈ seen, path entry ≠ page

theorem kept_nil : Kept path stableId [] [] where
  found _ _ held := by cases held
  missed _ _ entry member := absurd member List.not_mem_nil

variable {seen : List α} {latest : List (String × α)}

/-- Another page's entry leaves what is kept of a page as it is. -/
theorem Greatest.other {page : String} {entry new : α}
    (held : Greatest path stableId seen page entry) (apart : path new ≠ page) :
    Greatest path stableId (seen ++ [new]) page entry where
  mem := List.mem_append_left _ held.mem
  here := held.here
  greatest := by
    intro other member same
    rcases List.mem_append.mp member with before | last
    · exact held.greatest other before same
    · obtain rfl := List.mem_singleton.mp last
      exact absurd same apart

/-- An entry with no greater stable ID leaves what is kept of its page. -/
theorem Greatest.keep {page : String} {entry new : α}
    (held : Greatest path stableId seen page entry) (notGreater : ¬ stableId entry < stableId new) :
    Greatest path stableId (seen ++ [new]) page entry where
  mem := List.mem_append_left _ held.mem
  here := held.here
  greatest := by
    intro other member same
    rcases List.mem_append.mp member with before | last
    · exact held.greatest other before same
    · obtain rfl := List.mem_singleton.mp last
      exact not_lt.mp notGreater

/-- An entry that is not below the entries of its page so far is kept. -/
theorem Greatest.take {new : α}
    (above : ∀ other ∈ seen, path other = path new → stableId other ≤ stableId new) :
    Greatest path stableId (seen ++ [new]) (path new) new where
  mem := List.mem_append_right _ (List.mem_singleton.mpr rfl)
  here := rfl
  greatest := by
    intro other member same
    rcases List.mem_append.mp member with before | last
    · exact above other before same
    · obtain rfl := List.mem_singleton.mp last
      exact le_refl _

theorem Kept.assign (kept : Kept path stableId latest seen) {new : α}
    (above : ∀ other ∈ seen, path other = path new → stableId other ≤ stableId new) :
    Kept path stableId (Dict.assign latest (path new) new) (seen ++ [new]) where
  found page entry held := by
    rw [Dict.get?_assign] at held
    by_cases same : page = path new
    · rw [if_pos same] at held
      obtain rfl := Option.some.inj held
      exact same ▸ .take above
    · rw [if_neg same] at held
      exact (kept.found page entry held).other (Ne.symm same)
  missed page none entry member := by
    rw [Dict.get?_assign] at none
    by_cases same : page = path new
    · rw [if_pos same] at none
      cases none
    · rw [if_neg same] at none
      rcases List.mem_append.mp member with before | last
      · exact kept.missed page none entry before
      · obtain rfl := List.mem_singleton.mp last
        exact Ne.symm same

/-- One turn of the loop. -/
theorem Kept.turn (kept : Kept path stableId latest seen) (new : α) :
    Kept path stableId
      (match Dict.get? latest (path new) with
        | none => Dict.assign latest (path new) new
        | some current =>
            if stableId current < stableId new then Dict.assign latest (path new) new else latest)
      (seen ++ [new]) := by
  split
  · rename_i none
    exact kept.assign fun other member same => absurd same (kept.missed _ none other member)
  · rename_i current held
    have holds := kept.found _ _ held
    split
    · rename_i greater
      exact kept.assign fun other member same =>
        (holds.greatest other member same).trans (le_of_lt greater)
    · rename_i notGreater
      refine ⟨fun page entry isHeld => ?_, fun page none entry member => ?_⟩
      · have isKept := kept.found page entry isHeld
        by_cases same : path new = page
        · subst same
          obtain rfl := Option.some.inj (held.symm.trans isHeld)
          exact isKept.keep notGreater
        · exact isKept.other same
      · rcases List.mem_append.mp member with before | last
        · exact kept.missed page none entry before
        · obtain rfl := List.mem_singleton.mp last
          rintro rfl
          rw [held] at none
          cases none

theorem Kept.run (kept : Kept path stableId latest seen) (entries : List α) :
    Kept path stableId (latestPerPage path stableId latest entries) (seen ++ entries) := by
  induction entries generalizing latest seen with
  | nil =>
      rw [List.append_nil]
      exact kept
  | cons entry later ih =>
      have whole := ih (kept.turn entry)
      rw [List.append_assoc, List.singleton_append] at whole
      exact whole

/-- **The entry that is kept of a page has the greatest stable ID of its entries.** -/
theorem get?_latestPerPage (entries : List α) :
    Kept path stableId (latestPerPage path stableId [] entries) entries :=
  kept_nil.run entries

/-- With different stable IDs there is one entry to keep, whatever the order of the entries. -/
theorem get?_latestPerPage_iff {entries : List α} (distinct : (entries.map stableId).Nodup)
    {page : String} {entry : α} :
    Dict.get? (latestPerPage path stableId [] entries) page = some entry ↔
      Greatest path stableId entries page entry := by
  have kept : Kept path stableId (latestPerPage path stableId [] entries) entries :=
    get?_latestPerPage entries
  refine ⟨kept.found page entry, fun greatest => ?_⟩
  cases held : Dict.get? (latestPerPage path stableId [] entries) page with
  | none => exact absurd greatest.here (kept.missed page held entry greatest.mem)
  | some other =>
      have found := kept.found page other held
      have same : stableId other = stableId entry :=
        le_antisymm (greatest.greatest other found.mem found.here)
          (found.greatest entry greatest.mem greatest.here)
      rw [List.inj_on_of_nodup_map distinct found.mem greatest.mem same]

theorem ordered_latestPerPage (ordered : Dict.Ordered latest) (entries : List α) :
    Dict.Ordered (latestPerPage path stableId latest entries) := by
  induction entries generalizing latest with
  | nil => exact ordered
  | cons entry later ih =>
      rw [latestPerPage]
      apply ih
      split
      · exact Dict.ordered_assign ordered _ _
      · split
        · exact Dict.ordered_assign ordered _ _
        · exact ordered

end Loop

/-! ## Validated rows -/

/-- The event of a row that is valid. -/
def eventOf (row : KeeperRow) : KeeperEvent where
  stable_id := row.stable_id
  path := row.path
  event_kind := row.event_kind
  revision := row.revision
  blob_id := if row.event_kind = "lost-commit" then none else some row.blob_id
  quote := row.quote
  reviewer := row.reviewer
  evidence_source := row.evidence_source
  date := row.date

theorem validateRow_eq_ok {git : Git} {ref : String} {tracked seenIds : List String} {row : KeeperRow}
    {event : KeeperEvent} (valid : validateRow git ref tracked seenIds row = .ok event) :
    event = eventOf row := by
  unfold validateRow at valid
  simp only [bind_eq_ok, refuse_eq_ok, require_eq_ok] at valid
  obtain ⟨-, -, -, -, valid⟩ := valid
  split at valid
  · rename_i isLost
    simp only [lostCommitEvent, bind_eq_ok, require_eq_ok, refuse_eq_ok, pure_eq_ok] at valid
    obtain ⟨-, -, -, -, rfl⟩ := valid
    simp [eventOf, isLost]
  · rename_i bound
    simp only [boundEvent, bind_eq_ok, require_eq_ok, refuse_eq_ok, pure_eq_ok] at valid
    obtain ⟨-, -, full, -, -, isFull, -, -, -, -, blob, -, -, isBlob, -, -, -, -, -, -, rfl⟩ := valid
    simp [eventOf, bound, isFull, isBlob]

theorem validateFrom_eq_ok {git : Git} {ref : String} {tracked seenIds : List String}
    {rows : List KeeperRow} {events : List KeeperEvent}
    (valid : validateFrom git ref tracked seenIds rows = .ok events) : events = rows.map eventOf := by
  induction rows generalizing seenIds events with
  | nil => exact (Except.ok.inj valid).symm
  | cons row later ih =>
      simp only [validateFrom, bind_eq_ok, pure_eq_ok] at valid
      obtain ⟨event, isEvent, others, areOthers, rfl⟩ := valid
      rw [List.map_cons, validateRow_eq_ok isEvent, ih areOthers]

/-- The events of a valid table are its rows, in their order. -/
theorem validateRows_eq_ok {git : Git} {ref : String} {rows : List KeeperRow}
    {events : List KeeperEvent} (valid : validateRows git rows ref = .ok events) :
    events = rows.map eventOf := by
  simp only [validateRows, bind_eq_ok] at valid
  obtain ⟨tracked, -, valid⟩ := valid
  exact validateFrom_eq_ok valid

/-! ## Numbered tables -/

/-- A stable ID. -/
def keeperId (number : Nat) : String := "K-" ++ zeroPadded 3 number

/-- A row whose stable ID is that of a number. -/
structure NumberedRow where
  number : Nat
  row : KeeperRow
  isId : row.stable_id = keeperId number

/-- A table of rows with different numbers, in any order. -/
structure NumberedTable where
  rows : List NumberedRow
  distinct : (rows.map NumberedRow.number).Nodup

theorem keeperId_lt_iff {m n : Nat} : keeperId m < keeperId n ↔ zeroPadded 3 m < zeroPadded 3 n := by
  have start : "K-".toList = ['K', '-'] := rfl
  simp only [keeperId, String.lt_iff_toList_lt, String.toList_append, start, List.cons_append,
    List.nil_append, List.cons_lt_cons_iff, lt_irrefl, false_or, true_and]

theorem keeperId_injective : Function.Injective keeperId := append_zeroPadded_injective "K-" 3

/-- The IDs of numbers are ordered as the numbers while the leading digits allow it. -/
theorem keeperId_le_iff {m n : Nat} (below : m ≤ n) :
    keeperId m ≤ keeperId n ↔ m ≤ leading 3 (digitWidth 3 m) n := by
  rcases Nat.lt_or_eq_of_le below with less | rfl
  · have other : keeperId m ≠ keeperId n := fun same => Nat.ne_of_lt less (keeperId_injective same)
    rw [← zeroPadded_lt_iff less, ← keeperId_lt_iff]
    exact ⟨fun notBehind => lt_of_le_of_ne notBehind other, le_of_lt⟩
  · simp [leading]

namespace NumberedTable

variable (table : NumberedTable)

/-- The rows as they stand in the table. -/
def keeperRows : List KeeperRow := table.rows.map NumberedRow.row

/-- The row of the greatest number of its page. -/
structure Latest (entry : NumberedRow) : Prop where
  mem : entry ∈ table.rows
  greatest : ∀ other ∈ table.rows, other.row.path = entry.row.path → other.number ≤ entry.number

/-- The number of each row is at most the number that as many leading digits of the greatest number
of its page form. -/
def InTextOrder : Prop :=
  ∀ latest, table.Latest latest → ∀ other ∈ table.rows, other.row.path = latest.row.path →
    other.number ≤ leading 3 (digitWidth 3 other.number) latest.number

/-- Checker and builder judge every page by its latest row. -/
structure SelectsLatest (events : List KeeperEvent) : Prop where
  rows : ∀ entry, table.Latest entry →
    Dict.get? (effectiveRows table.keeperRows) entry.row.path = some entry.row
  pages : ∀ page, page ∈ deriveReaderPages events ↔
    ∃ entry, table.Latest entry ∧ page = readerPage entry.row.path (eventOf entry.row)

variable {table}

theorem distinct_ids : (table.keeperRows.map KeeperRow.stable_id).Nodup := by
  have ids : table.keeperRows.map KeeperRow.stable_id =
      (table.rows.map NumberedRow.number).map keeperId := by
    rw [keeperRows, List.map_map, List.map_map]
    exact List.map_congr_left fun entry _ => entry.isId
  rw [ids]
  exact table.distinct.map keeperId_injective

theorem mem_keeperRows {row : KeeperRow} :
    row ∈ table.keeperRows ↔ ∃ entry ∈ table.rows, entry.row = row :=
  List.mem_map

/-- Every page with a row has a latest one. -/
theorem exists_latest {entry : NumberedRow} (member : entry ∈ table.rows) :
    ∃ latest, table.Latest latest ∧ latest.row.path = entry.row.path := by
  let inPage := table.rows.filter fun other => other.row.path = entry.row.path
  have here : entry ∈ inPage := List.mem_filter.mpr ⟨member, decide_eq_true rfl⟩
  cases found : inPage.argmax NumberedRow.number with
  | none =>
      rw [List.argmax_eq_none.mp found] at here
      cases here
  | some latest =>
      obtain ⟨mem, samePage⟩ := List.mem_filter.mp (List.argmax_mem found)
      have page : latest.row.path = entry.row.path := of_decide_eq_true samePage
      refine ⟨latest, ⟨mem, fun other isMember same => ?_⟩, page⟩
      have among : other ∈ inPage :=
        List.mem_filter.mpr ⟨isMember, decide_eq_true (same.trans page)⟩
      exact List.le_of_mem_argmax among found

/-- The latest row of a page has the greatest ID of it when the leading digits allow it. -/
theorem greatest_of_latest (ordered : table.InTextOrder) {latest : NumberedRow}
    (isLatest : table.Latest latest) :
    Greatest KeeperRow.path KeeperRow.stable_id table.keeperRows latest.row.path latest.row where
  mem := mem_keeperRows.mpr ⟨latest, isLatest.mem, rfl⟩
  here := rfl
  greatest := by
    intro row member same
    obtain ⟨other, isOther, rfl⟩ := mem_keeperRows.mp member
    rw [other.isId, latest.isId]
    exact (keeperId_le_iff (isLatest.greatest other isOther same)).mpr
      (ordered latest isLatest other isOther same)

theorem Greatest.event {page : String} {row : KeeperRow}
    (held : Greatest KeeperRow.path KeeperRow.stable_id table.keeperRows page row) :
    Greatest KeeperEvent.path KeeperEvent.stable_id (table.keeperRows.map eventOf) page (eventOf row)
    where
  mem := List.mem_map_of_mem held.mem
  here := held.here
  greatest := by
    intro event member same
    obtain ⟨other, isOther, rfl⟩ := List.mem_map.mp member
    exact held.greatest other isOther same

theorem Greatest.of_event {page : String} {event : KeeperEvent}
    (held : Greatest KeeperEvent.path KeeperEvent.stable_id (table.keeperRows.map eventOf) page event) :
    ∃ row, event = eventOf row ∧
      Greatest KeeperRow.path KeeperRow.stable_id table.keeperRows page row := by
  obtain ⟨row, member, rfl⟩ := List.mem_map.mp held.mem
  exact ⟨row, rfl, member, held.here, fun other isOther same =>
    held.greatest (eventOf other) (List.mem_map_of_mem isOther) same⟩

theorem mem_deriveReaderPages {page : ReaderPage} :
    page ∈ deriveReaderPages (table.keeperRows.map eventOf) ↔
      ∃ row, Greatest KeeperRow.path KeeperRow.stable_id table.keeperRows row.path row ∧
        page = readerPage row.path (eventOf row) := by
  have ids : (table.keeperRows.map eventOf).map KeeperEvent.stable_id =
      table.keeperRows.map KeeperRow.stable_id := by
    rw [List.map_map]
    rfl
  have kept : ∀ path event, Dict.get? (latestPerPage KeeperEvent.path KeeperEvent.stable_id []
      (table.keeperRows.map eventOf)) path = some event ↔ _ :=
    fun path event => get?_latestPerPage_iff (ids ▸ distinct_ids)
  rw [deriveReaderPages, List.mem_map]
  constructor
  · rintro ⟨⟨path, event⟩, member, rfl⟩
    have held := Dict.get?_of_mem (ordered_latestPerPage Dict.ordered_nil _) member
    obtain ⟨row, rfl, greatest⟩ := Greatest.of_event ((kept path event).mp held)
    obtain rfl : row.path = path := greatest.here
    exact ⟨row, greatest, rfl⟩
  · rintro ⟨row, greatest, rfl⟩
    exact ⟨(row.path, eventOf row),
      Dict.mem_of_get? ((kept row.path (eventOf row)).mpr (Greatest.event greatest)), rfl⟩

/-- **Every page is judged by its latest row exactly when the leading digits of the greatest number
of each page are no less than the other numbers of the page.** -/
theorem latest_selected_iff {git : Git} {ref : String} {events : List KeeperEvent}
    (valid : validateRows git table.keeperRows ref = .ok events) :
    table.SelectsLatest events ↔ table.InTextOrder := by
  obtain rfl := validateRows_eq_ok valid
  constructor
  · intro selects latest isLatest other isOther same
    have greatest := (get?_latestPerPage_iff distinct_ids).mp (selects.rows latest isLatest)
    have below := greatest.greatest other.row (mem_keeperRows.mpr ⟨other, isOther, rfl⟩) same
    rw [other.isId, latest.isId] at below
    exact (keeperId_le_iff (isLatest.greatest other isOther same)).mp below
  · intro ordered
    refine ⟨fun entry isLatest => ?_, fun page => ?_⟩
    · exact (get?_latestPerPage_iff distinct_ids).mpr (greatest_of_latest ordered isLatest)
    · rw [mem_deriveReaderPages]
      constructor
      · rintro ⟨row, greatest, rfl⟩
        obtain ⟨entry, isEntry, rfl⟩ := mem_keeperRows.mp greatest.mem
        obtain ⟨latest, isLatest, page⟩ := exists_latest isEntry
        have other := greatest_of_latest ordered isLatest
        rw [page] at other
        have same : latest.row = entry.row := by
          have kept := (get?_latestPerPage_iff distinct_ids).mpr greatest
          rw [(get?_latestPerPage_iff distinct_ids).mpr other] at kept
          exact Option.some.inj kept
        exact ⟨latest, isLatest, by rw [same]⟩
      · rintro ⟨entry, isLatest, rfl⟩
        exact ⟨entry.row, greatest_of_latest ordered isLatest, rfl⟩

/-! ## A table that grows past three digits -/

/-- A repository with one page. -/
def sampleGit : Git
  | "ls-tree" :: _ => ⟨0, "page.md\n", ""⟩
  | _ => ⟨0, "1234567\n", ""⟩

def sampleRow (number : Nat) (kind : String) : NumberedRow where
  number := number
  row :=
    { stable_id := keeperId number, path := "page.md", event_kind := kind, revision := "1234567",
      blob_id := "1234567", quote := "", reviewer := "", evidence_source := "record.md", date := "" }
  isId := rfl

/-- The 999th row accepts the page and the 1000th withdraws the acceptance. -/
def withdrawnTable : NumberedTable where
  rows := [sampleRow 999 "full-page-acceptance", sampleRow 1000 "withdrawal"]
  distinct := by decide

theorem withdrawnTable_valid :
    validateRows sampleGit withdrawnTable.keeperRows "main" =
      .ok (withdrawnTable.keeperRows.map eventOf) := by
  decide +kernel

theorem latest_selected_of_withdrawn :
    withdrawnTable.SelectsLatest (withdrawnTable.keeperRows.map eventOf) ↔
      withdrawnTable.InTextOrder :=
  latest_selected_iff withdrawnTable_valid

theorem withdrawnTable_latest : withdrawnTable.Latest (sampleRow 1000 "withdrawal") where
  mem := List.mem_cons_of_mem _ List.mem_cons_self
  greatest := by
    intro other member _
    have bounds : ∀ number ∈ withdrawnTable.rows.map NumberedRow.number, number ≤ 1000 := by decide
    exact bounds other.number (List.mem_map_of_mem member)

/-- The withdrawal is lost: the page is judged by the acceptance before it. -/
theorem withdrawal_overlooked :
    validateRows sampleGit withdrawnTable.keeperRows "main" =
        .ok (withdrawnTable.keeperRows.map eventOf) ∧
      ¬ withdrawnTable.SelectsLatest (withdrawnTable.keeperRows.map eventOf) := by
  refine ⟨withdrawnTable_valid, fun selects => ?_⟩
  have selected := selects.rows _ withdrawnTable_latest
  have accepted : Dict.get? (effectiveRows withdrawnTable.keeperRows) "page.md" =
      some (sampleRow 999 "full-page-acceptance").row := by decide +kernel
  rw [show (sampleRow 1000 "withdrawal").row.path = "page.md" from rfl, accepted] at selected
  have kinds := congrArg KeeperRow.event_kind (Option.some.inj selected)
  exact absurd kinds (by decide)

end NumberedTable

end Aegis.Readability
