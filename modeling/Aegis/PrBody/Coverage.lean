/-
# PrBody.Coverage — the rows that an accepted body covers

An accepted body opens every field once, its fields lie apart, and every table whose first line behind
the delimiter row is a data row is covered: all its data rows are counted, and its records name as many
source rows. A table whose first line is none has no counted row and is passed over
(`accepted_covers_iff`).
-/
import Aegis.PrBody.Check
import Mathlib.Data.List.Nodup

namespace Aegis.PrBody

open Aegis.Lib

set_option autoImplicit false

/-! ## Source rows -/

inductive Source where
  | ordinal (n : Int)
  | locator (part : List Char)

/-- A part of a `row=` token names a source row. -/
inductive Names (part : List Char) : Source → Prop where
  | single {n : Int} (whole : cutAt ['.', '.'] part = none) (number : readInt part = some n)
      (positive : 1 ≤ n) : Names part (.ordinal n)
  | span {low high : List Char} {first last n : Int} (cut : cutAt ['.', '.'] part = some (low, high))
      (isFirst : readInt low = some first) (isLast : readInt high = some last)
      (positive : 1 ≤ first) (lower : first ≤ n) (upper : n ≤ last) : Names part (.ordinal n)
  | locator (noNumber : match cutAt ['.', '.'] part with
      | some (low, high) => readInt low = none ∨ readInt high = none
      | none => readInt part = none) : Names part (.locator part)

def Coverage.sources (coverage : Coverage) : List Source :=
  coverage.covered.map .ordinal ++ coverage.named.map .locator

/-- The sources are different ones, each named by a part. -/
structure Coverage.Sound (parts : List (List Char)) (coverage : Coverage) : Prop where
  covered : coverage.covered.Nodup
  named : coverage.named.Nodup
  each : ∀ source ∈ coverage.sources, ∃ part ∈ parts, Names part source

theorem mem_spanOf {low high n : Int} : n ∈ spanOf low high ↔ low ≤ n ∧ n ≤ high := by
  simp only [spanOf, List.mem_map, List.mem_range]
  constructor
  · rintro ⟨k, small, rfl⟩
    omega
  · rintro ⟨lower, upper⟩
    exact ⟨(n - low).toNat, by omega, by omega⟩

namespace Coverage.Sound

variable {parts : List (List Char)} {coverage : Coverage} {part : List Char}

theorem name (sound : coverage.Sound parts) (member : part ∈ parts)
    (isLocator : Names part (.locator part)) : (coverage.name part).Sound parts := by
  unfold Coverage.name
  split
  · exact ⟨sound.covered, sound.named, sound.each⟩
  · rename_i fresh
    refine ⟨sound.covered, List.nodup_cons.mpr ⟨fresh, sound.named⟩, fun source held => ?_⟩
    simp only [sources, List.map_cons, List.mem_append, List.mem_cons] at held
    rcases held with old | rfl | old
    · exact sound.each source (List.mem_append_left _ old)
    · exact ⟨part, member, isLocator⟩
    · exact sound.each source (List.mem_append_right _ old)

theorem cover (sound : coverage.Sound parts) (member : part ∈ parts) {added : List Int}
    (distinct : added.Nodup) (fresh : ∀ n ∈ added, n ∉ coverage.covered)
    (isNamed : ∀ n ∈ added, Names part (.ordinal n)) :
    Coverage.Sound parts { coverage with covered := added ++ coverage.covered } := by
  refine ⟨List.nodup_append.mpr ⟨distinct, sound.covered, ?_⟩, sound.named, fun source held => ?_⟩
  · rintro n new _ old rfl
    exact fresh n new old
  · simp only [sources, List.map_append, List.append_assoc, List.mem_append] at held
    rcases held with new | old
    · obtain ⟨n, isNew, rfl⟩ := List.mem_map.mp new
      exact ⟨part, member, isNamed n isNew⟩
    · exact sound.each source (List.mem_append.mpr old)

theorem takePart (sound : coverage.Sound parts) (member : part ∈ parts) :
    (coverage.takePart part).Sound parts := by
  have fault : ∀ fault, (coverage.fault fault).Sound parts :=
    fun _ => ⟨sound.covered, sound.named, sound.each⟩
  unfold Coverage.takePart
  split
  · rename_i low high cut
    split
    · rename_i first last isFirst isLast
      split
      · exact fault _
      · split
        · exact fault _
        · split
          · exact fault _
          · rename_i positive wide apart
            refine sound.cover member ?_ (fun n new old => apart ?_) fun n new => ?_
            · exact List.Nodup.map (fun a b same => by simpa using same) List.nodup_range
            · exact List.any_eq_true.mpr ⟨n, new, decide_eq_true old⟩
            · obtain ⟨lower, upper⟩ := mem_spanOf.mp new
              exact .span cut isFirst isLast (by omega) lower upper
    · rename_i noNumbers
      refine sound.name member (.locator ?_)
      rw [cut]
      cases isFirst : readInt low with
      | none => exact .inl isFirst
      | some first =>
          cases isLast : readInt high with
          | none => exact .inr isLast
          | some last => exact absurd isLast (noNumbers first last isFirst)
  · rename_i whole
    split
    · rename_i single number
      split
      · exact fault _
      · split
        · exact fault _
        · rename_i positive fresh
          refine sound.cover member (List.nodup_singleton single) ?_ ?_
          · simpa using fresh
          · intro n new
            obtain rfl := List.mem_singleton.mp new
            exact .single whole number (by omega)
    · rename_i noNumber
      exact sound.name member (.locator (by rw [whole]; exact noNumber))

theorem foldl {list : List (List Char)} (within : ∀ part ∈ list, part ∈ parts)
    (sound : coverage.Sound parts) : (list.foldl Coverage.takePart coverage).Sound parts := by
  induction list generalizing coverage with
  | nil => exact sound
  | cons part list ih =>
      obtain ⟨here, later⟩ := List.forall_mem_cons.mp within
      exact ih later (sound.takePart here)

theorem nodup (sound : coverage.Sound parts) : coverage.sources.Nodup := by
  refine List.nodup_append.mpr ⟨List.Nodup.map (fun _ _ same => Source.ordinal.inj same) sound.covered,
    List.Nodup.map (fun _ _ same => Source.locator.inj same) sound.named, ?_⟩
  rintro source ordinal _ locator rfl
  obtain ⟨n, _, rfl⟩ := List.mem_map.mp ordinal
  obtain ⟨part, _, same⟩ := List.mem_map.mp locator
  cases same

end Coverage.Sound

theorem blockRowCoverage_sound (tokens : List (List Char)) :
    (blockRowCoverage tokens).Sound (partsOf tokens) :=
  Coverage.Sound.foldl (fun _ member => member)
    ⟨List.nodup_nil, List.nodup_nil, by simp [Coverage.sources]⟩

/-! ## Rows and headers -/

/-- The lower case of a visible character is not empty and visible. -/
def KeepsVisible (tables : Unicode) : Prop :=
  ∀ before c after, isBlank c = false →
    tables.lowerAt before c after ≠ [] ∧ ∀ d ∈ tables.lowerAt before c after, isBlank d = false

section Rows

variable {tables : Unicode}

theorem last_lowerFrom (visible : KeepsVisible tables) {before text : List Char}
    (nonempty : text ≠ []) (last : ∀ c ∈ text.getLast?, isBlank c = false) :
    tables.lowerFrom before text ≠ [] ∧
      ∀ d ∈ (tables.lowerFrom before text).getLast?, isBlank d = false := by
  induction text generalizing before with
  | nil => exact absurd rfl nonempty
  | cons c rest ih =>
      rcases rest with _ | ⟨next, rest⟩
      · obtain ⟨some, each⟩ := visible before c [] (last c rfl)
        simp only [Unicode.lowerFrom, List.append_nil]
        exact ⟨some, fun d member => each d (List.mem_of_getLast? member)⟩
      · obtain ⟨some, isLast⟩ := @ih (c :: before) (List.cons_ne_nil _ _) last
        rw [Unicode.lowerFrom, List.getLast?_append_of_ne_nil _ some]
        exact ⟨List.append_ne_nil_of_right_ne_nil _ some, isLast⟩

theorem squeeze_eq {text : List Char} (last : ∀ c ∈ text.getLast?, isBlank c = false)
    (noGap : ' ' ∉ squeeze text) : squeeze text = text := by
  induction text with
  | nil => rfl
  | cons c rest ih =>
      unfold squeeze at noGap ⊢
      split at noGap
      · rename_i blank
        split at noGap
        · rename_i none
          have same := ih (fun d member => last d (by cases rest <;> simp_all)) noGap
          rw [same] at none
          rcases none with none | gap
          · subst none
            rw [last c rfl] at blank
            cases blank
          · rw [same] at noGap
            exact absurd (List.mem_of_head? gap) noGap
        · simp at noGap
      · rename_i shown
        obtain ⟨_, noGap⟩ := not_or.mp (List.mem_cons.not.mp noGap)
        rw [if_neg shown, ih (fun d member => last d (by cases rest <;> simp_all)) noGap]

/-- The first cell of a header row. -/
theorem label_of_header (visible : KeepsVisible tables) {line : Line}
    (header : isHeaderRow tables line = true) :
    ∃ first others, cellsOf line = first :: others ∧ tables.lower first = skillLabel := by
  have same := eq_of_beq header
  rcases split : cellsOf line with _ | ⟨first, others⟩
  · rw [split] at same
    cases same
  · refine ⟨first, others, rfl, ?_⟩
    rw [split] at same
    have label : joinWords (tables.lower first) = skillLabel := (List.cons.inj same).1
    have held : first ∈ (splitCells line).map stripChars := by
      apply ((List.dropLast_sublist _).trans (List.drop_sublist 1 _)).subset
      change first ∈ cellsOf line
      rw [split]
      exact List.mem_cons_self ..
    obtain ⟨cell, _, rfl⟩ := List.mem_map.mp held
    obtain ⟨isFirst, isLast⟩ := trimmed_stripChars cell
    generalize stripChars cell = text at isFirst isLast label ⊢
    rcases text with _ | ⟨c, text⟩
    · cases label
    · have ends := (@last_lowerFrom _ visible [] _ (List.cons_ne_nil c text) isLast).2
      obtain ⟨some, each⟩ := visible [] c text (isFirst c rfl)
      obtain ⟨d, ds, lower⟩ := List.exists_cons_of_ne_nil some
      have shown : isBlank d = false := each d (by rw [lower]; exact List.mem_cons_self ..)
      have front : (tables.lower (c :: text)).dropWhile isBlank = tables.lower (c :: text) := by
        simp [Unicode.lower, Unicode.lowerFrom, lower, shown]
      rw [joinWords, front] at label
      have noGap : ' ' ∉ squeeze (tables.lower (c :: text)) := by
        rw [label]
        decide
      rw [← label]
      exact (squeeze_eq ends noGap).symm

omit tables in
theorem head_of_delimiterCell {cell : List Char} (delimiter : isDelimiterCell cell = true) :
    ∃ c rest, cell = c :: rest ∧ (c = '-' ∨ c = ':') := by
  rcases cell with _ | ⟨c, rest⟩
  · cases delimiter
  · refine ⟨c, rest, rfl, or_iff_not_imp_right.mpr fun noColon => ?_⟩
    simp only [isDelimiterCell, List.head?_cons, Option.some.injEq, noColon, if_false,
      Bool.and_eq_true, List.all_eq_true, decide_eq_true_eq] at delimiter
    obtain ⟨dashes, long⟩ := delimiter
    split at dashes
    · rcases rest with _ | ⟨next, rest⟩
      · simp_all
      · exact dashes c (by simp)
    · exact dashes c (List.mem_cons_self ..)

/-- A header row is neither a data row nor a delimiter row. -/
theorem apart_of_header (visible : KeepsVisible tables) {line : Line}
    (header : isHeaderRow tables line = true) :
    isDataRow tables line = false ∧ isDelimiterRow line = false := by
  obtain ⟨first, others, split, label⟩ := label_of_header visible header
  refine ⟨by simp [isDataRow, split, label], ?_⟩
  by_contra delimiter
  simp only [isDelimiterRow, split, Bool.not_eq_false, Bool.and_eq_true, List.all_cons] at delimiter
  obtain ⟨c, rest, rfl, mark⟩ := head_of_delimiterCell delimiter.2.1
  have ascii : c.toNat < 128 := by rcases mark with rfl | rfl <;> decide
  rw [Unicode.lower, Unicode.lowerFrom, tables.lowerAt_ascii [] c rest ascii] at label
  have same : c.toLower = 's' := (List.cons.inj label).1
  rcases mark with rfl | rfl <;> cases same

/-- A header row with a delimiter row behind it. -/
def TableAt (tables : Unicode) (lines after : List Line) : Prop :=
  ∃ before header delimiter, lines = before ++ header :: delimiter :: after ∧
    isHeaderRow tables header = true ∧ isDelimiterRow delimiter = true

/-- The scan finds every table. -/
theorem mem_tablesOf (visible : KeepsVisible tables) {lines after : List Line}
    (table : TableAt tables lines after) :
    ⟨after.takeWhile (isDataRow tables), after.dropWhile (isDataRow tables)⟩ ∈ tablesOf tables lines := by
  obtain ⟨before, header, delimiter, whole, isHeader, isDelimiter⟩ := table
  fun_induction tablesOf tables lines generalizing before with
  | case1 first second rest found ih =>
      rcases before with _ | ⟨_, _ | ⟨_, before⟩⟩
      · cases whole
        exact List.mem_cons_self ..
      · cases whole
        have apart := (apart_of_header visible isHeader).2
        rw [found.2] at apart
        cases apart
      · cases whole
        have noRow := (apart_of_header visible isHeader).1
        refine List.mem_cons_of_mem _ ?_
        by_cases skipped : before.dropWhile (isDataRow tables) = []
        · refine ih [] ?_
          simp [List.dropWhile_append, skipped, noRow]
        · refine ih (before.dropWhile (isDataRow tables)) ?_
          simp [List.dropWhile_append, skipped]
  | case2 first second rest other ih =>
      rcases before with _ | ⟨_, before⟩
      · cases whole
        exact absurd ⟨isHeader, isDelimiter⟩ other
      · exact ih before (List.cons.inj whole).2
  | case3 lines short => 
      rcases before with _ | ⟨_, _ | ⟨_, before⟩⟩
      all_goals exact absurd whole (short _ _ _)

/-! ## Covered tables -/

def isPipeLine (line : Line) : Bool := line.head? == some '|'

/-- A record names a source row. -/
def RecordNames (record : Line) (source : Source) : Prop :=
  ∃ part ∈ partsOf [(rowSourceFields record).row.getD []], Names part source

/-- All data rows behind a table's delimiter row are counted, and the records that follow the counted
rows are complete and name as many different source rows. -/
structure Covered (tables : Unicode) (after : List Line) : Prop where
  counted : (after.takeWhile isPipeLine).filter (isDataRow tables) = after.takeWhile (isDataRow tables)
  named : ∃ sources : List Source, sources.Nodup ∧
    (after.takeWhile (isDataRow tables)).length ≤ sources.length ∧
      ∀ source ∈ sources, ∃ record ∈ attached (after.dropWhile (isDataRow tables)),
        RecordNames record source
  complete : ∀ record ∈ attached (after.dropWhile (isDataRow tables)),
    missingRowSourceFields (rowSourceFields record) = []

theorem attached_subset (lines : List Line) :
    ∀ record ∈ attached lines, record ∈ lines ∧ isRecord record = true := by
  induction lines with
  | nil => exact fun _ member => absurd member List.not_mem_nil
  | cons line rest ih =>
      unfold attached
      split
      · exact fun record member => (ih record member).imp_left (List.mem_cons_of_mem _)
      · split
        · rename_i isRecord
          simp only [List.forall_mem_cons]
          exact ⟨⟨List.mem_cons_self .., isRecord⟩,
            fun record member => (ih record member).imp_left (List.mem_cons_of_mem _)⟩
        · exact fun _ member => absurd member List.not_mem_nil

/-- No record follows where a pipe line does. -/
theorem attached_pipeLine {line : Line} (pipe : isPipeLine line = true) (rest : List Line) :
    attached (line :: rest) = [] := by
  rcases line with _ | ⟨c, line⟩
  · cases pipe
  · obtain rfl : c = '|' := by simpa [isPipeLine] using pipe
    have front : ∃ text, stripChars ('|' :: line) = '|' :: text := by
      have shown : '|' ∈ stripChars ('|' :: line) := (mem_stripChars rfl).mpr (List.mem_cons_self ..)
      obtain ⟨tail, whole⟩ := List.rdropWhile_prefix isBlank (l := '|' :: line)
      change stripChars ('|' :: line) ++ tail = _ at whole
      rcases stripped : stripChars ('|' :: line) with _ | ⟨first, text⟩
      · rw [stripped] at shown
        cases shown
      · rw [stripped] at whole
        obtain rfl := (List.cons.inj whole).1
        exact ⟨text, rfl⟩
    obtain ⟨text, front⟩ := front
    have noNote : startsCaseless owedNote ('|' :: text) = false := rfl
    have noRecord : isRecord ('|' :: line) = false := by
      rw [isRecord, front]
      rfl
    simp [attached, front, noNote, noRecord]

theorem takeWhile_pipes {after : List Line}
    (stops : ∀ line ∈ (after.dropWhile (isDataRow tables)).head?, isPipeLine line = false) :
    (after.takeWhile isPipeLine).filter (isDataRow tables) = after.takeWhile (isDataRow tables) := by
  induction after with
  | nil => rfl
  | cons line rest ih =>
      by_cases row : isDataRow tables line = true
      · have pipe : isPipeLine line = true := by
          simp only [isDataRow, Bool.and_eq_true] at row
          exact row.1.1.1.1
        rw [List.dropWhile_cons_of_pos row] at stops
        rw [List.takeWhile_cons_of_pos pipe, List.takeWhile_cons_of_pos row,
          List.filter_cons_of_pos row, ih stops]
      · rw [List.dropWhile_cons_of_neg row] at stops
        have noPipe : ¬ isPipeLine line = true := by rw [stops line rfl]; exact Bool.false_ne_true
        rw [List.takeWhile_cons_of_neg noPipe, List.takeWhile_cons_of_neg row]
        rfl

/-- A table without failures is covered exactly when a row is counted or there is none. -/
theorem covered_iff {block : Nat} {after : List Line}
    (accepted : tableFailures block ⟨after.takeWhile (isDataRow tables),
      after.dropWhile (isDataRow tables)⟩ = [])
    (complete : ∀ record ∈ after, isRecord record = true →
      missingRowSourceFields (rowSourceFields record) = []) :
    Covered tables after ↔ (after.takeWhile (isDataRow tables) ≠ [] ∨
      (after.takeWhile isPipeLine).filter (isDataRow tables) = []) := by
  have isComplete : ∀ record ∈ attached (after.dropWhile (isDataRow tables)),
      missingRowSourceFields (rowSourceFields record) = [] := fun record member => by
    obtain ⟨behind, isRecord⟩ := attached_subset _ record member
    exact complete record ((List.dropWhile_sublist _).subset behind) isRecord
  constructor
  · intro covered
    rw [covered.counted]
    exact ne_or_eq _ _
  · intro counts
    by_cases empty : after.takeWhile (isDataRow tables) = []
    · have none := counts.resolve_left (not_not_intro empty)
      exact ⟨none.trans empty.symm, ⟨[], List.nodup_nil, by simp [empty], by simp⟩, isComplete⟩
    · simp only [tableFailures, empty, if_false] at accepted
      split at accepted
      · cases accepted
      · rename_i some
        obtain ⟨_, enough⟩ := List.append_eq_nil_iff.mp accepted
        split at enough
        · cases enough
        · rename_i many
          have sound := blockRowCoverage_sound
            ((attached (after.dropWhile (isDataRow tables))).map fun line =>
              (rowSourceFields line).row.getD [])
          refine ⟨takeWhile_pipes fun line first => ?_,
            ⟨_, sound.nodup, by simpa [Coverage.sources] using many, fun source held => ?_⟩, isComplete⟩
          · obtain ⟨rest, split⟩ := List.head?_eq_some_iff.mp first
            by_contra pipe
            rw [Bool.not_eq_false] at pipe
            rw [split, attached_pipeLine pipe] at some
            exact some rfl
          · obtain ⟨part, member, isNamed⟩ := sound.each source held
            simp only [partsOf, List.mem_filter, List.mem_map, List.mem_flatMap] at member
            obtain ⟨⟨text, ⟨_, ⟨record, follows, rfl⟩, piece⟩, rfl⟩, nonempty⟩ := member
            refine ⟨record, follows, stripChars text, ?_, isNamed⟩
            simp only [partsOf, List.mem_filter, List.mem_map, List.mem_flatMap]
            exact ⟨⟨text, ⟨_, List.mem_singleton.mpr rfl, piece⟩, rfl⟩, nonempty⟩

end Rows

/-! ## Fields -/

/-- The lines from an opening marker to the first end marker behind it. -/
structure IsRange (lines : List Line) (field : Field) (start stop : Nat) : Prop where
  opens : start ∈ positions lines field.marker
  closes : stop ∈ positions lines endMarker
  after : start < stop
  first : ∀ i ∈ positions lines endMarker, start < i → stop ≤ i

theorem marker_unique {lines : List Line} {one other : Line} {i : Nat}
    (isOne : i ∈ positions lines one) (isOther : i ∈ positions lines other) : one = other := by
  simp only [positions, List.mem_filter, decide_eq_true_eq] at isOne isOther
  exact Option.some.inj (isOne.2.symm.trans isOther.2)

/-- A field that is opened once and closed. -/
theorem range_of_pairOk {lines : List Line} {field : Field} (ok : pairOk lines field = true)
    (once : ¬ 1 < (positions lines field.marker).length) :
    ∃ start stop, positions lines field.marker = [start] ∧ IsRange lines field start stop ∧
      ∀ other, other ≠ field → ∀ i ∈ positions lines other.marker, ¬ (start < i ∧ i < stop) := by
  unfold pairOk at ok
  split at ok
  · cases ok
  · rename_i start first
    obtain ⟨rest, opened⟩ := List.head?_eq_some_iff.mp first
    obtain rfl : rest = [] := by
      rw [opened, List.length_cons] at once
      exact List.eq_nil_of_length_eq_zero (by omega)
    obtain ⟨stop, closes, holds⟩ := List.any_eq_true.mp ok
    simp only [Bool.and_eq_true, decide_eq_true_eq, Bool.not_eq_true', List.any_eq_false,
      List.mem_filter] at holds
    have closed : ∃ i, i ∈ positions lines endMarker ∧ start < i := ⟨stop, closes, holds.1⟩
    obtain ⟨isEnd, above⟩ := Nat.find_spec closed
    refine ⟨start, Nat.find closed, opened, ⟨by simp [opened], isEnd, above,
      fun i member behind => Nat.find_min' closed ⟨member, behind⟩⟩, ?_⟩
    rintro other ne i member ⟨lower, upper⟩
    have least := Nat.find_min' closed ⟨closes, holds.1⟩
    refine holds.2 other ⟨by cases other <;> simp [Field.all], ne⟩ (List.any_eq_true.mpr ⟨i, member, ?_⟩)
    simp only [Bool.and_eq_true, decide_eq_true_eq]
    omega

theorem ranges_disjoint {lines : List Line} (ok : ∀ field, pairOk lines field = true)
    (once : ∀ field : Field, ¬ 1 < (positions lines field.marker).length) {one other : Field}
    (ne : one ≠ other) {start stop start' stop' : Nat} (range : IsRange lines one start stop)
    (range' : IsRange lines other start' stop') : stop < start' ∨ stop' < start := by
  have ahead : ∀ {one other : Field}, one ≠ other → ∀ {start stop start' stop' : Nat},
      IsRange lines one start stop → IsRange lines other start' stop' → start ≤ start' →
        stop < start' := by
    intro one other ne start stop start' stop' range range' before
    obtain ⟨first, last, opened, isRange, apart⟩ := range_of_pairOk (ok one) (once one)
    obtain rfl : start = first := by simpa [opened] using range.opens
    have least := range.first last isRange.closes isRange.after
    have differs : other.marker ≠ one.marker := by
      revert ne
      cases one <;> cases other <;> decide
    have noEnd : other.marker ≠ endMarker := by cases other <;> decide
    have notStart : start ≠ start' := fun same =>
      differs (marker_unique range'.opens (same ▸ range.opens))
    have notStop : start' ≠ stop := fun same =>
      noEnd (marker_unique range'.opens (same ▸ range.closes))
    have between := apart other ne.symm start' range'.opens
    omega
  rcases Nat.le_total start start' with before | before
  · exact .inl (ahead ne range range' before)
  · exact .inr (ahead ne.symm range' range before)

/-! ## Plain lines -/

theorem plain_splitMarkdownLines (text : List Char) : ∀ line ∈ splitMarkdownLines text, '\n' ∉ line := by
  have push : ∀ {c : Char} {lines : List Line}, c ≠ '\n' → (∀ line ∈ lines, '\n' ∉ line) →
      ∀ line ∈ lines.modifyHead (c :: ·), '\n' ∉ line := by
    intro c lines other plain
    cases lines with
    | nil => simp
    | cons first rest => simpa [Ne.symm other] using plain
  fun_induction splitMarkdownLines text with
  | case1 => simp
  | case2 rest ih => simpa using ih
  | case3 c rest _ breaks ih => simpa using ih
  | case4 c rest _ inLine ih => exact push (fun same => inLine (.inl same)) ih

theorem plain_bodyLines (body : List Char) : ∀ line ∈ bodyLines body, '\n' ∉ line := by
  have fenced : ∀ (fence : Option Fence) (lines : List Line), ∀ line ∈ stripFencedCode fence lines,
      line = [] ∨ line ∈ lines := by
    intro fence lines
    fun_induction stripFencedCode fence lines <;> simp_all <;> grind
  intro line member
  obtain ⟨source, held, rfl⟩ := List.mem_map.mp member
  split
  · exact List.not_mem_nil
  · rcases fenced none _ source held with rfl | held
    · exact List.not_mem_nil
    · exact plain_splitMarkdownLines body source held

theorem fieldSlice_subset {lines : List Line} {start stop : Line} : fieldSlice lines start stop ⊆ lines := by
  unfold fieldSlice
  split
  · exact List.nil_subset _
  · rename_i split
    split
    · intro line member
      apply (List.dropWhile_sublist _).subset
      rw [split]
      exact List.mem_cons_of_mem _ ((List.takeWhile_sublist _).subset member)
    · exact List.nil_subset _

/-! ## Accepted bodies -/

section Accepted

variable {tables : Unicode} {nonce nonce' : Nonce}

/-- The lines of the skills field without comments, but with its records. -/
def skillsLines (body : List Char) : List Line :=
  keptLines (fieldSlice (bodyLines body) Field.skills.marker endMarker)

/-- No line has the form of a marker. -/
def Apart (nonce : Nonce) (lines : List Line) : Prop :=
  ∀ line ∈ lines, markerIndex? nonce line = none

/-- Every field is opened once and closed, the fields lie apart, and every table is covered. -/
structure Publishes (tables : Unicode) (body : List Char) : Prop where
  once : ∀ field : Field, ∃ start stop, positions (bodyLines body) field.marker = [start] ∧
    IsRange (bodyLines body) field start stop
  disjoint : ∀ one other : Field, one ≠ other → ∀ start stop start' stop',
    IsRange (bodyLines body) one start stop → IsRange (bodyLines body) other start' stop' →
      stop < start' ∨ stop' < start
  covered : ∀ after, TableAt tables (skillsLines body) after → Covered tables after

theorem tableFailures_of_skillsFailures {field : List Line} (plain : ∀ line ∈ field, '\n' ∉ line)
    (apart : Apart nonce (keptLines field)) (apart' : Apart nonce' (keptLines field))
    (accepted : skillsFailures tables nonce nonce' field = some []) :
    (∀ table ∈ tablesOf tables (keptLines field), ∃ block, tableFailures block table = []) ∧
      recordFailures (keptLines field) = [] := by
  simp only [skillsFailures, stripFieldComments_eq nonce plain apart, Option.bind_eq_bind,
    Option.bind_some, Option.bind_eq_some_iff, Option.some.injEq, List.append_eq_nil_iff] at accepted
  obtain ⟨_, uncovered, ⟨_, rfl⟩, complete⟩ := accepted
  refine ⟨fun table member => ?_, complete⟩
  split at uncovered
  · rename_i none
    have empty : table.rows = [] := List.flatMap_eq_nil_iff.mp none table member
    exact ⟨0, by simp [tableFailures, empty]⟩
  · simp only [skillsFieldFailures, stripFieldComments_eq nonce' plain apart', Option.bind_eq_bind,
      Option.bind_some, Option.some.injEq, List.flatMap_eq_nil_iff] at uncovered
    obtain ⟨index, here, rfl⟩ := List.mem_iff_getElem.mp member
    exact ⟨_, uncovered (_, index) (List.mem_zipIdx_iff_getElem?.mpr (by simp))⟩

theorem complete_of_recordFailures {lines : List Line} (accepted : recordFailures lines = [])
    {record : Line} (member : record ∈ lines) (isRecord : isRecord record = true) :
    missingRowSourceFields (rowSourceFields record) = [] := by
  have none := List.flatMap_eq_nil_iff.mp accepted record (List.mem_filter.mpr ⟨member, isRecord⟩)
  split at none
  · assumption
  · cases none

/-- **An accepted body** publishes no row without a source row exactly when every table without a
counted row has no data row in its run of pipe lines. -/
theorem accepted_publishes_iff (visible : KeepsVisible tables) {body : List Char}
    {author : Option String} (noBot : author.any (· ∈ botAuthors) = false)
    (apart : Apart nonce (skillsLines body)) (apart' : Apart nonce' (skillsLines body))
    (accepted : check tables nonce nonce' body author = some []) :
    Publishes tables body ↔ ∀ after, TableAt tables (skillsLines body) after →
      after.takeWhile (isDataRow tables) ≠ [] ∨
        (after.takeWhile isPipeLine).filter (isDataRow tables) = [] := by
  simp only [check, noBot, Bool.false_eq_true, if_false, Option.map_eq_some_iff,
    List.append_eq_nil_iff, List.map_eq_nil_iff, List.filter_eq_nil_iff, decide_eq_true_eq] at accepted
  obtain ⟨_, inSkills, ⟨⟨once, rfl⟩, security⟩, witness⟩ := accepted
  have once : ∀ field : Field, ¬ 1 < (positions (bodyLines body) field.marker).length :=
    fun field => once field (by cases field <;> simp [Field.all])
  have found : ∀ field, missingFailures (bodyLines body) field = [] →
      pairOk (bodyLines body) field = true := fun field none => by
    unfold missingFailures at none
    split at none
    · assumption
    · cases none
  split at inSkills
  · rename_i skills
    have ok : ∀ field, pairOk (bodyLines body) field = true := fun field => by
      cases field
      · exact skills
      · exact found .security security
      · exact found .witness witness
    have plain : ∀ line ∈ fieldSlice (bodyLines body) Field.skills.marker endMarker, '\n' ∉ line :=
      fun line member => plain_bodyLines body line (fieldSlice_subset member)
    obtain ⟨noFailure, complete⟩ := tableFailures_of_skillsFailures plain apart apart' inSkills
    have each : ∀ after, TableAt tables (skillsLines body) after → (Covered tables after ↔
        (after.takeWhile (isDataRow tables) ≠ [] ∨
          (after.takeWhile isPipeLine).filter (isDataRow tables) = [])) := by
      intro after table
      obtain ⟨block, none⟩ := noFailure _ (mem_tablesOf visible table)
      obtain ⟨before, header, delimiter, whole, _⟩ := table
      refine covered_iff none fun record member => complete_of_recordFailures complete ?_
      rw [show keptLines _ = _ from whole]
      simp [member]
    constructor
    · exact fun publishes after table => (each after table).mp (publishes.covered after table)
    · refine fun counts => ⟨fun field => ?_, fun one other ne _ _ _ _ => ranges_disjoint ok once ne,
        fun after table => (each after table).mpr (counts after table)⟩
      obtain ⟨start, stop, opened, range, _⟩ := range_of_pairOk (ok field) (once field)
      exact ⟨start, stop, opened, range⟩
  · cases inSkills

end Accepted

/-! ## A row that is not counted -/

section Sample

/-- The first line behind the delimiter row has an empty first cell. -/
def sampleBody : List Char :=
  ("<!-- bound-field: skills -->\nNo matching skill exists.\n" ++
    "|Skill|Stage / agent|How applied|Result / evidence|\n|---|---|---|---|\n||x|y|z|\n|tdd|x|y|z|\n" ++
    "<!-- bound-field: end -->\n<!-- bound-field: security -->\n<!-- bound-field: end -->\n" ++
    "<!-- bound-field: witness -->\n<!-- bound-field: end -->").toList

theorem keepsVisible_ascii : KeepsVisible asciiTables := by
  intro _ c _ shown
  refine ⟨List.cons_ne_nil _ _, fun d member => ?_⟩
  obtain rfl := List.mem_singleton.mp member
  have ascii : ∀ n < 128, isBlank (Char.ofNat n) = false → isBlank (Char.ofNat n).toLower = false := by
    decide +kernel
  by_cases small : c.toNat < 128
  · have kept := ascii c.toNat small
    rw [Char.ofNat_toNat] at kept
    exact kept shown
  · have same : c.toLower = c := by
      unfold Char.toLower
      refine dif_neg fun upper => small ?_
      have top : c.toNat ≤ 90 := UInt32.le_iff_toNat_le.mp upper.2
      omega
    rwa [same]

theorem sample_accepted : check asciiTables sampleNonce sampleNonce sampleBody none = some [] := by
  decide +kernel

/-- The body is accepted, and its data row needs no record. -/
theorem uncounted_row_accepted :
    check asciiTables sampleNonce sampleNonce sampleBody none = some [] ∧
      ¬ Publishes asciiTables sampleBody := by
  refine ⟨sample_accepted, fun publishes => ?_⟩
  have covered := publishes.covered ["||x|y|z|".toList, "|tdd|x|y|z|".toList]
    ⟨["No matching skill exists.".toList], "|Skill|Stage / agent|How applied|Result / evidence|".toList,
      "|---|---|---|---|".toList, by decide +kernel, by decide +kernel, by decide +kernel⟩
  exact absurd covered.counted (by decide +kernel)

theorem sample_publishes_iff : Publishes asciiTables sampleBody ↔
    ∀ after, TableAt asciiTables (skillsLines sampleBody) after →
      after.takeWhile (isDataRow asciiTables) ≠ [] ∨
        (after.takeWhile isPipeLine).filter (isDataRow asciiTables) = [] :=
  have apart : ∀ line ∈ skillsLines sampleBody, markerIndex? sampleNonce line = none := by
    decide +kernel
  accepted_publishes_iff keepsVisible_ascii rfl apart apart sample_accepted

end Sample

end Aegis.PrBody
