/-
# Lib.PythonText — trimming, and the digits of an integer text

`strip` removes blanks at both ends of a text; a text that starts and ends with no blank is left
as it is (`strip_eq_self_iff`). `readDigits` is the value of a text of decimal digits of any
script, and `natText` writes a number: a number that can be written is read back
(`readDigits_natText`). Both refuse texts of more than `maxStrDigits` digits.
-/
import Aegis.Lib.TextLines
import Mathlib.Data.List.DropRight
import Mathlib.Data.List.TakeWhile
import Mathlib.Tactic.IntervalCases

namespace Aegis.Lib

set_option autoImplicit false

/-! ## Trimming -/

/-- `text.strip()`, of the characters of a text. -/
def stripChars (text : List Char) : List Char := (text.dropWhile isBlank).rdropWhile isBlank

/-- `text.strip()`. -/
def strip (text : String) : String := String.ofList (stripChars text.toList)

/-- The first and the last character are no blanks. -/
structure Trimmed (text : List Char) : Prop where
  first : ∀ c ∈ text.head?, isBlank c = false
  last : ∀ c ∈ text.getLast?, isBlank c = false

theorem stripChars_of_trimmed {text : List Char} (trimmed : Trimmed text) :
    stripChars text = text := by
  have front : text.dropWhile isBlank = text := by
    cases text with
    | nil => rfl
    | cons c rest =>
        have visible := trimmed.first c rfl
        simp [visible]
  unfold stripChars
  rw [front, List.rdropWhile_eq_self_iff]
  intro nonempty blank
  have visible := trimmed.last (text.getLast nonempty) (List.getLast?_eq_getLast_of_ne_nil nonempty)
  rw [visible] at blank
  cases blank

theorem trimmed_stripChars (text : List Char) : Trimmed (stripChars text) := by
  unfold stripChars
  refine ⟨?_, ?_⟩
  · intro c member
    have head : (text.dropWhile isBlank).head? = some c := by
      obtain ⟨rest, split⟩ := List.head?_eq_some_iff.mp member
      obtain ⟨tail, whole⟩ := List.rdropWhile_prefix isBlank (l := text.dropWhile isBlank)
      rw [← whole, split]
      rfl
    cases stripped : text.dropWhile isBlank with
    | nil =>
        rw [stripped] at head
        cases head
    | cons first rest =>
        rw [stripped] at head
        obtain rfl := Option.some.inj head
        have visible := List.head_dropWhile_not isBlank (l := text)
          (by rw [stripped]; exact List.cons_ne_nil _ _)
        simpa [stripped] using visible
  · intro c member
    have nonempty : (text.dropWhile isBlank).rdropWhile isBlank ≠ [] := by
      intro none
      rw [none] at member
      cases member
    have visible := List.rdropWhile_last_not isBlank (text.dropWhile isBlank) nonempty
    rw [List.getLast?_eq_getLast_of_ne_nil nonempty] at member
    obtain rfl := Option.some.inj member
    exact Bool.eq_false_iff.mpr visible

/-- A text is left as it is exactly when it starts and ends with no blank. -/
theorem stripChars_eq_self_iff {text : List Char} : stripChars text = text ↔ Trimmed text :=
  ⟨fun same => same ▸ trimmed_stripChars text, stripChars_of_trimmed⟩

@[simp] theorem stripChars_stripChars (text : List Char) :
    stripChars (stripChars text) = stripChars text :=
  stripChars_of_trimmed (trimmed_stripChars text)

@[simp] theorem strip_toList (text : String) : (strip text).toList = stripChars text.toList :=
  String.toList_ofList

theorem strip_eq_self_iff {text : String} : strip text = text ↔ Trimmed text.toList := by
  rw [← stripChars_eq_self_iff, ← String.toList_inj, strip_toList]

@[simp] theorem strip_strip (text : String) : strip (strip text) = strip text := by
  apply String.toList_inj.mp
  simp only [strip_toList, stripChars_stripChars]

/-- What is stripped is part of the text. -/
theorem mem_of_mem_stripChars {text : List Char} {c : Char} (member : c ∈ stripChars text) :
    c ∈ text :=
  (List.dropWhile_sublist isBlank).subset ((List.rdropWhile_prefix isBlank _).sublist.subset member)

theorem mem_dropWhile {p : Char → Bool} {text : List Char} {c : Char} (kept : p c = false)
    (member : c ∈ text) : c ∈ text.dropWhile p := by
  rw [← List.takeWhile_append_dropWhile (p := p) (l := text), List.mem_append] at member
  rcases member with front | back
  · have dropped := List.mem_takeWhile_imp front
    rw [kept] at dropped
    cases dropped
  · exact back

/-- A character that is not blank stays. -/
theorem mem_stripChars {text : List Char} {c : Char} (visible : isBlank c = false) :
    c ∈ stripChars text ↔ c ∈ text := by
  refine ⟨mem_of_mem_stripChars, fun member => ?_⟩
  unfold stripChars List.rdropWhile
  rw [List.mem_reverse]
  exact mem_dropWhile visible (List.mem_reverse.mpr (mem_dropWhile visible member))

/-- A text between two trimmed ends is trimmed. -/
theorem Trimmed.append {left right : List Char} (isLeft : Trimmed left) (isRight : Trimmed right)
    (leftNonempty : left ≠ []) (rightNonempty : right ≠ []) (middle : List Char) :
    Trimmed (left ++ middle ++ right) := by
  obtain ⟨first, rest, rfl⟩ := List.exists_cons_of_ne_nil leftNonempty
  refine ⟨fun c member => isLeft.first c ?_, fun c member => isRight.last c ?_⟩
  · simpa using member
  · rwa [List.getLast?_append_of_ne_nil _ rightNonempty] at member

/-! ## Digits -/

/-- `sys.get_int_max_str_digits()`. -/
def maxStrDigits : Nat := 4300

/-- The zeros of the scripts that have decimal digits; the other nine follow each of them. -/
def decimalZeros : List Nat :=
  [0x30, 0x660, 0x6f0, 0x7c0, 0x966, 0x9e6, 0xa66, 0xae6, 0xb66, 0xbe6, 0xc66, 0xce6, 0xd66, 0xde6,
    0xe50, 0xed0, 0xf20, 0x1040, 0x1090, 0x17e0, 0x1810, 0x1946, 0x19d0, 0x1a80, 0x1a90, 0x1b50,
    0x1bb0, 0x1c40, 0x1c50, 0xa620, 0xa8d0, 0xa900, 0xa9d0, 0xa9f0, 0xaa50, 0xabf0, 0xff10, 0x104a0,
    0x10d30, 0x10d40, 0x11066, 0x110f0, 0x11136, 0x111d0, 0x112f0, 0x11450, 0x114d0, 0x11650,
    0x116c0, 0x116d0, 0x116da, 0x11730, 0x118e0, 0x11950, 0x11bf0, 0x11c50, 0x11d50, 0x11da0,
    0x11f50, 0x16130, 0x16a60, 0x16ac0, 0x16b50, 0x16d70, 0x1ccf0, 0x1d7ce, 0x1d7d8, 0x1d7e2,
    0x1d7ec, 0x1d7f6, 0x1e140, 0x1e2f0, 0x1e4f0, 0x1e5f1, 0x1e950, 0x1fbf0]

/-- Digits that no decimal number is written with: superscripts, circled digits and the like. -/
def otherDigits : List (Nat × Nat) :=
  [(0xb2, 0xb3), (0xb9, 0xb9), (0x1369, 0x1371), (0x19da, 0x19da), (0x2070, 0x2070),
    (0x2074, 0x2079), (0x2080, 0x2089), (0x2460, 0x2468), (0x2474, 0x247c), (0x2488, 0x2490),
    (0x24ea, 0x24ea), (0x24f5, 0x24fd), (0x24ff, 0x24ff), (0x2776, 0x277e), (0x2780, 0x2788),
    (0x278a, 0x2792), (0x10a40, 0x10a43), (0x10e60, 0x10e68), (0x11052, 0x1105a),
    (0x1f100, 0x1f10a)]

/-- The value of a decimal digit. -/
def decimalValue? (c : Char) : Option Nat :=
  (decimalZeros.find? fun start => start ≤ c.toNat && c.toNat < start + 10).map (c.toNat - ·)

/-- `c.isdigit()`. -/
def isDigit (c : Char) : Bool :=
  (decimalValue? c).isSome || otherDigits.any fun range => range.1 ≤ c.toNat && c.toNat ≤ range.2

/-- `text.isdigit()`. -/
def isDigits (text : List Char) : Bool := !text.isEmpty && text.all isDigit

/-- `int(text)`, of a text of digits. -/
def readDigits (text : List Char) : Option Nat :=
  if text.length ≤ maxStrDigits then
    text.foldl (fun read c => read.bind fun n => (decimalValue? c).map (10 * n + ·)) (some 0)
  else none

/-- `str(n)`. -/
def natText (n : Nat) : Option String :=
  let digits := Nat.toDigits 10 n
  if digits.length ≤ maxStrDigits then some (String.ofList digits) else none

/-- `str(value)`. -/
def intText (value : Int) : Option String :=
  (natText value.natAbs).map fun digits => if value < 0 then "-" ++ digits else digits

theorem decimalValue?_ascii {c : Char} (digit : c.isDigit = true) :
    decimalValue? c = some (c.toNat - '0'.toNat) := by
  have range : 0x30 ≤ c.toNat ∧ c.toNat < 0x30 + 10 := by
    have bounds := Char.isDigit_iff_toNat.mp digit
    have lower : '0'.toNat = 48 := rfl
    have upper : '9'.toNat = 57 := rfl
    omega
  unfold decimalValue? decimalZeros
  rw [List.find?_cons_of_pos (by simpa using range)]
  rfl

theorem foldl_decimalValue? {text : List Char} (digits : ∀ c ∈ text, c.isDigit = true) (start : Nat) :
    text.foldl (fun read c => read.bind fun n => (decimalValue? c).map (10 * n + ·)) (some start) =
      some (Nat.ofDigitChars 10 text start) := by
  induction text generalizing start with
  | nil => rfl
  | cons c rest ih =>
      obtain ⟨first, others⟩ := List.forall_mem_cons.mp digits
      have value := decimalValue?_ascii first
      rw [List.foldl_cons, Nat.ofDigitChars_cons, ← ih others]
      simp [value]

/-- A number that can be written is read back. -/
theorem readDigits_natText {n : Nat} {text : String} (written : natText n = some text) :
    isDigits text.toList = true ∧ readDigits text.toList = some n := by
  unfold natText at written
  simp only at written
  split at written
  · rename_i short
    obtain rfl := Option.some.inj written
    have digits : ∀ c ∈ Nat.toDigits 10 n, c.isDigit = true :=
      fun c member => Nat.isDigit_of_mem_toDigits (by decide) (by decide) member
    rw [String.toList_ofList]
    constructor
    · have nonempty : Nat.toDigits 10 n ≠ [] := Nat.toDigits_ne_nil
      have all : (Nat.toDigits 10 n).all isDigit = true := by
        rw [List.all_eq_true]
        intro c member
        simp [isDigit, decimalValue?_ascii (digits c member)]
      simp [isDigits, nonempty, all]
    · unfold readDigits
      rw [if_pos short, foldl_decimalValue? digits, Nat.ofDigitChars_ten_toDigits]
  · cases written

theorem natText_isSome_iff {n : Nat} :
    (∃ text, natText n = some text) ↔ (Nat.toDigits 10 n).length ≤ maxStrDigits := by
  unfold natText
  constructor
  · rintro ⟨text, written⟩
    by_contra long
    simp [if_neg long] at written
  · intro short
    exact ⟨_, if_pos short⟩

/-- The digits of a number are no other characters. -/
theorem digit_of_mem_natText {n : Nat} {text : String} (written : natText n = some text) {c : Char}
    (member : c ∈ text.toList) : c.isDigit = true := by
  unfold natText at written
  simp only at written
  split at written
  · obtain rfl := Option.some.inj written
    rw [String.toList_ofList] at member
    exact Nat.isDigit_of_mem_toDigits (by decide) (by decide) member
  · cases written

theorem decimalValue?_lt {c : Char} {value : Nat} (found : decimalValue? c = some value) :
    value < 10 := by
  unfold decimalValue? at found
  obtain ⟨start, member, rfl⟩ := Option.map_eq_some_iff.mp found
  have range := List.find?_some member
  simp only [Bool.and_eq_true, decide_eq_true_eq] at range
  omega

theorem foldl_none (text : List Char) :
    text.foldl (fun read c => read.bind fun n => (decimalValue? c).map (10 * n + ·))
      (none : Option Nat) = none := by
  induction text with
  | nil => rfl
  | cons c rest ih => exact ih

/-- A number has no more digits than its text. -/
theorem foldl_lt {text : List Char} {start n : Nat}
    (read : text.foldl (fun read c => read.bind fun n => (decimalValue? c).map (10 * n + ·))
      (some start) = some n) : n < 10 ^ text.length * (start + 1) := by
  induction text generalizing start with
  | nil =>
      obtain rfl := Option.some.inj read
      simp
  | cons c rest ih =>
      rw [List.foldl_cons, Option.bind_some] at read
      cases value : decimalValue? c with
      | none =>
          rw [value, Option.map_none, foldl_none] at read
          cases read
      | some digit =>
          rw [value, Option.map_some] at read
          have small := decimalValue?_lt value
          have bound := ih read
          have grown : 10 * start + digit + 1 ≤ 10 * (start + 1) := by omega
          calc n < 10 ^ rest.length * (10 * start + digit + 1) := bound
            _ ≤ 10 ^ rest.length * (10 * (start + 1)) := Nat.mul_le_mul_left _ grown
            _ = 10 ^ (c :: rest).length * (start + 1) := by
                rw [List.length_cons, Nat.pow_succ, Nat.mul_assoc]

/-- A number that was read can be written. -/
theorem natText_of_readDigits {text : List Char} {n : Nat} (read : readDigits text = some n) :
    ∃ written, natText n = some written := by
  unfold readDigits at read
  split at read
  · rename_i short
    have bound := foldl_lt read
    rw [Nat.zero_add, Nat.mul_one] at bound
    apply natText_isSome_iff.mpr
    have wide : n < 10 ^ maxStrDigits :=
      bound.trans_le (Nat.pow_le_pow_right (by decide) short)
    exact (Nat.length_toDigits_le_iff (by decide) (by decide)).mpr wide
  · cases read

end Aegis.Lib
