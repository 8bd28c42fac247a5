/-
# Lib.DigitOrder — numbers compared by their texts

Texts are compared character by character, so numbers that are written with a minimal width compare
as numbers only while they have the same number of digits. Of two numbers of different widths the
longer one comes behind the shorter exactly when its leading digits are no less than it
(`zeroPadded_lt_iff`).
-/
import Aegis.Lib.Decimal
import Mathlib.Data.Char
import Mathlib.Data.String.Basic

namespace Aegis.Lib

set_option autoImplicit false

/-- The last digits of a number, the first of them in front. -/
def lastDigits : Nat → Nat → List Char
  | 0, _ => []
  | width + 1, n => lastDigits width (n / 10) ++ [(n % 10).digitChar]

@[simp] theorem length_lastDigits (width n : Nat) : (lastDigits width n).length = width := by
  induction width generalizing n with
  | zero => rfl
  | succ width ih => rw [lastDigits, List.length_append, ih, List.length_singleton]

theorem lastDigits_zero (width : Nat) : lastDigits width 0 = List.replicate width '0' := by
  induction width with
  | zero => rfl
  | succ width ih =>
      rw [lastDigits, Nat.zero_div, ih, List.replicate_succ']
      rfl

/-- The width of a padded number. -/
def digitWidth (width n : Nat) : Nat := max width (Nat.toDigits 10 n).length

theorem toDigits_eq_lastDigits (n : Nat) :
    Nat.toDigits 10 n = lastDigits (Nat.toDigits 10 n).length n := by
  induction n using Nat.strongRecOn with
  | _ n ih =>
      by_cases small : n < 10
      · rw [Nat.toDigits_of_lt_base small]
        simp [lastDigits, Nat.mod_eq_of_lt small]
      · rw [Nat.toDigits_of_base_le (by decide) (Nat.not_lt.mp small), List.length_append,
          List.length_singleton, lastDigits, ← ih (n / 10) (by omega)]

theorem leftpad_lastDigits {width n : Nat} (enough : n < 10 ^ width) (extra : Nat) :
    List.replicate extra '0' ++ lastDigits width n = lastDigits (width + extra) n := by
  induction width generalizing n with
  | zero =>
      have none : n = 0 := by simpa using enough
      rw [none, lastDigits, List.append_nil, Nat.zero_add, lastDigits_zero]
  | succ width ih =>
      have fewer : n / 10 < 10 ^ width := by
        rw [Nat.pow_succ] at enough
        omega
      rw [lastDigits, ← List.append_assoc, ih fewer, Nat.add_right_comm, lastDigits]

theorem zeroPadded_toList (width n : Nat) :
    (zeroPadded width n).toList = lastDigits (digitWidth width n) n := by
  have enough : n < 10 ^ (Nat.toDigits 10 n).length :=
    (Nat.length_toDigits_le_iff (by decide) Nat.length_toDigits_pos).mp (Nat.le_refl _)
  rw [zeroPadded, String.toList_ofList, List.leftpad]
  nth_rewrite 2 [toDigits_eq_lastDigits]
  rw [leftpad_lastDigits enough]
  congr 1
  unfold digitWidth
  omega

theorem lt_pow_digitWidth (width n : Nat) : n < 10 ^ digitWidth width n := by
  have enough : n < 10 ^ (Nat.toDigits 10 n).length :=
    (Nat.length_toDigits_le_iff (by decide) Nat.length_toDigits_pos).mp (Nat.le_refl _)
  exact enough.trans_le (Nat.pow_le_pow_right (by decide) (Nat.le_max_right _ _))

theorem digitWidth_mono (width : Nat) {m n : Nat} (below : m ≤ n) :
    digitWidth width m ≤ digitWidth width n := by
  have shorter : (Nat.toDigits 10 m).length ≤ (Nat.toDigits 10 n).length := by
    apply (Nat.length_toDigits_le_iff (by decide) Nat.length_toDigits_pos).mpr
    exact below.trans_lt ((Nat.length_toDigits_le_iff (by decide) Nat.length_toDigits_pos).mp
      (Nat.le_refl _))
  unfold digitWidth
  omega

/-! ## The order -/

theorem append_singleton_lt_iff {left right : List Char} (same : left.length = right.length)
    (c d : Char) : left ++ [c] < right ++ [d] ↔ left < right ∨ (left = right ∧ c < d) := by
  induction left generalizing right with
  | nil =>
      obtain rfl := List.length_eq_zero_iff.mp same.symm
      simp [List.cons_lt_cons_iff]
  | cons a left ih =>
      cases right with
      | nil => cases same
      | cons b right =>
          have shorter : left.length = right.length := Nat.succ.inj same
          simp only [List.cons_append, List.cons_lt_cons_iff, ih shorter, List.cons.injEq]
          tauto

/-- More characters than the other text has change nothing. -/
theorem append_singleton_lt_iff_lt {left right : List Char} (short : right.length ≤ left.length)
    (c : Char) : left ++ [c] < right ↔ left < right := by
  induction left generalizing right with
  | nil =>
      obtain rfl := List.length_eq_zero_iff.mp (Nat.le_zero.mp short)
      simp
  | cons a left ih =>
      cases right with
      | nil => simp
      | cons b right =>
          simp only [List.cons_append, List.cons_lt_cons_iff, ih (Nat.succ_le_succ_iff.mp short)]

theorem digitChar_lt_iff {m n : Nat} (isM : m < 10) (isN : n < 10) :
    m.digitChar < n.digitChar ↔ m < n := by
  have order : m.digitChar < n.digitChar ↔ m.digitChar.toNat < n.digitChar.toNat := Iff.rfl
  rw [order, Nat.toNat_digitChar_of_lt_ten isM, Nat.toNat_digitChar_of_lt_ten isN]
  omega

/-- Numbers of one width compare as their texts. -/
theorem lastDigits_lt_iff {width m n : Nat} (isM : m < 10 ^ width) (isN : n < 10 ^ width) :
    lastDigits width m < lastDigits width n ↔ m < n := by
  induction width generalizing m n with
  | zero =>
      simp only [Nat.pow_zero, Nat.lt_one_iff] at isM isN
      simp [lastDigits, isM, isN]
  | succ width ih =>
      rw [Nat.pow_succ] at isM isN
      have fewerM : m / 10 < 10 ^ width := by omega
      have fewerN : n / 10 < 10 ^ width := by omega
      have lengths : (lastDigits width (m / 10)).length = (lastDigits width (n / 10)).length := by
        rw [length_lastDigits, length_lastDigits]
      have equal : lastDigits width (m / 10) = lastDigits width (n / 10) ↔ m / 10 = n / 10 := by
        constructor
        · intro same
          have notLess := (ih fewerM fewerN).not.mp (same ▸ List.lt_irrefl _)
          have notMore := (ih fewerN fewerM).not.mp (same ▸ List.lt_irrefl _)
          omega
        · exact fun same => same ▸ rfl
      rw [lastDigits, lastDigits, append_singleton_lt_iff lengths, ih fewerM fewerN, equal,
        digitChar_lt_iff (by omega) (by omega)]
      omega

/-- A longer number does not come before a shorter one exactly when its leading digits are no less. -/
theorem not_lastDigits_lt_iff {width m : Nat} (isM : m < 10 ^ width) (extra : Nat) {n : Nat}
    (isN : n < 10 ^ (width + extra)) :
    ¬ lastDigits (width + extra) n < lastDigits width m ↔ m ≤ n / 10 ^ extra := by
  induction extra generalizing n with
  | zero =>
      rw [Nat.add_zero] at isN
      rw [Nat.add_zero, lastDigits_lt_iff isN isM, Nat.pow_zero, Nat.div_one, Nat.not_lt]
  | succ extra ih =>
      have fewer : n / 10 < 10 ^ (width + extra) := by
        rw [← Nat.add_assoc, Nat.pow_succ] at isN
        omega
      have short : (lastDigits width m).length ≤ (lastDigits (width + extra) (n / 10)).length := by
        rw [length_lastDigits, length_lastDigits]
        omega
      rw [← Nat.add_assoc, lastDigits, append_singleton_lt_iff_lt short, ih fewer, Nat.pow_succ,
        Nat.mul_comm, Nat.div_div_eq_div_mul]

/-- The number that the leading digits of a number form. -/
def leading (width digits n : Nat) : Nat := n / 10 ^ (digitWidth width n - digits)

/-- **A greater number comes behind a smaller one, by their texts, exactly when as many of its
leading digits as the smaller one has are no less than it.** -/
theorem zeroPadded_lt_iff {width m n : Nat} (less : m < n) :
    zeroPadded width m < zeroPadded width n ↔ m ≤ leading width (digitWidth width m) n := by
  have wider := digitWidth_mono width (Nat.le_of_lt less)
  obtain ⟨extra, isExtra⟩ := Nat.exists_eq_add_of_le wider
  have isN := lt_pow_digitWidth width n
  rw [isExtra] at isN
  have other : zeroPadded width m ≠ zeroPadded width n :=
    fun same => Nat.ne_of_lt less (zeroPadded_injective width same)
  have turned : zeroPadded width m < zeroPadded width n ↔ ¬ zeroPadded width n < zeroPadded width m := by
    rw [not_lt]
    exact ⟨le_of_lt, fun behind => lt_of_le_of_ne behind other⟩
  rw [turned, String.lt_iff_toList_lt, zeroPadded_toList, zeroPadded_toList, isExtra,
    not_lastDigits_lt_iff (lt_pow_digitWidth width m) extra isN, leading, isExtra,
    Nat.add_sub_cancel_left]

end Aegis.Lib
