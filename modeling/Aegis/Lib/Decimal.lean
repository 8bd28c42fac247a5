/-
# Lib.Decimal — numbers written with a minimal width

`zeroPadded width n` is the decimal text of `n`, filled with zeros on the left
to at least `width` digits (Python's `{n:06d}`). The value of the digits does
not change with the fill, so a text has one number: `zeroPadded_injective`.
-/
import Mathlib.Logic.Function.Basic
import Mathlib.Tactic.Common

namespace Aegis.Lib

set_option autoImplicit false

-- what holds of the characters of a text is decided along the text, never over all of `Char`
attribute [instance (2000)] List.decidableBAll List.decidableBEx Option.decidableForallMem

/-- The decimal text of `n` with at least `width` digits. -/
def zeroPadded (width n : Nat) : String :=
  String.ofList (List.leftpad width '0' (Nat.toDigits 10 n))

theorem ofDigitChars_zeroPadded (width n : Nat) :
    Nat.ofDigitChars 10 (zeroPadded width n).toList 0 = n := by
  simp [zeroPadded, List.leftpad, Nat.ofDigitChars_append]

theorem zeroPadded_injective (width : Nat) : Function.Injective (zeroPadded width) := by
  intro a b same
  rw [← ofDigitChars_zeroPadded width a, same, ofDigitChars_zeroPadded]

/-- Texts that end in padded numbers after one common start have equal numbers. -/
theorem append_zeroPadded_injective (start : String) (width : Nat) :
    Function.Injective fun n => start ++ zeroPadded width n := by
  intro a b same
  exact zeroPadded_injective width (String.append_right_inj start |>.mp same)

end Aegis.Lib
