/-
# Lib.Unicode — the character tables that texts are folded with

Lower case and `str.isalnum` are read off the Unicode tables, which are a parameter. A `Unicode`
carries what is relied on: ASCII characters are folded and classified as in ASCII, wherever they
stand, and a character that is not alphanumeric has no lower case that ends in one that is. A
`Compatibility` is the normal form NFKC: it keeps ASCII texts, and a newline composes with nothing.
-/
import Mathlib.Tactic.Common

namespace Aegis.Lib

set_option autoImplicit false

/-- The tables. The lower case of a character may depend on the characters before it, the last of
them first, and on those behind it. -/
structure Unicode where
  lowerAt : List Char → Char → List Char → List Char
  isAlnum : Char → Bool
  lowerAt_ascii : ∀ before c after, c.toNat < 128 → lowerAt before c after = [c.toLower]
  isAlnum_ascii : ∀ c : Char, c.toNat < 128 → isAlnum c = c.isAlphanum
  isAlnum_lowerAt : ∀ before c after, isAlnum c = false →
    ∀ d ∈ (lowerAt before c after).getLast?, isAlnum d = false

namespace Unicode

variable (tables : Unicode)

/-- The lower case of the characters behind a place. -/
def lowerFrom : List Char → List Char → List Char
  | _, [] => []
  | before, c :: rest => tables.lowerAt before c rest ++ lowerFrom (c :: before) rest

/-- `text.lower()`. -/
def lower (text : List Char) : List Char := tables.lowerFrom [] text

/-- `\w`. -/
def isWord (c : Char) : Bool := tables.isAlnum c || c == '_'

end Unicode

/-- The tables of ASCII, which know no other letters. -/
def asciiTables : Unicode where
  lowerAt _ c _ := [c.toLower]
  isAlnum c := c.isAlphanum
  lowerAt_ascii _ _ _ _ := rfl
  isAlnum_ascii _ _ := rfl
  isAlnum_lowerAt := by
    intro _ c _ other d member
    obtain rfl := Option.some.inj member
    unfold Char.toLower
    split
    · rename_i upper
      have letter : c.isUpper = true := decide_eq_true upper
      have known : c.isAlphanum = true := by
        show ((c.isUpper || c.isLower) || c.isDigit) = true
        rw [letter]
        rfl
      rw [known] at other
      cases other
    · exact other

/-- `unicodedata.normalize("NFKC", text)`. -/
structure Compatibility where
  normalize : List Char → List Char
  normalize_ascii : ∀ text, (∀ c ∈ text, c.toNat < 128) → normalize text = text
  normalize_newline : ∀ left right,
    normalize (left ++ '\n' :: right) = normalize left ++ '\n' :: normalize right

/-- The normal form of texts that are normal already. -/
def normalTexts : Compatibility where
  normalize text := text
  normalize_ascii _ _ := rfl
  normalize_newline _ _ := rfl

end Aegis.Lib
