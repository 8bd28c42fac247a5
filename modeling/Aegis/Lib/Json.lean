/-
# Lib.Json — JSON values and their canonical text

`Json F` is a JSON value whose floating point numbers are drawn from `F`. Objects
are dictionaries (`Lib.Dict`); `Json.ordered` brings every object of a value into
key order. `Json.render` writes a value with minimal separators and ASCII
escapes; on ordered values it is the canonical text that is hashed and stored.

What a program relies on about its floats is stated in `JsonFloat`: a finite
float has a number text that reads back as the same float.
-/
import Mathlib.Tactic.Common
import Mathlib.Tactic.IntervalCases
import Aegis.Lib.Dict

namespace Aegis.Lib

set_option autoImplicit false

inductive Json (F : Type) where
  | null
  | bool (value : Bool)
  | int (value : Int)
  | float (value : F)
  | str (value : String)
  | array (items : List (Json F))
  | object (fields : List (String × Json F))

/-! ## Number texts -/

/-- The parts of a number text: `-12.5e+16` is negative, has the digits `12` and
`5` and the exponent `e+16`. -/
structure NumberText where
  negative : Bool
  whole : List Char
  /-- The digits after the point; none when there is no point. -/
  fraction : List Char
  /-- The letter, the sign and the digits of the exponent. -/
  exponent : Option (Char × List Char × List Char)
  deriving DecidableEq, Repr

namespace NumberText

def exponentText : Option (Char × List Char × List Char) → List Char
  | none => []
  | some (letter, sign, digits) => letter :: (sign ++ digits)

def chars (number : NumberText) : List Char :=
  (if number.negative then ['-'] else []) ++ number.whole ++
    (if number.fraction = [] then [] else '.' :: number.fraction) ++
    exponentText number.exponent

/-- The text has a point or an exponent. -/
def isFloat (number : NumberText) : Bool :=
  number.fraction != [] || number.exponent.isSome

structure WellFormed (number : NumberText) : Prop where
  digits : ∀ c ∈ number.whole, c.isDigit = true
  nonempty : number.whole ≠ []
  /-- No leading zero. -/
  leading : number.whole.head? = some '0' → number.whole = ['0']
  fraction : ∀ c ∈ number.fraction, c.isDigit = true
  exponent : ∀ letter sign digits, number.exponent = some (letter, sign, digits) →
    (letter = 'e' ∨ letter = 'E') ∧ (sign = [] ∨ sign = ['+'] ∨ sign = ['-']) ∧
      digits ≠ [] ∧ ∀ c ∈ digits, c.isDigit = true

/-- The text of an integer. -/
def ofInt (value : Int) : NumberText where
  negative := decide (value < 0)
  whole := Nat.toDigits 10 value.natAbs
  fraction := []
  exponent := none

/-- The integer of a text without point and exponent. -/
def toInt (number : NumberText) : Int :=
  let size : Int := Nat.ofDigitChars 10 number.whole 0
  if number.negative then -size else size

/-- The digits of a positive number do not start with a zero. -/
theorem head_toDigits {n : Nat} (positive : 0 < n) : (Nat.toDigits 10 n).head? ≠ some '0' := by
  induction n using Nat.strong_induction_on with
  | _ n ih =>
      by_cases small : n < 10
      · rw [Nat.toDigits_of_lt_base small]
        interval_cases n <;> decide
      · have le : 10 ≤ n := Nat.le_of_not_lt small
        have rest := ih (n / 10) (by omega) (by omega)
        rw [Nat.toDigits_of_base_le (by decide) le]
        cases digits : Nat.toDigits 10 (n / 10) with
        | nil => exact absurd digits Nat.toDigits_ne_nil
        | cons first others => simpa [digits] using rest

theorem ofInt_wellFormed (value : Int) : (ofInt value).WellFormed where
  digits := fun _ member => Nat.isDigit_of_mem_toDigits (by decide) (by decide) member
  nonempty := Nat.toDigits_ne_nil
  leading := by
    intro zero
    have none : ¬ 0 < value.natAbs := fun positive => head_toDigits positive zero
    have natAbs : value.natAbs = 0 := by omega
    show Nat.toDigits 10 value.natAbs = ['0']
    rw [natAbs]
    exact Nat.toDigits_zero 10
  fraction := by simp [ofInt]
  exponent := by simp [ofInt]

@[simp] theorem toInt_ofInt (value : Int) : (ofInt value).toInt = value := by
  have digits : Nat.ofDigitChars 10 (ofInt value).whole 0 = value.natAbs := by
    simp [ofInt]
  unfold toInt
  rw [digits]
  by_cases negative : value < 0
  · have flag : (ofInt value).negative = true := by simp [ofInt, negative]
    simp only [flag, if_true]
    omega
  · have flag : (ofInt value).negative = false := by simp [ofInt, negative]
    simp only [flag, Bool.false_eq_true, if_false]
    omega

end NumberText

/-- The floating point numbers of JSON texts: which of them are finite, how a
finite one is written and read back, and when numbers are equal. -/
class JsonFloat (F : Type) where
  finite : F → Bool
  text : F → NumberText
  ofText : NumberText → F
  nan : F
  infinity : F
  negInfinity : F
  same : F → F → Bool
  sameInt : F → Int → Bool
  text_wellFormed : ∀ x, finite x = true → (text x).WellFormed
  text_isFloat : ∀ x, finite x = true → (text x).isFloat = true
  ofText_text : ∀ x, finite x = true → ofText (text x) = x
  same_self : ∀ x, finite x = true → same x x = true

/-! ## String texts -/

def quote : Char := '\x22'

def backslash : Char := '\x5c'

def openBrace : Char := '\x7b'

def closeBrace : Char := '\x7d'

/-- The lower-case hexadecimal digit of a number below 16. -/
def hexDigit (n : Nat) : Char :=
  if n < 10 then Char.ofNat (48 + n) else Char.ofNat (87 + n)

/-- `\uXXXX`. -/
def escapeUnit (unit : Nat) : List Char :=
  [backslash, 'u', hexDigit (unit / 4096 % 16), hexDigit (unit / 256 % 16),
    hexDigit (unit / 16 % 16), hexDigit (unit % 16)]

/-- The UTF-16 code units of a character. -/
def codeUnits (c : Char) : List Nat :=
  if c.toNat < 0x10000 then [c.toNat]
  else [0xd800 + (c.toNat - 0x10000) / 0x400, 0xdc00 + (c.toNat - 0x10000) % 0x400]

/-- One character inside a string text, ASCII only. -/
def escapeChar (c : Char) : List Char :=
  if c = quote then [backslash, quote]
  else if c = backslash then [backslash, backslash]
  else if c = '\n' then [backslash, 'n']
  else if c = '\r' then [backslash, 'r']
  else if c = '\t' then [backslash, 't']
  else if c.toNat = 8 then [backslash, 'b']
  else if c.toNat = 12 then [backslash, 'f']
  else if 32 ≤ c.toNat ∧ c.toNat ≤ 126 then [c]
  else (codeUnits c).flatMap escapeUnit

def stringText (value : String) : List Char :=
  quote :: (value.toList.flatMap escapeChar ++ [quote])

/-! ## Values -/

namespace Json

variable {F : Type}

mutual

/-- Every object in key order. -/
def ordered : Json F → Json F
  | .array items => .array (orderedItems items)
  | .object fields => .object (Dict.ofFields (orderedFields fields))
  | value => value

def orderedItems : List (Json F) → List (Json F)
  | [] => []
  | item :: items => item.ordered :: orderedItems items

def orderedFields : List (String × Json F) → List (String × Json F)
  | [] => []
  | (key, value) :: fields => (key, value.ordered) :: orderedFields fields

end

/-- A dictionary with the given fields. -/
def dict (fields : List (String × Json F)) : Json F := .object (Dict.ofFields fields)

/-- `value.get(key)`; nothing for a value that is no object. -/
def get? (value : Json F) (key : String) : Option (Json F) :=
  match value with
  | .object fields => Dict.get? fields key
  | _ => none

/-- `value.get(key, default)`. -/
def getD (value : Json F) (key : String) (default : Json F) : Json F :=
  (value.get? key).getD default

def isObject : Json F → Bool
  | .object _ => true
  | _ => false

section Induction

variable {P : Json F → Prop}

/-- A value that is neither an array nor an object. -/
def isScalar : Json F → Bool
  | .array _ => false
  | .object _ => false
  | _ => true

mutual

/-- What holds of a value when it holds of the values inside it holds of all. -/
theorem induct (scalar : ∀ value : Json F, value.isScalar = true → P value)
    (array : ∀ items : List (Json F), (∀ item ∈ items, P item) → P (.array items))
    (object : ∀ fields : List (String × Json F), (∀ field ∈ fields, P field.2) →
      P (.object fields)) : ∀ value : Json F, P value
  | .null => scalar _ rfl
  | .bool _ => scalar _ rfl
  | .int _ => scalar _ rfl
  | .float _ => scalar _ rfl
  | .str _ => scalar _ rfl
  | .array items => array items (induct_items scalar array object items)
  | .object fields => object fields (induct_fields scalar array object fields)

theorem induct_items (scalar : ∀ value : Json F, value.isScalar = true → P value)
    (array : ∀ items : List (Json F), (∀ item ∈ items, P item) → P (.array items))
    (object : ∀ fields : List (String × Json F), (∀ field ∈ fields, P field.2) →
      P (.object fields)) : ∀ items : List (Json F), ∀ item ∈ items, P item
  | [] => fun _ member => absurd member List.not_mem_nil
  | first :: rest =>
      List.forall_mem_cons.mpr ⟨induct scalar array object first,
        induct_items scalar array object rest⟩

theorem induct_fields (scalar : ∀ value : Json F, value.isScalar = true → P value)
    (array : ∀ items : List (Json F), (∀ item ∈ items, P item) → P (.array items))
    (object : ∀ fields : List (String × Json F), (∀ field ∈ fields, P field.2) →
      P (.object fields)) : ∀ fields : List (String × Json F), ∀ field ∈ fields, P field.2
  | [] => fun _ member => absurd member List.not_mem_nil
  | (_, value) :: rest =>
      List.forall_mem_cons.mpr ⟨induct scalar array object value,
        induct_fields scalar array object rest⟩

end

end Induction

variable [JsonFloat F]

mutual

/-- The text of a value, fields in the order they stand. -/
def render : Json F → List Char
  | .null => ['n', 'u', 'l', 'l']
  | .bool true => ['t', 'r', 'u', 'e']
  | .bool false => ['f', 'a', 'l', 's', 'e']
  | .int value => (NumberText.ofInt value).chars
  | .float value => (JsonFloat.text value).chars
  | .str value => stringText value
  | .array [] => ['[', ']']
  | .array (item :: items) => '[' :: (item.render ++ renderItems items)
  | .object [] => [openBrace, closeBrace]
  | .object ((key, value) :: fields) =>
      openBrace :: (stringText key ++ ':' :: (value.render ++ renderFields fields))

/-- The items after the first, and the closing bracket. -/
def renderItems : List (Json F) → List Char
  | [] => [']']
  | item :: items => ',' :: (item.render ++ renderItems items)

/-- The fields after the first, and the closing brace. -/
def renderFields : List (String × Json F) → List Char
  | [] => [closeBrace]
  | (key, value) :: fields =>
      ',' :: (stringText key ++ ':' :: (value.render ++ renderFields fields))

end

mutual

/-- No infinite float and no float that is not a number. -/
def finite : Json F → Bool
  | .float value => JsonFloat.finite value
  | .array items => finiteItems items
  | .object fields => finiteFields fields
  | _ => true

def finiteItems : List (Json F) → Bool
  | [] => true
  | item :: items => item.finite && finiteItems items

def finiteFields : List (String × Json F) → Bool
  | [] => true
  | (_, value) :: fields => value.finite && finiteFields fields

end

/-- Whether a number has an integer value, as `==` compares them. -/
def sameInt (value : Int) : Json F → Bool
  | .bool true => value == 1
  | .bool false => value == 0
  | .int other => value == other
  | .float other => JsonFloat.sameInt other value
  | _ => false

mutual

/-- `left == right`: numbers by value, truth values among them, objects by their
fields. -/
def same : Json F → Json F → Bool
  | .null, .null => true
  | .bool left, right => right.sameInt (if left then 1 else 0)
  | .int left, right => right.sameInt left
  | .float left, .bool right => JsonFloat.sameInt left (if right then 1 else 0)
  | .float left, .int right => JsonFloat.sameInt left right
  | .float left, .float right => JsonFloat.same left right
  | .str left, .str right => left == right
  | .array left, .array right => sameItems left right
  | .object left, .object right => left.length == right.length && sameFields left right
  | _, _ => false

def sameItems : List (Json F) → List (Json F) → Bool
  | [], [] => true
  | left :: lefts, right :: rights => left.same right && sameItems lefts rights
  | _, _ => false

/-- Every field of the first is a field of the second. -/
def sameFields : List (String × Json F) → List (String × Json F) → Bool
  | [], _ => true
  | (key, left) :: lefts, rights =>
      (match Dict.get? rights key with
        | some right => left.same right
        | none => false) && sameFields lefts rights

end

omit [JsonFloat F] in
/-- An object has its fields; another value has none. -/
theorem get?_of_not_isObject {value : Json F} (other : value.isObject = false) (key : String) :
    value.get? key = none := by
  cases value <;> first | rfl | cases other

/-- Only the text itself is equal to a text. -/
theorem same_str_iff {value : Json F} {text : String} :
    value.same (.str text) = true ↔ value = .str text := by
  cases value <;> simp [same]
  all_goals simp [sameInt]

theorem str_same_iff {value : Json F} {text : String} :
    (Json.str text).same value = true ↔ value = .str text := by
  constructor
  · intro equal
    cases value <;> simp_all [same]
  · rintro rfl
    simp [same]

end Json

end Aegis.Lib
