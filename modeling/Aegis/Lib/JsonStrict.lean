/-
# Lib.JsonStrict — decoding with a hook for objects

`Json.decode` reads a text as `Json.parse` does, but hands the fields of every object,
in the order of the text, to a hook that makes a value of them or raises. An object
raises where it closes, so before any fault of the text that follows it.
-/
import Aegis.Lib.Guarded
import Aegis.Lib.JsonScan
import Mathlib.Data.List.TakeWhile

namespace Aegis.Lib

open Aegis.Lib.Guarded

set_option autoImplicit false

theorem skipSpace_blank {blank : List Char} (blanks : ∀ c ∈ blank, isSpace c = true)
    (text : List Char) : skipSpace (blank ++ text) = skipSpace text :=
  List.dropWhile_append_of_pos blanks

namespace Json

variable {F : Type} [JsonFloat F] {ε : Type}

section Decoder

variable (malformed : ε) (hook : List (String × Json F) → Except ε (Json F))

mutual

/-- The value at the start of a text, and what follows it. -/
def decodeValue : Nat → List Char → Except ε (Json F × List Char)
  | 0, _ => .error malformed
  | _ + 1, [] => .error malformed
  | fuel + 1, first :: rest =>
      if first = quote then
        fetch ((scanString rest).map fun scanned => (.str scanned.1, scanned.2)) malformed
      else if first = '[' then
        if (skipSpace rest).head? = some ']' then .ok (.array [], (skipSpace rest).tail)
        else do
          let value ← decodeValue fuel (skipSpace rest)
          let items ← decodeItems fuel (skipSpace value.2)
          pure (.array (value.1 :: items.1), items.2)
      else if first = openBrace then
        if (skipSpace rest).head? = some closeBrace then do
          let value ← hook []
          pure (value, (skipSpace rest).tail)
        else do
          let key ← fetch (scanKey (skipSpace rest)) malformed
          let value ← decodeValue fuel key.2
          let fields ← decodeFields fuel (skipSpace value.2)
          let object ← hook ((key.1, value.1) :: fields.1)
          pure (object, fields.2)
      else fetch (scanScalar (first :: rest)) malformed

/-- The items after the first one, and what follows the closing bracket. -/
def decodeItems : Nat → List Char → Except ε (List (Json F) × List Char)
  | 0, _ => .error malformed
  | _ + 1, [] => .error malformed
  | fuel + 1, first :: rest =>
      if first = ']' then .ok ([], rest)
      else if first = ',' then do
        let value ← decodeValue fuel (skipSpace rest)
        let items ← decodeItems fuel (skipSpace value.2)
        pure (value.1 :: items.1, items.2)
      else .error malformed

/-- The fields after the first one, and what follows the closing brace. -/
def decodeFields : Nat → List Char → Except ε (List (String × Json F) × List Char)
  | 0, _ => .error malformed
  | _ + 1, [] => .error malformed
  | fuel + 1, first :: rest =>
      if first = closeBrace then .ok ([], rest)
      else if first = ',' then do
        let key ← fetch (scanKey (skipSpace rest)) malformed
        let value ← decodeValue fuel key.2
        let fields ← decodeFields fuel (skipSpace value.2)
        pure ((key.1, value.1) :: fields.1, fields.2)
      else .error malformed

end

/-- `json.loads(text, object_pairs_hook=hook)`. -/
def decode (text : List Char) : Except ε (Json F) := do
  let scanned ← decodeValue malformed hook (text.length + 1) (skipSpace text)
  require (skipSpace scanned.2 = []) malformed
  pure scanned.1

variable {malformed hook}

/-- A number is read back. -/
theorem decodeValue_number {number : NumberText} (wellFormed : number.WellFormed)
    {rest : List Char} (ends : NumberText.Ends rest) (n : Nat) :
    decodeValue malformed hook (n + 1) (number.chars ++ rest) = .ok (ofNumber number, rest) := by
  have scalar : scanScalar (F := F) (number.chars ++ rest) = some (ofNumber number, rest) := by
    rw [scanScalar, scanLiteral_number wellFormed, NumberText.scan_chars wellFormed ends]
    rfl
  obtain ⟨first, others, chars, -, notQuote, notBracket, notBrace⟩ := number_head wellFormed
  rw [chars, List.cons_append] at scalar ⊢
  rw [decodeValue, if_neg notQuote, if_neg notBracket, if_neg notBrace, scalar]
  rfl

end Decoder

/-- White space ends a number. -/
theorem ends_blank {blank text : List Char} (blanks : ∀ c ∈ blank, isSpace c = true)
    (ends : NumberText.Ends text) : NumberText.Ends (blank ++ text) := by
  cases blank with
  | nil => exact ends
  | cons first others =>
      intro c member
      obtain rfl : first = c := Option.some.inj member
      have space := blanks first (List.mem_cons_self ..)
      have apart : ∀ other : Char, isSpace other = false → first ≠ other := by
        rintro _ visible rfl
        rw [space] at visible
        cases visible
      refine ⟨?_, apart _ (by decide), apart _ (by decide), apart _ (by decide)⟩
      by_contra digit
      exact absurd space (by rw [(starts_of_digit (by simpa using digit)).1]; decide)

end Json

end Aegis.Lib
