/-
# Lib.JsonParse — reading JSON values back

`Json.parse` reads a text as a JSON decoder does: white space between tokens,
later fields over earlier ones, nothing after the value. The parser is recursive
in an amount of fuel that the length of the text covers.

* `parse_canonical`: the canonical text of a finite value reads back as the value in key order;
* `canonical_injective`: values with one canonical text are equal in key order.
-/
import Aegis.Lib.JsonWriter

namespace Aegis.Lib

open Aegis.Lib.Guarded

set_option autoImplicit false

namespace Json

variable {F : Type} [JsonFloat F]

mutual

/-- The value at the start of a text, and what follows it. -/
def parseValue : Nat → List Char → Option (Json F × List Char)
  | 0, _ => none
  | _ + 1, [] => none
  | fuel + 1, first :: rest =>
      if first = quote then
        (scanString rest).map fun scanned => (.str scanned.1, scanned.2)
      else if first = '[' then
        let rest := skipSpace rest
        if rest.head? = some ']' then some (.array [], rest.tail)
        else do
          let value ← parseValue fuel rest
          let items ← parseItems fuel (skipSpace value.2)
          pure (.array (value.1 :: items.1), items.2)
      else if first = openBrace then
        let rest := skipSpace rest
        if rest.head? = some closeBrace then some (.object [], rest.tail)
        else do
          let key ← scanKey rest
          let value ← parseValue fuel key.2
          let fields ← parseFields fuel (skipSpace value.2)
          pure (.object (Dict.ofFields ((key.1, value.1) :: fields.1)), fields.2)
      else scanScalar (first :: rest)

/-- The items after the first one, and what follows the closing bracket. -/
def parseItems : Nat → List Char → Option (List (Json F) × List Char)
  | 0, _ => none
  | _ + 1, [] => none
  | fuel + 1, first :: rest =>
      if first = ']' then some ([], rest)
      else if first = ',' then do
        let value ← parseValue fuel (skipSpace rest)
        let items ← parseItems fuel (skipSpace value.2)
        pure (value.1 :: items.1, items.2)
      else none

/-- The fields after the first one, and what follows the closing brace. -/
def parseFields : Nat → List Char → Option (List (String × Json F) × List Char)
  | 0, _ => none
  | _ + 1, [] => none
  | fuel + 1, first :: rest =>
      if first = closeBrace then some ([], rest)
      else if first = ',' then do
        let key ← scanKey (skipSpace rest)
        let value ← parseValue fuel key.2
        let fields ← parseFields fuel (skipSpace value.2)
        pure ((key.1, value.1) :: fields.1, fields.2)
      else none

end

/-- `json.loads`. -/
def parse (text : List Char) : Option (Json F) := do
  let scanned ← parseValue (text.length + 1) (skipSpace text)
  if skipSpace scanned.2 = [] then pure scanned.1 else none

/-- The decoder whose hook makes a dictionary of the fields. -/
def dictHook (fields : List (String × Json F)) : Except Unit (Json F) := .ok (.dict fields)

theorem toOption_bind {ε α β : Type} (x : Except ε α) (f : α → Except ε β) :
    (x >>= f).toOption = x.toOption >>= fun a => (f a).toOption := by
  cases x <;> rfl

theorem toOption_fetch {ε α : Type} (x : Option α) (error : ε) : (fetch x error).toOption = x := by
  cases x <;> rfl

mutual

/-- The parser is a decoder, by recursion on the fuel. -/
theorem parseValue_eq : ∀ (n : Nat) (text : List Char),
    parseValue (F := F) n text = (decodeValue () dictHook n text).toOption
  | 0, _ => rfl
  | _ + 1, [] => rfl
  | n + 1, first :: rest => by
      simp only [parseValue, decodeValue, parseValue_eq n, parseItems_eq n, parseFields_eq n,
        apply_ite Except.toOption, toOption_bind, toOption_fetch]
      rfl

theorem parseItems_eq : ∀ (n : Nat) (text : List Char),
    parseItems (F := F) n text = (decodeItems () dictHook n text).toOption
  | 0, _ => rfl
  | _ + 1, [] => rfl
  | n + 1, first :: rest => by
      simp only [parseItems, decodeItems, parseValue_eq n, parseItems_eq n,
        apply_ite Except.toOption, toOption_bind]
      rfl

theorem parseFields_eq : ∀ (n : Nat) (text : List Char),
    parseFields (F := F) n text = (decodeFields () dictHook n text).toOption
  | 0, _ => rfl
  | _ + 1, [] => rfl
  | n + 1, first :: rest => by
      simp only [parseFields, decodeFields, parseValue_eq n, parseFields_eq n,
        apply_ite Except.toOption, toOption_bind, toOption_fetch]
      rfl

end

theorem parse_eq (text : List Char) : parse (F := F) text = (decode () dictHook text).toOption := by
  simp only [parse, decode, parseValue_eq, toOption_bind]
  congr 1
  funext scanned
  by_cases nothing : skipSpace scanned.2 = []
  · simp [nothing, require, Except.toOption, pure, Except.pure]
  · simp [nothing, require, Except.toOption]

/-- **A canonical text reads back** as the value it was made from, in key order. -/
theorem parse_canonical (value : Json F) (finite : value.finite = true) :
    parse value.canonical = some value.ordered := by
  have inCanonical : value.ordered.IsCanonical := ⟨finite_ordered value finite, ordered_ordered value⟩
  have takes : TakesOrdered (dictHook : List (String × Json F) → _) := fun fields ordered => by
    rw [dictHook, dict, Dict.ofFields_of_ordered ordered]
  have read : decode () dictHook (value.ordered.canonical ++ []) = .ok value.ordered :=
    decode_canonical takes inCanonical fun _ member => absurd member List.not_mem_nil
  rw [List.append_nil, canonical, ordered_ordered] at read
  rw [parse_eq, canonical, read]
  rfl

/-- Finite values with one canonical text are equal in key order. -/
theorem canonical_injective {left right : Json F} (leftFinite : left.finite = true)
    (rightFinite : right.finite = true) (same : left.canonical = right.canonical) :
    left.ordered = right.ordered := by
  have read := parse_canonical left leftFinite
  rw [same, parse_canonical right rightFinite] at read
  exact (Option.some.inj read).symm

theorem IsCanonical.parse {value : Json F} (canonical : IsCanonical value) :
    Json.parse value.canonical = some value := by
  rw [parse_canonical value canonical.finite, canonical.inOrder]

end Json

end Aegis.Lib
