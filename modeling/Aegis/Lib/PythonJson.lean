/-
# Lib.PythonJson — strict decoding of JSON

`json.loads` with the hooks of a strict reader: no repeated key, none of the constants `NaN`,
`Infinity` and `-Infinity`, and no integer of more digits than Python converts. The decoder reads
the constants as a mark of their own among the floats (`Marked`), so that a float that
overflows is told apart from them.

* `strictLoads_canonical`: the canonical text of such a value reads back;
* `strictLoads_distinct`: the keys of an object that was read are distinct.

`loads` is `json.loads` without hooks: the last field of a key counts and the constants are floats.
-/
import Aegis.Lib.JsonWriter
import Aegis.Lib.PythonText

namespace Aegis.Lib

open Aegis.Lib.Guarded

set_option autoImplicit false

/-- A float of a text, or one of the constants. -/
inductive Marked (F : Type)
  | number (value : F)
  | constant

namespace Marked

variable {F : Type} [JsonFloat F]

instance : JsonFloat (Marked F) where
  finite
    | .number value => JsonFloat.finite value
    | .constant => false
  text
    | .number value => JsonFloat.text value
    | .constant => .ofInt 0
  ofText text := .number (JsonFloat.ofText text)
  nan := .constant
  infinity := .constant
  negInfinity := .constant
  same
    | .number left, .number right => JsonFloat.same left right
    | _, _ => false
  sameInt
    | .number value, other => JsonFloat.sameInt value other
    | .constant, _ => false
  text_wellFormed := by
    intro value finite
    cases value with
    | number value => exact JsonFloat.text_wellFormed value finite
    | constant => cases finite
  text_isFloat := by
    intro value finite
    cases value with
    | number value => exact JsonFloat.text_isFloat value finite
    | constant => cases finite
  ofText_text := by
    intro value finite
    cases value with
    | number value => exact congrArg number (JsonFloat.ofText_text value finite)
    | constant => cases finite
  same_self := by
    intro value finite
    cases value with
    | number value => exact JsonFloat.same_self value finite
    | constant => cases finite

end Marked

namespace Json

variable {F : Type} [JsonFloat F]

mutual

/-- No constant, and every integer is short enough. -/
def standard : Json (Marked F) → Bool
  | .float .constant => false
  | .int value => (intText value).isSome
  | .array items => standardItems items
  | .object fields => standardFields fields
  | _ => true

def standardItems : List (Json (Marked F)) → Bool
  | [] => true
  | item :: items => item.standard && standardItems items

def standardFields : List (String × Json (Marked F)) → Bool
  | [] => true
  | (_, value) :: fields => value.standard && standardFields fields

end

/-- Decoding without repeated keys. -/
def uniqueDecode (text : List Char) : Except Unit (Json (Marked F)) :=
  decode () (uniqueKeys ()) text

/-- The value of a text, unless the decoder raises a `ValueError`. -/
def strictLoads (text : List Char) : Option (Json (Marked F)) :=
  match uniqueDecode text with
  | .error _ => none
  | .ok value => if value.standard = true then some value else none

theorem strictLoads_eq_some {text : List Char} {value : Json (Marked F)} :
    strictLoads text = some value ↔
      uniqueDecode text = .ok value ∧ value.standard = true := by
  unfold strictLoads
  cases uniqueDecode (F := F) text with
  | error _ => simp
  | ok read =>
      simp only [Option.ite_none_right_eq_some, Option.some.injEq, Except.ok.injEq]
      constructor
      · rintro ⟨standard, rfl⟩
        exact ⟨rfl, standard⟩
      · rintro ⟨rfl, standard⟩
        exact ⟨standard, rfl⟩

/-- The canonical text of a value reads back. -/
theorem strictLoads_canonical {value : Json (Marked F)} (canonical : value.IsCanonical)
    (standard : value.standard = true) : strictLoads value.canonical = some value := by
  refine strictLoads_eq_some.mpr ⟨?_, standard⟩
  have read : decode () (uniqueKeys ()) (value.canonical ++ []) = .ok value :=
    decode_canonical (uniqueKeys_takesOrdered ()) canonical
      fun _ member => absurd member List.not_mem_nil
  rwa [List.append_nil] at read

omit [JsonFloat F] in
theorem standardFields_iff (fields : List (String × Json (Marked F))) :
    standardFields fields = true ↔ ∀ field ∈ fields, field.2.standard = true := by
  induction fields with
  | nil => simp [standardFields]
  | cons field fields ih => simp [standardFields, ih]

omit [JsonFloat F] in
theorem standardItems_iff (items : List (Json (Marked F))) :
    standardItems items = true ↔ ∀ item ∈ items, item.standard = true := by
  induction items with
  | nil => simp [standardItems]
  | cons item items ih => simp [standardItems, ih]

/-- A literal or a number is no object. -/
theorem scanScalar_not_object {text rest : List Char} {fields : List (String × Json (Marked F))} :
    scanScalar text ≠ some (.object fields, rest) := by
  intro scanned
  unfold scanScalar at scanned
  split at scanned
  · rename_i found
    rw [Option.some.inj scanned] at found
    unfold scanLiteral at found
    split at found <;> cases found
  · obtain ⟨⟨number, after⟩, -, same⟩ := Option.map_eq_some_iff.mp scanned
    unfold ofNumber at same
    split at same <;> cases same

/-- An object that was read is one that the hook made. -/
theorem hooked_of_decode {hook : List (String × Json (Marked F)) → Except Unit (Json (Marked F))}
    {text : List Char} {fields : List (String × Json (Marked F))}
    (read : decode () hook text = .ok (.object fields)) : ∃ given, hook given = .ok (.object fields) := by
  simp only [decode, bind_eq_ok, require_eq_ok, pure_eq_ok] at read
  obtain ⟨⟨value, rest⟩, scanned, -, -, rfl⟩ := read
  generalize skipSpace text = visible at scanned
  cases visible with
  | nil => cases scanned
  | cons first others =>
      rw [decodeValue] at scanned
      split at scanned
      · simp only [fetch_eq_ok, Option.map_eq_some_iff] at scanned
        obtain ⟨_, -, same⟩ := scanned
        cases same
      split at scanned
      · split at scanned
        · cases scanned
        · simp only [bind_eq_ok, pure_eq_ok] at scanned
          obtain ⟨_, -, _, -, same⟩ := scanned
          cases same
      split at scanned
      · split at scanned
        · simp only [bind_eq_ok, pure_eq_ok, Prod.mk.injEq] at scanned
          obtain ⟨_, made, rfl, -⟩ := scanned
          exact ⟨_, made⟩
        · simp only [bind_eq_ok, pure_eq_ok, Prod.mk.injEq] at scanned
          obtain ⟨_, -, _, -, _, -, _, made, rfl, -⟩ := scanned
          exact ⟨_, made⟩
      · exact absurd (fetch_eq_ok.mp scanned) scanScalar_not_object

/-- The keys of an object that was read are distinct. -/
theorem decode_distinct {text : List Char} {fields : List (String × Json (Marked F))}
    (read : uniqueDecode text = .ok (.object fields)) : (fields.map Prod.fst).Nodup := by
  obtain ⟨given, made⟩ := hooked_of_decode read
  simp only [uniqueKeys, bind_eq_ok, require_eq_ok, pure_eq_ok] at made
  obtain ⟨_, distinct, same⟩ := made
  injection same with same
  rwa [← same]

theorem strictLoads_distinct {text : List Char} {fields : List (String × Json (Marked F))}
    (read : strictLoads text = some (.object fields)) : (fields.map Prod.fst).Nodup :=
  decode_distinct (strictLoads_eq_some.mp read).1

theorem getLast?_renderFields (fields : List (String × Json F)) :
    (renderFields fields).getLast? = some closeBrace := by
  induction fields with
  | nil => rfl
  | cons field fields ih =>
      obtain ⟨key, value⟩ := field
      have nonempty : renderFields fields ≠ [] := by
        intro none
        rw [none] at ih
        cases ih
      have split : renderFields ((key, value) :: fields) =
          (',' :: (stringText key ++ ':' :: value.render)) ++ renderFields fields := by
        simp [renderFields]
      rw [split, List.getLast?_append_of_ne_nil _ nonempty, ih]

/-- The canonical text of an object starts and ends with its braces. -/
theorem trimmed_canonical (fields : List (String × Json F)) :
    Trimmed (Json.object fields).canonical := by
  constructor
  · obtain ⟨rest, starts⟩ := canonical_object fields
    rw [starts]
    rintro _ ⟨⟩
    decide
  · intro c last
    have ends : (Json.object fields).canonical.getLast? = some closeBrace := by
      unfold canonical
      rw [ordered]
      cases Dict.ofFields (orderedFields fields) with
      | nil => rfl
      | cons field others =>
          obtain ⟨key, value⟩ := field
          have nonempty : renderFields others ≠ [] := by
            intro none
            have last := getLast?_renderFields others
            rw [none] at last
            cases last
          have split : (Json.object ((key, value) :: others)).render =
              (openBrace :: (stringText key ++ ':' :: value.render)) ++ renderFields others := by
            simp [render]
          rw [split, List.getLast?_append_of_ne_nil _ nonempty, getLast?_renderFields]
    rw [ends] at last
    obtain rfl := Option.some.inj last
    decide

/-- A text that starts with a back quote is no JSON. -/
theorem strictLoads_backquote (rest : List Char) :
    strictLoads ('\x60' :: rest) = (none : Option (Json (Marked F))) := by
  have scalar : scanScalar ('\x60' :: rest) = (none : Option (Json (Marked F) × List Char)) := by
    rfl
  have failed : uniqueDecode ('\x60' :: rest) = (.error () : Except Unit (Json (Marked F))) := by
    unfold uniqueDecode decode
    rw [skipSpace_cons (by decide), decodeValue, if_neg (by decide), if_neg (by decide),
      if_neg (by decide), scalar]
    rfl
  unfold strictLoads
  rw [failed]

theorem strictLoads_nil : strictLoads [] = (none : Option (Json (Marked F))) := rfl

/-! ## Without hooks -/

section Convertible

omit [JsonFloat F]

mutual

/-- Every integer is short enough to be converted. -/
def convertible : Json F → Bool
  | .int value => (intText value).isSome
  | .array items => convertibleItems items
  | .object fields => convertibleFields fields
  | _ => true

def convertibleItems : List (Json F) → Bool
  | [] => true
  | item :: items => item.convertible && convertibleItems items

def convertibleFields : List (String × Json F) → Bool
  | [] => true
  | (_, value) :: fields => value.convertible && convertibleFields fields

end

end Convertible

/-- A dictionary of the fields. The values that a later field replaces were converted as well. -/
def lastFields (fields : List (String × Json F)) : Except Unit (Json F) :=
  if convertibleFields fields = true then .ok (.dict fields) else .error ()

/-- `json.loads(text)`, unless it raises a `ValueError`. -/
def loads (text : List Char) : Option (Json F) :=
  match decode () lastFields text with
  | .error _ => none
  | .ok value => if value.convertible = true then some value else none

/-- The text of a `str`. -/
def text? : Json F → Option String
  | .str text => some text
  | _ => none

/-- The items of a `list`. -/
def items? : Json F → Option (List (Json F))
  | .array items => some items
  | _ => none

/-- The fields of a `dict`. -/
def fields? : Json F → Option (List (String × Json F))
  | .object fields => some fields
  | _ => none

/-- `list(value)`, unless it raises a `TypeError`. -/
def pythonList : Json F → Option (List (Json F))
  | .array items => some items
  | .object fields => some (fields.map fun field => .str field.1)
  | .str text => some (text.toList.map fun c => .str (String.singleton c))
  | _ => none

/-- `hash(value)` raises no `TypeError`. -/
def hashable : Json F → Bool
  | .array _ => false
  | .object _ => false
  | _ => true

end Json

end Aegis.Lib
