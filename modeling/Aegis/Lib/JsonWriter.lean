/-
# Lib.JsonWriter — JSON texts with line breaks and indentation

`Json.write` writes a value in a `Layout`: what stands in front of an item and of a closing
bracket, and what follows a colon; `compact` writes everything on one line. A layout only ever adds
white space: the text spells the value (`spells_write`), so a decoder gets it back whatever the layout
(`decode_write`).

* `decode_canonical`: a hook that takes fields in key order reads a canonical text back;
* `uniqueKeys`: the hook that refuses an object with a repeated key.
-/
import Aegis.Lib.JsonSpelling

namespace Aegis.Lib

open Aegis.Lib.Guarded

set_option autoImplicit false

/-- What a writer puts around the items of a level and behind a colon; white space only. -/
structure Layout where
  line : Nat → List Char
  behindColon : List Char
  line_space : ∀ level, ∀ c ∈ line level, isSpace c = true
  behindColon_space : ∀ c ∈ behindColon, isSpace c = true

namespace Layout

/-- `separators=(",", ":")`. -/
def compact : Layout where
  line _ := []
  behindColon := []
  line_space _ _ member := absurd member List.not_mem_nil
  behindColon_space _ member := absurd member List.not_mem_nil

end Layout

namespace Json

variable {F : Type} [JsonFloat F]

/-- The text of a float; the constants of numbers that are not finite. -/
def floatText (value : F) : List Char :=
  if JsonFloat.finite value = true then (JsonFloat.text value).chars
  else if JsonFloat.same value value = false then ['N', 'a', 'N']
  else if JsonFloat.same value JsonFloat.infinity = true then
    ['I', 'n', 'f', 'i', 'n', 'i', 't', 'y']
  else ['-', 'I', 'n', 'f', 'i', 'n', 'i', 't', 'y']

section Writer

variable (layout : Layout)

mutual

/-- The text of a value whose items stand one level deeper than `level`. -/
def write : Json F → Nat → List Char
  | .float value, _ => floatText value
  | .array [], _ => ['[', ']']
  | .array (item :: items), level =>
      '[' :: (layout.line (level + 1) ++ (write item (level + 1) ++ writeItems items level))
  | .object [], _ => [openBrace, closeBrace]
  | .object ((key, value) :: fields), level =>
      openBrace :: (layout.line (level + 1) ++ (stringText key ++ ':' :: (layout.behindColon ++
        (write value (level + 1) ++ writeFields fields level))))
  | value, _ => value.render

/-- The items after the first, and the closing bracket. -/
def writeItems : List (Json F) → Nat → List Char
  | [], level => layout.line level ++ [']']
  | item :: items, level =>
      ',' :: (layout.line (level + 1) ++ (write item (level + 1) ++ writeItems items level))

/-- The fields after the first, and the closing brace. -/
def writeFields : List (String × Json F) → Nat → List Char
  | [], level => layout.line level ++ [closeBrace]
  | (key, value) :: fields, level =>
      ',' :: (layout.line (level + 1) ++ (stringText key ++ ':' :: (layout.behindColon ++
        (write value (level + 1) ++ writeFields fields level))))

end

variable {layout}

/-- A finite scalar is written as in the canonical text. -/
theorem write_scalar {value : Json F} (scalar : value.isScalar = true) (finite : value.finite = true)
    (level : Nat) : write layout value level = value.render := by
  cases value with
  | float value =>
      exact if_pos finite
  | array _ => cases scalar
  | object _ => cases scalar
  | _ => rfl

mutual

/-- A layout that adds nothing writes the canonical text. -/
theorem write_compact : ∀ (value : Json F) (level : Nat), value.finite = true →
    write Layout.compact value level = value.render
  | .null, _, _ => rfl
  | .bool true, _, _ => rfl
  | .bool false, _, _ => rfl
  | .int _, _, _ => rfl
  | .float _, level, finite => write_scalar rfl finite level
  | .str _, _, _ => rfl
  | .array [], _, _ => rfl
  | .array (item :: items), level, finite => by
      simp only [Json.finite, finiteItems, Bool.and_eq_true] at finite
      rw [write, render, write_compact item _ finite.1, writeItems_compact items level finite.2]
      rfl
  | .object [], _, _ => rfl
  | .object ((_, value) :: fields), level, finite => by
      simp only [Json.finite, finiteFields, Bool.and_eq_true] at finite
      rw [write, render, write_compact value _ finite.1, writeFields_compact fields level finite.2]
      rfl

theorem writeItems_compact : ∀ (items : List (Json F)) (level : Nat), finiteItems items = true →
    writeItems Layout.compact items level = renderItems items
  | [], _, _ => rfl
  | item :: items, level, finite => by
      simp only [finiteItems, Bool.and_eq_true] at finite
      rw [writeItems, renderItems, write_compact item _ finite.1, writeItems_compact items level finite.2]
      rfl

theorem writeFields_compact : ∀ (fields : List (String × Json F)) (level : Nat),
    finiteFields fields = true → writeFields Layout.compact fields level = renderFields fields
  | [], _, _ => rfl
  | (_, value) :: fields, level, finite => by
      simp only [finiteFields, Bool.and_eq_true] at finite
      rw [writeFields, renderFields, write_compact value _ finite.1,
        writeFields_compact fields level finite.2]
      rfl

end

end Writer

/-! ## Reading a text back -/

mutual

/-- The raw text that a value is written as. -/
def raw : Json F → Raw
  | .null => .name ['n', 'u', 'l', 'l']
  | .bool true => .name ['t', 'r', 'u', 'e']
  | .bool false => .name ['f', 'a', 'l', 's', 'e']
  | .int value => .number (NumberText.ofInt value)
  | .float value => .number (JsonFloat.text value)
  | .str value => .string (value.toList.flatMap escapeChar ++ [quote])
  | .array items => .array (rawItems items)
  | .object fields => .object (rawFields fields)

def rawItems : List (Json F) → List Raw
  | [] => []
  | item :: items => item.raw :: rawItems items

def rawFields : List (String × Json F) → List (List Char × Raw)
  | [] => []
  | (key, value) :: fields =>
      (key.toList.flatMap escapeChar ++ [quote], value.raw) :: rawFields fields

end

section Reading

variable (layout : Layout)

omit [JsonFloat F] in
theorem isBody_text (value : String) : IsBody (value.toList.flatMap escapeChar ++ [quote]) :=
  ⟨value, scanString_text value []⟩

omit [JsonFloat F] in
theorem spellsKey_text (key : String) :
    Raw.SpellsKey (key.toList.flatMap escapeChar ++ [quote])
      (stringText key ++ ':' :: layout.behindColon) :=
  ⟨isBody_text key, [], layout.behindColon, fun _ member => absurd member List.not_mem_nil,
    layout.behindColon_space, rfl⟩

mutual

/-- A finite value is spelled in any layout, by recursion on the value. -/
theorem spells_write : ∀ (value : Json F) (level : Nat), value.finite = true →
    value.raw.Spells (write layout value level)
  | .null, _, _ => by
      rw [raw, Raw.Spells]
      exact ⟨by simp [literalNames], rfl⟩
  | .bool true, _, _ => by
      rw [raw, Raw.Spells]
      exact ⟨by simp [literalNames], rfl⟩
  | .bool false, _, _ => by
      rw [raw, Raw.Spells]
      exact ⟨by simp [literalNames], rfl⟩
  | .int value, _, _ => by
      rw [raw, Raw.Spells]
      exact ⟨NumberText.ofInt_wellFormed value, rfl⟩
  | .float value, level, finite => by
      rw [raw, Raw.Spells, write_scalar rfl finite]
      exact ⟨JsonFloat.text_wellFormed value finite, rfl⟩
  | .str value, _, _ => by
      rw [raw, Raw.Spells]
      exact ⟨isBody_text value, rfl⟩
  | .array [], _, _ => by
      rw [raw, rawItems, Raw.Spells]
      exact ⟨[], fun _ member => absurd member List.not_mem_nil, rfl⟩
  | .array (item :: items), level, finite => by
      simp only [Json.finite, finiteItems, Bool.and_eq_true] at finite
      rw [raw, rawItems, Raw.Spells]
      exact ⟨_, _, _, layout.line_space (level + 1), spells_write item _ finite.1,
        spells_writeItems items level finite.2, rfl⟩
  | .object [], _, _ => by
      rw [raw, rawFields, Raw.Spells]
      exact ⟨[], fun _ member => absurd member List.not_mem_nil, rfl⟩
  | .object ((key, value) :: fields), level, finite => by
      simp only [Json.finite, finiteFields, Bool.and_eq_true] at finite
      rw [raw, rawFields, Raw.Spells]
      exact ⟨_, _, _, _, layout.line_space (level + 1), spellsKey_text layout key,
        spells_write value (level + 1) finite.1, spells_writeFields fields level finite.2, by simp [write]⟩

theorem spells_writeItems : ∀ (items : List (Json F)) (level : Nat), finiteItems items = true →
    Raw.SpellsItems (rawItems items) (writeItems layout items level)
  | [], level, _ => by
      rw [rawItems, Raw.SpellsItems]
      exact ⟨_, layout.line_space level, rfl⟩
  | item :: items, level, finite => by
      simp only [finiteItems, Bool.and_eq_true] at finite
      rw [rawItems, Raw.SpellsItems]
      exact ⟨[], _, _, _, fun _ member => absurd member List.not_mem_nil, layout.line_space (level + 1),
        spells_write item _ finite.1, spells_writeItems items level finite.2, rfl⟩

theorem spells_writeFields : ∀ (fields : List (String × Json F)) (level : Nat),
    finiteFields fields = true → Raw.SpellsFields (rawFields fields) (writeFields layout fields level)
  | [], level, _ => by
      rw [rawFields, Raw.SpellsFields]
      exact ⟨_, layout.line_space level, rfl⟩
  | (key, value) :: fields, level, finite => by
      simp only [finiteFields, Bool.and_eq_true] at finite
      rw [rawFields, Raw.SpellsFields]
      exact ⟨[], _, _, _, _, fun _ member => absurd member List.not_mem_nil,
        layout.line_space (level + 1), spellsKey_text layout key, spells_write value (level + 1) finite.1,
        spells_writeFields fields level finite.2, by simp [writeFields]⟩

end

end Reading

section Decoded

variable {ε : Type} {malformed : ε} {hook : List (String × Json F) → Except ε (Json F)}

/-- The hook makes a dictionary of fields in key order. -/
def TakesOrdered (hook : List (String × Json F) → Except ε (Json F)) : Prop :=
  ∀ fields : List (String × Json F), Dict.Ordered fields → hook fields = .ok (.object fields)

omit [JsonFloat F] in
theorem bodyText_text (value : String) :
    Raw.bodyText malformed (value.toList.flatMap escapeChar ++ [quote]) = .ok value := by
  rw [Raw.bodyText, scanString_text value []]
  rfl

mutual

/-- What a decoder makes of the raw text of a value in key order. -/
theorem value_raw (takes : TakesOrdered hook) : ∀ value : Json F, value.ordered = value →
    value.finite = true → value.raw.value malformed hook = .ok value
  | .null, _, _ => rfl
  | .bool true, _, _ => rfl
  | .bool false, _, _ => rfl
  | .int value, _, _ => by
      rw [raw, Raw.value, ofNumber, if_neg (by simp [NumberText.isFloat, NumberText.ofInt]),
        NumberText.toInt_ofInt]
  | .float value, _, finite => by
      rw [raw, Raw.value, ofNumber, if_pos (JsonFloat.text_isFloat value finite),
        JsonFloat.ofText_text value finite]
  | .str value, _, _ => by
      rw [raw, Raw.value, bodyText_text]
      rfl
  | .array items, inOrder, finite => by
      rw [raw, Raw.value,
        values_raw takes items (items_of_ordered inOrder) (by simpa [Json.finite] using finite)]
      rfl
  | .object fields, inOrder, finite => by
      obtain ⟨keys, each⟩ := fields_of_ordered inOrder
      rw [raw, Raw.value, fieldValues_raw takes fields each (by simpa [Json.finite] using finite)]
      exact takes fields keys

theorem values_raw (takes : TakesOrdered hook) : ∀ items : List (Json F),
    (∀ item ∈ items, item.ordered = item) → finiteItems items = true →
      Raw.values malformed hook (rawItems items) = .ok items
  | [], _, _ => rfl
  | item :: items, each, finite => by
      obtain ⟨first, others⟩ := List.forall_mem_cons.mp each
      simp only [finiteItems, Bool.and_eq_true] at finite
      rw [rawItems, Raw.values, value_raw takes item first finite.1,
        values_raw takes items others finite.2]
      rfl

theorem fieldValues_raw (takes : TakesOrdered hook) : ∀ fields : List (String × Json F),
    (∀ field ∈ fields, field.2.ordered = field.2) → finiteFields fields = true →
      Raw.fieldValues malformed hook (rawFields fields) = .ok fields
  | [], _, _ => rfl
  | (key, value) :: fields, each, finite => by
      obtain ⟨first, others⟩ := List.forall_mem_cons.mp each
      simp only [finiteFields, Bool.and_eq_true] at finite
      rw [rawFields, Raw.fieldValues, bodyText_text, value_raw takes value first finite.1,
        fieldValues_raw takes fields others finite.2]
      rfl

end

/-- **A canonical value is read back** from its text in any layout, with white space behind it. -/
theorem decode_write (takes : TakesOrdered hook) {value : Json F} (inCanonical : value.IsCanonical)
    (layout : Layout) (level : Nat) {blank : List Char} (blanks : ∀ c ∈ blank, isSpace c = true) :
    decode malformed hook (write layout value level ++ blank) = .ok value := by
  have none : IsBlank [] := fun _ member => absurd member List.not_mem_nil
  rw [← value_raw takes value inCanonical.inOrder inCanonical.finite]
  exact Raw.decode_spelled none (spells_write layout value level inCanonical.finite) blanks

/-- The text of a canonical value and white space behind it. -/
theorem decode_canonical (takes : TakesOrdered hook) {value : Json F}
    (inCanonical : value.IsCanonical) {blank : List Char} (blanks : ∀ c ∈ blank, isSpace c = true) :
    decode malformed hook (value.canonical ++ blank) = .ok value := by
  rw [canonical, inCanonical.inOrder, ← write_compact value 0 inCanonical.finite]
  exact decode_write takes inCanonical Layout.compact 0 blanks

end Decoded

/-- The hook that refuses an object with a repeated key and keeps the order of the others. -/
def uniqueKeys {ε : Type} (repeated : ε) (fields : List (String × Json F)) : Except ε (Json F) := do
  require (fields.map Prod.fst).Nodup repeated
  pure (.object fields)

omit [JsonFloat F] in
theorem uniqueKeys_takesOrdered {ε : Type} (repeated : ε) :
    TakesOrdered (uniqueKeys repeated : List (String × Json F) → Except ε (Json F)) := by
  intro fields ordered
  have distinct : (fields.map Prod.fst).Nodup := by
    rw [List.Nodup, List.pairwise_map]
    exact ordered.imp String.ne_of_lt
  rw [uniqueKeys, bind_eq_ok]
  exact ⟨⟨⟩, require_eq_ok.mpr distinct, rfl⟩

end Json

end Aegis.Lib
