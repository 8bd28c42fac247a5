/-
# Lib.JsonSpelling — the spellings of a JSON text

A `Raw` is a JSON text up to its white space: its names, numbers and string texts as they are spelled,
its items and fields in the order of the text. `Spells` puts white space between its tokens. A decoder
reads every spelling of a raw text alike (`decode_spelled`), and with the hook `distinctDict`, that
makes a dictionary of distinct keys, also every order of the fields (`value_of_reordered`).
-/
import Aegis.Lib.JsonStrict
import Mathlib.Data.List.Perm.Basic
import Mathlib.Logic.Relation

namespace Aegis.Lib

open Aegis.Lib.Guarded

set_option autoImplicit false

/-- A JSON text without its white space. A string text is that behind its opening quote. -/
inductive Raw where
  | name (text : List Char)
  | number (number : NumberText)
  | string (body : List Char)
  | array (items : List Raw)
  | object (fields : List (List Char × Raw))

/-- White space. -/
def IsBlank (blank : List Char) : Prop := ∀ c ∈ blank, isSpace c = true

/-- The literal names, with the constants that a Python decoder takes. -/
def literalNames : List (List Char) :=
  ["null".toList, "true".toList, "false".toList, "NaN".toList, "Infinity".toList,
    "-Infinity".toList]

/-- A string text up to its closing quote. -/
def IsBody (body : List Char) : Prop := ∃ value, scanString body = some (value, [])

namespace Raw

/-- The key of a field with its colon. -/
def SpellsKey (key text : List Char) : Prop :=
  IsBody key ∧ ∃ blank behind, IsBlank blank ∧ IsBlank behind ∧
    text = quote :: (key ++ (blank ++ ':' :: behind))

mutual

/-- A text spells a raw text, with white space between its tokens. -/
def Spells : Raw → List Char → Prop
  | .name literal, text => literal ∈ literalNames ∧ text = literal
  | .number digits, text => digits.WellFormed ∧ text = digits.chars
  | .string body, text => IsBody body ∧ text = quote :: body
  | .array [], text => ∃ blank, IsBlank blank ∧ text = '[' :: (blank ++ [']'])
  | .array (item :: items), text => ∃ blank here later, IsBlank blank ∧ Spells item here ∧
      SpellsItems items later ∧ text = '[' :: (blank ++ (here ++ later))
  | .object [], text => ∃ blank, IsBlank blank ∧ text = openBrace :: (blank ++ [closeBrace])
  | .object ((key, value) :: fields), text => ∃ blank named here later, IsBlank blank ∧
      SpellsKey key named ∧ Spells value here ∧ SpellsFields fields later ∧
        text = openBrace :: (blank ++ (named ++ (here ++ later)))

/-- The items after the first one, with the closing bracket. -/
def SpellsItems : List Raw → List Char → Prop
  | [], text => ∃ blank, IsBlank blank ∧ text = blank ++ [']']
  | item :: items, text => ∃ blank behind here later, IsBlank blank ∧ IsBlank behind ∧
      Spells item here ∧ SpellsItems items later ∧ text = blank ++ ',' :: (behind ++ (here ++ later))

/-- The fields after the first one, with the closing brace. -/
def SpellsFields : List (List Char × Raw) → List Char → Prop
  | [], text => ∃ blank, IsBlank blank ∧ text = blank ++ [closeBrace]
  | (key, value) :: fields, text => ∃ blank behind named here later, IsBlank blank ∧
      IsBlank behind ∧ SpellsKey key named ∧ Spells value here ∧ SpellsFields fields later ∧
        text = blank ++ ',' :: (behind ++ (named ++ (here ++ later)))

end

section Values

variable {F : Type} [JsonFloat F] {ε : Type} (malformed : ε)
  (hook : List (String × Json F) → Except ε (Json F))

/-- The string of a string text. -/
def bodyText (body : List Char) : Except ε String :=
  fetch ((scanString body).map Prod.fst) malformed

mutual

/-- What a decoder makes of a raw text. -/
def value : Raw → Except ε (Json F)
  | .name literal => fetch ((Json.scanLiteral literal).map Prod.fst) malformed
  | .number digits => .ok (Json.ofNumber digits)
  | .string body => (bodyText malformed body).map .str
  | .array items => (values items).map .array
  | .object fields => do
      let fields ← fieldValues fields
      hook fields

def values : List Raw → Except ε (List (Json F))
  | [] => .ok []
  | item :: items => do
      let first ← item.value
      let others ← values items
      pure (first :: others)

def fieldValues : List (List Char × Raw) → Except ε (List (String × Json F))
  | [] => .ok []
  | (key, value) :: fields => do
      let key ← bodyText malformed key
      let value ← value.value
      let others ← fieldValues fields
      pure ((key, value) :: others)

end

end Values

/-! ## Reading a spelling -/

section Reading

variable {F : Type} [JsonFloat F] {ε : Type} {malformed : ε}
  {hook : List (String × Json F) → Except ε (Json F)}

/-- A string text ends where it ends, whatever follows. -/
theorem scanUnits_append (rest : List Char) {text after : List Char} {units : List Nat}
    (scanned : scanUnits text = some (units, after)) :
    scanUnits (text ++ rest) = some (units, after ++ rest) := by
  induction text using scanUnits.induct generalizing units with
  | case1 => cases scanned
  | case2 later =>
      rw [scanUnits_quote] at scanned
      obtain ⟨rfl, rfl⟩ := Prod.mk.inj (Option.some.inj scanned)
      exact scanUnits_quote _
  | case3 a b d e later apart ih =>
      simp only [List.cons_append]
      rw [scanUnits_cons, if_neg apart, if_pos rfl] at scanned ⊢
      simp only [scanEscape, Option.bind_eq_bind, Option.bind_eq_some_iff, pure, Option.some.injEq,
        Prod.mk.injEq] at scanned ⊢
      obtain ⟨a, readA, b, readB, d, readD, e, readE, ⟨others, behind⟩, read, rfl, rfl⟩ := scanned
      exact ⟨a, readA, b, readB, d, readD, e, readE, _, ih read, rfl, rfl⟩
  | case4 letter later other apart ih =>
      simp only [List.cons_append]
      rw [scanUnits_cons, if_neg apart, if_pos rfl] at scanned ⊢
      have simple : ∀ text, (letter ≠ 'u') → scanEscape (letter :: text) = (do
          let unit ← simpleEscape letter
          let scanned ← scanUnits text
          pure (unit :: scanned.1, scanned.2)) := by
        intro text apart
        rw [scanEscape]
        rintro a b d e others rfl
        exact absurd rfl apart
      by_cases isHex : letter = 'u'
      · -- too few digits follow
        subst isHex
        rw [scanEscape.eq_2 _ _ fun a b d e others _ same => other a b d e others rfl same] at scanned
        cases scanned
      · rw [simple _ isHex] at scanned ⊢
        simp only [Option.bind_eq_bind, Option.bind_eq_some_iff, pure, Option.some.injEq,
          Prod.mk.injEq] at scanned ⊢
        obtain ⟨unit, known, ⟨others, behind⟩, read, rfl, rfl⟩ := scanned
        exact ⟨unit, known, _, ih read, rfl, rfl⟩
  | case5 apart =>
      rw [scanUnits_cons, if_neg apart, if_pos rfl] at scanned
      cases scanned
  | case6 first later notQuote notEscape control =>
      rw [scanUnits_cons, if_neg notQuote, if_neg notEscape, if_pos control] at scanned
      cases scanned
  | case7 first later notQuote notEscape visible ih =>
      rw [List.cons_append]
      rw [scanUnits_cons, if_neg notQuote, if_neg notEscape, if_neg visible,
        Option.map_eq_some_iff] at scanned ⊢
      obtain ⟨⟨others, behind⟩, read, same⟩ := scanned
      obtain ⟨rfl, rfl⟩ := Prod.mk.inj same
      exact ⟨_, ih read, rfl⟩

theorem scanString_append {body after : List Char} {value : String}
    (scanned : scanString body = some (value, after)) (rest : List Char) :
    scanString (body ++ rest) = some (value, after ++ rest) := by
  unfold scanString at scanned ⊢
  simp only [Option.bind_eq_bind, Option.bind_eq_some_iff, pure, Option.some.injEq,
    Prod.mk.injEq] at scanned ⊢
  obtain ⟨⟨units, behind⟩, read, chars, joined, rfl, rfl⟩ := scanned
  exact ⟨_, scanUnits_append rest read, chars, joined, rfl, rfl⟩

theorem scanLiteral_append {literal : List Char} (known : literal ∈ literalNames)
    (rest : List Char) : ∃ found : Json F, Json.scanLiteral literal = some (found, []) ∧
      Json.scanLiteral (literal ++ rest) = some (found, rest) := by
  simp only [literalNames, List.mem_cons, List.not_mem_nil, or_false] at known
  rcases known with rfl | rfl | rfl | rfl | rfl | rfl
  all_goals exact ⟨_, rfl, rfl⟩

theorem literal_head {literal : List Char} (known : literal ∈ literalNames) :
    ∃ first later, literal = first :: later ∧ Json.Starts first ∧ first ≠ quote ∧ first ≠ '[' ∧
      first ≠ openBrace := by
  simp only [literalNames, List.mem_cons, List.not_mem_nil, or_false] at known
  unfold Json.Starts
  rcases known with rfl | rfl | rfl | rfl | rfl | rfl
  all_goals exact ⟨_, _, rfl, by decide, by decide, by decide, by decide⟩

/-- The first character of a spelling. -/
theorem spells_head : ∀ {raw : Raw} {text : List Char}, raw.Spells text →
    ∃ first later, text = first :: later ∧ Json.Starts first
  | .name literal, text, spelled => by
      rw [Spells] at spelled
      obtain ⟨known, rfl⟩ := spelled
      obtain ⟨first, later, split, starts, -⟩ := literal_head known
      exact ⟨first, later, split, starts⟩
  | .number digits, text, spelled => by
      rw [Spells] at spelled
      obtain ⟨wellFormed, rfl⟩ := spelled
      obtain ⟨first, later, split, starts, -⟩ := Json.number_head wellFormed
      exact ⟨first, later, split, starts⟩
  | .string body, text, spelled => by
      rw [Spells] at spelled
      obtain ⟨-, rfl⟩ := spelled
      exact ⟨_, _, rfl, by unfold Json.Starts; decide⟩
  | .array [], text, spelled => by
      rw [Spells] at spelled
      obtain ⟨blank, -, rfl⟩ := spelled
      exact ⟨_, _, rfl, by unfold Json.Starts; decide⟩
  | .array (_ :: _), text, spelled => by
      rw [Spells] at spelled
      obtain ⟨blank, here, later, -, -, -, rfl⟩ := spelled
      exact ⟨_, _, rfl, by unfold Json.Starts; decide⟩
  | .object [], text, spelled => by
      rw [Spells] at spelled
      obtain ⟨blank, -, rfl⟩ := spelled
      exact ⟨_, _, rfl, by unfold Json.Starts; decide⟩
  | .object ((_, _) :: _), text, spelled => by
      rw [Spells] at spelled
      obtain ⟨blank, named, here, later, -, -, -, -, rfl⟩ := spelled
      exact ⟨_, _, rfl, by unfold Json.Starts; decide⟩

theorem skipSpace_spells {raw : Raw} {text : List Char} (spelled : raw.Spells text)
    (rest : List Char) : skipSpace (text ++ rest) = text ++ rest := by
  obtain ⟨first, later, rfl, starts⟩ := spells_head spelled
  exact skipSpace_cons starts.1

/-- What follows a value ends a number. -/
theorem spellsItems_ends {items : List Raw} {text : List Char} (spelled : SpellsItems items text)
    (rest : List Char) : NumberText.Ends (text ++ rest) := by
  cases items with
  | nil =>
      rw [SpellsItems] at spelled
      obtain ⟨blank, blanks, rfl⟩ := spelled
      rw [List.append_assoc]
      exact Json.ends_blank blanks (Json.Delimited.cons _ (by decide)).ends
  | cons item items =>
      rw [SpellsItems] at spelled
      obtain ⟨blank, behind, here, later, blanks, -, -, -, rfl⟩ := spelled
      rw [List.append_assoc]
      exact Json.ends_blank blanks (Json.Delimited.cons _ (by decide)).ends

theorem spellsFields_ends {fields : List (List Char × Raw)} {text : List Char}
    (spelled : SpellsFields fields text) (rest : List Char) : NumberText.Ends (text ++ rest) := by
  cases fields with
  | nil =>
      rw [SpellsFields] at spelled
      obtain ⟨blank, blanks, rfl⟩ := spelled
      rw [List.append_assoc]
      exact Json.ends_blank blanks (Json.Delimited.cons _ (by decide)).ends
  | cons field fields =>
      obtain ⟨key, value⟩ := field
      rw [SpellsFields] at spelled
      obtain ⟨blank, behind, named, here, later, blanks, -, -, -, -, rfl⟩ := spelled
      rw [List.append_assoc]
      exact Json.ends_blank blanks (Json.Delimited.cons _ (by decide)).ends

/-- The key of a field is read up to the value behind its colon. -/
theorem scanKey_spells (malformed : ε) {key named : List Char} (spelled : SpellsKey key named) {value : Raw}
    {here : List Char} (valued : value.Spells here) (rest : List Char) :
    ∃ text, bodyText malformed key = .ok text ∧
      Json.scanKey (named ++ (here ++ rest)) = some (text, here ++ rest) := by
  obtain ⟨⟨text, read⟩, blank, behind, blanks, behinds, rfl⟩ := spelled
  refine ⟨text, by rw [bodyText, read]; rfl, ?_⟩
  simp only [List.cons_append, List.append_assoc]
  rw [Json.scanKey, if_pos rfl, scanString_append read]
  simp only [List.nil_append, Option.bind_eq_bind, Option.bind_some]
  rw [skipSpace_blank blanks, skipSpace_cons (by decide)]
  simp only [pure]
  rw [skipSpace_blank behinds, skipSpace_spells valued]

mutual

/-- **A spelling is read as its raw text**, by recursion on the raw text. -/
theorem decodeValue_spells : ∀ (raw : Raw) {text : List Char} (n : Nat) (rest : List Char),
    raw.Spells text → text.length ≤ n → NumberText.Ends rest →
      Json.decodeValue malformed hook n (text ++ rest) =
        (raw.value malformed hook).map (·, rest)
  | raw, text, 0, rest, spelled, enough, _ => by
      obtain ⟨first, later, rfl, -⟩ := spells_head spelled
      simp at enough
  | .name literal, text, n + 1, rest, spelled, _, _ => by
      rw [Spells] at spelled
      obtain ⟨known, rfl⟩ := spelled
      obtain ⟨found, alone, within⟩ := scanLiteral_append (F := F) known rest
      obtain ⟨first, later, rfl, -, notQuote, notBracket, notBrace⟩ := literal_head known
      rw [List.cons_append] at within ⊢
      rw [Json.decodeValue, if_neg notQuote, if_neg notBracket, if_neg notBrace, Json.scanScalar,
        within, value, alone]
      rfl
  | .number digits, text, n + 1, rest, spelled, _, ends => by
      rw [Spells] at spelled
      obtain ⟨wellFormed, rfl⟩ := spelled
      rw [Json.decodeValue_number wellFormed ends, value]
      rfl
  | .string body, text, n + 1, rest, spelled, _, _ => by
      rw [Spells] at spelled
      obtain ⟨⟨found, read⟩, rfl⟩ := spelled
      rw [List.cons_append, Json.decodeValue, if_pos rfl, scanString_append read, value, bodyText, read]
      rfl
  | .array [], text, n + 1, rest, spelled, _, _ => by
      rw [Spells] at spelled
      obtain ⟨blank, blanks, rfl⟩ := spelled
      rw [List.cons_append, List.append_assoc, Json.decodeValue, if_neg (by decide), if_pos rfl,
        skipSpace_blank blanks, List.singleton_append, skipSpace_cons (by decide),
        if_pos List.head?_cons, value, values]
      rfl
  | .array (item :: items), text, n + 1, rest, spelled, enough, _ => by
      rw [Spells] at spelled
      obtain ⟨blank, here, later, blanks, first, others, rfl⟩ := spelled
      simp only [List.length_cons, List.length_append] at enough
      have read := decodeValue_spells item n (later ++ rest) first (by omega)
        (spellsItems_ends others rest)
      have reads := decodeItems_spells items n rest others (by omega)
      obtain ⟨c, tail, rfl, starts⟩ := spells_head first
      have nonempty : (c :: tail ++ (later ++ rest)).head? ≠ some ']' :=
        fun same => starts.2.1 (Option.some.inj same)
      simp only [List.cons_append, List.append_assoc] at read reads nonempty ⊢
      rw [Json.decodeValue, if_neg (by decide), if_pos rfl, skipSpace_blank blanks,
        skipSpace_cons starts.1, if_neg nonempty, read, value, values]
      cases item.value malformed hook with
      | error fault => rfl
      | ok found =>
          dsimp only [Except.map, bind, Except.bind]
          rw [reads]
          cases values malformed hook items <;> rfl
  | .object [], text, n + 1, rest, spelled, _, _ => by
      rw [Spells] at spelled
      obtain ⟨blank, blanks, rfl⟩ := spelled
      rw [List.cons_append, List.append_assoc, Json.decodeValue, if_neg (by decide),
        if_neg (by decide), if_pos rfl, skipSpace_blank blanks, List.singleton_append,
        skipSpace_cons (by decide), if_pos List.head?_cons, value, fieldValues]
      dsimp only [bind, Except.bind]
      cases hook [] <;> rfl
  | .object ((key, held) :: fields), text, n + 1, rest, spelled, enough, _ => by
      rw [Spells] at spelled
      obtain ⟨blank, named, here, later, blanks, keyed, first, others, rfl⟩ := spelled
      simp only [List.length_cons, List.length_append] at enough
      have read := decodeValue_spells held n (later ++ rest) first (by omega)
        (spellsFields_ends others rest)
      have reads := decodeFields_spells fields n rest others (by omega)
      obtain ⟨name, body, scanned⟩ := scanKey_spells malformed keyed first (later ++ rest)
      obtain ⟨-, mid, behind, -, -, rfl⟩ := keyed
      simp only [List.cons_append, List.append_assoc] at read reads scanned ⊢
      have nonempty : quote ≠ closeBrace := by decide
      rw [Json.decodeValue, if_neg (by decide), if_neg (by decide), if_pos rfl,
        skipSpace_blank blanks, skipSpace_cons (by decide), List.head?_cons,
        if_neg fun same => nonempty (Option.some.inj same), scanned, value, fieldValues, body]
      dsimp only [fetch, bind, Except.bind]
      rw [read]
      cases held.value malformed hook with
      | error fault => rfl
      | ok found =>
          dsimp only [Except.map]
          rw [reads]
          cases fieldValues malformed hook fields with
          | error fault => rfl
          | ok rest => cases hook ((name, found) :: rest) <;> rfl

theorem decodeItems_spells : ∀ (items : List Raw) {text : List Char} (n : Nat) (rest : List Char),
    SpellsItems items text → text.length ≤ n →
      Json.decodeItems malformed hook n (skipSpace (text ++ rest)) =
        (values malformed hook items).map (·, rest)
  | items, text, 0, rest, spelled, enough => by
      cases items with
      | nil =>
          rw [SpellsItems] at spelled
          obtain ⟨blank, -, rfl⟩ := spelled
          simp at enough
      | cons item items =>
          rw [SpellsItems] at spelled
          obtain ⟨blank, behind, here, later, -, -, -, -, rfl⟩ := spelled
          simp at enough
  | [], text, n + 1, rest, spelled, _ => by
      rw [SpellsItems] at spelled
      obtain ⟨blank, blanks, rfl⟩ := spelled
      rw [List.append_assoc, skipSpace_blank blanks, List.singleton_append,
        skipSpace_cons (by decide), Json.decodeItems, if_pos rfl, values]
      rfl
  | item :: items, text, n + 1, rest, spelled, enough => by
      rw [SpellsItems] at spelled
      obtain ⟨blank, behind, here, later, blanks, behinds, first, others, rfl⟩ := spelled
      simp only [List.length_cons, List.length_append] at enough
      have read := decodeValue_spells item n (later ++ rest) first (by omega)
        (spellsItems_ends others rest)
      have reads := decodeItems_spells items n rest others (by omega)
      have visible := skipSpace_spells first (later ++ rest)
      simp only [List.cons_append, List.append_assoc] at read reads visible ⊢
      rw [skipSpace_blank blanks, skipSpace_cons (by decide), Json.decodeItems, if_neg (by decide),
        if_pos rfl, skipSpace_blank behinds, visible, read, values]
      cases item.value malformed hook with
      | error fault => rfl
      | ok found =>
          dsimp only [Except.map, bind, Except.bind]
          rw [reads]
          cases values malformed hook items <;> rfl

theorem decodeFields_spells : ∀ (fields : List (List Char × Raw)) {text : List Char} (n : Nat)
    (rest : List Char), SpellsFields fields text → text.length ≤ n →
      Json.decodeFields malformed hook n (skipSpace (text ++ rest)) =
        (fieldValues malformed hook fields).map (·, rest)
  | fields, text, 0, rest, spelled, enough => by
      cases fields with
      | nil =>
          rw [SpellsFields] at spelled
          obtain ⟨blank, -, rfl⟩ := spelled
          simp at enough
      | cons field fields =>
          obtain ⟨key, held⟩ := field
          rw [SpellsFields] at spelled
          obtain ⟨blank, behind, named, here, later, -, -, -, -, -, rfl⟩ := spelled
          simp at enough
  | [], text, n + 1, rest, spelled, _ => by
      rw [SpellsFields] at spelled
      obtain ⟨blank, blanks, rfl⟩ := spelled
      rw [List.append_assoc, skipSpace_blank blanks, List.singleton_append,
        skipSpace_cons (by decide), Json.decodeFields, if_pos rfl, fieldValues]
      rfl
  | (key, held) :: fields, text, n + 1, rest, spelled, enough => by
      rw [SpellsFields] at spelled
      obtain ⟨blank, behind, named, here, later, blanks, behinds, keyed, first, others, rfl⟩ := spelled
      simp only [List.length_cons, List.length_append] at enough
      have read := decodeValue_spells held n (later ++ rest) first (by omega)
        (spellsFields_ends others rest)
      have reads := decodeFields_spells fields n rest others (by omega)
      obtain ⟨name, body, scanned⟩ := scanKey_spells malformed keyed first (later ++ rest)
      obtain ⟨-, mid, behind', -, -, rfl⟩ := keyed
      simp only [List.cons_append, List.append_assoc] at read reads scanned ⊢
      rw [skipSpace_blank blanks, skipSpace_cons (by decide), Json.decodeFields, if_neg (by decide),
        if_pos rfl, skipSpace_blank behinds, skipSpace_cons (by decide), scanned, fieldValues, body]
      dsimp only [fetch, bind, Except.bind]
      rw [read]
      cases held.value malformed hook with
      | error fault => rfl
      | ok found =>
          dsimp only [Except.map]
          rw [reads]
          cases fieldValues malformed hook fields <;> rfl

end

/-- **A decoder reads every spelling of a raw text alike.** -/
theorem decode_spelled {raw : Raw} {before text behind : List Char} (blank : IsBlank before)
    (spelled : raw.Spells text) (blank' : IsBlank behind) :
    Json.decode malformed hook (before ++ (text ++ behind)) = raw.value malformed hook := by
  have ends : NumberText.Ends behind := by
    have nothing := Json.ends_blank blank' Json.delimited_nil.ends
    rwa [List.append_nil] at nothing
  have enough : text.length ≤ (before ++ (text ++ behind)).length + 1 := by
    simp only [List.length_append]
    omega
  have nothing : skipSpace behind = [] := List.dropWhile_eq_nil_iff.mpr blank'
  rw [Json.decode, skipSpace_blank blank, skipSpace_spells spelled,
    decodeValue_spells raw _ behind spelled enough ends]
  cases raw.value malformed hook with
  | error fault => rfl
  | ok found => simp [Except.map, nothing, require, bind, Except.bind, pure, Except.pure]

end Reading

/-! ## The order of the fields -/

section Order

variable {F : Type} [JsonFloat F]

/-- A hook that refuses a repeated key and makes a dictionary of the fields. -/
def distinctDict (fields : List (String × Json F)) : Except Unit (Json F) := do
  require (fields.map Prod.fst).Nodup ()
  pure (.dict fields)

omit [JsonFloat F] in
theorem distinctDict_eq_ok {fields : List (String × Json F)} {object : Json F} :
    distinctDict fields = .ok object ↔ (fields.map Prod.fst).Nodup ∧ .dict fields = object := by
  unfold distinctDict
  simp only [bind_eq_ok, require_eq_ok, pure_eq_ok]
  constructor
  · rintro ⟨_, distinct, same⟩
    exact ⟨distinct, same⟩
  · rintro ⟨distinct, same⟩
    exact ⟨⟨⟩, distinct, same⟩

/-- One step of reordering: the fields of one object change their order. -/
inductive Reorder : Raw → Raw → Prop
  | fields {fields fields' : List (List Char × Raw)} (perm : fields.Perm fields') :
      Reorder (.object fields) (.object fields')
  | item {raw raw' : Raw} (left right : List Raw) (step : Reorder raw raw') :
      Reorder (.array (left ++ raw :: right)) (.array (left ++ raw' :: right))
  | field {raw raw' : Raw} (key : List Char) (left right : List (List Char × Raw))
      (step : Reorder raw raw') :
      Reorder (.object (left ++ (key, raw) :: right)) (.object (left ++ (key, raw') :: right))

/-- Two raw texts that differ in the order of fields only. -/
abbrev Reordered : Raw → Raw → Prop := Relation.ReflTransGen Reorder

/-- With one error, computations that return the same are equal. -/
theorem eq_of_ok_iff {α : Type} {left right : Except Unit α}
    (same : ∀ result, left = .ok result ↔ right = .ok result) : left = right := by
  cases left with
  | error _ =>
      cases right with
      | error _ => rfl
      | ok result => cases (same result).mpr rfl
  | ok result => exact ((same result).mp rfl).symm

/-- The key and the value of a field. -/
def fieldValue (field : List Char × Raw) : Except Unit (String × Json F) := do
  let key ← bodyText () field.1
  let value ← field.2.value () distinctDict
  pure (key, value)

theorem fieldValues_eq_mapM (fields : List (List Char × Raw)) :
    fieldValues () distinctDict fields = fields.mapM (fieldValue (F := F)) := by
  induction fields with
  | nil => rw [fieldValues]; rfl
  | cons field fields ih =>
      obtain ⟨key, value⟩ := field
      rw [fieldValues, List.mapM_cons, ih, fieldValue]
      simp only [bind_assoc, pure_bind]

omit [JsonFloat F] in
/-- A dictionary of distinct keys does not know their order. -/
theorem dict_of_perm {fields fields' : List (String × Json F)} (perm : fields.Perm fields')
    (distinct : (fields.map Prod.fst).Nodup) : Json.dict fields = Json.dict fields' := by
  have distinct' : (fields'.map Prod.fst).Nodup := (perm.map Prod.fst).nodup_iff.mp distinct
  refine congrArg Json.object (Dict.ext_of_ordered (Dict.ordered_ofFields _) (Dict.ordered_ofFields _)
    fun key => Option.ext fun value => ?_)
  rw [Dict.get?_ofFields_iff distinct, Dict.get?_ofFields_iff distinct', perm.mem_iff]

/-- Permuted fields make one object. -/
theorem value_of_perm {fields fields' : List (List Char × Raw)} (perm : fields.Perm fields') :
    (Raw.object fields).value (F := F) () distinctDict = (Raw.object fields').value () distinctDict := by
  have one : ∀ {fields fields' : List (List Char × Raw)} {object : Json F}, fields.Perm fields' →
      (Raw.object fields').value () distinctDict = .ok object →
        (Raw.object fields).value () distinctDict = .ok object := by
    intro fields fields' object perm made
    rw [value, fieldValues_eq_mapM] at made ⊢
    simp only [bind_eq_ok, mapM_eq_ok_iff, distinctDict_eq_ok] at made ⊢
    obtain ⟨made', each, distinct, rfl⟩ := made
    obtain ⟨made, each, permuted⟩ := List.perm_comp_forall₂ perm each
    have distinct : (made.map Prod.fst).Nodup := (permuted.map Prod.fst).nodup_iff.mpr distinct
    exact ⟨made, each, distinct, dict_of_perm permuted distinct⟩
  exact eq_of_ok_iff fun object => ⟨one perm.symm, one perm⟩

theorem values_congr {raw raw' : Raw} (same : raw.value (F := F) () distinctDict =
    raw'.value () distinctDict) (left right : List Raw) :
    values (F := F) () distinctDict (left ++ raw :: right) =
      values () distinctDict (left ++ raw' :: right) := by
  induction left with
  | nil => simp only [List.nil_append, values, same]
  | cons item left ih => simp only [List.cons_append, values, ih]

theorem fieldValues_congr {raw raw' : Raw} (same : raw.value (F := F) () distinctDict =
    raw'.value () distinctDict) (key : List Char) (left right : List (List Char × Raw)) :
    fieldValues (F := F) () distinctDict (left ++ (key, raw) :: right) =
      fieldValues () distinctDict (left ++ (key, raw') :: right) := by
  induction left with
  | nil => simp only [List.nil_append, fieldValues, same]
  | cons field left ih =>
      obtain ⟨key, value⟩ := field
      simp only [List.cons_append, fieldValues, ih]

theorem value_of_reorder {raw raw' : Raw} (step : Reorder raw raw') :
    raw.value (F := F) () distinctDict = raw'.value () distinctDict := by
  induction step with
  | fields perm => exact value_of_perm perm
  | item left right _ ih => rw [value, value, values_congr ih]
  | field key left right _ ih => rw [value, value, fieldValues_congr ih]

/-- **The order of fields does not matter**, at any depth. -/
theorem value_of_reordered {raw raw' : Raw} (reordered : Reordered raw raw') :
    raw.value (F := F) () distinctDict = raw'.value () distinctDict := by
  induction reordered with
  | refl => rfl
  | tail _ step ih => exact ih.trans (value_of_reorder step)

end Order

end Raw

end Aegis.Lib
