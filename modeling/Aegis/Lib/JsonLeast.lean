/-
# Lib.JsonLeast — the least length of a text of a value

A JSON text of a value is at least as long as its compact text without escapes: `least` counts the
quotes, the brackets and the separators. A decoder that makes a value of a text has read that many
characters (`least_le_of_decode`), and the compact text of texts without escapes has no more
(`length_write_compact`).
-/
import Aegis.Lib.JsonLength
import Aegis.Lib.JsonSize
import Aegis.Lib.JsonSpelling

namespace Aegis.Lib

open Aegis.Lib.Guarded

set_option autoImplicit false

namespace Json

variable {F : Type}

mutual

/-- The least number of characters of a text of a value. -/
def least : Json F → Nat
  | .str value => value.length + 2
  | .array [] => 2
  | .array (item :: items) => 1 + (item.least + 1 + leastItems items)
  | .object [] => 2
  | .object ((key, value) :: fields) => 1 + (key.length + 4 + value.least + leastFields fields)
  | _ => 1

/-- Of the items after the first one, with the separator behind each. -/
def leastItems : List (Json F) → Nat
  | [] => 0
  | item :: items => item.least + 1 + leastItems items

def leastFields : List (String × Json F) → Nat
  | [] => 0
  | (key, value) :: fields => key.length + 4 + value.least + leastFields fields

end

/-- The share of one field. -/
def leastField (field : String × Json F) : Nat := field.1.length + 4 + field.2.least

theorem leastFields_eq_sum (fields : List (String × Json F)) :
    leastFields fields = (fields.map leastField).sum := by
  induction fields with
  | nil => rfl
  | cons field fields ih =>
      obtain ⟨key, value⟩ := field
      rw [leastFields, ih, List.map_cons, List.sum_cons, leastField]

theorem leastItems_eq_sum (items : List (Json F)) :
    leastItems items = (items.map fun item => item.least + 1).sum := by
  induction items with
  | nil => rfl
  | cons item items ih => rw [leastItems, ih, List.map_cons, List.sum_cons]

theorem least_object {fields : List (String × Json F)} (nonempty : fields ≠ []) :
    (Json.object fields).least = 1 + leastFields fields := by
  obtain ⟨⟨key, value⟩, rest, rfl⟩ := List.exists_cons_of_ne_nil nonempty
  rw [least, leastFields]

theorem least_array {items : List (Json F)} (nonempty : items ≠ []) :
    (Json.array items).least = 1 + leastItems items := by
  obtain ⟨item, rest, rfl⟩ := List.exists_cons_of_ne_nil nonempty
  rw [least, leastItems]

/-- A dictionary is at most as long as the fields it is made of. -/
theorem least_dict_le (fields : List (String × Json F)) (nonempty : fields ≠ []) :
    (dict fields).least ≤ 1 + leastFields fields := by
  by_cases none : Dict.ofFields fields = []
  · obtain ⟨⟨key, value⟩, rest, rfl⟩ := List.exists_cons_of_ne_nil nonempty
    rw [dict, none, least, leastFields]
    omega
  · rw [dict, least_object none, leastFields_eq_sum, leastFields_eq_sum]
    exact Nat.add_le_add_left (Dict.sum_ofFields_le leastField fields) 1

/-- A text without escapes. -/
def Plain (text : String) : Prop := ∀ c ∈ text.toList, escapeChar c = [c]

instance (text : String) : Decidable (Plain text) :=
  inferInstanceAs (Decidable (∀ c ∈ text.toList, escapeChar c = [c]))

/-! ## What the scanners read -/

theorem length_scanUnits {text rest : List Char} {units : List Nat}
    (scanned : scanUnits text = some (units, rest)) : units.length + 1 + rest.length ≤ text.length := by
  induction text using scanUnits.induct generalizing units with
  | case1 => cases scanned
  | case2 later =>
      rw [scanUnits_quote] at scanned
      obtain ⟨rfl, rfl⟩ := Prod.mk.inj (Option.some.inj scanned)
      simp only [List.length_nil, List.length_cons]
      omega
  | case3 a b d e later apart ih =>
      rw [scanUnits_cons, if_neg apart, if_pos rfl] at scanned
      simp only [scanEscape, Option.bind_eq_bind, Option.bind_eq_some_iff, pure, Option.some.injEq,
        Prod.mk.injEq] at scanned
      obtain ⟨_, -, _, -, _, -, _, -, ⟨others, behind⟩, read, rfl, rfl⟩ := scanned
      have shorter : others.length + 1 + behind.length ≤ later.length := ih read
      simp only [List.length_cons]
      omega
  | case4 letter later other apart ih =>
      rw [scanUnits_cons, if_neg apart, if_pos rfl,
        scanEscape.eq_2 _ _ fun a b d e others isHex same => other a b d e others isHex same] at scanned
      simp only [Option.bind_eq_bind, Option.bind_eq_some_iff, pure, Option.some.injEq,
        Prod.mk.injEq] at scanned
      obtain ⟨_, -, ⟨others, behind⟩, read, rfl, rfl⟩ := scanned
      have shorter : others.length + 1 + behind.length ≤ later.length := ih read
      simp only [List.length_cons]
      omega
  | case5 apart =>
      rw [scanUnits_cons, if_neg apart, if_pos rfl] at scanned
      cases scanned
  | case6 first later notQuote notEscape control =>
      rw [scanUnits_cons, if_neg notQuote, if_neg notEscape, if_pos control] at scanned
      cases scanned
  | case7 first later notQuote notEscape visible ih =>
      rw [scanUnits_cons, if_neg notQuote, if_neg notEscape, if_neg visible,
        Option.map_eq_some_iff] at scanned
      obtain ⟨⟨others, behind⟩, read, same⟩ := scanned
      obtain ⟨rfl, rfl⟩ := Prod.mk.inj same
      have shorter : others.length + 1 + behind.length ≤ later.length := ih read
      simp only [List.length_cons]
      omega

theorem length_joinUnits {units : List Nat} {chars : List Char} (joined : joinUnits units = some chars) :
    chars.length ≤ units.length := by
  induction units using joinUnits.induct generalizing chars with
  | case1 =>
      obtain rfl := Option.some.inj joined
      exact Nat.le_refl _
  | case2 unit high low rest isLow ih =>
      rw [joinUnits, if_pos high, if_pos isLow] at joined
      simp only [Option.bind_eq_bind, Option.bind_eq_some_iff, pure, Option.some.injEq] at joined
      obtain ⟨others, read, rfl⟩ := joined
      have shorter := ih read
      simp only [List.length_cons]
      omega
  | case3 unit high low rest notLow =>
      rw [joinUnits, if_pos high, if_neg notLow] at joined
      cases joined
  | case4 unit high =>
      rw [joinUnits, if_pos high] at joined
      cases joined
  | case5 unit rest notHigh low =>
      rw [joinUnits.eq_def] at joined
      simp only [if_neg notHigh, if_pos low] at joined
      cases joined
  | case6 unit rest notHigh notLow ih =>
      rw [joinUnits.eq_def] at joined
      simp only [if_neg notHigh, if_neg notLow, Option.bind_eq_bind, Option.bind_eq_some_iff, pure,
        Option.some.injEq] at joined
      obtain ⟨others, read, rfl⟩ := joined
      have shorter := ih read
      simp only [List.length_cons]
      omega

theorem length_scanString {text rest : List Char} {value : String}
    (scanned : scanString text = some (value, rest)) : value.length + 1 + rest.length ≤ text.length := by
  unfold scanString at scanned
  simp only [Option.bind_eq_bind, Option.bind_eq_some_iff, pure, Option.some.injEq,
    Prod.mk.injEq] at scanned
  obtain ⟨⟨units, behind⟩, read, chars, joined, rfl, rfl⟩ := scanned
  have long : units.length + 1 + behind.length ≤ text.length := length_scanUnits read
  have shorter := length_joinUnits joined
  dsimp only at shorter
  rw [String.length_ofList]
  dsimp only
  omega

theorem length_skipSpace_le (text : List Char) : (skipSpace text).length ≤ text.length :=
  (List.dropWhile_sublist _).length_le

theorem length_scanSign_le (text : List Char) : (NumberText.scanSign text).2.length ≤ text.length := by
  unfold NumberText.scanSign
  split
  · exact Nat.le_succ _
  · exact Nat.le_refl _

theorem length_scanWhole {text whole rest : List Char}
    (scanned : NumberText.scanWhole text = some (whole, rest)) : rest.length < text.length := by
  cases text with
  | nil => cases scanned
  | cons first later =>
      rw [NumberText.scanWhole] at scanned
      split at scanned
      · obtain ⟨-, rfl⟩ := Prod.mk.inj (Option.some.inj scanned)
        exact Nat.lt_succ_self _
      · split at scanned
        · rename_i digit
          obtain ⟨-, rfl⟩ := Prod.mk.inj (Option.some.inj scanned)
          rw [List.dropWhile_cons_of_pos digit]
          exact Nat.lt_succ_of_le (List.dropWhile_sublist _).length_le
        · cases scanned

theorem length_scanFraction_le (text : List Char) :
    (NumberText.scanFraction text).2.length ≤ text.length := by
  unfold NumberText.scanFraction
  split
  · dsimp only
    split
    · exact Nat.le_refl _
    · exact Nat.le_succ_of_le (List.dropWhile_sublist _).length_le
  · exact Nat.le_refl _

theorem length_scanExponent_le (text : List Char) :
    (NumberText.scanExponent text).2.length ≤ text.length := by
  unfold NumberText.scanExponent
  split
  · split
    · dsimp only
      split
      · exact Nat.le_refl _
      · refine Nat.le_succ_of_le (Nat.le_trans (List.dropWhile_sublist _).length_le ?_)
        exact (List.drop_sublist _ _).length_le
    · exact Nat.le_refl _
  · exact Nat.le_refl _

theorem length_scan {text rest : List Char} {number : NumberText}
    (scanned : NumberText.scan text = some (number, rest)) : rest.length < text.length := by
  unfold NumberText.scan at scanned
  simp only [Option.bind_eq_bind, Option.bind_eq_some_iff, pure, Option.some.injEq,
    Prod.mk.injEq] at scanned
  obtain ⟨⟨whole, behind⟩, read, -, rfl⟩ := scanned
  have sign := length_scanSign_le text
  have read : behind.length < (NumberText.scanSign text).2.length := length_scanWhole read
  have fraction : (NumberText.scanFraction behind).2.length ≤ behind.length :=
    length_scanFraction_le behind
  have exponent := length_scanExponent_le (NumberText.scanFraction behind).2
  show (NumberText.scanExponent (NumberText.scanFraction behind).2).2.length < text.length
  omega

section Decoder

variable [JsonFloat F]

theorem least_scanLiteral {text rest : List Char} {value : Json F}
    (scanned : scanLiteral text = some (value, rest)) : value.least + rest.length ≤ text.length := by
  unfold scanLiteral at scanned
  split at scanned
  all_goals first
    | (obtain ⟨rfl, rfl⟩ := Prod.mk.inj (Option.some.inj scanned)
       simp only [least, List.length_cons]
       omega)
    | cases scanned

theorem least_scanScalar {text rest : List Char} {value : Json F}
    (scanned : scanScalar text = some (value, rest)) : value.least + rest.length ≤ text.length := by
  unfold scanScalar at scanned
  cases literal : scanLiteral (F := F) text with
  | some found =>
      obtain ⟨held, behind⟩ := found
      rw [literal] at scanned
      obtain ⟨rfl, rfl⟩ := Prod.mk.inj (Option.some.inj scanned)
      exact least_scanLiteral literal
  | none =>
      rw [literal] at scanned
      obtain ⟨⟨number, behind⟩, read, same⟩ := Option.map_eq_some_iff.mp scanned
      obtain ⟨rfl, rfl⟩ := Prod.mk.inj same
      have one : (ofNumber (F := F) number).least = 1 := by
        unfold ofNumber
        split <;> simp [least]
      have shorter := length_scan read
      dsimp only at shorter ⊢
      omega

theorem length_scanKey {text rest : List Char} {key : String}
    (scanned : scanKey text = some (key, rest)) : key.length + 3 + rest.length ≤ text.length := by
  cases text with
  | nil => cases scanned
  | cons first later =>
      rw [scanKey] at scanned
      split at scanned
      · simp only [Option.bind_eq_bind, Option.bind_eq_some_iff] at scanned
        obtain ⟨⟨name, behind⟩, read, found⟩ := scanned
        have string := length_scanString read
        have spaces := length_skipSpace_le behind
        split at found
        · rename_i value colon
          simp only [pure, Option.some.injEq, Prod.mk.injEq] at found
          obtain ⟨rfl, rfl⟩ := found
          have more := length_skipSpace_le value
          rw [show skipSpace behind = ':' :: value from colon] at spaces
          simp only [List.length_cons] at spaces ⊢
          omega
        · cases found
      · cases scanned

section Hook

open Aegis.Lib.Raw (distinctDict distinctDict_eq_ok)

/-- What a decoder has read is at least as long as what it makes of it, by induction on the fuel. -/
theorem least_decode (n : Nat) :
    (∀ {text rest : List Char} {value : Json F},
      decodeValue () distinctDict n text = .ok (value, rest) →
        value.least + rest.length ≤ text.length) ∧
    (∀ {text rest : List Char} {items : List (Json F)},
      decodeItems () distinctDict n text = .ok (items, rest) →
        leastItems items + 1 + rest.length ≤ text.length) ∧
    (∀ {text rest : List Char} {fields : List (String × Json F)},
      decodeFields () distinctDict n text = .ok (fields, rest) →
        leastFields fields + 1 + rest.length ≤ text.length) := by
  induction n with
  | zero => exact ⟨nofun, nofun, nofun⟩
  | succ n ih =>
      obtain ⟨readsValue, readsItems, readsFields⟩ := ih
      refine ⟨?_, ?_, ?_⟩
      · intro text rest value read
        cases text with
        | nil => cases read
        | cons first later =>
            have spaces := length_skipSpace_le later
            rw [decodeValue] at read
            split at read
            · -- a string
              obtain ⟨⟨held, behind⟩, scanned, same⟩ := Option.map_eq_some_iff.mp (fetch_eq_ok.mp read)
              obtain ⟨rfl, rfl⟩ := Prod.mk.inj same
              have string := length_scanString scanned
              simp only [least, List.length_cons]
              omega
            split at read
            · split at read
              · obtain ⟨rfl, rfl⟩ := Prod.mk.inj (Except.ok.inj read)
                rename_i closes
                obtain ⟨tail, isTail⟩ := List.head?_eq_some_iff.mp closes
                rw [isTail] at spaces ⊢
                simp only [least, List.length_cons, List.tail_cons] at spaces ⊢
                omega
              · simp only [bind_eq_ok, pure_eq_ok, Prod.mk.injEq] at read
                obtain ⟨⟨item, behind⟩, here, ⟨items, after⟩, others, rfl, rfl⟩ := read
                have here := readsValue here
                have others := readsItems others
                have gap := length_skipSpace_le behind
                simp only [least, List.length_cons]
                dsimp only at here others ⊢
                omega
            split at read
            · split at read
              · simp only [bind_eq_ok, pure_eq_ok, Prod.mk.injEq] at read
                obtain ⟨object, made, rfl, rfl⟩ := read
                obtain ⟨-, rfl⟩ := distinctDict_eq_ok.mp made
                rename_i closes
                obtain ⟨tail, isTail⟩ := List.head?_eq_some_iff.mp closes
                rw [isTail] at spaces ⊢
                have two : (dict ([] : List (String × Json F))).least = 2 := rfl
                simp only [two, List.length_cons, List.tail_cons] at spaces ⊢
                omega
              · simp only [bind_eq_ok, fetch_eq_ok, pure_eq_ok, Prod.mk.injEq] at read
                obtain ⟨⟨key, valued⟩, named, ⟨held, behind⟩, here, ⟨fields, after⟩, others, object,
                  made, rfl, rfl⟩ := read
                obtain ⟨-, rfl⟩ := distinctDict_eq_ok.mp made
                have named := length_scanKey named
                have here := readsValue here
                have others := readsFields others
                have gap := length_skipSpace_le behind
                have whole := least_dict_le ((key, held) :: fields) (List.cons_ne_nil _ _)
                rw [leastFields] at whole
                simp only [List.length_cons]
                dsimp only at named here others ⊢
                omega
            · exact least_scanScalar (fetch_eq_ok.mp read)
      · intro text rest items read
        cases text with
        | nil => cases read
        | cons first later =>
            rw [decodeItems] at read
            split at read
            · obtain ⟨rfl, rfl⟩ := Prod.mk.inj (Except.ok.inj read)
              simp only [leastItems, List.length_cons]
              omega
            split at read
            · simp only [bind_eq_ok, pure_eq_ok, Prod.mk.injEq] at read
              obtain ⟨⟨item, behind⟩, here, ⟨others, after⟩, rest, rfl, rfl⟩ := read
              have here := readsValue here
              have rest := readsItems rest
              have spaces := length_skipSpace_le later
              have gap := length_skipSpace_le behind
              simp only [leastItems, List.length_cons]
              dsimp only at here rest ⊢
              omega
            · cases read
      · intro text rest fields read
        cases text with
        | nil => cases read
        | cons first later =>
            rw [decodeFields] at read
            split at read
            · obtain ⟨rfl, rfl⟩ := Prod.mk.inj (Except.ok.inj read)
              simp only [leastFields, List.length_cons]
              omega
            split at read
            · simp only [bind_eq_ok, fetch_eq_ok, pure_eq_ok, Prod.mk.injEq] at read
              obtain ⟨⟨key, valued⟩, named, ⟨held, behind⟩, here, ⟨others, after⟩, rest, rfl, rfl⟩ :=
                read
              have named := length_scanKey named
              have here := readsValue here
              have rest := readsFields rest
              have spaces := length_skipSpace_le later
              have gap := length_skipSpace_le behind
              simp only [leastFields, List.length_cons]
              dsimp only at named here rest ⊢
              omega
            · cases read

/-- **A text is at least as long as the least text of the value that is read of it.** -/
theorem least_le_of_decode {text : List Char} {value : Json F}
    (read : decode () distinctDict text = .ok value) : value.least ≤ text.length := by
  unfold decode at read
  simp only [bind_eq_ok, require_eq_ok, pure_eq_ok] at read
  obtain ⟨⟨held, behind⟩, decoded, _, -, rfl⟩ := read
  have long := (least_decode _).1 decoded
  have spaces := length_skipSpace_le text
  dsimp only at long ⊢
  omega

end Hook

/-! ## The compact text -/

section Compact

/-- A printable character is shown as it is, but for the quote and the backslash. -/
theorem escapeChar_printable {c : Char} (range : 32 ≤ c.toNat ∧ c.toNat ≤ 126)
    (apart : c.toNat ≠ 34 ∧ c.toNat ≠ 92) : escapeChar c = [c] := by
  have other : ∀ d : Char, d.toNat < 32 ∨ d.toNat = 34 ∨ d.toNat = 92 → c ≠ d := by
    rintro d outside rfl
    omega
  unfold escapeChar
  rw [if_neg (other _ (by decide)), if_neg (other _ (by decide)), if_neg (other _ (by decide)),
    if_neg (other _ (by decide)), if_neg (other _ (by decide)), if_neg (by omega), if_neg (by omega),
    if_pos range]

omit [JsonFloat F] in
theorem stringText_plain {text : String} (plain : Plain text) :
    (stringText text).length = text.length + 2 :=
  stringText_length plain

theorem length_write_text {text : String} (plain : Plain text) (level : Nat) :
    (write Layout.compact (.str text : Json F) level).length = (Json.str text : Json F).least := by
  rw [least, write_scalar rfl rfl, render]
  exact stringText_plain plain

theorem length_write_array {items : List (Json F)} (nonempty : items ≠ []) (level : Nat) :
    (write Layout.compact (.array items) level).length =
      1 + (items.map fun item => (write Layout.compact item (level + 1)).length + 1).sum := by
  have later : ∀ items : List (Json F), (writeItems Layout.compact items level).length =
      (items.map fun item => (write Layout.compact item (level + 1)).length + 1).sum + 1 := by
    intro items
    induction items with
    | nil => rfl
    | cons item items ih =>
        rw [writeItems, List.length_cons, List.length_append, List.length_append, ih, List.map_cons,
          List.sum_cons]
        show 0 + (_ + _) + 1 = _
        omega
  obtain ⟨item, rest, rfl⟩ := List.exists_cons_of_ne_nil nonempty
  rw [write, List.length_cons, List.length_append, List.length_append, later, List.map_cons,
    List.sum_cons]
  show 0 + (_ + _) + 1 = _
  omega

theorem length_write_texts {texts : List String} (plain : ∀ text ∈ texts, Plain text) (level : Nat) :
    (write Layout.compact (.array (texts.map .str) : Json F) level).length =
      (Json.array (texts.map .str) : Json F).least := by
  by_cases none : texts = []
  · subst none
    rfl
  · have nonempty : (texts.map .str : List (Json F)) ≠ [] := by simpa using none
    rw [length_write_array nonempty, least_array nonempty, leastItems_eq_sum, List.map_map, List.map_map]
    refine congrArg (1 + ·.sum) (List.map_congr_left fun text member => ?_)
    exact congrArg (· + 1) (length_write_text (plain text member) (level + 1))

theorem fieldLength_compact {field : String × Json F} (plain : Plain field.1) (level : Nat) :
    fieldLength Layout.compact level field =
      field.1.length + 4 + (write Layout.compact field.2 (level + 1)).length := by
  rw [fieldLength, stringText_plain plain]
  show 1 + 0 + (_ + 2) + 1 + 0 + _ = _
  omega

/-- **The compact text of fields without escapes is the shortest.** -/
theorem length_write_compact {fields : List (String × Json F)} (nonempty : fields ≠ [])
    (plain : ∀ field ∈ fields, Plain field.1 ∧
      ∀ level, (write Layout.compact field.2 level).length = field.2.least) (level : Nat) :
    (write Layout.compact (.object fields) level).length = (Json.object fields).least := by
  have each : fields.map (fieldLength Layout.compact level) = fields.map leastField := by
    refine List.map_congr_left fun field member => ?_
    obtain ⟨key, value⟩ := plain field member
    rw [fieldLength_compact key, value, leastField]
  rw [length_write_object _ nonempty, least_object nonempty, leastFields_eq_sum, each]
  show _ + 0 + 1 = _
  omega

end Compact

end Decoder

end Json

end Aegis.Lib
