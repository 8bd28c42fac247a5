/-
# Lib.JsonScan — the tokens of a JSON text, and canonical texts

`scanScalar` and `scanKey` read the tokens of a text. The canonical text of a value has its objects in
key order; it is one line of printable ASCII (`printable_canonical`).
-/
import Aegis.Lib.JsonText

namespace Aegis.Lib

set_option autoImplicit false

def isSpace (c : Char) : Bool := c = ' ' || c = '\t' || c = '\n' || c = '\r'

def skipSpace (text : List Char) : List Char := text.dropWhile isSpace

theorem skipSpace_cons {c : Char} {rest : List Char} (visible : isSpace c = false) :
    skipSpace (c :: rest) = c :: rest := by
  simp [skipSpace, visible]

namespace Json

variable {F : Type} [JsonFloat F]

/-- The literal names. -/
def scanLiteral : List Char → Option (Json F × List Char)
  | 'n' :: 'u' :: 'l' :: 'l' :: rest => some (.null, rest)
  | 't' :: 'r' :: 'u' :: 'e' :: rest => some (.bool true, rest)
  | 'f' :: 'a' :: 'l' :: 's' :: 'e' :: rest => some (.bool false, rest)
  | 'N' :: 'a' :: 'N' :: rest => some (.float JsonFloat.nan, rest)
  | 'I' :: 'n' :: 'f' :: 'i' :: 'n' :: 'i' :: 't' :: 'y' :: rest =>
      some (.float JsonFloat.infinity, rest)
  | '-' :: 'I' :: 'n' :: 'f' :: 'i' :: 'n' :: 'i' :: 't' :: 'y' :: rest =>
      some (.float JsonFloat.negInfinity, rest)
  | _ => none

def ofNumber (number : NumberText) : Json F :=
  if number.isFloat = true then .float (JsonFloat.ofText number) else .int number.toInt

/-- A literal name or a number. -/
def scanScalar (text : List Char) : Option (Json F × List Char) :=
  match scanLiteral text with
  | some scanned => some scanned
  | none => (NumberText.scan text).map fun scanned => (ofNumber scanned.1, scanned.2)

/-- The key of a field up to its colon, and the text of its value. -/
def scanKey : List Char → Option (String × List Char)
  | [] => none
  | first :: rest =>
      if first = quote then do
        let key ← scanString rest
        match skipSpace key.2 with
        | ':' :: rest => pure (key.1, skipSpace rest)
        | _ => none
      else none

/-! ## What starts and what ends a value -/

/-- The text goes on with what may stand behind a value. -/
def Delimited (rest : List Char) : Prop :=
  ∀ c ∈ rest.head?, c = ',' ∨ c = ']' ∨ c = closeBrace

theorem Delimited.ends {rest : List Char} (delimited : Delimited rest) : NumberText.Ends rest := by
  intro c member
  rcases delimited c member with rfl | rfl | rfl <;> decide

theorem delimited_nil : Delimited [] := fun _ member => by cases member

theorem Delimited.cons {c : Char} (rest : List Char) (delimiter : c = ',' ∨ c = ']' ∨ c = closeBrace) :
    Delimited (c :: rest) := by
  intro other member
  obtain rfl : c = other := Option.some.inj member
  exact delimiter

/-- A character that may start the text of a value. -/
def Starts (c : Char) : Prop := isSpace c = false ∧ c ≠ ']' ∧ c ≠ closeBrace

theorem starts_of_digit {c : Char} (digit : c.isDigit = true) : Starts c := by
  have range : 48 ≤ c.toNat ∧ c.toNat ≤ 57 := by
    simpa [Char.isDigit, Char.le_def, UInt32.le_iff_toNat_le] using digit
  have other : ∀ d : Char, d.toNat < 48 ∨ 57 < d.toNat → c ≠ d := by
    rintro d far rfl
    omega
  refine ⟨?_, other _ (by decide), other _ (by decide)⟩
  simp [isSpace, other ' ' (by decide), other '\t' (by decide), other '\n' (by decide),
    other '\r' (by decide)]

/-- The first character of a number text. -/
theorem number_head {number : NumberText} (wellFormed : number.WellFormed) :
    ∃ first rest, number.chars = first :: rest ∧ Starts first ∧
      first ≠ quote ∧ first ≠ '[' ∧ first ≠ openBrace := by
  obtain ⟨digit, others, whole⟩ := List.exists_cons_of_ne_nil wellFormed.nonempty
  have isDigit : digit.isDigit = true :=
    wellFormed.digits digit (by rw [whole]; exact List.mem_cons_self ..)
  unfold NumberText.chars
  rw [whole]
  cases number.negative with
  | true => exact ⟨'-', _, rfl, by unfold Starts; decide, by decide, by decide, by decide⟩
  | false =>
      refine ⟨digit, _, rfl, starts_of_digit isDigit, ?_, ?_, ?_⟩ <;>
        · rintro rfl
          exact absurd isDigit (by decide)

theorem scanLiteral_number {number : NumberText} (wellFormed : number.WellFormed)
    (rest : List Char) : scanLiteral (F := F) (number.chars ++ rest) = none := by
  obtain ⟨digit, others, whole⟩ := List.exists_cons_of_ne_nil wellFormed.nonempty
  have isDigit : digit.isDigit = true :=
    wellFormed.digits digit (by rw [whole]; exact List.mem_cons_self ..)
  have letters : ∀ c : Char, c.isDigit = false → digit ≠ c := by
    rintro c none rfl
    rw [isDigit] at none
    cases none
  unfold NumberText.chars
  rw [whole]
  cases number.negative <;>
    simp [scanLiteral, letters]

/-! ## Canonical texts -/

/-- The text of a value with its objects in key order. -/
def canonical (value : Json F) : List Char := value.ordered.render

omit [JsonFloat F] in
theorem orderedFields_eq_map (fields : List (String × Json F)) :
    orderedFields fields = fields.map fun field => (field.1, field.2.ordered) := by
  induction fields with
  | nil => rfl
  | cons field fields ih => rw [orderedFields, ih, List.map_cons]

omit [JsonFloat F] in
theorem orderedItems_eq_map (items : List (Json F)) : orderedItems items = items.map ordered := by
  induction items with
  | nil => rfl
  | cons item items ih => rw [orderedItems, ih, List.map_cons]

theorem finiteFields_iff (fields : List (String × Json F)) :
    finiteFields fields = true ↔ ∀ field ∈ fields, field.2.finite = true := by
  induction fields with
  | nil => simp [finiteFields]
  | cons field fields ih => simp [finiteFields, ih]

theorem finiteItems_iff (items : List (Json F)) :
    finiteItems items = true ↔ ∀ item ∈ items, item.finite = true := by
  induction items with
  | nil => simp [finiteItems]
  | cons item items ih => simp [finiteItems, ih]

omit [JsonFloat F] in
theorem ordered_ordered (value : Json F) : value.ordered.ordered = value.ordered := by
  induction value using induct with
  | scalar value scalar => cases value <;> first | rfl | cases scalar
  | array items same =>
      rw [ordered, ordered, orderedItems_eq_map, orderedItems_eq_map, List.map_map]
      congr 1
      exact List.map_congr_left same
  | object fields same =>
      have kept : orderedFields (Dict.ofFields (orderedFields fields)) =
          Dict.ofFields (orderedFields fields) := by
        rw [orderedFields_eq_map]
        refine (List.map_congr_left (g := id) fun field member => ?_).trans (List.map_id _)
        have origin := Dict.mem_ofFields member
        rw [orderedFields_eq_map] at origin
        obtain ⟨source, there, rfl⟩ := List.mem_map.mp origin
        exact Prod.ext rfl (same source there)
      rw [ordered, ordered, kept, Dict.ofFields_ofFields]

theorem finite_ordered (value : Json F) (finite : value.finite = true) :
    value.ordered.finite = true := by
  induction value using induct with
  | scalar value scalar => cases value <;> first | exact finite | cases scalar
  | array items each =>
      have all := (finiteItems_iff items).mp finite
      rw [ordered, Json.finite, orderedItems_eq_map, finiteItems_iff]
      intro item member
      obtain ⟨source, there, rfl⟩ := List.mem_map.mp member
      exact each source there (all source there)
  | object fields each =>
      have all := (finiteFields_iff fields).mp finite
      rw [ordered, Json.finite, finiteFields_iff]
      intro field member
      have origin := Dict.mem_ofFields member
      rw [orderedFields_eq_map] at origin
      obtain ⟨source, there, rfl⟩ := List.mem_map.mp origin
      exact each source there (all source there)

/-! ## Values in key order -/

omit [JsonFloat F] in
/-- A dictionary of values in key order is in key order. -/
theorem ordered_dict {fields : List (String × Json F)}
    (each : ∀ field ∈ fields, field.2.ordered = field.2) : (dict fields).ordered = dict fields := by
  have kept : orderedFields (Dict.ofFields fields) = Dict.ofFields fields := by
    rw [orderedFields_eq_map]
    refine (List.map_congr_left (g := id) fun field member => ?_).trans (List.map_id _)
    exact Prod.ext rfl (each field (Dict.mem_ofFields member))
  unfold dict
  rw [ordered, kept, Dict.ofFields_ofFields]

theorem finite_dict {fields : List (String × Json F)}
    (each : ∀ field ∈ fields, field.2.finite = true) : (dict fields).finite = true := by
  unfold dict
  rw [Json.finite, finiteFields_iff]
  exact fun field member => each field (Dict.mem_ofFields member)

omit [JsonFloat F] in
theorem get?_dict (fields : List (String × Json F)) (key : String) :
    (dict fields).get? key = Dict.get? fields.reverse key :=
  Dict.get?_ofFields fields key

omit [JsonFloat F] in
/-- A field of distinct keys is read from the dictionary. -/
theorem getD_dict {fields : List (String × Json F)} (distinct : (fields.map Prod.fst).Nodup)
    {key : String} {value : Json F} (member : (key, value) ∈ fields) (default : Json F) :
    (dict fields).getD key default = value := by
  have reversed : (fields.reverse.map Prod.fst).Nodup := by
    rw [List.map_reverse]
    exact (List.reverse_perm _).nodup_iff.mpr distinct
  have found := Dict.get?_of_distinct reversed (List.mem_reverse.mpr member)
  simp only at found
  rw [getD, get?_dict, found]
  rfl

omit [JsonFloat F] in
/-- What is inside a value in key order is in key order. -/
theorem fields_of_ordered {fields : List (String × Json F)}
    (inOrder : (Json.object fields).ordered = .object fields) :
    Dict.Ordered fields ∧ ∀ field ∈ fields, field.2.ordered = field.2 := by
  have same : Dict.ofFields (orderedFields fields) = fields := by
    rw [ordered] at inOrder
    exact Json.object.inj inOrder
  constructor
  · rw [← same]
    exact Dict.ordered_ofFields _
  · intro field member
    rw [← same] at member
    have origin := Dict.mem_ofFields member
    rw [orderedFields_eq_map] at origin
    obtain ⟨source, _, rfl⟩ := List.mem_map.mp origin
    exact ordered_ordered source.2

omit [JsonFloat F] in
theorem items_of_ordered {items : List (Json F)}
    (inOrder : (Json.array items).ordered = .array items) :
    ∀ item ∈ items, item.ordered = item := by
  have same : items.map ordered = items := by
    rw [ordered, orderedItems_eq_map] at inOrder
    exact Json.array.inj inOrder
  intro item member
  rw [← same] at member
  obtain ⟨source, _, rfl⟩ := List.mem_map.mp member
  exact ordered_ordered source

theorem sameFields_of {lefts rights : List (String × Json F)}
    (each : ∀ field ∈ lefts, ∃ value, Dict.get? rights field.1 = some value ∧
      field.2.same value = true) : sameFields lefts rights = true := by
  induction lefts with
  | nil => rfl
  | cons field lefts ih =>
      have later := ih fun other member => each other (List.mem_cons_of_mem _ member)
      obtain ⟨key, left⟩ := field
      obtain ⟨value, found, same⟩ := each (key, left) (List.mem_cons_self ..)
      have equal : left.same value = true := same
      rw [sameFields]
      simp only [found]
      rw [later, equal, Bool.and_true]

theorem sameItems_self {items : List (Json F)} (each : ∀ item ∈ items, item.same item = true) :
    sameItems items items = true := by
  induction items with
  | nil => rfl
  | cons item items ih =>
      rw [sameItems, each item (List.mem_cons_self ..),
        ih fun other member => each other (List.mem_cons_of_mem _ member)]
      rfl

/-- A finite value in key order equals itself. -/
theorem same_self (value : Json F) (inOrder : value.ordered = value) (finite : value.finite = true) :
    value.same value = true := by
  induction value using induct with
  | scalar value scalar =>
      cases value with
      | bool value => cases value <;> rfl
      | int value => exact beq_self_eq_true value
      | float value => exact JsonFloat.same_self value finite
      | str value => exact beq_self_eq_true value
      | null => rfl
      | array _ => cases scalar
      | object _ => cases scalar
  | array items each =>
      have inside := items_of_ordered inOrder
      have all := (finiteItems_iff items).mp finite
      exact sameItems_self fun item member =>
        each item member (inside item member) (all item member)
  | object fields each =>
      obtain ⟨distinct, inside⟩ := fields_of_ordered inOrder
      have all := (finiteFields_iff fields).mp finite
      have found : sameFields fields fields = true := by
        apply sameFields_of
        intro field member
        exact ⟨field.2, Dict.get?_of_mem distinct member,
          each field member (inside field member) (all field member)⟩
      rw [same, found, Bool.and_true]
      exact beq_self_eq_true _

/-! ## Canonical values -/

/-- A value that is read back from its canonical text. -/
structure IsCanonical (value : Json F) : Prop where
  finite : value.finite = true
  inOrder : value.ordered = value

namespace IsCanonical

theorem str (value : String) : IsCanonical (.str value : Json F) := ⟨rfl, rfl⟩

theorem int (value : Int) : IsCanonical (.int value : Json F) := ⟨rfl, rfl⟩

theorem float {value : F} (finite : JsonFloat.finite value = true) :
    IsCanonical (.float value : Json F) := ⟨finite, rfl⟩

theorem null : IsCanonical (.null : Json F) := ⟨rfl, rfl⟩

theorem bool (value : Bool) : IsCanonical (.bool value : Json F) := ⟨rfl, rfl⟩

theorem array {items : List (Json F)} (each : ∀ item ∈ items, IsCanonical item) :
    IsCanonical (.array items : Json F) := by
  refine ⟨?_, ?_⟩
  · rw [Json.finite, finiteItems_iff]
    exact fun item member => (each item member).finite
  · have same : items.map ordered = items :=
      (List.map_congr_left (g := id) fun item member => (each item member).inOrder).trans
        (List.map_id _)
    rw [ordered, orderedItems_eq_map, same]

theorem dict {fields : List (String × Json F)} (each : ∀ field ∈ fields, IsCanonical field.2) :
    IsCanonical (.dict fields : Json F) :=
  ⟨finite_dict fun field member => (each field member).finite,
    ordered_dict fun field member => (each field member).inOrder⟩

theorem same {value : Json F} (canonical : IsCanonical value) : value.same value = true :=
  same_self value canonical.inOrder canonical.finite

end IsCanonical

/-- The canonical text of an object starts with a brace. -/
theorem canonical_object (fields : List (String × Json F)) :
    ∃ rest, (Json.object fields).canonical = openBrace :: rest := by
  unfold canonical
  rw [ordered]
  cases Dict.ofFields (orderedFields fields) with
  | nil => exact ⟨[closeBrace], rfl⟩
  | cons field fields =>
      obtain ⟨key, value⟩ := field
      exact ⟨_, rfl⟩

/-! ## One line of printable ASCII -/

def Printable (text : List Char) : Prop := ∀ c ∈ text, 32 ≤ c.toNat ∧ c.toNat ≤ 126

theorem Printable.append {left right : List Char} (first : Printable left)
    (second : Printable right) : Printable (left ++ right) := by
  intro c member
  rcases List.mem_append.mp member with before | after
  · exact first c before
  · exact second c after

theorem Printable.cons {c : Char} {rest : List Char} (first : 32 ≤ c.toNat ∧ c.toNat ≤ 126)
    (second : Printable rest) : Printable (c :: rest) := by
  intro other member
  rcases List.mem_cons.mp member with rfl | after
  · exact first
  · exact second other after

theorem printable_nil : Printable [] := fun _ member => by cases member

theorem printable_digits {digits : List Char} (all : ∀ c ∈ digits, c.isDigit = true) :
    Printable digits := by
  intro c member
  have range : 48 ≤ c.toNat ∧ c.toNat ≤ 57 := by
    simpa [Char.isDigit, Char.le_def, UInt32.le_iff_toNat_le] using all c member
  omega

theorem printable_number {number : NumberText} (wellFormed : number.WellFormed) :
    Printable number.chars := by
  have exponent : Printable (NumberText.exponentText number.exponent) := by
    cases exponent : number.exponent with
    | none => exact printable_nil
    | some parts =>
        obtain ⟨letter, sign, digits⟩ := parts
        obtain ⟨isLetter, isSign, -, all⟩ := wellFormed.exponent letter sign digits exponent
        have signed : Printable sign := by
          rcases isSign with rfl | rfl | rfl
          · exact printable_nil
          · exact .cons (by decide) printable_nil
          · exact .cons (by decide) printable_nil
        refine .cons ?_ (signed.append (printable_digits all))
        rcases isLetter with rfl | rfl <;> decide
  have fraction : Printable (if number.fraction = [] then [] else '.' :: number.fraction) := by
    split
    · exact printable_nil
    · exact .cons (by decide) (printable_digits wellFormed.fraction)
  have sign : Printable (if number.negative then ['-'] else []) := by
    split
    · exact .cons (by decide) printable_nil
    · exact printable_nil
  exact ((sign.append (printable_digits wellFormed.digits)).append fraction).append exponent

theorem printable_escapeUnit (unit : Nat) : Printable (escapeUnit unit) := by
  have digit : ∀ n < 16, 32 ≤ (hexDigit n).toNat ∧ (hexDigit n).toNat ≤ 126 := by decide
  have hex : ∀ n : Nat, 32 ≤ (hexDigit (n % 16)).toNat ∧ (hexDigit (n % 16)).toNat ≤ 126 :=
    fun n => digit _ (Nat.mod_lt _ (by decide))
  exact .cons (by decide) (.cons (by decide) (.cons (hex _) (.cons (hex _) (.cons (hex _)
    (.cons (hex _) printable_nil)))))

theorem printable_escapeChar (c : Char) : Printable (escapeChar c) := by
  have short : ∀ letter ∈ [quote, backslash, 'n', 'r', 't', 'b', 'f'],
      Printable [backslash, letter] := by
    unfold Printable
    decide
  unfold escapeChar
  split
  · exact short quote (by decide)
  split
  · exact short backslash (by decide)
  split
  · exact short 'n' (by decide)
  split
  · exact short 'r' (by decide)
  split
  · exact short 't' (by decide)
  split
  · exact short 'b' (by decide)
  split
  · exact short 'f' (by decide)
  split
  · rename_i printable
    exact .cons printable printable_nil
  · intro other member
    obtain ⟨unit, _, there⟩ := List.mem_flatMap.mp member
    exact printable_escapeUnit unit other there

theorem printable_string (value : String) : Printable (stringText value) := by
  refine .cons (by decide) (.append ?_ (.cons (by decide) printable_nil))
  intro c member
  obtain ⟨source, _, there⟩ := List.mem_flatMap.mp member
  exact printable_escapeChar source c there

mutual

theorem printable_render : ∀ value : Json F, value.finite = true → Printable value.render
  | .null, _ => by unfold Printable render; decide
  | .bool true, _ => by unfold Printable render; decide
  | .bool false, _ => by unfold Printable render; decide
  | .int value, _ => printable_number (NumberText.ofInt_wellFormed value)
  | .float value, finite => printable_number (JsonFloat.text_wellFormed value finite)
  | .str value, _ => printable_string value
  | .array [], _ => by unfold Printable render; decide
  | .array (item :: items), finite => by
      simp only [Json.finite, finiteItems, Bool.and_eq_true] at finite
      exact .cons (by decide) ((printable_render item finite.1).append
        (printable_renderItems items finite.2))
  | .object [], _ => by unfold Printable render; decide
  | .object ((key, value) :: fields), finite => by
      simp only [Json.finite, finiteFields, Bool.and_eq_true] at finite
      exact .cons (by decide) ((printable_string key).append (.cons (by decide)
        ((printable_render value finite.1).append (printable_renderFields fields finite.2))))

theorem printable_renderItems : ∀ items : List (Json F), finiteItems items = true →
    Printable (renderItems items)
  | [], _ => .cons (by decide) printable_nil
  | item :: items, finite => by
      simp only [finiteItems, Bool.and_eq_true] at finite
      exact .cons (by decide) ((printable_render item finite.1).append
        (printable_renderItems items finite.2))

theorem printable_renderFields : ∀ fields : List (String × Json F), finiteFields fields = true →
    Printable (renderFields fields)
  | [], _ => .cons (by decide) printable_nil
  | (key, value) :: fields, finite => by
      simp only [finiteFields, Bool.and_eq_true] at finite
      exact .cons (by decide) ((printable_string key).append (.cons (by decide)
        ((printable_render value finite.1).append (printable_renderFields fields finite.2))))

end

/-- **A canonical text is one line** of printable ASCII characters. -/
theorem printable_canonical (value : Json F) (finite : value.finite = true) :
    Printable value.canonical :=
  printable_render value.ordered (finite_ordered value finite)

end Json

end Aegis.Lib
