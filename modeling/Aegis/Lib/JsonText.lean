/-
# Lib.JsonText — reading numbers and strings back

The scanners of a JSON decoder with exact integers: `NumberText.scan` takes the
longest number text, `scanString` a string text with its escapes and surrogate
pairs. Half of a surrogate pair is no text here and is refused.

* `NumberText.scan_chars`: a number text is read back where the text ends;
* `scanString_text`: a string text is read back.
-/
import Aegis.Lib.Json

namespace Aegis.Lib

set_option autoImplicit false

/-! ## Number texts -/

namespace NumberText

/-- The optional exponent at the start of a text, and what follows it. -/
def scanExponent : List Char → Option (Char × List Char × List Char) × List Char
  | letter :: rest =>
      if letter = 'e' ∨ letter = 'E' then
        let sign := rest.takeWhile fun c => c = '+' || c = '-'
        let sign := sign.take 1
        let digits := (rest.drop sign.length).takeWhile Char.isDigit
        if digits = [] then (none, letter :: rest)
        else (some (letter, sign, digits), (rest.drop sign.length).dropWhile Char.isDigit)
      else (none, letter :: rest)
  | [] => (none, [])

/-- The optional fraction at the start of a text, and what follows it. -/
def scanFraction : List Char → List Char × List Char
  | '.' :: rest =>
      let digits := rest.takeWhile Char.isDigit
      if digits = [] then ([], '.' :: rest) else (digits, rest.dropWhile Char.isDigit)
  | text => ([], text)

/-- The digits before the point: one zero, or digits that start with no zero. -/
def scanWhole : List Char → Option (List Char × List Char)
  | [] => none
  | first :: rest =>
      if first = '0' then some (['0'], rest)
      else if first.isDigit then
        some ((first :: rest).takeWhile Char.isDigit, (first :: rest).dropWhile Char.isDigit)
      else none

def scanSign : List Char → Bool × List Char
  | '-' :: rest => (true, rest)
  | text => (false, text)

/-- The longest number text at the start of a text. -/
def scan (text : List Char) : Option (NumberText × List Char) := do
  let signed := scanSign text
  let whole ← scanWhole signed.2
  let fraction := scanFraction whole.2
  let exponent := scanExponent fraction.2
  pure (⟨signed.1, whole.1, fraction.1, exponent.1⟩, exponent.2)

/-- The text goes on with no character that could belong to a number. -/
def Ends (rest : List Char) : Prop :=
  ∀ c ∈ rest.head?, c.isDigit = false ∧ c ≠ '.' ∧ c ≠ 'e' ∧ c ≠ 'E'

theorem takeWhile_digits {digits rest : List Char} (all : ∀ c ∈ digits, c.isDigit = true)
    (stops : ∀ c ∈ rest.head?, c.isDigit = false) :
    (digits ++ rest).takeWhile Char.isDigit = digits ∧
      (digits ++ rest).dropWhile Char.isDigit = rest := by
  induction digits with
  | nil =>
      cases rest with
      | nil => exact ⟨rfl, rfl⟩
      | cons c rest => simp [stops c rfl]
  | cons digit digits ih =>
      have first := all digit (List.mem_cons_self ..)
      have later := ih fun c member => all c (List.mem_cons_of_mem _ member)
      simp [first, later.1, later.2]

theorem scanExponent_text {number : NumberText} (wellFormed : number.WellFormed)
    {rest : List Char} (ends : Ends rest) :
    scanExponent (exponentText number.exponent ++ rest) = (number.exponent, rest) := by
  cases exponent : number.exponent with
  | none =>
      cases rest with
      | nil => rfl
      | cons c rest =>
          obtain ⟨-, -, small, large⟩ := ends c rfl
          simp [exponentText, scanExponent, small, large]
  | some parts =>
      obtain ⟨letter, sign, digits⟩ := parts
      obtain ⟨isLetter, isSign, nonempty, all⟩ := wellFormed.exponent letter sign digits exponent
      have stops : ∀ c ∈ rest.head?, c.isDigit = false := fun c member => (ends c member).1
      obtain ⟨taken, dropped⟩ := takeWhile_digits all stops
      obtain ⟨first, others, rfl⟩ := List.exists_cons_of_ne_nil nonempty
      have digit : first.isDigit = true := all first (List.mem_cons_self ..)
      have unsigned : first ≠ '+' ∧ first ≠ '-' := by
        constructor <;> rintro rfl <;> exact absurd digit (by decide)
      rcases isSign with rfl | rfl | rfl <;>
        simp_all [exponentText, scanExponent]

theorem scanFraction_text {number : NumberText} (wellFormed : number.WellFormed)
    {rest : List Char} (ends : ∀ c ∈ rest.head?, c.isDigit = false ∧ c ≠ '.') :
    scanFraction ((if number.fraction = [] then [] else '.' :: number.fraction) ++ rest) =
      (number.fraction, rest) := by
  have stops : ∀ c ∈ rest.head?, c.isDigit = false := fun c member => (ends c member).1
  obtain ⟨taken, dropped⟩ := takeWhile_digits wellFormed.fraction stops
  by_cases none : number.fraction = []
  · rw [if_pos none, none, List.nil_append]
    unfold scanFraction
    split
    · rename_i point
      exact absurd rfl (ends '.' rfl).2
    · rfl
  · rw [if_neg none, List.cons_append]
    simp only [scanFraction, taken, dropped, if_neg none]

theorem scanWhole_text {number : NumberText} (wellFormed : number.WellFormed)
    {rest : List Char} (stops : ∀ c ∈ rest.head?, c.isDigit = false) :
    scanWhole (number.whole ++ rest) = some (number.whole, rest) := by
  obtain ⟨first, others, whole⟩ := List.exists_cons_of_ne_nil wellFormed.nonempty
  obtain ⟨taken, dropped⟩ := takeWhile_digits wellFormed.digits stops
  by_cases zero : first = '0'
  · have alone := wellFormed.leading (by rw [whole, zero]; rfl)
    rw [alone]
    rfl
  · have digit : first.isDigit = true :=
      wellFormed.digits first (by rw [whole]; exact List.mem_cons_self ..)
    rw [whole] at taken dropped ⊢
    rw [List.cons_append] at taken dropped ⊢
    rw [scanWhole, if_neg zero, if_pos digit, taken, dropped]

/-- **A well-formed number is read back**, up to where its text ends. -/
theorem scan_chars {number : NumberText} (wellFormed : number.WellFormed) {rest : List Char}
    (ends : Ends rest) : scan (number.chars ++ rest) = some (number, rest) := by
  obtain ⟨first, others, whole⟩ := List.exists_cons_of_ne_nil wellFormed.nonempty
  have digit : first.isDigit = true :=
    wellFormed.digits first (by rw [whole]; exact List.mem_cons_self ..)
  have unsigned : first ≠ '-' := by
    rintro rfl
    exact absurd digit (by decide)
  have signed : scanSign (number.chars ++ rest) = (number.negative, number.whole ++
      ((if number.fraction = [] then [] else '.' :: number.fraction) ++
        (exponentText number.exponent ++ rest))) := by
    unfold chars
    cases negative : number.negative with
    | true => simp [scanSign]
    | false =>
        rw [whole]
        simp [scanSign, unsigned]
  have exponentHead : ∀ c ∈ (exponentText number.exponent ++ rest).head?,
      c.isDigit = false ∧ c ≠ '.' := by
    intro c member
    cases exponent : number.exponent with
    | none =>
        rw [exponent] at member
        exact ⟨(ends c member).1, (ends c member).2.1⟩
    | some parts =>
        obtain ⟨letter, sign, digits⟩ := parts
        obtain ⟨isLetter, -⟩ := wellFormed.exponent letter sign digits exponent
        rw [exponent] at member
        obtain rfl : letter = c := by simpa [exponentText] using member
        rcases isLetter with rfl | rfl <;> decide
  have fractionHead : ∀ c ∈ ((if number.fraction = [] then [] else '.' :: number.fraction) ++
      (exponentText number.exponent ++ rest)).head?, c.isDigit = false := by
    intro c member
    by_cases none : number.fraction = []
    · rw [if_pos none, List.nil_append] at member
      exact (exponentHead c member).1
    · rw [if_neg none] at member
      obtain rfl : '.' = c := by simpa using member
      decide
  unfold scan
  rw [signed]
  simp only [scanWhole_text wellFormed fractionHead, Option.bind_eq_bind, Option.bind_some,
    scanFraction_text wellFormed exponentHead, scanExponent_text wellFormed ends]
  rfl

end NumberText

/-! ## String texts -/

def hexValue (c : Char) : Option Nat :=
  if c.isDigit then some (c.toNat - 48)
  else if 97 ≤ c.toNat ∧ c.toNat ≤ 102 then some (c.toNat - 87)
  else if 65 ≤ c.toNat ∧ c.toNat ≤ 70 then some (c.toNat - 55)
  else none

/-- The character of a one-letter escape. -/
def simpleEscape (c : Char) : Option Nat :=
  if c = quote then some 34
  else if c = backslash then some 92
  else if c = '/' then some 47
  else if c = 'b' then some 8
  else if c = 'f' then some 12
  else if c = 'n' then some 10
  else if c = 'r' then some 13
  else if c = 't' then some 9
  else none

/-- The code units of a string text up to its closing quote, and what follows. -/
def scanUnits : List Char → Option (List Nat × List Char)
  | [] => none
  | c :: rest =>
      if c = quote then some ([], rest)
      else if c = backslash then
        match rest with
        | 'u' :: a :: b :: d :: e :: rest => do
            let a ← hexValue a
            let b ← hexValue b
            let d ← hexValue d
            let e ← hexValue e
            let scanned ← scanUnits rest
            pure ((a * 4096 + b * 256 + d * 16 + e) :: scanned.1, scanned.2)
        | letter :: rest => do
            let unit ← simpleEscape letter
            let scanned ← scanUnits rest
            pure (unit :: scanned.1, scanned.2)
        | [] => none
      else if c.toNat < 32 then none
      else do
        let scanned ← scanUnits rest
        pure (c.toNat :: scanned.1, scanned.2)

/-- The characters of code units; half of a surrogate pair is none. -/
def joinUnits : List Nat → Option (List Char)
  | [] => some []
  | unit :: rest =>
      if 0xd800 ≤ unit ∧ unit < 0xdc00 then
        match rest with
        | low :: rest =>
            if 0xdc00 ≤ low ∧ low < 0xe000 then do
              let chars ← joinUnits rest
              pure (Char.ofNat (0x10000 + (unit - 0xd800) * 0x400 + (low - 0xdc00)) :: chars)
            else none
        | [] => none
      else if 0xdc00 ≤ unit ∧ unit < 0xe000 then none
      else do
        let chars ← joinUnits rest
        pure (Char.ofNat unit :: chars)

/-- The string whose text, after the opening quote, starts here. -/
def scanString (text : List Char) : Option (String × List Char) := do
  let scanned ← scanUnits text
  let chars ← joinUnits scanned.1
  pure (String.ofList chars, scanned.2)

/-- What follows a backslash. -/
def scanEscape : List Char → Option (List Nat × List Char)
  | 'u' :: a :: b :: d :: e :: rest => do
      let a ← hexValue a
      let b ← hexValue b
      let d ← hexValue d
      let e ← hexValue e
      let scanned ← scanUnits rest
      pure ((a * 4096 + b * 256 + d * 16 + e) :: scanned.1, scanned.2)
  | letter :: rest => do
      let unit ← simpleEscape letter
      let scanned ← scanUnits rest
      pure (unit :: scanned.1, scanned.2)
  | [] => none

theorem scanUnits_cons (c : Char) (rest : List Char) : scanUnits (c :: rest) =
    if c = quote then some ([], rest)
    else if c = backslash then scanEscape rest
    else if c.toNat < 32 then none
    else (scanUnits rest).map fun scanned => (c.toNat :: scanned.1, scanned.2) := by
  rw [scanUnits.eq_def]
  simp only
  split
  · rfl
  · split
    · unfold scanEscape
      split <;> rfl
    · split
      · rfl
      · cases scanUnits rest <;> rfl

/-- A unit that is no half of a surrogate pair. -/
theorem joinUnits_single {unit : Nat} (whole : unit < 0xd800 ∨ 0xdfff < unit) (rest : List Nat) :
    joinUnits (unit :: rest) = (joinUnits rest).map (Char.ofNat unit :: ·) := by
  rw [joinUnits.eq_def]
  simp only
  rw [if_neg (by omega), if_neg (by omega)]
  cases joinUnits rest <;> rfl

/-- A surrogate pair. -/
theorem joinUnits_pair {high low : Nat} (isHigh : 0xd800 ≤ high ∧ high < 0xdc00)
    (isLow : 0xdc00 ≤ low ∧ low < 0xe000) (rest : List Nat) :
    joinUnits (high :: low :: rest) = (joinUnits rest).map
      (Char.ofNat (0x10000 + (high - 0xd800) * 0x400 + (low - 0xdc00)) :: ·) := by
  rw [joinUnits.eq_def]
  simp only
  rw [if_pos isHigh, if_pos isLow]
  cases joinUnits rest <;> rfl

theorem hexValue_hexDigit {n : Nat} (small : n < 16) : hexValue (hexDigit n) = some n := by
  have all : ∀ n < 16, hexValue (hexDigit n) = some n := by decide
  exact all n small

theorem scanUnits_escapeUnit {unit : Nat} (small : unit < 65536) (rest : List Char) :
    scanUnits (escapeUnit unit ++ rest) =
      (scanUnits rest).map fun scanned => (unit :: scanned.1, scanned.2) := by
  have value : unit / 4096 % 16 * 4096 + unit / 256 % 16 * 256 + unit / 16 % 16 * 16 + unit % 16 =
      unit := by omega
  simp only [escapeUnit, List.cons_append, List.nil_append]
  rw [scanUnits_cons, if_neg (by decide), if_pos rfl]
  simp only [scanEscape, hexValue_hexDigit (Nat.mod_lt _ (by decide : 0 < 16)),
    Option.bind_eq_bind, Option.bind_some, value]
  cases scanUnits rest <;> rfl

theorem codeUnits_small {c : Char} {unit : Nat} (member : unit ∈ codeUnits c) : unit < 65536 := by
  have valid : c.toNat < 0xd800 ∨ 0xdfff < c.toNat ∧ c.toNat < 0x110000 := c.valid
  unfold codeUnits at member
  split at member
  · rw [List.mem_singleton.mp member]
    assumption
  · rcases List.mem_cons.mp member with rfl | last
    · omega
    · rw [List.mem_singleton.mp last]
      omega

theorem scanUnits_units (units : List Nat) (small : ∀ unit ∈ units, unit < 65536)
    (rest : List Char) :
    scanUnits (units.flatMap escapeUnit ++ rest) =
      (scanUnits rest).map fun scanned => (units ++ scanned.1, scanned.2) := by
  induction units with
  | nil =>
      rw [List.flatMap_nil, List.nil_append]
      cases scanUnits rest <;> rfl
  | cons unit units ih =>
      rw [List.flatMap_cons, List.append_assoc,
        scanUnits_escapeUnit (small unit (List.mem_cons_self ..)),
        ih fun other member => small other (List.mem_cons_of_mem _ member)]
      cases scanUnits rest <;> rfl

/-- An escape of one letter. -/
theorem scanUnits_simple {letter : Char} {unit : Nat} (known : simpleEscape letter = some unit)
    (rest : List Char) :
    scanUnits (backslash :: letter :: rest) =
      (scanUnits rest).map fun scanned => (unit :: scanned.1, scanned.2) := by
  have notU : letter ≠ 'u' := by
    rintro rfl
    have none : simpleEscape 'u' = none := by decide
    rw [none] at known
    cases known
  rw [scanUnits_cons, if_neg (by decide), if_pos rfl]
  unfold scanEscape
  split
  · rename_i same
    exact absurd (List.cons.inj same).1 notU
  · rename_i same
    obtain ⟨rfl, rfl⟩ := List.cons.inj same
    rw [known]
    cases scanUnits rest <;> rfl
  · rename_i same
    cases same

/-- One escaped character. -/
theorem scanUnits_escapeChar (c : Char) (rest : List Char) :
    scanUnits (escapeChar c ++ rest) =
      (scanUnits rest).map fun scanned => (codeUnits c ++ scanned.1, scanned.2) := by
  have simple : ∀ (letter : Char) (unit : Nat), simpleEscape letter = some unit →
      c.toNat = unit → unit < 0x10000 →
        scanUnits ([backslash, letter] ++ rest) =
          (scanUnits rest).map fun scanned => (codeUnits c ++ scanned.1, scanned.2) := by
    intro letter unit known value small
    have units : codeUnits c = [unit] := by rw [codeUnits, value, if_pos small]
    rw [units]
    exact scanUnits_simple known rest
  unfold escapeChar
  split
  · rename_i same
    exact simple quote 34 (by decide) (by rw [same]; rfl) (by decide)
  split
  · rename_i same
    exact simple backslash 92 (by decide) (by rw [same]; rfl) (by decide)
  split
  · rename_i same
    exact simple 'n' 10 (by decide) (by rw [same]; rfl) (by decide)
  split
  · rename_i same
    exact simple 'r' 13 (by decide) (by rw [same]; rfl) (by decide)
  split
  · rename_i same
    exact simple 't' 9 (by decide) (by rw [same]; rfl) (by decide)
  split
  · rename_i same
    exact simple 'b' 8 (by decide) same (by decide)
  split
  · rename_i same
    exact simple 'f' 12 (by decide) same (by decide)
  split
  · rename_i notQuote notBackslash _ _ _ _ _ printable
    have units : codeUnits c = [c.toNat] := by
      rw [codeUnits, if_pos (by omega)]
    rw [units, List.singleton_append, scanUnits_cons, if_neg notQuote, if_neg notBackslash,
      if_neg (by omega)]
    cases scanUnits rest <;> rfl
  · exact scanUnits_units _ (fun _ member => codeUnits_small member) rest

theorem joinUnits_codeUnits (c : Char) (units : List Nat) :
    joinUnits (codeUnits c ++ units) = (joinUnits units).map (c :: ·) := by
  have valid : c.toNat < 0xd800 ∨ 0xdfff < c.toNat ∧ c.toNat < 0x110000 := c.valid
  unfold codeUnits
  split
  · rename_i small
    rw [List.singleton_append, joinUnits_single (by omega), Char.ofNat_toNat]
  · rename_i large
    have value : 0x10000 + (0xd800 + (c.toNat - 0x10000) / 0x400 - 0xd800) * 0x400 +
        (0xdc00 + (c.toNat - 0x10000) % 0x400 - 0xdc00) = c.toNat := by omega
    rw [List.cons_append, List.singleton_append, joinUnits_pair (by omega) (by omega), value,
      Char.ofNat_toNat]

theorem scanUnits_quote (rest : List Char) : scanUnits (quote :: rest) = some ([], rest) := by
  rw [scanUnits_cons, if_pos rfl]

/-- **A string is read back.** -/
theorem scanString_text (value : String) (rest : List Char) :
    scanString (value.toList.flatMap escapeChar ++ quote :: rest) = some (value, rest) := by
  have units : ∀ chars : List Char, scanUnits (chars.flatMap escapeChar ++ quote :: rest) =
      some (chars.flatMap codeUnits, rest) := by
    intro chars
    induction chars with
    | nil => exact scanUnits_quote rest
    | cons c chars ih =>
        rw [List.flatMap_cons, List.append_assoc, scanUnits_escapeChar, ih]
        rfl
  have joined : ∀ chars : List Char, joinUnits (chars.flatMap codeUnits) = some chars := by
    intro chars
    induction chars with
    | nil => rfl
    | cons c chars ih =>
        rw [List.flatMap_cons, joinUnits_codeUnits, ih]
        rfl
  unfold scanString
  rw [units]
  simp only [Option.bind_eq_bind, Option.bind_some, joined]
  rw [String.ofList_toList]
  rfl

end Aegis.Lib
