/-
# Lib.TextLines — reading a text file line by line

`decodeText` is what a reader in text mode sees of a file: UTF-8 bytes with every
line end turned into one newline character. `splitLines` splits at every line
boundary character. A text made of plain lines, each closed by a newline, is read
back as these lines (`splitLines_lines`).
-/
import Mathlib.Tactic.Common

namespace Aegis.Lib

set_option autoImplicit false

/-- The line boundaries of `str.splitlines`. -/
def isLineBreak (c : Char) : Bool :=
  [0x0a, 0x0b, 0x0c, 0x0d, 0x1c, 0x1d, 0x1e, 0x85, 0x2028, 0x2029].contains c.toNat

/-- The characters that `str.strip` removes. -/
def isBlank (c : Char) : Bool :=
  (0x09 ≤ c.toNat && c.toNat ≤ 0x0d) || (0x1c ≤ c.toNat && c.toNat ≤ 0x20) ||
    (0x2000 ≤ c.toNat && c.toNat ≤ 0x200a) ||
      [0x85, 0xa0, 0x1680, 0x2028, 0x2029, 0x202f, 0x205f, 0x3000].contains c.toNat

/-- Universal newlines. -/
def translateNewlines : List Char → List Char
  | '\r' :: '\n' :: rest => '\n' :: translateNewlines rest
  | '\r' :: rest => '\n' :: translateNewlines rest
  | c :: rest => c :: translateNewlines rest
  | [] => []

def decodeText (bytes : ByteArray) : Option (List Char) :=
  (String.fromUTF8? bytes).map fun text => translateNewlines text.toList

/-- `text.splitlines()`, of a text in which newlines are translated. -/
def splitLines : List Char → List (List Char)
  | [] => []
  | c :: rest =>
      if isLineBreak c then [] :: splitLines rest
      else
        match splitLines rest with
        | [] => [[c]]
        | line :: lines => (c :: line) :: lines

/-- `[line for line in text.splitlines() if line.strip()]`. -/
def visibleLines (text : List Char) : List (List Char) :=
  (splitLines text).filter fun line => line.any fun c => !isBlank c

theorem translateNewlines_plain {text : List Char} (plain : ∀ c ∈ text, c ≠ '\r') :
    translateNewlines text = text := by
  induction text with
  | nil => rfl
  | cons c text ih =>
      have first := plain c (List.mem_cons_self ..)
      have later := ih fun other member => plain other (List.mem_cons_of_mem _ member)
      rw [translateNewlines.eq_def]
      split
      · rename_i same
        exact absurd (List.cons.inj same).1 first
      · rename_i same
        exact absurd (List.cons.inj same).1 first
      · rename_i same
        obtain ⟨rfl, rfl⟩ := List.cons.inj same
        rw [later]
      · rename_i same
        cases same

theorem fromUTF8?_toUTF8 (text : String) : String.fromUTF8? text.toUTF8 = some text := by
  unfold String.fromUTF8?
  have isValid : text.toUTF8.IsValidUTF8 := text.isValidUTF8
  rw [dif_pos isValid]
  rfl

theorem decodeText_ascii {text : List Char} (plain : ∀ c ∈ text, c ≠ '\r') :
    decodeText (String.ofList text).toUTF8 = some text := by
  unfold decodeText
  rw [fromUTF8?_toUTF8, Option.map_some, String.toList_ofList, translateNewlines_plain plain]

/-- A line without boundaries, closed by a newline. -/
theorem splitLines_line {line : List Char} (plain : ∀ c ∈ line, isLineBreak c = false)
    (rest : List Char) : splitLines (line ++ '\n' :: rest) = line :: splitLines rest := by
  induction line with
  | nil => rfl
  | cons c line ih =>
      have first := plain c (List.mem_cons_self ..)
      have later := ih fun other member => plain other (List.mem_cons_of_mem _ member)
      rw [List.cons_append, splitLines, first, later]
      rfl

/-- **Plain lines are read back.** -/
theorem visibleLines_lines {lines : List (List Char)}
    (plain : ∀ line ∈ lines, ∀ c ∈ line, isLineBreak c = false)
    (visible : ∀ line ∈ lines, (line.any fun c => !isBlank c) = true) :
    visibleLines (lines.flatMap fun line => line ++ ['\n']) = lines := by
  have split : splitLines (lines.flatMap fun line => line ++ ['\n']) = lines := by
    induction lines with
    | nil => rfl
    | cons line lines ih =>
        rw [List.flatMap_cons, List.append_assoc, List.singleton_append,
          splitLines_line (plain line (List.mem_cons_self ..)),
          ih (fun other member => plain other (List.mem_cons_of_mem _ member))
            (fun other member => visible other (List.mem_cons_of_mem _ member))]
  unfold visibleLines
  rw [split, List.filter_eq_self]
  exact visible

end Aegis.Lib
