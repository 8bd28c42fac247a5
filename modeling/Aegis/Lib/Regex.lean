/-
# Lib.Regex — backtracking patterns over characters

A `Pattern` gives, at a place of a text, the places behind its matches in the order in which a
backtracking matcher tries them; the first of them is the match. Repetitions are of one character
class, greedy (`many`) or lazy (`few`). `finditer` is the leftmost scan without overlaps, for patterns
that match no empty text.
-/
import Aegis.Lib.TextLines

namespace Aegis.Lib.Regex

set_option autoImplicit false

/-- A place in a text: the characters before it, the last of them first, and those behind it, with
the groups captured on the way. -/
structure Cursor where
  before : List Char
  rest : List Char
  groups : List (Nat × List Char)

abbrev Pattern := Cursor → List Cursor

/-! ## Patterns -/

/-- The place behind one accepted character. -/
def Cursor.step (accepts : Char → Bool) (cursor : Cursor) : Option Cursor :=
  match cursor.rest with
  | [] => none
  | c :: rest => if accepts c then some { cursor with before := c :: cursor.before, rest := rest } else none

def one (accepts : Char → Bool) : Pattern := fun cursor => (cursor.step accepts).toList

def stay : Pattern := fun cursor => [cursor]

def Pattern.seq (first second : Pattern) : Pattern := fun cursor => (first cursor).flatMap second

def Pattern.or (first second : Pattern) : Pattern := fun cursor => first cursor ++ second cursor

/-- Each of the patterns in turn. -/
def sequence (parts : List Pattern) : Pattern := parts.foldr Pattern.seq stay

/-- A literal text. -/
def literal (text : String) : Pattern := sequence (text.toList.map fun c => one (· == c))

/-- `(?:p)?`. -/
def Pattern.optional (p : Pattern) : Pattern := p.or stay

/-- The places behind the first accepted characters, at most so many, the nearest place first. -/
def runs (accepts : Char → Bool) : Nat → Cursor → List Cursor
  | 0, cursor => [cursor]
  | limit + 1, cursor =>
      cursor :: match cursor.step accepts with
        | none => []
        | some next => runs accepts limit next

/-- `[..]{low,high}`; without a bound when `high` is `none`. -/
def many (accepts : Char → Bool) (low : Nat) (high : Option Nat) : Pattern := fun cursor =>
  ((runs accepts (high.getD cursor.rest.length) cursor).drop low).reverse

/-- `[..]{low,high}?`. -/
def few (accepts : Char → Bool) (low : Nat) (high : Option Nat) : Pattern := fun cursor =>
  (runs accepts (high.getD cursor.rest.length) cursor).drop low

/-- `(p)`. -/
def Pattern.group (number : Nat) (p : Pattern) : Pattern := fun cursor =>
  (p cursor).map fun found =>
    let taken := (found.before.take (found.before.length - cursor.before.length)).reverse
    { found with groups := (number, taken) :: found.groups }

/-- A condition on the place itself. -/
def check (holds : Cursor → Bool) : Pattern := fun cursor => if holds cursor then [cursor] else []

/-- `^`. -/
def start : Pattern := check fun cursor => cursor.before.isEmpty

/-- `$`. -/
def finish : Pattern := check fun cursor => cursor.rest.isEmpty || cursor.rest == ['\n']

/-- `\b`. -/
def boundary (isWord : Char → Bool) : Pattern := check fun cursor =>
  cursor.before.head?.any isWord != cursor.rest.head?.any isWord

/-- `(?<![..])`. -/
def notBehind (accepts : Char → Bool) : Pattern := check fun cursor =>
  !cursor.before.head?.any accepts

/-- `(?![..])`. -/
def notAhead (accepts : Char → Bool) : Pattern := check fun cursor =>
  !cursor.rest.head?.any accepts

/-! ## Matching -/

/-- A match: where it starts, how many characters it has, and its groups. -/
structure Match where
  start : Nat
  width : Nat
  groups : List (Nat × List Char)

namespace Match

def stop (found : Match) : Nat := found.start + found.width

/-- `match.group(number)`. -/
def group? (found : Match) (number : Nat) : Option (List Char) := found.groups.lookup number

end Match

/-- The match at a place. -/
def Pattern.at (p : Pattern) (before rest : List Char) : Option Match :=
  (p ⟨before, rest, []⟩).head?.map fun found =>
    ⟨before.length, found.before.length - before.length, found.groups⟩

/-- `p.match(text)`. -/
def Pattern.match? (p : Pattern) (text : List Char) : Option Match := p.at [] text

/-- The scan from a place on, the next characters of which may be part of the last match. -/
def scan (p : Pattern) : Nat → List Char → List Char → List Match
  | _, _, [] => []
  | inside + 1, before, c :: rest => scan p inside (c :: before) rest
  | 0, before, c :: rest =>
      match p.at before (c :: rest) with
      | some found => found :: scan p (found.width - 1) (c :: before) rest
      | none => scan p 0 (c :: before) rest

/-- `p.finditer(text)`. -/
def Pattern.finditer (p : Pattern) (text : List Char) : List Match := scan p 0 [] text

/-- `p.search(text)`, which may match the empty text at the end. -/
def Pattern.search (p : Pattern) : List Char → List Char → Option Match
  | before, [] => p.at before []
  | before, c :: rest => (p.at before (c :: rest)).or (p.search (c :: before) rest)

/-- `p.sub("", text)`, from a place on. -/
def erase (p : Pattern) : Nat → List Char → List Char → List Char
  | _, _, [] => []
  | inside + 1, before, c :: rest => erase p inside (c :: before) rest
  | 0, before, c :: rest =>
      match p.at before (c :: rest) with
      | some found => erase p (found.width - 1) (c :: before) rest
      | none => c :: erase p 0 (c :: before) rest

/-- `p.sub("", text)`. -/
def Pattern.remove (p : Pattern) (text : List Char) : List Char := erase p 0 [] text

end Aegis.Lib.Regex
