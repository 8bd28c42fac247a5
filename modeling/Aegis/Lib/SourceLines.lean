/-
# Lib.SourceLines — the lines of a text with their endings

`cutLines` is `str.splitlines(keepends=True)`, each line as its content and its ending, in which a
carriage return and the newline behind it are one ending; `lines` leaves the endings out.
-/
import Aegis.Lib.TextLines

namespace Aegis.Lib

set_option autoImplicit false

/-- A line and the ending that closes it, which only the last line may lack. -/
structure SourceLine where
  content : List Char
  ending : List Char
  deriving DecidableEq, Repr

namespace SourceLine

def chars (line : SourceLine) : List Char := line.content ++ line.ending

/-- The line with one more character in front. -/
def push (c : Char) (line : SourceLine) : SourceLine := { line with content := c :: line.content }

end SourceLine

/-- `text.splitlines(keepends=True)`. -/
def cutLines : List Char → List SourceLine
  | [] => []
  | '\r' :: '\n' :: rest => ⟨[], ['\r', '\n']⟩ :: cutLines rest
  | c :: rest =>
      if isLineBreak c then ⟨[], [c]⟩ :: cutLines rest
      else
        match cutLines rest with
        | [] => [⟨[c], []⟩]
        | line :: lines => line.push c :: lines

/-- `text.splitlines()`. -/
def lines (text : List Char) : List (List Char) := (cutLines text).map SourceLine.content

end Aegis.Lib
