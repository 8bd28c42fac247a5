/-
# Links.Code — blanking the code of a Markdown text

A link checker reads a document with its code blanked out: fenced blocks line by line
(`blankFences`), inline code spans character by character (`blankCodeSpans`).
-/
import Aegis.Lib.Regex
import Aegis.Lib.SourceLines

namespace Aegis.Links

open Aegis.Lib Aegis.Lib.Regex

set_option autoImplicit false

def isTick (c : Char) : Bool := c == '\x60'

def isTilde (c : Char) : Bool := c == '~'

def isGap (c : Char) : Bool := c == ' ' || c == '\t'

/-- Up to three spaces. -/
def indent : Pattern := many (· == ' ') 0 (some 3)

/-- `FENCE`. -/
def fencePattern : Pattern :=
  sequence [start, indent, ((many isTick 3 none).or (many isTilde 3 none)).group 1]

/-- The character of the fence that opens a line. -/
def fenceChar? (line : List Char) : Option Char :=
  (fencePattern.match? line).bind fun found => (found.group? 1).bind List.head?

/-! ## Fenced blocks -/

/-- A blanked line. -/
def blankedLine (line : SourceLine) : List Char :=
  if line.chars.getLast? = some '\n' then ['\n'] else []

/-- The loop of `blank_fences`, inside the fence of a character. -/
def blankLines : Option Char → List SourceLine → List Char
  | _, [] => []
  | none, line :: later =>
      match fenceChar? line.chars with
      | some fence => blankedLine line ++ blankLines (some fence) later
      | none => line.chars ++ blankLines none later
  | some fence, line :: later =>
      blankedLine line ++
        blankLines (if fenceChar? line.chars = some fence then none else some fence) later

/-- `blank_fences`. -/
def blankFences (text : List Char) : List Char := blankLines none (cutLines text)

/-! ## Code spans -/

/-- `matching_run`, from a place with a character before it: the distance to the next run of exactly
so many backticks. -/
def matchingRun (run : Nat) : Option Char → List Char → Option Nat
  | _, [] => none
  | previous, c :: rest =>
      if (List.replicate run '\x60').isPrefixOf (c :: rest) && !previous.any isTick &&
          !((c :: rest).drop run).head?.any isTick then
        some 0
      else (matchingRun run (some c) rest).map (· + 1)

/-- A blanked character: the line structure stays. -/
def blankedChar (c : Char) : Char := if c = '\n' then '\n' else ' '

/-- The loop of `blank_code_spans`, with characters still to be blanked, and characters of a run
without a closer still to be passed. -/
def blankSpans : Nat → Nat → List Char → List Char
  | _, _, [] => []
  | blanking + 1, passing, c :: rest => blankedChar c :: blankSpans blanking passing rest
  | 0, passing + 1, c :: rest => c :: blankSpans 0 passing rest
  | 0, 0, c :: rest =>
      if isTick c = false then c :: blankSpans 0 0 rest
      else
        let more := (rest.takeWhile isTick).length
        match matchingRun (more + 1) (some c) (rest.drop more) with
        | none => c :: blankSpans 0 more rest
        | some distance => blankedChar c :: blankSpans (more + distance + (more + 1)) 0 rest

/-- `blank_code_spans`. -/
def blankCodeSpans (text : List Char) : List Char := blankSpans 0 0 text

/-- `strip_code`. -/
def stripCode (text : List Char) : List Char := blankCodeSpans (blankFences text)

end Aegis.Links
