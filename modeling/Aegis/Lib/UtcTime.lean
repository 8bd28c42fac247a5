/-
# Lib.UtcTime — points in time written in UTC

A text `YYYY-MM-DDTHH:MM:SSZ`, with up to six digits of a fraction before the `Z`, is read as the
number of a microsecond: the key of its day times the microseconds of a day, plus those since
midnight. The numbers of two texts are in the order of the points in time that they name. The hour
24 is the midnight that ends the day.
-/
import Aegis.Lib.Calendar
import Aegis.Lib.PythonText

namespace Aegis.Lib.UtcTime

set_option autoImplicit false

def dayMicroseconds : Nat := 86400000000

/-- A point in time, by the number of its microsecond. -/
abbrev Instant := Nat

/-- The seconds of a time of day. -/
def seconds (hour minute second : Nat) : Nat := (hour * 60 + minute) * 60 + second

def instant? (day : Day) (hour minute second microsecond : Nat) : Option Instant :=
  if hour < 24 ∧ minute < 60 ∧ second < 60 then
    some (day.key * dayMicroseconds + seconds hour minute second * 1000000 + microsecond)
  else if hour = 24 ∧ minute = 0 ∧ second = 0 ∧ microsecond = 0 then
    day.next?.map fun next => next.key * dayMicroseconds
  else none

/-- The characters of a form, where `0` stands for a decimal digit of any script. -/
def fits (form text : List Char) : Bool :=
  form.length = text.length &&
    (form.zip text).all fun pair =>
      if pair.1 = '0' then (decimalValue? pair.2).isSome else pair.1 = pair.2

/-- The digits between the seconds and the `Z`. -/
def fraction? (tail : List Char) : Option (List Char) :=
  match tail with
  | ['Z'] => some []
  | '.' :: rest =>
      let digits := rest.dropLast
      if rest.getLast? = some 'Z' ∧ 1 ≤ digits.length ∧ digits.length ≤ 6 ∧
          (∀ c ∈ digits, (decimalValue? c).isSome = true) then some digits
      else none
  | _ => none

/-- The text has the form of a point in time. -/
def isUtcText (text : String) : Bool :=
  fits "0000-00-00T00:00:00".toList (text.toList.take 19) &&
    (fraction? (text.toList.drop 19)).isSome

/-- The number in a part of the text. -/
def numberAt (text : List Char) (start length : Nat) : Option Nat :=
  Day.number ((text.drop start).take length)

/-- The point in time of a text of that form. Only ASCII digits are numbers. -/
def parse (text : String) : Option Instant := do
  let chars := text.toList
  let day ← Day.ofDate? (← numberAt chars 0 4) (← numberAt chars 5 2) (← numberAt chars 8 2)
  let digits ← fraction? (chars.drop 19)
  let microsecond ← Day.number (digits ++ List.replicate (6 - digits.length) '0')
  instant? day (← numberAt chars 11 2) (← numberAt chars 14 2) (← numberAt chars 17 2) microsecond

example : (parse "2026-02-28T24:00:00Z").isSome = true ∧
    parse "2026-02-28T24:00:00Z" = parse "2026-03-01T00:00:00.0Z" := by decide +kernel

end Aegis.Lib.UtcTime
