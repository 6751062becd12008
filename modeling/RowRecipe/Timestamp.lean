import RowRecipe.Number.Layout
import RowRecipe.Number.Reading

/-!
# Points in time

A timestamp is a number of seconds since the start of 1970 in universal time, and a number of
nanoseconds. It is read from and written as calendar text in the form of internet timestamps; the
calendar is the Gregorian one, extended in both directions. A leap second is the second before it
with a full second of nanoseconds more.
-/
namespace RowRecipe

structure Timestamp where
  seconds : Int
  nanos : Nat
  deriving Repr, DecidableEq

namespace Timestamp

/-- A day of the calendar. -/
structure Date where
  year : Int
  month : Nat
  day : Nat
  deriving Repr, DecidableEq

namespace Date

/-- The number of days from 1970-01-01 on. Years are counted from March, so that the leap day ends
one; `era` counts spans of 400 years. -/
def toDays (date : Date) : Int :=
  let year := if date.month ≤ 2 then date.year - 1 else date.year
  let era := year.fdiv 400
  let yearOfEra := year - era * 400
  let month : Int := (date.month + 9) % 12
  let dayOfYear := (153 * month + 2).fdiv 5 + date.day - 1
  let dayOfEra := yearOfEra * 365 + yearOfEra.fdiv 4 - yearOfEra.fdiv 100 + dayOfYear
  era * 146097 + dayOfEra - 719468

/-- The day that is this many days after 1970-01-01. -/
def ofDays (days : Int) : Date :=
  let shifted := days + 719468
  let era := shifted.fdiv 146097
  let dayOfEra := shifted - era * 146097
  let yearOfEra :=
    (dayOfEra - dayOfEra.fdiv 1460 + dayOfEra.fdiv 36524 - dayOfEra.fdiv 146096).fdiv 365
  let dayOfYear := dayOfEra - (365 * yearOfEra + yearOfEra.fdiv 4 - yearOfEra.fdiv 100)
  let month := (5 * dayOfYear + 2).fdiv 153
  let day := dayOfYear - (153 * month + 2).fdiv 5 + 1
  let calendarMonth := if month < 10 then month + 3 else month - 9
  let year := yearOfEra + era * 400
  ⟨if calendarMonth ≤ 2 then year + 1 else year, calendarMonth.toNat, day.toNat⟩

def isLeap (year : Int) : Bool :=
  year % 4 == 0 && (year % 100 != 0 || year % 400 == 0)

def daysInMonth (year : Int) (month : Nat) : Nat :=
  if month = 2 then (if isLeap year then 29 else 28)
  else if month = 4 ∨ month = 6 ∨ month = 9 ∨ month = 11 then 30 else 31

def isValid (date : Date) : Bool :=
  1 ≤ date.month && date.month ≤ 12 && 1 ≤ date.day && date.day ≤ daysInMonth date.year date.month

end Date

/-- Decimal digits, filled up with zeros in front. -/
def padded (width n : Nat) : List Char :=
  let digits := Nat.toDigits 10 n
  List.replicate (width - digits.length) '0' ++ digits

/-- A year outside four digits has a sign. -/
def yearChars (year : Int) : List Char :=
  if 0 ≤ year ∧ year ≤ 9999 then padded 4 year.toNat
  else (if year < 0 then '-' else '+') :: padded 4 year.natAbs

/-- The first digits of the fraction of a second, after a point. -/
def fractionChars (nanos digits : Nat) : List Char :=
  if digits = 0 then [] else '.' :: (padded 9 nanos).take digits

/-- The timestamp with a given number of digits in the fraction. -/
def chars (time : Timestamp) (digits : Nat) : List Char :=
  let date := Date.ofDays (time.seconds.fdiv 86400)
  let second := (time.seconds.fmod 86400).toNat
  let leap := time.nanos / 1000000000
  yearChars date.year ++ '-' :: padded 2 date.month ++ '-' :: padded 2 date.day
    ++ 'T' :: padded 2 (second / 3600) ++ ':' :: padded 2 (second / 60 % 60)
    ++ ':' :: padded 2 (second % 60 + leap) ++ fractionChars (time.nanos % 1000000000) digits
    ++ ['Z']

/-- The text with milliseconds, which is the text of a date in a cell. -/
def text (time : Timestamp) : String :=
  String.ofList (time.chars 3)

def nanosecondText (time : Timestamp) : String :=
  String.ofList (time.chars 9)

/-- The text with the fewest groups of three digits that lose nothing. -/
def exactText (time : Timestamp) : String :=
  let digits :=
    if time.nanos % 1000000000 = 0 then 0
    else if time.nanos % 1000000 = 0 then 3
    else if time.nanos % 1000 = 0 then 6 else 9
  String.ofList (time.chars digits)

/-- Reads a number with exactly this many digits. -/
def readDigits? (count : Nat) (cs : List Char) : Option (Nat × List Char) :=
  let digits := cs.take count
  if digits.length = count ∧ digits.all Char.isDigit then some (digitsValue 0 digits, cs.drop count)
  else none

/-- Passes one of some characters. -/
def pass? (accepted : List Char) : List Char → Option (List Char)
  | [] => none
  | c :: cs => if accepted.contains c then some cs else none

/-- Reads a fraction of a second, which may be missing; digits past the ninth are passed over. -/
def readNanos? : List Char → Option (Nat × List Char)
  | '.' :: cs =>
    let (digits, rest) := cs.span Char.isDigit
    if digits = [] then none
    else some (digitsValue 0 ((digits ++ List.replicate 9 '0').take 9), rest)
  | cs => some (0, cs)

/-- Reads the distance from universal time, in seconds. -/
def readOffset? : List Char → Option Int
  | ['Z'] | ['z'] => some 0
  | sign :: cs => do
    let (hours, cs) ← readDigits? 2 cs
    let cs ← pass? [':'] cs
    let (minutes, cs) ← readDigits? 2 cs
    let size : Int := hours * 3600 + minutes * 60
    if cs ≠ [] ∨ 59 < minutes ∨ 23 < hours then none
    else if sign = '+' then some size
    else if sign = '-' then some (-size)
    else none
  | [] => none

/-- Reads an internet timestamp with any distance from universal time. -/
def read? (text : String) : Option Timestamp := do
  let (year, cs) ← readDigits? 4 text.toList
  let cs ← pass? ['-'] cs
  let (month, cs) ← readDigits? 2 cs
  let cs ← pass? ['-'] cs
  let (day, cs) ← readDigits? 2 cs
  let cs ← pass? ['T', 't', ' '] cs
  let (hour, cs) ← readDigits? 2 cs
  let cs ← pass? [':'] cs
  let (minute, cs) ← readDigits? 2 cs
  let cs ← pass? [':'] cs
  let (second, cs) ← readDigits? 2 cs
  let (nanos, cs) ← readNanos? cs
  let offset ← readOffset? cs
  let date : Date := ⟨year, month, day⟩
  if !date.isValid ∨ 23 < hour ∨ 59 < minute ∨ 60 < second then none
  else
    let start := date.toDays * 86400 + hour * 3600 + minute * 60 - offset
    if second = 60 then some ⟨start + 59, nanos + 1000000000⟩ else some ⟨start + second, nanos⟩

end Timestamp

end RowRecipe
