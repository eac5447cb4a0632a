import AccessReport.Number.Decimal

/-!
Dates of the Gregorian calendar and times of day.
-/

namespace AccessReport
namespace Calendar

def isLeapYear (year : Int) : Bool :=
  year % 4 = 0 && (year % 100 ≠ 0 || year % 400 = 0)

def daysInMonth (year : Int) (month : Nat) : Nat :=
  if month = 2 then
    if isLeapYear year then 29 else 28
  else if month = 4 || month = 6 || month = 9 || month = 11 then 30
  else 31

def minYear : Int := -262143
def maxYear : Int := 262142

-- Whether a day exists and its year can be represented.
def isDay (year : Int) (month day : Nat) : Bool :=
  minYear ≤ year && year ≤ maxYear && 1 ≤ month && month ≤ 12 &&
  1 ≤ day && day ≤ daysInMonth year month

structure Date where
  year   : Int
  month  : Nat
  day    : Nat
  exists_day : isDay year month day = true := by decide
deriving DecidableEq, Repr

def Date.ofParts? (year : Int) (month day : Nat) : Option Date :=
  if h : isDay year month day = true then some ⟨year, month, day, h⟩ else none

theorem Date.ofParts?_eq_some (d : Date) : Date.ofParts? d.year d.month d.day = some d := by
  simp [Date.ofParts?, d.exists_day]

-- A number with zeros in front up to a width.
def padded (width n : Nat) : List Char :=
  let ds := Decimal.digitsOf n
  List.replicate (width - ds.length) '0' ++ ds

-- Four digits, or a sign and at least four digits for years that four digits cannot hold.
def yearChars (year : Int) : List Char :=
  if 0 ≤ year && year ≤ 9999 then padded 4 year.natAbs
  else (if year < 0 then '-' else '+') :: padded 4 year.natAbs

-- Year, month and day with hyphens between them.
def Date.text (d : Date) : String :=
  String.ofList (yearChars d.year ++ '-' :: padded 2 d.month ++ '-' :: padded 2 d.day)

def monthNames : List String := [
  "January", "February", "March", "April", "May", "June", "July", "August", "September",
  "October", "November", "December"]

def monthName (month : Nat) : String :=
  monthNames.getD (month - 1) ""

-- The day without padding, the month's name and the year.
def Date.longChars (d : Date) : List Char :=
  Decimal.digitsOf d.day ++ ' ' :: (monthName d.month).toList ++ ' ' :: yearChars d.year

def Date.longText (d : Date) : String :=
  String.ofList d.longChars

-- A time of day; the last minute of a day may have a second numbered 60, and so may any other.
structure TimeOfDay where
  hour   : Nat
  minute : Nat
  second : Nat
deriving DecidableEq, Repr

def TimeOfDay.hour12 (t : TimeOfDay) : Nat :=
  if t.hour % 12 = 0 then 12 else t.hour % 12

def TimeOfDay.half (t : TimeOfDay) : List Char :=
  if t.hour < 12 then ['A', 'M'] else ['P', 'M']

-- The time on a clock of twelve hours, with or without its seconds.
def TimeOfDay.chars (t : TimeOfDay) (withSeconds : Bool) : List Char :=
  Decimal.digitsOf t.hour12 ++ ':' :: padded 2 t.minute ++
    (if withSeconds then ':' :: padded 2 t.second else []) ++ ' ' :: t.half

end Calendar
end AccessReport
