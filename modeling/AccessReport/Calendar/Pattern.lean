import AccessReport.Calendar.Date
import AccessReport.Text.Blank
import AccessReport.Text.Utf8

/-!
Reading dates and times by a pattern of numbers, letters and blanks. Numbers may have fewer digits
than their place is wide and blanks in front of them.
-/

namespace AccessReport
namespace Calendar

inductive Fault where
  | tooShort
  | invalid
  | outOfRange
  | trailing
deriving DecidableEq, Repr

def Fault.message : Fault → String
  | tooShort => "premature end of input"
  | invalid => "input contains invalid characters"
  | outOfRange => "input is out of range"
  | trailing => "trailing input"

-- A number that a pattern asks for.
inductive Part where
  | year
  | month
  | day
  | hour
  | minute
  | second
deriving DecidableEq, Repr

inductive Item where
  | number (part : Part)
  | literal (c : Char)
  -- any number of blanks
  | blanks
  -- a point and digits, or nothing
  | fraction
  -- a sign, two digits, any colons and blanks, two digits
  | offset
deriving DecidableEq, Repr

structure Parts where
  year   : Int := 0
  month  : Nat := 0
  day    : Nat := 0
  hour   : Nat := 0
  minute : Nat := 0
  second : Nat := 0
  -- minutes east of the prime meridian
  offset : Int := 0
deriving DecidableEq, Repr

def Part.width : Part → Nat
  | .year => 4
  | _ => 2

def Part.minimum : Part → Nat
  | .month | .day => 1
  | _ => 0

def Part.maximum : Part → Nat
  | .year => 9999
  | .month => 12
  | .day => 31
  | .hour => 23
  | .minute => 59
  | .second => 60

-- At most `width` digits at the front and what follows them.
def takeDigits : (width : Nat) → List Char → List Char × List Char
  | 0, cs => ([], cs)
  | _ + 1, [] => ([], [])
  | k + 1, c :: cs =>
    if Decimal.isDigit c then
      let (ds, rest) := takeDigits k cs
      (c :: ds, rest)
    else ([], c :: cs)

def readNumber (width : Nat) (cs : List Char) : Except Fault (Nat × List Char) :=
  match cs, takeDigits width cs with
  | [], _ => .error .tooShort
  | _, ([], _) => .error .invalid
  | _, (ds, rest) => .ok (Decimal.ofDigits ds, rest)

-- The largest year that a signed number may name.
def signedYearLimit : Nat := Nat.pow 2 31 - 1

-- A year: four digits at most, or any number of digits after a sign.
def readYear (cs : List Char) : Except Fault (Int × List Char) :=
  match cs with
  | '-' :: cs => do
    let (n, rest) ← readNumber cs.length cs
    if signedYearLimit + 1 < n then .error .outOfRange else .ok (-(n : Int), rest)
  | '+' :: cs => do
    let (n, rest) ← readNumber cs.length cs
    if signedYearLimit < n then .error .outOfRange else .ok ((n : Int), rest)
  | cs => do
    let (n, rest) ← readNumber Part.year.width cs
    .ok ((n : Int), rest)

def Parts.set (p : Parts) (part : Part) (n : Nat) : Parts :=
  match part with
  | .year => { p with year := n }
  | .month => { p with month := n }
  | .day => { p with day := n }
  | .hour => { p with hour := n }
  | .minute => { p with minute := n }
  | .second => { p with second := n }

-- Two digits; too few bytes are noticed before a wrong one.
def twoDigits (cs : List Char) : Except Fault (Nat × Nat × List Char) :=
  if Utf8.byteLength cs < 2 then .error .tooShort
  else match cs with
    | a :: b :: rest =>
      if Decimal.isDigit a && Decimal.isDigit b then
        .ok (a.toNat - '0'.toNat, b.toNat - '0'.toNat, rest)
      else .error .invalid
    | _ => .error .invalid

def readSign : List Char → Except Fault (Bool × List Char)
  | [] => .error .tooShort
  | c :: cs =>
    if c = '+' then .ok (false, cs)
    else if c = '-' || c = '\u2212' then .ok (true, cs)
    else .error .invalid

-- An offset from universal time in minutes.
def readOffset (cs : List Char) : Except Fault (Int × List Char) := do
  let (negative, cs) ← readSign cs
  let (h₁, h₂, cs) ← twoDigits cs
  let cs := cs.dropWhile fun c => c = ':' || Text.isBlank c
  let (m₁, m₂, cs) ← twoDigits cs
  if 6 ≤ m₁ then
    .error .outOfRange
  else
    let minutes : Int := (h₁ * 10 + h₂) * 60 + m₁ * 10 + m₂
    .ok (if negative then -minutes else minutes, cs)

def readFraction : List Char → Except Fault (List Char)
  | '.' :: cs => do
    let (_, _) ← readNumber 9 cs
    .ok (cs.dropWhile Decimal.isDigit)
  | cs => .ok cs

def readItem (item : Item) (p : Parts) (cs : List Char) : Except Fault (Parts × List Char) :=
  match item with
  | .number .year => do
    let (y, rest) ← readYear (Text.trimStart cs)
    .ok ({ p with year := y }, rest)
  | .number part => do
    let (n, rest) ← readNumber part.width (Text.trimStart cs)
    if n < part.minimum || part.maximum < n then .error .outOfRange else .ok (p.set part n, rest)
  | .literal c =>
    match cs with
    | [] => .error .tooShort
    | d :: rest => if d = c then .ok (p, rest) else .error .invalid
  | .blanks => .ok (p, Text.trimStart cs)
  | .fraction => do
    let rest ← readFraction cs
    .ok (p, rest)
  | .offset => do
    let (minutes, rest) ← readOffset (Text.trimStart cs)
    .ok ({ p with offset := minutes }, rest)

-- Reads a whole text by a pattern.
def readParts : List Item → Parts → List Char → Except Fault Parts
  | [], p, [] => .ok p
  | [], _, _ :: _ => .error .trailing
  | item :: items, p, cs => do
    let (p, rest) ← readItem item p cs
    readParts items p rest

def Parts.date (p : Parts) : Except Fault Date :=
  match Date.ofParts? p.year p.month p.day with
  | some d => .ok d
  | none => .error .outOfRange

def Parts.time (p : Parts) : TimeOfDay :=
  ⟨p.hour, p.minute, p.second⟩

-- Offsets are shorter than a day.
def Parts.hasOffset (p : Parts) : Bool :=
  p.offset.natAbs < 24 * 60

-- Year, month and day in order, with `separator` between them.
def dateItems : List Item :=
  [.number .year, .blanks, .literal '-', .number .month, .blanks, .literal '-', .number .day, .blanks]

-- Reads a date as it is exchanged: year, month and day with hyphens between them.
def Date.read (s : String) : Except Fault Date := do
  let p ← readParts dateItems {} s.toList
  p.date

end Calendar
end AccessReport
