import AccessReport.Calendar.Pattern

/-!
Texts that are dates or times in one of the forms that services use, and the one form in which
they are displayed.
-/

namespace AccessReport
namespace DateText

open Calendar

inductive Precision where
  | date
  | minutes
  | seconds
deriving DecidableEq, Repr

-- A form of dates: its items, whether it names an offset, and what it is displayed with.
structure Form where
  items     : List Item
  hasOffset : Bool
  precision : Precision

def yearFirst : List Item :=
  [.number .year, .literal '-', .number .month, .literal '-', .number .day]

def dayFirst : List Item :=
  [.number .day, .literal '/', .number .month, .literal '/', .number .year]

def minutes : List Item :=
  [.number .hour, .literal ':', .number .minute]

def seconds : List Item :=
  minutes ++ [.literal ':', .number .second]

-- The forms, the first that fits a whole text counts.
def forms : List Form := [
  ⟨yearFirst, false, .date⟩,
  ⟨dayFirst, false, .date⟩,
  ⟨yearFirst ++ [.literal 'T'] ++ seconds, false, .seconds⟩,
  ⟨yearFirst ++ [.literal 'T'] ++ seconds ++ [.fraction], false, .seconds⟩,
  ⟨yearFirst ++ [.blanks] ++ seconds, false, .seconds⟩,
  ⟨yearFirst ++ [.blanks] ++ seconds ++ [.fraction], false, .seconds⟩,
  ⟨yearFirst ++ [.literal 'T'] ++ minutes, false, .minutes⟩,
  ⟨yearFirst ++ [.blanks] ++ minutes, false, .minutes⟩,
  ⟨dayFirst ++ [.blanks] ++ seconds, false, .seconds⟩,
  ⟨dayFirst ++ [.blanks] ++ minutes, false, .minutes⟩,
  ⟨yearFirst ++ [.literal 'T'] ++ seconds ++ [.offset], true, .seconds⟩,
  ⟨yearFirst ++ [.literal 'T'] ++ seconds ++ [.fraction, .offset], true, .seconds⟩,
  ⟨yearFirst ++ [.blanks] ++ seconds ++ [.offset], true, .seconds⟩,
  ⟨yearFirst ++ [.blanks] ++ seconds ++ [.fraction, .offset], true, .seconds⟩,
  ⟨yearFirst ++ [.literal 'T'] ++ minutes ++ [.offset], true, .minutes⟩]

-- A last letter Z names the offset zero.
def spellZone (cs : List Char) : List Char :=
  match cs.reverse with
  | c :: stem => if c = 'Z' || c = 'z' then stem.reverse ++ ['+', '0', '0', ':', '0', '0'] else cs
  | [] => cs

def Form.read (f : Form) (cs : List Char) : Option (Date × TimeOfDay) :=
  match readParts f.items {} (if f.hasOffset then spellZone cs else cs) with
  | .error _ => none
  | .ok p =>
    match p.date with
    | .error _ => none
    | .ok d => if p.hasOffset then some (d, p.time) else none

def display (precision : Precision) (d : Date) (t : TimeOfDay) : List Char :=
  match precision with
  | .date => d.longChars
  | .minutes => d.longChars ++ ',' :: ' ' :: t.chars false
  | .seconds => d.longChars ++ ',' :: ' ' :: t.chars true

-- Only texts of at least eight bytes that begin with a digit are tried.
def isCandidate (cs : List Char) : Bool :=
  8 ≤ Utf8.byteLength cs &&
  match cs with
  | c :: _ => Decimal.isDigit c
  | [] => false

-- The display of a text that is a date or a time, blanks around it aside.
def reformat? (text : String) : Option String :=
  let cs := Text.trim text.toList
  if isCandidate cs then
    forms.findSome? fun f =>
      (f.read cs).map fun (d, t) => String.ofList (display f.precision d t)
  else none

end DateText
end AccessReport
