import AccessReport.Document.Page
import AccessReport.Report.Subject

/-!
The pages around the sections of a report: two covers, the contents and the rear page.
-/

namespace AccessReport

open Coordinate

def reportTitle : String :=
  "Subject Access Request Report"

def internalMarking : String :=
  "INTERNAL ONLY"

structure ContentsRow where
  label : String
  -- the page on which the section starts, counted from zero at the first section
  page  : Nat
deriving DecidableEq, Repr

namespace SubjectDetails

def caseLine (s : SubjectDetails) : String :=
  "SAR Case Reference Number: " ++ s.caseReference

def identityLines (s : SubjectDetails) : List String :=
  ["Name: " ++ s.name] ++
    (s.nomisId.map ("NOMIS ID: " ++ ·)).toList ++
    (s.ndeliusId.map ("nDelius ID: " ++ ·)).toList ++
    [s.caseLine]

-- The period that the report covers; it ends with the report unless it ended before.
def periodLine (s : SubjectDetails) (reportDate : Calendar.Date) : String :=
  "Date range: " ++ s.dateFrom.elim "Start of record" (·.longText) ++ " to " ++
    (s.dateTo.getD reportDate).longText

end SubjectDetails

def reportDateLine (reportDate : Calendar.Date) : String :=
  "Report date: " ++ reportDate.longText

def totalPagesLine (pages : Nat) : String :=
  "Total Pages: " ++ natText pages

namespace Document

variable {α : Type} [Coordinate α]

def writeLines (d : Document α) (lines : List String) : Document α :=
  lines.foldl writeLine d

-- The cover for the subject; it does not say how many pages there are.
def externalCover (layout : Options α) (s : SubjectDetails) : Document α :=
  let d := (empty layout).addSpace (ofInt 4)
  let d := d.writeCentered .title reportTitle
  let d := d.addSpace (ofInt 2)
  d.writeLines (s.identityLines ++
    [s.periodLine layout.reportDate, reportDateLine layout.reportDate])

-- The cover for those who keep the report.
def internalCover (layout : Options α) (s : SubjectDetails) (pages : Nat) : Document α :=
  let d := (empty layout).addSpace (ofInt 4)
  let d := d.writeCentered .title internalMarking
  let d := d.writeCentered .heading reportTitle
  let d := d.addSpace (ofInt 2)
  d.writeLines (s.identityLines ++ [reportDateLine layout.reportDate, totalPagesLine pages])

-- The number in a row of the contents; before the first section's page is known there is none.
def pageLabel (firstPage : Option Nat) (row : ContentsRow) : String :=
  firstPage.elim "" fun first => natText (first + row.page)

-- The contents, with the number of the first section's page if it is known.
def contents (layout : Options α) (firstPage : Option Nat) (rows : List ContentsRow) :
    Document α :=
  let d := (empty layout).writeHeading "Contents"
  let d := d.writeLine internalMarking
  let d := d.addSpace one
  rows.foldl (fun d row => d.writeRow .body row.label (pageLabel firstPage row)) d

-- Ends a report on the open page.
def writeRearPage (d : Document α) (s : SubjectDetails) : Document α :=
  let d := d.addSpace (ofInt 4)
  let d := d.writeCentered .heading ("End of " ++ reportTitle)
  d.writeCentered .body s.caseLine

end Document
end AccessReport
