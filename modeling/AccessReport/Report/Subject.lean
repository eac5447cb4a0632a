import AccessReport.Calendar.Pattern
import AccessReport.Json.Printer
import AccessReport.Json.Record

/-!
The person that a report is about.
-/

namespace AccessReport

structure SubjectDetails where
  name          : String
  nomisId       : Option String := none
  ndeliusId     : Option String := none
  caseReference : String
  dateFrom      : Option Calendar.Date := none
  dateTo        : Option Calendar.Date := none
deriving DecidableEq, Repr

namespace SubjectDetails

def textOrNull (s : Option String) : Json.Value :=
  s.elim .null .string

def dateOrNull (d : Option Calendar.Date) : Json.Value :=
  textOrNull (d.map (·.text))

def toJson (s : SubjectDetails) : Json.Value :=
  .object [
    ("name", .string s.name),
    ("nomisId", textOrNull s.nomisId),
    ("ndeliusId", textOrNull s.ndeliusId),
    ("sarCaseReference", .string s.caseReference),
    ("dateFrom", dateOrNull s.dateFrom),
    ("dateTo", dateOrNull s.dateTo)]

-- A date in a text.
def readDate : Json.Token → Except Json.Cause Calendar.Date
  | .string s => match Calendar.Date.read s with
    | .ok d => .ok d
    | .error fault => .error (.invalidData fault.message)
  | t => .error (.invalidType t "a formatted date string")

structure Draft where
  name          : Option String := none
  nomisId       : Option (Option String) := none
  ndeliusId     : Option (Option String) := none
  caseReference : Option String := none
  dateFrom      : Option (Option Calendar.Date) := none
  dateTo        : Option (Option Calendar.Date) := none

-- Texts that were not given are empty.
def Draft.details (d : Draft) : SubjectDetails where
  name := d.name.getD ""
  nomisId := d.nomisId.join
  ndeliusId := d.ndeliusId.join
  caseReference := d.caseReference.getD ""
  dateFrom := d.dateFrom.join
  dateTo := d.dateTo.join

def record : Json.Record Draft where
  name := "SubjectDetails"
  fields := [
    Json.scalarField "name" (·.name) (fun d s => { d with name := some s })
      Json.Token.string? false false,
    Json.scalarField "nomisId" (·.nomisId) (fun d s => { d with nomisId := some s })
      (Json.Token.option? Json.Token.string?) false false,
    Json.scalarField "ndeliusId" (·.ndeliusId) (fun d s => { d with ndeliusId := some s })
      (Json.Token.option? Json.Token.string?) false false,
    Json.scalarField "sarCaseReference" (·.caseReference)
      (fun d s => { d with caseReference := some s }) Json.Token.string? false false,
    Json.scalarField "dateFrom" (·.dateFrom) (fun d s => { d with dateFrom := some s })
      (Json.Token.option? readDate) false false,
    Json.scalarField "dateTo" (·.dateTo) (fun d s => { d with dateTo := some s })
      (Json.Token.option? readDate) false false]
  blank := {}

def parse (s : String) : Except Json.Fault SubjectDetails :=
  (Json.finish (record.read Json.depthLimit s.toList)).map (·.details)

end SubjectDetails
end AccessReport
