import AccessReport.Bytes
import AccessReport.Failure
import AccessReport.Number.Decimal
import AccessReport.Text.Utf8

/-!
The header by which a PDF file is known, and the version it names.
-/

namespace AccessReport
namespace Pdf

def headerMark : Bytes :=
  Bytes.ofText "%PDF-"

-- The header may come after other bytes, but must end within this many.
def searchWindow : Nat :=
  1024

def versionLength : Nat :=
  3

def isVersion : List Char → Bool
  | [major, point, minor] => Decimal.isDigit major && point = '.' && Decimal.isDigit minor
  | _ => false

def version (data : Bytes) : Except Failure String :=
  match Bytes.indexOf? headerMark (data.take searchWindow) with
  | none => .error .unknownFormat
  | some start =>
    let bytes := (data.drop (start + headerMark.length)).take versionLength
    if bytes.length < versionLength then
      .error .unknownFormat
    else
      let text := Utf8.decodeLossy bytes
      if isVersion text then .ok (String.ofList text)
      else .error (.unsupportedVersion (String.ofList text))

def isPdf (data : Bytes) : Bool :=
  (version data).isOk

def versionTitle (version : String) : String :=
  "PDF " ++ version

end Pdf
end AccessReport
