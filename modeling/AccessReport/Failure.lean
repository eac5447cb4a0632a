import AccessReport.Number.Decimal
import AccessReport.Pdf.Fault
import AccessReport.Picture.Fault

/-!
Why a report, or a part of one, could not be made.
-/

namespace AccessReport

inductive Failure where
  | io (detail : String)
  | unknownFormat
  | unsupportedVersion (version : String)
  | pdf (detail : String)
  | imageDecode (detail : String)
  | conversion (detail : String)
  | render (detail : String)
  | template (service : String) (source : Failure)
  | attachment (service : String) (number : Nat) (filename : String) (source : Failure)
  | invalidOptions (detail : String)
  | other (detail : String)
deriving DecidableEq, Repr

namespace Failure

def message : Failure → String
  | io detail => "I/O error: " ++ detail
  | unknownFormat => "Unknown file format: not a valid PDF"
  | unsupportedVersion version => "Unsupported PDF version: " ++ version
  | pdf detail => "PDF error: " ++ detail
  | imageDecode detail => "Image decoding error: " ++ detail
  | conversion detail => "Document conversion failed: " ++ detail
  | render detail => "Rendering error: " ++ detail
  | template service source => "Template for service '" ++ service ++ "' failed: " ++ source.message
  | attachment service number filename source =>
    "Attachment " ++ natText number ++ " (" ++ filename ++ ") of service '" ++ service ++
      "' failed: " ++ source.message
  | invalidOptions detail => "Invalid options: " ++ detail
  | other detail => detail

def source? : Failure → Option Failure
  | template _ source => some source
  | attachment _ _ _ source => some source
  | _ => none

def chain : Failure → List Failure
  | template service source => template service source :: source.chain
  | attachment service number filename source =>
    attachment service number filename source :: source.chain
  | failure => [failure]

-- The failure that is inside no other one's source.
def innermost : Failure → Failure
  | template _ source => source.innermost
  | attachment _ _ _ source => source.innermost
  | failure => failure

def ofPdf : Pdf.Fault → Failure
  | .io detail => io detail
  | fault => pdf fault.message

def ofPicture : Picture.Fault → Failure
  | .io detail => io detail
  | fault => imageDecode fault.message

end Failure
end AccessReport
