/-!
What can be wrong with a PDF file.
-/

namespace AccessReport
namespace Pdf

inductive Fault where
  -- the data ended early, or could not be read
  | io (detail : String)
  | header
  | startMark
  | previousSection
  | crossReference
  | trailer
  | unsupportedFilter
  | encrypted
  | syntaxError (detail : String)
deriving DecidableEq, Repr

def Fault.message : Fault → String
  | io detail => detail
  | header => "invalid file header"
  | startMark => "invalid start of the cross-reference data"
  | previousSection => "invalid start of an earlier cross-reference section"
  | crossReference => "invalid cross-reference data"
  | trailer => "invalid file trailer"
  | unsupportedFilter => "unsupported stream filter"
  | encrypted => "the file is encrypted"
  | syntaxError detail => "syntax error in content stream: " ++ detail

end Pdf
end AccessReport
