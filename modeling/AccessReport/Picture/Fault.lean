/-!
What can be wrong with the data of a picture.
-/

namespace AccessReport
namespace Picture

inductive Fault where
  -- the data ended early, or could not be read
  | io (detail : String)
  | unknownFormat
  | unsupported (detail : String)
  | malformed (detail : String)
deriving DecidableEq, Repr

def Fault.message : Fault → String
  | io detail => detail
  | unknownFormat => "The image format could not be determined"
  | unsupported detail => "unsupported picture: " ++ detail
  | malformed detail => "malformed picture: " ++ detail

def Fault.ended : Fault :=
  .io "unexpected end of file"

end Picture
end AccessReport
