import AccessReport.Bundle.Disk
import AccessReport.Proofs.Cutting
import Mathlib.Data.List.TakeWhile

namespace AccessReport
namespace Path

-- What can name a file in a folder.
structure IsName (name : String) : Prop where
  noSeparator : separator ∉ name.toList
  ne_empty    : name ≠ ""
  ne_dot      : name ≠ "."
  ne_dots     : name ≠ ".."

variable {name : String}

namespace IsName

end IsName

end Path
end AccessReport
