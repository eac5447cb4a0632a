import AccessReport.Geometry.Dimensions
import AccessReport.Text.Blank
import AccessReport.Text.Case

/-!
The sizes that report pages may have.
-/

namespace AccessReport

inductive PageSize (α : Type) where
  | a4
  | letter
  | custom (d : Dimensions α)

namespace PageSize

def dimensions {α} [Coordinate α] : PageSize α → Dimensions α
  | a4 => .a4
  | letter => .letter
  | custom d => d

inductive Fault where
  | unknown (text : String)
  | width
  | height
  | notPositive (text : String)
deriving DecidableEq, Repr

def Fault.message : Fault → String
  | unknown text => "Unknown page size: " ++ text
  | width => "Invalid page width"
  | height => "Invalid page height"
  | notPositive text => "Page size must be positive: " ++ text

def readSide (cs : List Char) : Option Float32 :=
  Single.ofText? (String.ofList (Text.trim cs))

-- Reads the name of a page size, or its sides with an `x` between them.
def parse (s : String) : Except Fault (PageSize Float32) :=
  let cs := Case.lower (Text.trim s.toList)
  let text := String.ofList cs
  if text = "a4" then .ok a4
  else if text = "letter" then .ok letter
  else match cs.span (· ≠ 'x') with
    | (_, []) => .error (.unknown text)
    | (w, _ :: h) =>
      match readSide w, readSide h with
      | none, _ => .error .width
      | _, none => .error .height
      | some w, some h =>
        let d : Dimensions Float32 := ⟨w, h⟩
        if d.isValid then .ok (custom d) else .error (.notPositive text)

end PageSize
end AccessReport
