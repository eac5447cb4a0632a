import AccessReport.Geometry.Placement
import AccessReport.Pdf.Writer

/-!
What is put on a page, and the content stream that draws it: operations, each after its operands.
-/

namespace AccessReport
namespace Pdf

variable {α : Type}

structure Operation (α : Type) where
  operator : Bytes
  operands : List (Object α) := []

def Operation.of (operator : String) (operands : List (Object α)) : Operation α :=
  ⟨Bytes.ofText operator, operands⟩

inductive Mark (α : Type) where
  -- a line of text whose baseline starts at `(x, y)`
  | text (font : String) (size x y : α) (codes : Bytes)
  -- an object that is drawn under a name
  | figure (name : String) (matrix : Matrix α)

def Mark.operations : Mark α → List (Operation α)
  | text font size x y codes => [
      .of "BT" [],
      .of "Tf" [.named font, .real size],
      .of "Td" [.real x, .real y],
      .of "Tj" [.string codes .literal],
      .of "ET" []]
  | figure name matrix => [
      .of "q" [],
      .of "cm" [.real matrix.a, .real matrix.b, .real matrix.c, .real matrix.d, .real matrix.e,
        .real matrix.f],
      .of "Do" [.named name],
      .of "Q" []]

variable [Coordinate α]

def Operation.bytes (o : Operation α) : Bytes :=
  o.operands.flatMap (fun x => x.bytes ++ [byteOf ' ']) ++ o.operator

-- Operations as a content stream, a line feed between them.
def contentBytes (os : List (Operation α)) : Bytes :=
  (List.intersperse [byteOf '\n'] (os.map Operation.bytes)).flatten

def marksBytes (ms : List (Mark α)) : Bytes :=
  contentBytes (ms.flatMap Mark.operations)

-- The strings that are shown by a list of operations.
def shownStrings (os : List (Operation α)) : List Bytes :=
  os.filterMap fun o =>
    if o.operator = Bytes.ofText "Tj" then
      match o.operands.head? with
      | some (.string bs _) => some bs
      | _ => none
    else none

end Pdf
end AccessReport
