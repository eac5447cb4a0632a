import AccessReport.Pdf.PageTree

/-!
The rectangle that a page takes up.
-/

namespace AccessReport
namespace Pdf

open Coordinate

variable {α : Type}

-- A rectangle by its lower left and its upper right corner.
structure PageBox (α : Type) where
  x₀ : α
  y₀ : α
  x₁ : α
  y₁ : α

namespace Store

-- An attribute of a page, or of the nearest node above it that has one.
def inherited? (s : Store α) (key : String) : (nodes : Nat) → ObjectId → Option (Object α)
  | 0, _ => none
  | nodes + 1, id =>
    match s.dictionary? id with
    | none => none
    | some d =>
      match d.get? key with
      | some value => some value
      | none =>
        match (d.get? "Parent").bind Object.reference? with
        | some parent => inherited? s key nodes parent
        | none => none

-- How many nodes are looked at, the page included.
def ancestorLimit : Nat :=
  32

-- The object that a reference stands for; a reference to nothing stands for itself.
def resolve (s : Store α) (o : Object α) : Indirect α :=
  match o with
  | .reference id => (s.get? id).getD (.object o)
  | o => .object o

variable [Coordinate α]

def number? (s : Store α) (o : Object α) : Option α :=
  match s.resolve o with
  | .object (.integer i) => some (ofInt i)
  | .object (.real x) => some x
  | _ => none

end Store

namespace PageBox

variable [Coordinate α]

def ofDimensions (d : Dimensions α) : PageBox α :=
  ⟨zero, zero, d.width, d.height⟩

-- The box between two opposite corners.
def ofCorners (a b c d : α) : PageBox α :=
  ⟨smaller a c, smaller b d, larger a c, larger b d⟩

def dimensions (b : PageBox α) : Dimensions α :=
  ⟨b.x₁ - b.x₀, b.y₁ - b.y₀⟩

def corners (b : PageBox α) : List α :=
  [b.x₀, b.y₀, b.x₁, b.y₁]

-- The box of a page: four numbers that span a rectangle.
def ofPage? (s : Store α) (page : ObjectId) : Option (PageBox α) := do
  let value ← s.inherited? "MediaBox" Store.ancestorLimit page
  let items ← (s.resolve value).object?.bind Object.array?
  match items.filterMap s.number? with
  | [a, b, c, d] =>
    let box := ofCorners a b c d
    if box.dimensions.isValid then some box else none
  | _ => none

end PageBox
end Pdf
end AccessReport
