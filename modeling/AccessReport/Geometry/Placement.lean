import AccessReport.Geometry.Dimensions

/-!
Matrices that put drawings on a page: scaled by one factor or by two, and moved; never turned.
-/

namespace AccessReport

open Coordinate

variable {α : Type} [Coordinate α]

-- The six entries that map `(x, y)` to `(a x + c y + e, b x + d y + f)`.
structure Matrix (α : Type) where
  a : α
  b : α
  c : α
  d : α
  e : α
  f : α
deriving DecidableEq

def Matrix.entries (m : Matrix α) : List α :=
  [m.a, m.b, m.c, m.d, m.e, m.f]

-- Stretches by `s` and then moves by `p`.
def Matrix.place (s : Dimensions α) (p : Position α) : Matrix α :=
  ⟨s.width, zero, zero, s.height, p.x, p.y⟩

namespace Placement

-- Scales `size` to fit `bound` and centres it there.
def fitCentered (size bound : Dimensions α) : Matrix α :=
  let factor := size.scaleToFit bound
  .place ⟨factor, factor⟩ ((size.scaledBy factor).centerIn bound)

-- The size of a picture that may take a share of the page on both axes.
def pictureSize (natural page : Dimensions α) (proportion : α) : Dimensions α :=
  natural.scaledBy (natural.scaleToFit (page.scaledBy proportion))

-- A picture is centred on the page.
def picturePosition (natural page : Dimensions α) (proportion : α) : Position α :=
  (pictureSize natural page proportion).centerIn page

-- The matrix for a picture; pictures are drawn as a square of side one.
def picture (natural page : Dimensions α) (proportion : α) : Matrix α :=
  .place (pictureSize natural page proportion) (picturePosition natural page proportion)

end Placement
end AccessReport
