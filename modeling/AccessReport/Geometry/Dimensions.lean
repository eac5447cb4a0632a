import AccessReport.Number.Coordinate

/-!
Sizes and positions on a page, in points, and how one size is fitted into another.
-/

namespace AccessReport

open Coordinate

variable {α : Type}

structure Dimensions (α : Type) where
  width  : α
  height : α

-- The lower left corner of what is placed.
structure Position (α : Type) where
  x : α
  y : α

namespace Dimensions

variable [Coordinate α]

def a4 : Dimensions α :=
  ⟨ofInt 595, ofInt 842⟩

def letter : Dimensions α :=
  ⟨ofInt 612, ofInt 792⟩

def scaledBy (d : Dimensions α) (factor : α) : Dimensions α :=
  ⟨d.width * factor, d.height * factor⟩

-- Both sides are finite and positive.
def isValid (d : Dimensions α) : Bool :=
  isFinite d.width && isFinite d.height && zero < d.width && zero < d.height

-- What a size may exceed a bound by and still fit.
def tolerance : α :=
  ofDecimal false ⟨1, -3⟩

def fitsWithin (d bound : Dimensions α) : Bool :=
  d.width ≤ bound.width + tolerance && d.height ≤ bound.height + tolerance

-- The largest factor at which `d` fits into `bound`.
def scaleToFit (d bound : Dimensions α) : α :=
  smaller (bound.width / d.width) (bound.height / d.height)

-- Where `inner` lies when it shares its centre with `outer`.
def centerIn (inner outer : Dimensions α) : Position α :=
  ⟨(outer.width - inner.width) / two, (outer.height - inner.height) / two⟩

end Dimensions
end AccessReport
