import AccessReport.Number.Coordinate

/-!
How wide text is taken to be: every character is half as wide as the font is high.
-/

namespace AccessReport
namespace Measure

open Coordinate

variable {α : Type} [Coordinate α]

def glyphShare : α :=
  ofDecimal false ⟨5, -1⟩

def width (text : List Char) (size : α) : α :=
  ofInt text.length * size * glyphShare

def leastChars : Nat :=
  8

def charsPerLine (width size : α) : Nat :=
  max (floor (width / (size * glyphShare))) leastChars

end Measure
end AccessReport
