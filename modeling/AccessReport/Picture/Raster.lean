import AccessReport.Bytes
import AccessReport.Picture.Fault

/-!
Decoded pictures.
-/

namespace AccessReport
namespace Picture

-- Rows of pixels from the top, with three samples of a byte each, and how opaque they are unless
-- all of them are fully so by their format.
structure Raster where
  width  : Nat
  height : Nat
  rgb    : Bytes
  alpha  : Option Bytes := none

inductive Channels where
  | gray
  | grayAlpha
  | rgb
  | rgba
deriving DecidableEq, Repr

namespace Channels

def count : Channels → Nat
  | gray => 1
  | grayAlpha => 2
  | rgb => 3
  | rgba => 4

def colors : Channels → List Nat
  | gray | grayAlpha => [0, 0, 0]
  | rgb | rgba => [0, 1, 2]

def alpha? : Channels → Option Nat
  | gray | rgb => none
  | grayAlpha => some 1
  | rgba => some 3

end Channels

-- Selected samples of each of `count` pixels.
def select (samples : Array UInt8) (channels : Channels) (count : Nat) (offsets : List Nat) : Bytes :=
  (List.range count).flatMap fun i =>
    offsets.map fun o => samples.getD (channels.count * i + o) 0

-- A picture by its samples, a byte each and row by row from the top.
def Raster.ofSamples (width height : Nat) (channels : Channels) (samples : Array UInt8) :
    Raster where
  width := width
  height := height
  rgb := select samples channels (width * height) channels.colors
  alpha := channels.alpha?.map fun o => select samples channels (width * height) [o]

end Picture
end AccessReport
