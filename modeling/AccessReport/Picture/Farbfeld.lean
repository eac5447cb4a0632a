import AccessReport.Picture.Source

/-!
Pictures as plain rows of pixels with four samples of two bytes.
-/

namespace AccessReport
namespace Picture
namespace Farbfeld

def signature : Bytes :=
  Bytes.ofText "farbfeld"

def decode (bs : Bytes) : Except Fault Raster :=
  match bs.drop 8 with
  | w₁ :: w₂ :: w₃ :: w₄ :: h₁ :: h₂ :: h₃ :: h₄ :: bs => do
    let width := ByteOrder.highFirst.value [w₁, w₂, w₃, w₄]
    let height := ByteOrder.highFirst.value [h₁, h₂, h₃, h₄]
    checkSize width height 8
    let (samples, _) ← take (width * height * 8) bs
    .ok (Raster.ofSamples width height .rgba (narrowPairs .highFirst samples))
  | _ => .error (.malformed "no size")

end Farbfeld
end Picture
end AccessReport
