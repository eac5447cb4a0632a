import AccessReport.Picture.Farbfeld
import AccessReport.Picture.Gif
import AccessReport.Picture.Icon
import AccessReport.Picture.Jpeg
import AccessReport.Picture.Netpbm
import AccessReport.Picture.Qoi
import AccessReport.Picture.Tiff
import AccessReport.Picture.Webp

/-!
Decoding pictures by the marks with which their formats begin. Four formats are left out, and all
pictures in them are refused: lossy WebP, Radiance HDR, DirectDraw surfaces (DDS) and OpenEXR.
-/

namespace AccessReport
namespace Picture

-- The formats, each under the bytes that its pictures begin with.
def formats : List (Bytes × (Bytes → Except Fault Raster)) :=
  [(Png.signature, Png.decode), (Jpeg.signature, Jpeg.decode)] ++
  Gif.signatures.map (·, Gif.decode) ++
  [(Webp.signature, Webp.decode)] ++
  Tiff.signatures.map (·.1, Tiff.decode) ++
  [(Bmp.signature, Bmp.decode), (Icon.signature, Icon.decode)] ++
  (List.range 7).map (fun i => ([0x50, UInt8.ofNat (0x31 + i)], Netpbm.decode)) ++
  [(Farbfeld.signature, Farbfeld.decode), (Qoi.signature, Qoi.decode)]

def decode (bs : Bytes) : Except Fault Raster :=
  match formats.find? fun (mark, _) => (Bytes.after? mark bs).isSome with
  | some (_, decode) => decode bs
  | none => .error .unknownFormat

end Picture
end AccessReport
