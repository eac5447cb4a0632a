import AccessReport.Picture.Webp.Lossless

/-!
Pictures in a container of chunks, of which the first one says how its pixels are packed.
-/

namespace AccessReport
namespace Picture
namespace Webp

def signature : Bytes :=
  Bytes.ofText "RIFF"

-- What kind of data the container holds.
def kind : Bytes :=
  Bytes.ofText "WEBP"

-- The content of the first chunk, as far as it is there, and its name.
def firstChunk (bs : Bytes) : Except Fault (Bytes × Bytes) := do
  let (_, bs) ← take 8 bs
  let (found, bs) ← take 4 bs
  if found ≠ kind then
    .error (.malformed "the container holds no picture")
  else
    let (name, bs) ← take 4 bs
    let (length, bs) ← takeNumber .lowFirst 4 bs
    .ok (name, bs.take length)

def decode (bs : Bytes) : Except Fault Raster := do
  let (name, content) ← firstChunk bs
  if name = Bytes.ofText "VP8L" then decodeLossless content
  else .error (.unsupported "pixels that are not packed without loss")

end Webp
end Picture
end AccessReport
