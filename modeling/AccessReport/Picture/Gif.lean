import AccessReport.Compression.Lzw
import AccessReport.Picture.Source

/-!
Pictures of up to 256 colors in blocks, of which only the first picture counts. It lies somewhere on
a screen, which is transparent elsewhere.
-/

namespace AccessReport
namespace Picture
namespace Gif

def signatures : List Bytes :=
  [Bytes.ofText "GIF89a", Bytes.ofText "GIF87a"]

structure Screen where
  width   : Nat
  height  : Nat
  -- three bytes for each color
  palette : Option Bytes

-- The palette that flags announce.
def takePalette (flags : Nat) (bs : Bytes) : Except Fault (Taken (Option Bytes)) :=
  if flags < 128 then .ok (none, bs)
  else do
    let (colors, bs) ← take (3 * Nat.pow 2 (flags % 8 + 1)) bs
    .ok (some colors, bs)

def takeScreen (bs : Bytes) : Except Fault (Taken Screen) := do
  let (width, bs) ← takeNumber .lowFirst 2 bs
  let (height, bs) ← takeNumber .lowFirst 2 bs
  let (flags, bs) ← takeNumber .lowFirst 1 bs
  let (_, bs) ← take 2 bs
  let (palette, bs) ← takePalette flags bs
  .ok (⟨width, height, palette⟩, bs)

-- A sequence of short blocks joined, and whether its end is there.
def blocks : (fuel : Nat) → (done : List Bytes) → Bytes → Taken (Bytes × Bool)
  | 0, done, bs => ((done.reverse.flatten, false), bs)
  | fuel + 1, done, bs =>
    match bs with
    | [] => ((done.reverse.flatten, false), [])
    | length :: bs =>
      if length = 0 then ((done.reverse.flatten, true), bs)
      else
        let block := bs.take length.toNat
        if block.length < length.toNat then (((block :: done).reverse.flatten, false), [])
        else blocks fuel (block :: done) (bs.drop length.toNat)

def takeBlocks (bs : Bytes) : Taken (Bytes × Bool) :=
  blocks (bs.length + 1) [] bs

structure Frame where
  left        : Nat
  top         : Nat
  width       : Nat
  height      : Nat
  interlaced  : Bool
  palette     : Bytes
  transparent : Option UInt8
  -- the color numbers, row by row in the order in which they come
  pixels      : Array UInt8

-- The rows of an interlaced picture in the order in which they come.
def interlacedRows (height : Nat) : List Nat :=
  let every (first step : Nat) := (List.range height).filter fun y => first ≤ y && (y - first) % step = 0
  every 0 8 ++ every 4 8 ++ every 2 4 ++ every 1 2

-- Unpacks the color numbers of a picture.
def unpack (count : Nat) (bs : Bytes) : Except Fault (Array UInt8) := do
  let (width, bs) ← takeNumber .lowFirst 1 bs
  if width = 0 || 11 < width then .error (.malformed "unknown width of words")
  else
    let ((data, whole), _) := takeBlocks bs
    let (pixels, _) := Lzw.decompress ⟨width, false, false⟩ data
    let pixels := (pixels.take count).toArray
    if pixels.size = count then .ok pixels
    else if whole then .error (.malformed "the picture is incomplete")
    else .error .ended

def readFrame (screen : Screen) (transparent : Option UInt8) (bs : Bytes) :
    Except Fault Frame := do
  let (left, bs) ← takeNumber .lowFirst 2 bs
  let (top, bs) ← takeNumber .lowFirst 2 bs
  let (width, bs) ← takeNumber .lowFirst 2 bs
  let (height, bs) ← takeNumber .lowFirst 2 bs
  let (flags, bs) ← takeNumber .lowFirst 1 bs
  let (own, bs) ← takePalette flags bs
  match own.or screen.palette with
  | none => .error (.malformed "no palette")
  | some palette =>
    checkSize width height 4
    let pixels ← unpack (width * height) bs
    .ok ⟨left, top, width, height, flags / 64 % 2 = 1, palette, transparent, pixels⟩

-- The color that an extension makes transparent.
def transparentColor : Bytes → Option UInt8
  | flags :: _ :: _ :: color :: _ => if flags % 2 = 1 then some color else none
  | _ => none

def firstFrame (screen : Screen) : (fuel : Nat) → (transparent : Option UInt8) → Bytes →
    Except Fault Frame
  | 0, _, _ => .error .ended
  | fuel + 1, transparent, bs =>
    match bs with
    | [] => .error .ended
    | kind :: bs =>
      if kind = 0x2C then readFrame screen transparent bs
      else if kind = 0x21 then
        match bs with
        | [] => .error .ended
        | label :: bs =>
          let ((data, whole), bs) := takeBlocks bs
          if !whole then .error .ended
          else if label = 0xF9 then
            if data.length = 4 then firstFrame screen fuel (transparentColor data) bs
            else .error (.malformed "extension of a wrong size")
          else firstFrame screen fuel transparent bs
      else if kind = 0x3B then .error (.malformed "no picture")
      else .error (.malformed "unknown block")

def Frame.color (f : Frame) (n : UInt8) : Bytes :=
  match f.palette.drop (3 * n.toNat) with
  | r :: g :: b :: _ => [r, g, b, if f.transparent = some n then 0 else 255]
  | _ => [0, 0, 0, 0]

def Frame.raster (f : Frame) (screen : Screen) : Raster :=
  let colors := ((List.range 256).map fun n => f.color (UInt8.ofNat n)).toArray
  -- where each row is among those that come
  let places := if f.interlaced then
      ((interlacedRows f.height).zipIdx.foldl (fun (a : Array Nat) (y, i) => a.setIfInBounds y i)
        (Array.replicate f.height 0))
    else Array.range f.height
  let sample (y x : Nat) : Bytes :=
    if f.left ≤ x && x < f.left + f.width && f.top ≤ y && y < f.top + f.height then
      let n := f.pixels.getD (places.getD (y - f.top) 0 * f.width + (x - f.left)) 0
      colors.getD n.toNat []
    else [0, 0, 0, 0]
  let samples := (List.range screen.height).flatMap fun y =>
    (List.range screen.width).flatMap (sample y)
  Raster.ofSamples screen.width screen.height .rgba samples.toArray

def decode (bs : Bytes) : Except Fault Raster := do
  let (screen, bs) ← takeScreen (bs.drop 6)
  checkSize screen.width screen.height 4
  let frame ← firstFrame screen (bs.length + 1) none bs
  .ok (frame.raster screen)

end Gif
end Picture
end AccessReport
