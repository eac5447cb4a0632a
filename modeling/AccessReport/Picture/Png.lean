import AccessReport.Compression.RowFilter
import AccessReport.Picture.Source

/-!
Pictures in chunks with checksums: filtered rows of one to sixteen bits a sample, packed, and
possibly in seven passes from coarse to fine.
-/

namespace AccessReport
namespace Picture
namespace Png

def signature : Bytes :=
  [0x89, 0x50, 0x4E, 0x47, 0x0D, 0x0A, 0x1A, 0x0A]

/-! ### Chunks -/

-- One step of the checksum for one bit.
def crcBit (c : UInt32) : UInt32 :=
  if c % 2 = 1 then (c >>> 1) ^^^ 0xEDB88320 else c >>> 1

def crcByte (c : UInt32) (b : UInt8) : UInt32 :=
  Nat.repeat crcBit 8 (c ^^^ b.toUInt32)

-- The remainder that ends a chunk.
def crc (bs : Bytes) : Nat :=
  (bs.foldl crcByte 0xFFFFFFFF ^^^ 0xFFFFFFFF).toNat

structure Chunk where
  type : String
  data : Bytes

-- Chunks whose type begins with a small letter may be passed over.
def Chunk.isAncillary (c : Chunk) : Bool :=
  c.type.toList.head?.any fun ch => 'a' ≤ ch && ch ≤ 'z'

-- A chunk as far as the data goes.
inductive Piece where
  -- not even a whole head
  | headless
  -- the data or the checksum breaks off
  | broken (chunk : Chunk)
  | whole (chunk : Chunk) (valid : Bool) (rest : Bytes)

def piece (bs : Bytes) : Piece :=
  if (bs.take 8).length < 8 then .headless
  else
    let length := ByteOrder.highFirst.value (bs.take 4)
    let type := (bs.drop 4).take 4
    let data := (bs.drop 8).take length
    let chunk : Chunk := ⟨Bytes.toText type, data⟩
    let rest := bs.drop (8 + length)
    if data.length < length || (rest.take 4).length < 4 then .broken chunk
    else .whole chunk (crc (type ++ data) = ByteOrder.highFirst.value (rest.take 4)) (rest.drop 4)

/-! ### Header -/

inductive Color where
  | gray
  | rgb
  | palette
  | grayAlpha
  | rgba
deriving DecidableEq, Repr

namespace Color

def ofNat? : Nat → Option Color
  | 0 => some gray
  | 2 => some rgb
  | 3 => some palette
  | 4 => some grayAlpha
  | 6 => some rgba
  | _ => none

def samples : Color → Nat
  | gray | palette => 1
  | grayAlpha => 2
  | rgb => 3
  | rgba => 4

def depths : Color → List Nat
  | gray => [1, 2, 4, 8, 16]
  | palette => [1, 2, 4, 8]
  | _ => [8, 16]

end Color

structure Header where
  width      : Nat
  height     : Nat
  depth      : Nat
  color      : Color
  interlaced : Bool

namespace Header

def bitsPerPixel (h : Header) : Nat :=
  h.depth * h.color.samples

-- How far apart filtered samples are that belong together.
def step (h : Header) : Nat :=
  max 1 (h.bitsPerPixel / 8)

def rowBytes (h : Header) (width : Nat) : Nat :=
  (width * h.bitsPerPixel + 7) / 8

def parse (c : Chunk) : Except Fault Header :=
  match c.data with
  | [a, b, c, d, e, f, g, h, depth, color, compression, filter, interlace] =>
    let width := ByteOrder.highFirst.value [a, b, c, d]
    let height := ByteOrder.highFirst.value [e, f, g, h]
    match Color.ofNat? color.toNat with
    | none => .error (.malformed "unknown color type")
    | some kind =>
      if width = 0 || height = 0 then .error (.malformed "no pixels")
      else if depth.toNat ∉ kind.depths then .error (.malformed "unknown bit depth")
      else if compression ≠ 0 || filter ≠ 0 || 1 < interlace then
        .error (.malformed "unknown method")
      else .ok ⟨width, height, depth.toNat, kind, interlace = 1⟩
  | _ => .error (.malformed "header of a wrong size")

end Header

-- What stands before the rows of a picture.
structure Preamble where
  header       : Header
  palette      : Array UInt8 := #[]
  hasPalette   : Bool := false
  transparency : Option Bytes := none

/-! ### Rows -/

-- A part of the pixels: every so many rows and columns from a first one on.
structure Pass where
  firstRow    : Nat
  firstColumn : Nat
  rowStep     : Nat
  columnStep  : Nat

def singlePass : List Pass :=
  [⟨0, 0, 1, 1⟩]

def sevenPasses : List Pass :=
  [⟨0, 0, 8, 8⟩, ⟨0, 4, 8, 8⟩, ⟨4, 0, 8, 4⟩, ⟨0, 2, 4, 4⟩, ⟨2, 0, 4, 2⟩, ⟨0, 1, 2, 2⟩, ⟨1, 0, 2, 1⟩]

-- How many of `size` places lie at every `step` from `first` on.
def placesIn (size first step : Nat) : Nat :=
  (size - first + step - 1) / step

def Pass.width (p : Pass) (h : Header) : Nat :=
  placesIn h.width p.firstColumn p.columnStep

def Pass.height (p : Pass) (h : Header) : Nat :=
  placesIn h.height p.firstRow p.rowStep

-- The rows of a pass without their filters, and the data behind them.
def rows (h : Header) (width : Nat) : (count : Nat) → (up : Bytes) → Array Bytes → Bytes →
    Except Fault (Taken (Array Bytes))
  | 0, _, done, data => .ok (done, data)
  | count + 1, up, done, data => do
    let length := h.rowBytes width
    match data with
    | [] => .error (.malformed "rows are missing")
    | kind :: data =>
      match RowFilter.ofByte? kind with
      | none => .error (.malformed "unknown filter")
      | some filter =>
        let row := data.take length
        if row.length < length then .error (.malformed "rows are missing")
        else
          let row := filter.restore h.step up row
          rows h width count row (done.push row) (data.drop length)

-- The samples of a row, one number each.
def rowSamples (depth : Nat) (row : Bytes) : Array Nat :=
  if depth = 16 then
    let row := row.toArray
    ((List.range (row.size / 2)).map fun i =>
      (row.getD (2 * i) 0).toNat * 256 + (row.getD (2 * i + 1) 0).toNat).toArray
  else
    let perByte := 8 / depth
    (row.flatMap fun b => (List.range perByte).map fun i =>
      b.toNat / Nat.pow 2 (8 - depth * (i + 1)) % Nat.pow 2 depth).toArray

-- The samples of a picture, pixel by pixel, with the rows of a pass put where they belong.
def placePass (h : Header) (p : Pass) (rows : Array Bytes) (picture : Array Nat) : Array Nat :=
  let n := h.color.samples
  (List.range (p.height h)).foldl (fun picture y =>
    let samples := rowSamples h.depth (rows.getD y [])
    let row := (p.firstRow + y * p.rowStep) * h.width
    (List.range (p.width h)).foldl (fun picture x =>
      let pixel := row + p.firstColumn + x * p.columnStep
      (List.range n).foldl (fun picture k =>
        picture.setIfInBounds (pixel * n + k) (samples.getD (x * n + k) 0)) picture) picture) picture

def passes (h : Header) : List Pass → Array Nat → Bytes → Except Fault (Array Nat)
  | [], picture, _ => .ok picture
  | p :: ps, picture, data =>
    if p.width h = 0 || p.height h = 0 then passes h ps picture data
    else do
      let up := List.replicate (h.rowBytes (p.width h)) 0
      let (rows, data) ← rows h (p.width h) (p.height h) up #[] data
      passes h ps (placePass h p rows picture) data

def samples (h : Header) (data : Bytes) : Except Fault (Array Nat) :=
  passes h (if h.interlaced then sevenPasses else singlePass)
    (Array.replicate (h.width * h.height * h.color.samples) 0) data

/-! ### Colors -/

-- A sample as one of a byte.
def toByte (depth n : Nat) : UInt8 :=
  if depth = 16 then narrow n else UInt8.ofNat (n * 255 / (Nat.pow 2 depth - 1))

-- The one color that is transparent, as numbers of two bytes.
def transparentColor (bs : Bytes) : List Nat → Bool :=
  let values := (List.range (bs.length / 2)).map fun i =>
    ByteOrder.highFirst.value ((bs.drop (2 * i)).take 2)
  fun pixel => pixel = values

def channelsOf (p : Preamble) : Channels :=
  match p.header.color, p.transparency with
  | .gray, none => .gray
  | .gray, some _ | .grayAlpha, _ => .grayAlpha
  | .rgb, none | .palette, none => .rgb
  | .rgb, some _ | .palette, some _ | .rgba, _ => .rgba

def pixelBytes (p : Preamble) (pixel : List Nat) : Bytes :=
  let depth := p.header.depth
  match p.header.color with
  | .palette =>
    let i := pixel.headD 0
    let color := (List.range 3).map fun k => p.palette.getD (3 * i + k) 0
    match p.transparency with
    | some alphas => color ++ [alphas.getD i 255]
    | none => color
  | .gray | .rgb =>
    let bytes := pixel.map (toByte depth)
    match p.transparency with
    | some color => bytes ++ [if transparentColor color pixel then 0 else 255]
    | none => bytes
  | _ => pixel.map (toByte depth)

def toRaster (p : Preamble) (samples : Array Nat) : Raster :=
  let h := p.header
  let n := h.color.samples
  let bytes := (List.range (h.width * h.height)).flatMap fun i =>
    pixelBytes p ((List.range n).map fun k => samples.getD (i * n + k) 0)
  Raster.ofSamples h.width h.height (channelsOf p) bytes.toArray

/-! ### The whole picture -/

-- The packed rows, whether they are all there, and whether a chunk among them is invalid.
structure Packed where
  data    : List Bytes := []
  whole   : Bool := true
  invalid : Bool := false

-- The chunks of packed rows up to the first other chunk.
def packed : (fuel : Nat) → Packed → Bytes → Packed
  | 0, p, _ => p
  | fuel + 1, p, bs =>
    match piece bs with
    | .headless => { p with whole := false }
    | .broken c =>
      if c.type = "IDAT" then { p with data := c.data :: p.data, whole := false } else p
    | .whole c valid rest =>
      if c.type = "IDAT" then
        if valid then packed fuel { p with data := c.data :: p.data } rest
        else { p with data := c.data :: p.data, invalid := true }
      else p

-- Reads the chunks before the rows.
def preamble : (fuel : Nat) → Preamble → Bytes → Except Fault (Taken Preamble)
  | 0, _, _ => .error .ended
  | fuel + 1, p, bs =>
    match piece bs with
    | .headless => .error .ended
    | .broken c => if c.type = "IDAT" then .ok (p, bs) else .error .ended
    | .whole c valid rest =>
      if c.type = "IDAT" then .ok (p, bs)
      else if !valid then
        if c.isAncillary then preamble fuel p rest else .error (.malformed "wrong checksum")
      else if c.type = "PLTE" then
        preamble fuel { p with palette := c.data.toArray, hasPalette := true } rest
      else if c.type = "tRNS" then
        match p.header.color with
        | .grayAlpha | .rgba => preamble fuel p rest
        | .palette =>
          if p.hasPalette then preamble fuel { p with transparency := some c.data } rest
          else preamble fuel p rest
        | color =>
          if c.data.length < 2 * color.samples then preamble fuel p rest
          else preamble fuel { p with transparency := some c.data } rest
      else if c.type = "IEND" then .error (.malformed "no rows")
      else if c.type = "IHDR" then .error (.malformed "two headers")
      else preamble fuel p rest

-- Unpacks the rows; the checksum behind them does not count.
def unpack (p : Packed) : Except Fault Bytes :=
  let bs := p.data.reverse.flatten
  let failed : Except Fault Bytes := .error (.malformed "corrupt rows")
  match bs with
  | method :: flags :: rest =>
    if !Zlib.isHeader method flags then failed
    else match Inflate.inflate rest with
      | .ok (out, _) =>
        if p.invalid then .error (.malformed "wrong checksum")
        else if p.whole then .ok out.toList
        else .error .ended
      | .error (.corrupt, _) => failed
      | .error (.ended, _) => if p.whole || p.invalid then failed else .error .ended
  | _ => if p.whole || p.invalid then failed else .error .ended

def decode (bs : Bytes) : Except Fault Raster := do
  let bs := bs.drop signature.length
  match piece bs with
  | .headless => .error .ended
  | .broken c => if c.type = "IHDR" then .error .ended else .error (.malformed "no header")
  | .whole c valid rest =>
    if c.type ≠ "IHDR" then .error (.malformed "no header")
    else if !valid then .error (.malformed "wrong checksum")
    else
      let header ← Header.parse c
      let (p, rest) ← preamble (rest.length + 1) ⟨header, #[], false, none⟩ rest
      if header.color = .palette && !p.hasPalette then .error (.malformed "no palette")
      else
        checkSize header.width header.height 8
        let data ← unpack (packed (rest.length + 1) {} rest)
        let samples ← samples header data
        .ok (toRaster p samples)

end Png
end Picture
end AccessReport
