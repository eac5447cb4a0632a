import AccessReport.Picture.Source

/-!
Pictures in rows from the bottom that start at multiples of four bytes. A pixel is a number of a
color in a palette or holds its samples in fields of bits; numbers may be packed as runs.
-/

namespace AccessReport
namespace Picture
namespace Bmp

def signature : Bytes :=
  Bytes.ofText "BM"

/-! ### Fields of bits -/

structure Field where
  shift : Nat
  width : Nat
deriving DecidableEq, Repr

namespace Field

-- The field that a mask selects, of at most eight bits, or `none` if that is not one field in a
-- number of `size` bits.
def ofMask? (mask size : Nat) : Option Field :=
  if mask = 0 then some ⟨0, 0⟩
  else
    let shift := ((List.range 32).find? fun i => mask.testBit i).getD 0
    let width := (mask >>> shift).log2 + 1
    if mask >>> shift ≠ Nat.pow 2 width - 1 || size < shift + width then none
    else if 8 < width then some ⟨shift + (width - 8), 8⟩
    else some ⟨shift, width⟩

-- The field of a number, scaled to a byte and rounded.
def sample (f : Field) (n : Nat) : UInt8 :=
  let most := Nat.pow 2 f.width - 1
  UInt8.ofNat ((n / Nat.pow 2 f.shift % Nat.pow 2 f.width * 510 + most) / (2 * most))

end Field

-- The fields of the samples of a pixel; without a field for opacity all are opaque.
structure Fields where
  red   : Field
  green : Field
  blue  : Field
  alpha : Option Field := none

def Fields.bytes (f : Fields) (n : Nat) : Bytes :=
  [f.red.sample n, f.green.sample n, f.blue.sample n, f.alpha.elim 255 (·.sample n)]

def fiveBits : Fields :=
  ⟨⟨10, 5⟩, ⟨5, 5⟩, ⟨0, 5⟩, none⟩

def eightBits : Fields :=
  ⟨⟨16, 8⟩, ⟨8, 8⟩, ⟨0, 8⟩, none⟩

/-! ### Header -/

inductive Coding where
  | numbers
  | fields (f : Fields)
  | runs

structure Header where
  width    : Nat
  height   : Nat
  topDown  : Bool := false
  -- bits of a pixel
  depth    : Nat
  coding   : Coding
  hasAlpha : Bool := false
  palette  : Array Bytes := #[]

namespace Header

-- Rows fill whole groups of four bytes.
def rowBytes (h : Header) : Nat :=
  (h.width * h.depth + 31) / 32 * 4

end Header

def largestSide : Nat :=
  0xFFFF

-- A number of four bytes as a signed one.
def signed (n : Nat) : Int :=
  if n < Nat.pow 2 31 then n else (n : Int) - Nat.pow 2 32

-- The colors of a palette, filled up with black.
def paletteOf (entryBytes : Nat) (bs : Bytes) : Array Bytes :=
  let data := bs.toArray
  ((List.range 256).map fun i =>
    [data.getD (entryBytes * i + 2) 0, data.getD (entryBytes * i + 1) 0,
      data.getD (entryBytes * i) 0, 255]).toArray

-- Takes a palette; of more than 256 colors none can be used.
def takePalette (depth used entryBytes : Nat) (bs : Bytes) : Except Fault (Taken (Array Bytes)) :=
  if Nat.pow 2 depth < used then .error (.malformed "too many colors")
  else do
    let count := if used = 0 then Nat.pow 2 depth else used
    let (colors, bs) ← take (entryBytes * min count 256) bs
    .ok (paletteOf entryBytes colors, bs.drop (entryBytes * (count - 256)))

-- The old header, with sides of two bytes and a palette of three bytes a color.
def readOldHeader (bs : Bytes) : Except Fault (Taken Header) := do
  let (width, bs) ← takeNumber .lowFirst 2 bs
  let (height, bs) ← takeNumber .lowFirst 2 bs
  let (planes, bs) ← takeNumber .lowFirst 2 bs
  if planes ≠ 1 then .error (.malformed "more than one plane")
  else
    let (depth, bs) ← takeNumber .lowFirst 2 bs
    if depth = 1 || depth = 4 || depth = 8 then
      let (palette, bs) ← takePalette depth 0 3 bs
      .ok ({ width, height, depth, palette, coding := .numbers }, bs)
    else if depth = 24 then
      .ok ({ width, height, depth, coding := .fields eightBits }, bs)
    else .error (.malformed "unknown depth")

-- How pixels are stored by the number of the method and their depth; fields may still have to be
-- read.
def codingOf (method depth : Nat) : Except Fault Coding :=
  let unknown := Except.error (Fault.malformed "unknown depth")
  match method with
  | 0 =>
    if depth ∈ [1, 2, 4, 8] then .ok .numbers
    else if depth = 16 then .ok (.fields fiveBits)
    else if depth = 24 || depth = 32 then .ok (.fields eightBits)
    else unknown
  | 1 => if depth = 8 then .ok .runs else unknown
  | 2 => if depth = 4 then .ok .runs else unknown
  | 3 => if depth = 16 || depth = 32 then .ok (.fields eightBits) else unknown
  | _ => .error (.unsupported "method of packing")

-- The fields that the masks select.
def readFields (headerBytes depth : Nat) (bs : Bytes) : Except Fault Fields := do
  let (red, bs) ← takeNumber .lowFirst 4 bs
  let (green, bs) ← takeNumber .lowFirst 4 bs
  let (blue, bs) ← takeNumber .lowFirst 4 bs
  let (alpha, _) ← if 56 ≤ headerBytes then takeNumber .lowFirst 4 bs else .ok (0, bs)
  match Field.ofMask? red depth, Field.ofMask? green depth, Field.ofMask? blue depth,
      Field.ofMask? alpha depth with
  | some r, some g, some b, some a =>
    if r.width = 0 || g.width = 0 || b.width = 0 then .error (.malformed "a mask is missing")
    else .ok ⟨r, g, b, if a.width = 0 then none else some a⟩
  | _, _, _, _ => .error (.malformed "a mask is no field")

-- A newer header; `bs` are the bytes behind its size.
def readNewHeader (headerBytes : Nat) (whole bs : Bytes) : Except Fault (Taken Header) := do
  let (w, bs) ← takeNumber .lowFirst 4 bs
  let (h, bs) ← takeNumber .lowFirst 4 bs
  let width := signed w
  let height := signed h
  if width < 0 then .error (.malformed "negative width")
  else if largestSide < width || largestSide < height then .error (.malformed "the picture is too large")
  else if height = -(Nat.pow 2 31) then .error (.malformed "unknown height")
  else
    let (planes, bs) ← takeNumber .lowFirst 2 bs
    if planes ≠ 1 then .error (.malformed "more than one plane")
    else
      let (depth, bs) ← takeNumber .lowFirst 2 bs
      let (method, bs) ← takeNumber .lowFirst 4 bs
      let topDown : Bool := height < 0
      if topDown && method ≠ 0 && method ≠ 3 then .error (.malformed "packed rows from the top")
      else
        let coding ← codingOf method depth
        let (_, bs) ← take 12 bs
        let (used, bs) ← takeNumber .lowFirst 4 bs
        let (_, bs) ← take 4 bs
        let header : Header :=
          { width := width.natAbs, height := height.natAbs, topDown, depth, coding }
        let behind := whole.drop headerBytes
        match coding with
        | .fields _ =>
          if method = 3 then
            let fields ← readFields headerBytes depth bs
            -- masks behind the oldest of these headers are no part of it
            .ok ({ header with coding := .fields fields, hasAlpha := fields.alpha.isSome },
              if headerBytes = 40 then behind.drop 12 else behind)
          else .ok (header, behind)
        | _ =>
          let (palette, bs) ← takePalette depth used 4 behind
          .ok ({ header with palette := palette }, bs)

def readHeader (bs : Bytes) : Except Fault (Taken Header) := do
  let (size, rest) ← takeNumber .lowFirst 4 bs
  if size = 12 then readOldHeader rest
  else if size ∈ [40, 52, 56, 108, 124] then readNewHeader size bs rest
  else if size < 12 then .error (.malformed "the header is too small")
  else .error (.unsupported "header")

/-! ### Pixels -/

-- The pixels of a row of colors in a palette.
def numberedRow (h : Header) (row : Array UInt8) : Bytes :=
  let perByte := 8 / h.depth
  (List.range h.width).flatMap fun x =>
    let byte := (row.getD (x / perByte) 0).toNat
    h.palette.getD (byte / Nat.pow 2 (8 - h.depth * (x % perByte + 1)) % Nat.pow 2 h.depth) []

def fieldsRow (h : Header) (f : Fields) (row : Array UInt8) : Bytes :=
  let step := h.depth / 8
  (List.range h.width).flatMap fun x =>
    f.bytes (ByteOrder.lowFirst.value ((List.range step).map fun k => row.getD (step * x + k) 0))

-- The rows of pixels in the order in which they come.
def plainRows (h : Header) (bs : Bytes) : Except Fault (List Bytes) := do
  let (data, _) ← take (h.rowBytes * h.height) bs
  let data := data.toArray
  .ok ((List.range h.height).map fun y =>
    let row := data.extract (h.rowBytes * y) (h.rowBytes * (y + 1))
    match h.coding with
    | .fields f => fieldsRow h f row
    | _ => numberedRow h row)

/-! ### Runs -/

def blank : Bytes :=
  [0, 0, 0, 0]

def corruptRuns : Fault :=
  .malformed "corrupt runs"

-- Rows that are filled from runs: those that are complete, last one first, and the one that is
-- being filled, last pixel first.
structure Filling where
  done : List (List Bytes) := []
  row  : List Bytes := []

namespace Filling

-- Completes the row with blank pixels.
def endRow (f : Filling) (width : Nat) : Filling :=
  ⟨(List.replicate (width - f.row.length) blank ++ f.row) :: f.done, []⟩

-- Puts pixels into the row.
def add (f : Filling) (width : Nat) (pixels : List Bytes) : Except Fault Filling :=
  if width < f.row.length + pixels.length then .error corruptRuns
  else .ok { f with row := pixels.reverse ++ f.row }

-- Goes right and to later rows; what is passed over stays blank.
def skip (f : Filling) (width height right down : Nat) : Except Fault Filling :=
  if down = 0 then f.add width (List.replicate right blank)
  else
    let x := f.row.length
    let f := (List.range down).foldl (fun f _ => f.endRow width) f
    if height ≤ f.done.length then .error corruptRuns
    else f.add width (List.replicate (x + right) blank)

end Filling

-- The color numbers of `count` pixels, of eight or four bits.
def numbersIn (depth count : Nat) (bs : Bytes) : List Nat :=
  if depth = 8 then (bs.take count).map (·.toNat)
  else (bs.flatMap fun b => [b.toNat / 16, b.toNat % 16]).take count

-- Fills rows from runs until all are complete or the picture ends.
def runRows (h : Header) : (fuel : Nat) → Filling → Bytes → Except Fault Filling
  | 0, f, _ => .ok f
  | fuel + 1, f, bs =>
    let colors (ns : List Nat) := ns.map fun n => h.palette.getD n []
    if h.height ≤ f.done.length then .ok f
    else match bs with
      | 0 :: 0 :: bs => runRows h fuel (f.endRow h.width) bs
      | 0 :: 1 :: _ =>
        .ok ((List.range (h.height - f.done.length)).foldl (fun f _ => f.endRow h.width) f)
      | 0 :: 2 :: right :: down :: bs => do
        let f ← f.skip h.width h.height right.toNat down.toNat
        runRows h fuel f bs
      | 0 :: count :: bs =>
        if count = 2 then .error .ended
        else do
          let bytes := if h.depth = 8 then count.toNat else (count.toNat + 1) / 2
          -- numbers fill whole pairs of bytes
          let (data, bs) ← take (bytes + bytes % 2) bs
          let f ← f.add h.width (colors (numbersIn h.depth count.toNat data))
          runRows h fuel f bs
      | count :: b :: bs => do
        let ns := numbersIn h.depth count.toNat (List.replicate count.toNat b)
        let f ← f.add h.width (colors ns)
        runRows h fuel f bs
      | _ => .error .ended

/-! ### The whole picture -/

-- The rows of pixels, each of four samples, from the top.
def rows (h : Header) (bs : Bytes) : Except Fault (List Bytes) := do
  match h.coding with
  | .runs =>
    let f ← runRows h (bs.length + 1) {} bs
    .ok (f.done.map fun row => row.reverse.flatten)
  | _ =>
    let rows ← plainRows h bs
    .ok (if h.topDown then rows else rows.reverse)

def raster (h : Header) (rows : List Bytes) : Raster :=
  let picture := Raster.ofSamples h.width h.height .rgba rows.flatten.toArray
  if h.hasAlpha then picture else { picture with alpha := none }

def decode (bs : Bytes) : Except Fault Raster := do
  let (_, rest) ← take 10 bs
  let (start, rest) ← takeNumber .lowFirst 4 rest
  let (h, _) ← readHeader rest
  checkSize h.width h.height (if h.hasAlpha then 4 else 3)
  let rows ← rows h (bs.drop start)
  .ok (raster h rows)

end Bmp
end Picture
end AccessReport
