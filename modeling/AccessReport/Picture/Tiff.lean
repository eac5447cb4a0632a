import AccessReport.Compression.Lzw
import AccessReport.Picture.Source

/-!
Pictures described by a table of tagged values, with their rows in strips or in tiles.
-/

namespace AccessReport
namespace Picture
namespace Tiff

def signatures : List (Bytes × ByteOrder) :=
  [([0x4D, 0x4D, 0, 0x2A], .highFirst), ([0x49, 0x49, 0x2A, 0], .lowFirst)]

/-! ### Tagged values -/

structure Entry where
  tag   : Nat
  type  : Nat
  count : Nat
  -- the values, or where they are
  field : Bytes

-- How many bytes a whole number of a type takes.
def widthOf? : (type : Nat) → Option Nat
  | 1 => some 1
  | 3 => some 2
  | 4 => some 4
  | _ => none

structure Directory where
  order   : ByteOrder
  file    : Bytes
  entries : List Entry

namespace Directory

def numbers? (d : Directory) (tag : Nat) : Except Fault (Option (List Nat)) :=
  match d.entries.find? (·.tag = tag) with
  | none => .ok none
  | some e =>
    match widthOf? e.type with
    | none => .error (.malformed "a value of a wrong type")
    | some width => do
      let (bytes, _) ← if width * e.count ≤ 4 then take (width * e.count) e.field
        else take (width * e.count) (d.file.drop (d.order.value e.field))
      let bytes := bytes.toArray
      .ok (some ((List.range e.count).map fun i =>
        d.order.value ((List.range width).map fun k => bytes.getD (width * i + k) 0)))

def number? (d : Directory) (tag : Nat) : Except Fault (Option Nat) := do
  let ns ← d.numbers? tag
  .ok (ns.bind (·.head?))

def require (d : Directory) (tag : Nat) : Except Fault Nat := do
  match ← d.number? tag with
  | some n => .ok n
  | none => .error (.malformed "a value is missing")

def withDefault (d : Directory) (tag default : Nat) : Except Fault Nat := do
  let n ← d.number? tag
  .ok (n.getD default)

end Directory

def takeEntries (order : ByteOrder) : (count : Nat) → Bytes → Except Fault (List Entry)
  | 0, _ => .ok []
  | count + 1, bs => do
    let (tag, bs) ← takeNumber order 2 bs
    let (type, bs) ← takeNumber order 2 bs
    let (n, bs) ← takeNumber order 4 bs
    let (field, bs) ← take 4 bs
    let es ← takeEntries order count bs
    .ok (⟨tag, type, n, field⟩ :: es)

-- The table of the first picture in a file.
def readDirectory (order : ByteOrder) (file : Bytes) : Except Fault Directory := do
  let (offset, _) ← takeNumber order 4 (file.drop 4)
  let (count, bs) ← takeNumber order 2 (file.drop offset)
  let entries ← takeEntries order count bs
  let _ ← takeNumber order 4 (bs.drop (12 * count))
  .ok ⟨order, file, entries⟩

/-! ### Layout -/

inductive Packing where
  | none
  | words
  | deflated
  | runs
deriving DecidableEq

-- What a picture is made of: strips and tiles are blocks.
structure Layout where
  order        : ByteOrder
  width        : Nat
  height       : Nat
  channels     : Channels
  -- whether zero stands for white
  inverted     : Bool
  -- the bytes of a sample
  sampleBytes  : Nat
  packing      : Packing
  -- whether samples are differences from those before them
  differences  : Bool
  blockWidth   : Nat
  blockHeight  : Nat
  offsets      : List Nat
  lengths      : List Nat

namespace Layout

def blocksAcross (l : Layout) : Nat :=
  (l.width + l.blockWidth - 1) / l.blockWidth

def blocksDown (l : Layout) : Nat :=
  (l.height + l.blockHeight - 1) / l.blockHeight

def rowBytes (l : Layout) : Nat :=
  l.blockWidth * l.channels.count * l.sampleBytes

end Layout

def packingOf : Nat → Except Fault Packing
  | 1 => .ok .none
  | 5 => .ok .words
  | 8 | 32946 => .ok .deflated
  | 32773 => .ok .runs
  | _ => .error (.unsupported "method of packing")

-- The samples of a pixel, and whether zero stands for white.
def channelsOf (interpretation samples : Nat) : Except Fault (Channels × Bool) :=
  match interpretation, samples with
  | 0, 1 => .ok (.gray, true)
  | 1, 1 => .ok (.gray, false)
  | 2, 3 => .ok (.rgb, false)
  | 2, 4 => .ok (.rgba, false)
  | _, _ => .error (.unsupported "interpretation of samples")

def readLayout (d : Directory) : Except Fault Layout := do
  let width ← d.require 256
  let height ← d.require 257
  if width = 0 || height = 0 then .error (.malformed "no pixels")
  else
    let interpretation ← d.require 262
    let packing ← packingOf (← d.withDefault 259 1)
    let samples ← d.withDefault 277 1
    let depths := (← d.numbers? 258).getD [1]
    let formats := (← d.numbers? 339).getD [1]
    let predictor ← d.withDefault 317 1
    let planes ← d.withDefault 284 1
    let (channels, inverted) ← channelsOf interpretation samples
    let depth := depths.headD 1
    if depths.any (· ≠ depth) || (depth ≠ 8 && depth ≠ 16) || formats.any (· ≠ 1) || planes ≠ 1 then
      .error (.unsupported "layout of samples")
    else if predictor ≠ 1 && predictor ≠ 2 then .error (.unsupported "kind of differences")
    else
      let layout : Layout := {
        order := d.order
        width, height, channels, inverted, packing
        sampleBytes := depth / 8
        differences := predictor = 2
        blockWidth := width
        blockHeight := height
        offsets := []
        lengths := [] }
      match ← d.numbers? 324 with
      | some offsets =>
        let blockWidth ← d.require 322
        let blockHeight ← d.require 323
        let lengths := (← d.numbers? 325).getD []
        if blockWidth = 0 || blockHeight = 0 then .error (.malformed "empty tiles")
        else .ok { layout with blockWidth, blockHeight, offsets, lengths }
      | none =>
        let rows ← d.withDefault 278 height
        match ← d.numbers? 273, ← d.numbers? 279 with
        | some offsets, some lengths =>
          if rows = 0 then .error (.malformed "empty strips")
          else .ok { layout with blockHeight := min rows height, offsets, lengths }
        | _, _ => .error (.malformed "no strips")

/-! ### Pixels -/

-- Unpacks bytes that repeat and bytes that do not, as far as they go.
def unpackRuns : (fuel : Nat) → (done : List Bytes) → Bytes → Bytes
  | 0, done, _ => done.reverse.flatten
  | fuel + 1, done, bs =>
    match bs with
    | [] => done.reverse.flatten
    | n :: bs =>
      if n < 128 then
        unpackRuns fuel (bs.take (n.toNat + 1) :: done) (bs.drop (n.toNat + 1))
      else if n = 128 then unpackRuns fuel done bs
      else
        match bs with
        | b :: bs => unpackRuns fuel (List.replicate (257 - n.toNat) b :: done) bs
        | [] => done.reverse.flatten

-- The first `needed` bytes of a block.
def unpack (p : Packing) (needed length : Nat) (bs : Bytes) : Except Fault Bytes :=
  let packed := bs.take length
  match p with
  | .none => (take needed bs).map (·.1)
  | .words => (take needed (Lzw.decompress ⟨8, true, true⟩ packed).1).map (·.1)
  | .runs => (take needed (unpackRuns (packed.length + 1) [] packed)).map (·.1)
  | .deflated =>
    match Zlib.decompress bs with
    | .ok out => (take needed out).map (·.1)
    | .error (.ended, out) => (take needed out.toList).map (·.1)
    | .error (.corrupt, out) =>
      if needed ≤ out.size then .ok (out.toList.take needed) else .error (.malformed "corrupt rows")

-- Samples of a row, each the sum of the differences up to it.
def addUp (channels modulus : Nat) (row : Array Nat) : Array Nat :=
  (List.range row.size).foldl (fun row i =>
    if i < channels then row
    else row.setIfInBounds i ((row.getD i 0 + row.getD (i - channels) 0) % modulus)) row

-- The samples of a row of a block as numbers.
def rowSamples (l : Layout) (row : Bytes) : Array Nat :=
  let samples := if l.sampleBytes = 1 then (row.map (·.toNat)).toArray else pairs l.order row
  let samples := if l.differences then addUp l.channels.count (Nat.pow 256 l.sampleBytes) samples
    else samples
  if l.inverted then samples.map (Nat.pow 256 l.sampleBytes - 1 - ·) else samples

-- Puts the samples of the block number `i` where they belong.
def placeBlock (l : Layout) (i : Nat) (block : Bytes) (picture : Array Nat) : Array Nat :=
  let n := l.channels.count
  let left := i % l.blocksAcross * l.blockWidth
  let top := i / l.blocksAcross * l.blockHeight
  let block := block.toArray
  (List.range (min l.blockHeight (l.height - top))).foldl (fun picture y =>
    let row := rowSamples l (block.extract (l.rowBytes * y) (l.rowBytes * (y + 1))).toList
    (List.range (min l.blockWidth (l.width - left) * n)).foldl (fun picture x =>
      picture.setIfInBounds (((top + y) * l.width + left) * n + x) (row.getD x 0)) picture) picture

def readBlocks (l : Layout) (tiled : Bool) (file : Bytes) : (left i : Nat) → Array Nat →
    Except Fault (Array Nat)
  | 0, _, picture => .ok picture
  | left + 1, i, picture =>
    match l.offsets[i]?, l.lengths[i]? with
    | some offset, some length => do
      -- the last strip ends with the picture
      let rows := if tiled then l.blockHeight else min l.blockHeight (l.height - i * l.blockHeight)
      let block ← unpack l.packing (l.rowBytes * rows) length (file.drop offset)
      readBlocks l tiled file left (i + 1) (placeBlock l i block picture)
    | _, _ => .error (.malformed "a block is missing")

def decodeIn (order : ByteOrder) (file : Bytes) : Except Fault Raster := do
  let d ← readDirectory order file
  let l ← readLayout d
  checkSize l.width l.height (l.channels.count * l.sampleBytes)
  let tiled := d.entries.any (·.tag = 324)
  let empty := Array.replicate (l.width * l.height * l.channels.count) 0
  let samples ← readBlocks l tiled file (l.blocksAcross * l.blocksDown) 0 empty
  let bytes := if l.sampleBytes = 1 then samples.map UInt8.ofNat else samples.map narrow
  .ok (Raster.ofSamples l.width l.height l.channels bytes)

def decode (file : Bytes) : Except Fault Raster :=
  match signatures.find? fun (mark, _) => (Bytes.after? mark file).isSome with
  | some (_, order) => decodeIn order file
  | none => .error .unknownFormat

end Tiff
end Picture
end AccessReport
