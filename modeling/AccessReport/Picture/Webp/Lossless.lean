import AccessReport.Compression.Huffman
import AccessReport.Picture.Webp.Pixel

/-!
Pictures in which nothing is lost. Pixels are given by prefix codes for their samples, by copies of
earlier pixels, or by their place among earlier colors. The codes may change from block to block.
-/

namespace AccessReport
namespace Picture
namespace Webp

def broken : Fault :=
  .malformed "broken packed pixels"

-- Something that is read from bits.
abbrev Bitwise := StateT Bits (Except Fault)

def takeBits (width : Nat) : Bitwise Nat := do
  let bits ← get
  let taken := bits.take width
  if taken.length < width then throw broken
  set (bits.drop width)
  return Bits.toNat taken

def takeFlag : Bitwise Bool :=
  return (← takeBits 1) = 1

def takeSymbol (code : Huffman) : Bitwise Nat := do
  match code.decode (← get) with
  | .found s rest =>
    set rest
    return s
  | _ => throw broken

/-! ### Codes -/

-- The order in which the lengths of the words for lengths are given.
def lengthOrder : List Nat :=
  [17, 18, 0, 1, 2, 3, 4, 5, 16, 6, 7, 8, 9, 10, 11, 12, 13, 14, 15]

-- A code with given lengths of words. The only word of a code is empty.
def codeOf (lengths : List Nat) : Bitwise Huffman :=
  match lengths.zipIdx.filter (0 < ·.1) with
  | [(_, s)] => return .symbol s
  | [] => throw broken
  | _ => match Huffman.ofLengths? lengths with
    | some code => return code
    | none => throw broken

-- Reads the lengths of words, of which at most `left` are written, the last one first; some symbols
-- repeat a length.
def takeLengths (code : Huffman) (count : Nat) : (left last : Nat) → List Nat → Bitwise (List Nat)
  | 0, _, known => return known
  | left + 1, last, known => do
    if count ≤ known.length then return known
    let s ← takeSymbol code
    let repeated (width base length : Nat) : Bitwise (List Nat) := do
      let n := base + (← takeBits width)
      if count < known.length + n then throw broken
      takeLengths code count left last (List.replicate n length ++ known)
    if s < 16 then takeLengths code count left (if s = 0 then last else s) (s :: known)
    else if s = 16 then repeated 2 3 last
    else if s = 17 then repeated 3 3 0
    else repeated 7 11 0

def takeMany {β} (take : Bitwise β) : (count : Nat) → Bitwise (List β)
  | 0 => return []
  | count + 1 => return (← take) :: (← takeMany take count)

-- A code for `count` symbols: one or two symbols, or the lengths of all words.
def takeCode (count : Nat) : Bitwise Huffman := do
  if ← takeFlag then
    let two ← takeFlag
    let wide ← takeFlag
    let first ← takeBits (if wide then 8 else 1)
    if count ≤ first then throw broken
    if two then
      let second ← takeBits 8
      if count ≤ second then throw broken
      return .branch (.symbol first) (.symbol second)
    return .symbol first
  else
    let given ← takeMany (takeBits 3) (4 + (← takeBits 4))
    let known := lengthOrder.zip given
    let code ← codeOf ((List.range 19).map fun s => (known.lookup s).getD 0)
    let left ← if ← takeFlag then do
      let width := 2 + 2 * (← takeBits 3)
      pure (2 + (← takeBits width))
    else pure count
    let lengths ← takeLengths code count left 8 []
    codeOf (lengths.reverse ++ List.replicate (count - lengths.length) 0)

-- The codes for pixels. The first one also has the lengths of copies and places of colors.
structure Codes where
  green    : Huffman
  red      : Huffman
  blue     : Huffman
  alpha    : Huffman
  distance : Huffman

-- How many symbols stand for lengths of copies.
def copySymbols : Nat :=
  24

def distanceSymbols : Nat :=
  40

-- Codes for pixels when there are places for `places` colors.
def takeCodes (places : Nat) : Bitwise Codes := do
  let green ← takeCode (256 + copySymbols + places)
  let red ← takeCode 256
  let blue ← takeCode 256
  let alpha ← takeCode 256
  let distance ← takeCode distanceSymbols
  return { green, red, blue, alpha, distance }

/-! ### Copies -/

-- A number that is given by a symbol and some bits more.
def takeExtended (s : Nat) : Bitwise Nat := do
  if s < 4 then return s + 1
  let width := (s - 2) / 2
  return (2 + s % 2) * Nat.pow 2 width + (← takeBits width) + 1

-- Near pixels to copy from: how far they are to the left and above.
def nearby : List (Int × Nat) := [
  (0, 1), (1, 0), (1, 1), (-1, 1), (0, 2), (2, 0), (1, 2), (-1, 2), (2, 1), (-2, 1), (2, 2),
  (-2, 2), (0, 3), (3, 0), (1, 3), (-1, 3), (3, 1), (-3, 1), (2, 3), (-2, 3), (3, 2), (-3, 2),
  (0, 4), (4, 0), (1, 4), (-1, 4), (4, 1), (-4, 1), (3, 3), (-3, 3), (2, 4), (-2, 4), (4, 2),
  (-4, 2), (0, 5), (3, 4), (-3, 4), (4, 3), (-4, 3), (5, 0), (1, 5), (-1, 5), (5, 1), (-5, 1),
  (2, 5), (-2, 5), (5, 2), (-5, 2), (4, 4), (-4, 4), (3, 5), (-3, 5), (5, 3), (-5, 3), (0, 6),
  (6, 0), (1, 6), (-1, 6), (6, 1), (-6, 1), (2, 6), (-2, 6), (6, 2), (-6, 2), (4, 5), (-4, 5),
  (5, 4), (-5, 4), (3, 6), (-3, 6), (6, 3), (-6, 3), (0, 7), (7, 0), (1, 7), (-1, 7), (5, 5),
  (-5, 5), (7, 1), (-7, 1), (4, 6), (-4, 6), (6, 4), (-6, 4), (2, 7), (-2, 7), (7, 2), (-7, 2),
  (3, 7), (-3, 7), (7, 3), (-7, 3), (5, 6), (-5, 6), (6, 5), (-6, 5), (8, 0), (4, 7), (-4, 7),
  (7, 4), (-7, 4), (8, 1), (8, 2), (6, 6), (-6, 6), (8, 3), (5, 7), (-5, 7), (7, 5), (-7, 5),
  (8, 4), (6, 7), (-6, 7), (7, 6), (-7, 6), (8, 5), (7, 7), (-7, 7), (8, 6), (8, 7)]

-- How many pixels back a copy is from, in a picture of a width.
def distanceBack (width code : Nat) : Nat :=
  match nearby[code - 1]? with
  | some (left, above) => max (left + above * width).toNat 1
  | none => code - nearby.length

def copy (distance : Nat) : (length : Nat) → Array Pixel → Array Pixel
  | 0, done => done
  | length + 1, done => copy distance length (done.push (done.getD (done.size - distance) {}))

/-! ### Pixels -/

-- What packed pixels are read with.
structure Packing where
  width  : Nat
  height : Nat
  codes  : Array Codes
  -- which codes are used in which block, unless there is only one block
  blocks : Option Blocks
  -- how many times the number of places for colors is two
  places : Option Nat

namespace Packing

def size (k : Packing) : Nat :=
  k.width * k.height

def codesAt (k : Packing) (i : Nat) : Option Codes :=
  let group := match k.blocks with
    | none => 0
    | some blocks => (blocks.at (i % k.width) (i / k.width)).middle
  k.codes[group]?

-- The place of a color.
def place (bits : Nat) (p : Pixel) : Nat :=
  0x1E35A7BD * p.number % Nat.pow 2 32 / Nat.pow 2 (32 - bits)

-- Puts pixels from `i` on at their places.
def seen (k : Packing) (i : Nat) (done : Array Pixel) (colors : Array Pixel) : Array Pixel :=
  match k.places with
  | none => colors
  | some bits =>
    (List.range (done.size - i)).foldl (fun colors j =>
      let p := done.getD (i + j) {}
      colors.setIfInBounds (place bits p) p) colors

def takePixels (k : Packing) : (fuel : Nat) → (colors done : Array Pixel) → Bitwise (Array Pixel)
  | 0, _, done => return done
  | fuel + 1, colors, done => do
    let i := done.size
    if k.size ≤ i then return done
    let some codes := k.codesAt i | throw broken
    let s ← takeSymbol codes.green
    let done ← if s < 256 then do
        let r ← takeSymbol codes.red
        let b ← takeSymbol codes.blue
        let a ← takeSymbol codes.alpha
        pure (done.push ⟨UInt8.ofNat a, UInt8.ofNat r, UInt8.ofNat s, UInt8.ofNat b⟩)
      else if s < 256 + copySymbols then do
        let length ← takeExtended (s - 256)
        let code ← takeExtended (← takeSymbol codes.distance)
        let distance := distanceBack k.width code
        if i < distance || k.size - i < length then throw broken
        pure (copy distance length done)
      else do
        let some p := colors[s - 256 - copySymbols]? | throw broken
        pure (done.push p)
    k.takePixels fuel (k.seen i done colors) done

end Packing

def takePlaces : Bitwise (Option Nat) := do
  if ← takeFlag then
    let bits ← takeBits 4
    if bits < 1 || 11 < bits then throw broken
    return some bits
  return none

-- Reads pixels, whose codes are either the same everywhere or those of their blocks.
def takePacked (width height : Nat) (places : Option Nat) (blocks : Option Blocks) :
    Bitwise (Array Pixel) := do
  let groups := match blocks with
    | none => 1
    | some blocks => blocks.pixels.foldl (fun n p => max n (p.middle + 1)) 1
  let count := places.elim 0 (Nat.pow 2 ·)
  let codes ← takeMany (takeCodes count) groups
  let k : Packing := ⟨width, height, codes.toArray, blocks, places⟩
  k.takePixels k.size (Array.replicate count {}) #[]

-- Reads a picture that belongs to another one.
def takeAside (width height : Nat) : Bitwise (Array Pixel) := do
  let places ← takePlaces
  takePacked width height places none

-- Reads what is held on the blocks of a picture.
def takeBlocks (width height : Nat) : Bitwise Blocks := do
  let bits := 2 + (← takeBits 3)
  let across := Blocks.count bits width
  return ⟨bits, across, ← takeAside across (Blocks.count bits height)⟩

-- A palette holds by how much each color differs from the one before.
def takePalette : Bitwise (Array Pixel) := do
  let colors ← takeAside (1 + (← takeBits 8)) 1
  return (colors.foldl (fun (last, done) p =>
    let p := p.add last
    (p, done.push p)) (({} : Pixel), #[])).2

-- Reads how the picture was changed, the last change first, and how wide it is after that.
def takeChanges (height : Nat) : (fuel width : Nat) → List (Change × Nat) →
    Bitwise (List (Change × Nat) × Nat)
  | 0, width, done => return (done, width)
  | fuel + 1, width, done => do
    if !(← takeFlag) then return (done, width)
    let change ← match ← takeBits 2 with
      | 0 => Change.foretold <$> takeBlocks width height
      | 1 => Change.colors <$> takeBlocks width height
      | 2 => pure Change.green
      | _ => Change.numbered <$> takePalette
    if done.any (·.1.isLike change) then throw broken
    let packed := match change with
      | .numbered palette => Blocks.count (Change.packing palette.size) width
      | _ => width
    takeChanges height fuel packed ((change, width) :: done)

-- How many kinds of changes there are; one more would be made twice.
def changeKinds : Nat :=
  4

def takePicture (width height : Nat) : Bitwise (Array Pixel) := do
  let (changes, packed) ← takeChanges height (changeKinds + 1) width []
  let places ← takePlaces
  let blocks ← if ← takeFlag then some <$> takeBlocks packed height else pure none
  let pixels ← takePacked packed height places blocks
  return changes.foldl (fun pixels (change, width) => change.undo width height pixels) pixels

def takeLossless : Bitwise Raster := do
  let width := 1 + (← takeBits 14)
  let height := 1 + (← takeBits 14)
  let _ ← takeFlag
  let version ← takeBits 3
  if version ≠ 0 then throw broken
  let pixels ← takePicture width height
  let samples := pixels.toList.flatMap (·.bytes)
  return .ofSamples width height .rgba samples.toArray

-- The byte that such pictures begin with.
def losslessMark : UInt8 :=
  0x2F

def decodeLossless : Bytes → Except Fault Raster
  | [] => .error .ended
  | mark :: bs =>
    if mark = losslessMark then (takeLossless.run (Bits.ofBytes bs)).map (·.1)
    else .error broken

end Webp
end Picture
end AccessReport
