import AccessReport.Picture.Source

/-!
Pixels of four bytes, and the changes that pictures are put through before they are packed: each
block of a picture is given by what foretells its pixels, or by how their colors depend on each
other, and few colors are numbered.
-/

namespace AccessReport
namespace Picture
namespace Webp

structure Pixel where
  a : UInt8 := 0
  r : UInt8 := 0
  g : UInt8 := 0
  b : UInt8 := 0
deriving DecidableEq, Inhabited, Repr

namespace Pixel

def black : Pixel :=
  { a := 255 }

def bytes (p : Pixel) : Bytes :=
  [p.r, p.g, p.b, p.a]

def number (p : Pixel) : Nat :=
  ((p.a.toNat * 256 + p.r.toNat) * 256 + p.g.toNat) * 256 + p.b.toNat

-- The two bytes in the middle as one number.
def middle (p : Pixel) : Nat :=
  p.r.toNat * 256 + p.g.toNat

def map₂ (f : UInt8 → UInt8 → UInt8) (p q : Pixel) : Pixel :=
  ⟨f p.a q.a, f p.r q.r, f p.g q.g, f p.b q.b⟩

def add (p q : Pixel) : Pixel :=
  map₂ (· + ·) p q

def mean (p q : Pixel) : Pixel :=
  map₂ (fun a b => UInt8.ofNat ((a.toNat + b.toNat) / 2)) p q

-- How far two pixels are apart, over all samples.
def distance (p q : Pixel) : Nat :=
  let apart (a b : UInt8) : Nat := ((a.toNat : Int) - b.toNat).natAbs
  apart p.a q.a + apart p.r q.r + apart p.g q.g + apart p.b q.b

end Pixel

-- The number as a byte, or the nearest one.
def clamp (n : Int) : UInt8 :=
  UInt8.ofNat (min n.toNat 255)

structure Neighbors where
  left     : Pixel
  top      : Pixel
  topLeft  : Pixel
  topRight : Pixel

namespace Neighbors

-- Follows the plane through the three neighbors.
def plane (l t tl : UInt8) : UInt8 :=
  clamp ((l.toNat : Int) + t.toNat - tl.toNat)

-- Goes on by half of the step from one sample to another.
def halfStep (a b : UInt8) : UInt8 :=
  clamp ((a.toNat : Int) + ((a.toNat : Int) - b.toNat).tdiv 2)

-- The neighbor to the left or above, whichever is nearer to the plane through all three.
def nearer (n : Neighbors) : Pixel :=
  -- the plane is as far from one of the two as the other is from the corner
  if n.top.distance n.topLeft < n.left.distance n.topLeft then n.left else n.top

-- What a kind of foresight says of the pixel.
def foretold (n : Neighbors) : (kind : Nat) → Pixel
  | 1 => n.left
  | 2 => n.top
  | 3 => n.topRight
  | 4 => n.topLeft
  | 5 => (n.left.mean n.topRight).mean n.top
  | 6 => n.left.mean n.topLeft
  | 7 => n.left.mean n.top
  | 8 => n.topLeft.mean n.top
  | 9 => n.top.mean n.topRight
  | 10 => (n.left.mean n.topLeft).mean (n.top.mean n.topRight)
  | 11 => n.nearer
  | 12 =>
    let sample (f : Pixel → UInt8) : UInt8 := plane (f n.left) (f n.top) (f n.topLeft)
    ⟨sample (·.a), sample (·.r), sample (·.g), sample (·.b)⟩
  | 13 => Pixel.map₂ halfStep (n.left.mean n.top) n.topLeft
  | _ => .black

end Neighbors

-- A picture whose pixels hold something on the blocks of another one.
structure Blocks where
  -- how many times a block's width and height are two
  bits   : Nat
  width  : Nat
  pixels : Array Pixel

-- How many blocks a side has.
def Blocks.count (bits side : Nat) : Nat :=
  (side + Nat.pow 2 bits - 1) / Nat.pow 2 bits

def Blocks.at (b : Blocks) (x y : Nat) : Pixel :=
  b.pixels.getD ((y >>> b.bits) * b.width + (x >>> b.bits)) {}

inductive Change where
  | foretold (kinds : Blocks)
  | colors (factors : Blocks)
  | green
  | numbered (palette : Array Pixel)

namespace Change

-- How many times the number of pixels that are kept in one is two, for a number of colors.
def packing (colors : Nat) : Nat :=
  if colors ≤ 2 then 3 else if colors ≤ 4 then 2 else if colors ≤ 16 then 1 else 0

-- Adds to each pixel what its neighbors foretell.
def undoForetold (kinds : Blocks) (width : Nat) (pixels : Array Pixel) : Array Pixel :=
  (List.range pixels.size).foldl (fun done i =>
    let x := i % width
    let y := i / width
    let at' (back : Nat) : Pixel := done.getD (i - back) {}
    let foretold : Pixel :=
      if i = 0 then .black
      else if y = 0 then at' 1
      else if x = 0 then at' width
      else
        -- the right end of a row is followed by the start of the next one
        let n : Neighbors := ⟨at' 1, at' width, at' (width + 1), at' (width - 1)⟩
        n.foretold ((kinds.at x y).g.toNat % 16)
    done.push ((pixels.getD i {}).add foretold)) #[]

-- The byte as a number with a sign.
def signed (b : UInt8) : Int :=
  (b.toNat : Int).bmod 256

-- What a sample contributes to another one under a factor.
def share (factor sample : UInt8) : UInt8 :=
  UInt8.ofNat ((signed factor * signed sample).fdiv 32 % 256).toNat

def undoColors (factors : Blocks) (width : Nat) (pixels : Array Pixel) : Array Pixel :=
  pixels.mapIdx fun i p =>
    let f := factors.at (i % width) (i / width)
    let r := p.r + share f.b p.g
    { p with r := r, b := p.b + share f.g p.g + share f.r r }

def undoGreen (pixels : Array Pixel) : Array Pixel :=
  pixels.map fun p => { p with r := p.r + p.g, b := p.b + p.g }

-- Replaces numbers, of which several may be kept in one pixel, by their colors.
def undoNumbered (palette : Array Pixel) (width height : Nat) (pixels : Array Pixel) :
    Array Pixel :=
  let packing := packing palette.size
  let kept := Blocks.count packing width
  let bits := 8 / Nat.pow 2 packing
  ((List.range (width * height)).map fun i =>
    let x := i % width
    let y := i / width
    let byte := (pixels.getD (y * kept + (x >>> packing)) {}).g.toNat
    let number := (byte >>> (bits * (x % Nat.pow 2 packing))) % Nat.pow 2 bits
    palette.getD number {}).toArray

def undo (width height : Nat) : Change → Array Pixel → Array Pixel
  | foretold kinds, pixels => undoForetold kinds width pixels
  | colors factors, pixels => undoColors factors width pixels
  | green, pixels => undoGreen pixels
  | numbered palette, pixels => undoNumbered palette width height pixels

-- Changes of a kind are made at most once.
def isLike : Change → Change → Bool
  | foretold _, foretold _ | colors _, colors _ | green, green | numbered _, numbered _ => true
  | _, _ => false

end Change
end Webp
end Picture
end AccessReport
