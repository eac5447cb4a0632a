import AccessReport.Picture.Jpeg.Frame

/-!
Unpacking the coefficients of blocks. A scan gives all of a block's coefficients or some of them,
and those in full or but their highest bits, to which later scans add one bit each.
-/

namespace AccessReport
namespace Picture
namespace Jpeg

-- The coefficients of a block in the order of rows.
abbrev Block := Array Int

def Block.zero : Block :=
  Array.replicate 64 0

-- The coefficient that comes in place `i`.
def Block.at (b : Block) (i : Nat) : Int :=
  b.getD (zigzag.getD i 0) 0

def Block.put (b : Block) (i : Nat) (n : Int) : Block :=
  b.setIfInBounds (zigzag.getD i 0) n

def wrap (n : Int) : Int :=
  n.bmod (Nat.pow 2 16)

/-! ### Bits, of which there are as many zeros as wanted behind the last one -/

def takeBits (width : Nat) (bits : Bits) : Nat × Bits :=
  let taken := bits.take width
  (Bits.toNat (taken ++ List.replicate (width - taken.length) false).reverse, bits.drop width)

def longestWord : Nat :=
  16

def symbol (code : Huffman) (bits : Bits) : Except Fault (Nat × Bits) :=
  match code.decode bits with
  | .found s rest => .ok (s, rest)
  | .noWord => malformed "no word of the code"
  | .ended =>
    match code.decode (bits ++ List.replicate longestWord false) with
    | .found s _ => .ok (s, [])
    | _ => malformed "no word of the code"

-- A number of `width` bits; those with a first bit of zero stand for the negative ones.
def takeSigned (width : Nat) (bits : Bits) : Int × Bits :=
  let (n, bits) := takeBits width bits
  (if n < Nat.pow 2 (width - 1) then (n : Int) - Nat.pow 2 width + 1 else n, bits)

/-! ### Scans -/

-- What a scan gives of the blocks: the coefficients from `first` up to before `stop`, without their
-- lowest bits `low`; a refining scan adds the one bit above those.
structure Band where
  first    : Nat
  stop     : Nat
  refining : Bool
  low      : Nat

-- What carries over from block to block.
structure Carry where
  -- the last mean of each component
  means : Array Int := #[]
  -- how many blocks are to come without details
  run   : Nat := 0
  bits  : Bits

structure Codes where
  mean   : Option Huffman
  detail : Option Huffman

def code (c : Option Huffman) : Huffman :=
  c.getD .unused

-- The details of a block that has some, from place `i` on.
def takeDetails (band : Band) (detail : Huffman) : (fuel : Nat) → (i : Nat) → Block → Bits →
    Except Fault (Block × Nat × Bits)
  | 0, _, block, bits => .ok (block, 0, bits)
  | fuel + 1, i, block, bits =>
    if band.stop ≤ i then .ok (block, 0, bits)
    else do
      let (s, bits) ← symbol detail bits
      let (zeros, width) := (s / 16, s % 16)
      if width = 0 then
        if zeros = 15 then takeDetails band detail fuel (i + 16) block bits
        else
          let (more, bits) := takeBits zeros bits
          .ok (block, Nat.pow 2 zeros - 1 + more, bits)
      else if band.stop ≤ i + zeros then .ok (block, 0, bits)
      else
        let (n, bits) := takeSigned width bits
        let block := block.put (i + zeros) (wrap (n * Nat.pow 2 band.low))
        takeDetails band detail fuel (i + zeros + 1) block bits

-- A block of a scan that is the first one to give its coefficients.
def takeBlock (band : Band) (codes : Codes) (c : Nat) (carry : Carry) (block : Block) :
    Except Fault (Block × Carry) := do
  let (block, carry) ← if band.first = 0 then do
      let (width, bits) ← symbol (code codes.mean) carry.bits
      if 11 < width then malformed "a mean of too many bits"
      else
        let (n, bits) := if width = 0 then (0, bits) else takeSigned width bits
        let mean := wrap (carry.means.getD c 0 + n)
        let carry := { carry with means := carry.means.setIfInBounds c mean, bits := bits }
        .ok (block.put 0 (wrap (mean * Nat.pow 2 band.low)), carry)
    else .ok (block, carry)
  let first := max band.first 1
  if band.stop ≤ first then .ok (block, carry)
  else if 0 < carry.run then .ok (block, { carry with run := carry.run - 1 })
  else
    let (block, run, bits) ← takeDetails band (code codes.detail) 64 first block carry.bits
    .ok (block, { carry with run := run, bits := bits })

-- Adds a bit to each coefficient from place `i` on that is not zero, and stops at the zero behind
-- `zeros` others, or at the last place.
def refine (band : Band) : (fuel : Nat) → (i zeros : Nat) → Block → Bits → Nat × Block × Bits
  | 0, i, _, block, bits => (i, block, bits)
  | fuel + 1, i, zeros, block, bits =>
    if band.stop ≤ i then (band.stop - 1, block, bits)
    else
      let n := block.at i
      if n = 0 then
        if zeros = 0 then (i, block, bits) else refine band fuel (i + 1) (zeros - 1) block bits
      else
        let (more, bits) := takeBits 1 bits
        let bit : Int := Nat.pow 2 band.low
        let block := if more = 1 && n / bit % 2 = 0 then
            block.put i (if 0 < n then n + bit else n - bit)
          else block
        refine band fuel (i + 1) zeros block bits

def refineDetails (band : Band) (detail : Huffman) : (fuel : Nat) → (i : Nat) → Block → Bits →
    Except Fault (Block × Nat × Bits)
  | 0, _, block, bits => .ok (block, 0, bits)
  | fuel + 1, i, block, bits =>
    if band.stop ≤ i then .ok (block, 0, bits)
    else do
      let (s, bits) ← symbol detail bits
      let (zeros, width) := (s / 16, s % 16)
      if width = 0 then
        if zeros = 15 then
          let (i, block, bits) := refine band 64 i 15 block bits
          refineDetails band detail fuel (i + 1) block bits
        else
          let (more, bits) := takeBits zeros bits
          let (_, block, bits) := refine band 64 i 64 block bits
          .ok (block, Nat.pow 2 zeros - 1 + more, bits)
      else if width = 1 then
        let (positive, bits) := takeBits 1 bits
        let (i, block, bits) := refine band 64 i zeros block bits
        let block := block.put i (if positive = 1 then Nat.pow 2 band.low else -(Nat.pow 2 band.low))
        refineDetails band detail fuel (i + 1) block bits
      else malformed "more than one bit at a time"

-- A block of a scan that adds a bit to its coefficients.
def refineBlock (band : Band) (codes : Codes) (carry : Carry) (block : Block) :
    Except Fault (Block × Carry) := do
  if band.first = 0 then
    let (more, bits) := takeBits 1 carry.bits
    let n := block.at 0
    let bit : Int := Nat.pow 2 band.low
    let block := if more = 1 && n / bit % 2 = 0 then block.put 0 (n + bit) else block
    .ok (block, { carry with bits := bits })
  else if 0 < carry.run then
    let (_, block, bits) := refine band 64 band.first 64 block carry.bits
    .ok (block, { carry with run := carry.run - 1, bits := bits })
  else
    let (block, run, bits) ← refineDetails band (code codes.detail) 64 band.first block carry.bits
    .ok (block, { carry with run := run, bits := bits })

end Jpeg
end Picture
end AccessReport
