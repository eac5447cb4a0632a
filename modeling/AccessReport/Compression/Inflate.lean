import AccessReport.Compression.Huffman

/-!
Unpacking deflated data: stored blocks, and blocks of literals and of copies of what was unpacked
before, in the standard code or in a code of their own.
-/

namespace AccessReport
namespace Inflate

-- Why unpacking stopped early.
inductive Stop where
  | ended
  | corrupt
deriving DecidableEq, Repr

structure Progress where
  output : Array UInt8 := #[]
  bits   : Bits

-- A failed step keeps what was unpacked before it.
abbrev Stopped := Stop × Array UInt8

def Progress.stop {α} (p : Progress) (s : Stop) : Except Stopped α :=
  .error (s, p.output)

-- Takes a number of bits off, least significant first.
def Progress.take (p : Progress) (width : Nat) : Except Stopped (Nat × Progress) :=
  let bits := p.bits.take width
  if bits.length < width then p.stop .ended
  else .ok (Bits.toNat bits, { p with bits := p.bits.drop width })

def Progress.symbol (p : Progress) (code : Huffman) : Except Stopped (Nat × Progress) :=
  match code.decode p.bits with
  | .found s rest => .ok (s, { p with bits := rest })
  | .ended => p.stop .ended
  | .noWord => p.stop .corrupt

-- Lengths of copies: the least one, and how many bits are added to it.
def lengthBases : List (Nat × Nat) := [
  (3, 0), (4, 0), (5, 0), (6, 0), (7, 0), (8, 0), (9, 0), (10, 0), (11, 1), (13, 1), (15, 1),
  (17, 1), (19, 2), (23, 2), (27, 2), (31, 2), (35, 3), (43, 3), (51, 3), (59, 3), (67, 4), (83, 4),
  (99, 4), (115, 4), (131, 5), (163, 5), (195, 5), (227, 5), (258, 0)]

-- Distances of copies: the least one, and how many bits are added to it.
def distanceBases : List (Nat × Nat) := [
  (1, 0), (2, 0), (3, 0), (4, 0), (5, 1), (7, 1), (9, 2), (13, 2), (17, 3), (25, 3), (33, 4),
  (49, 4), (65, 5), (97, 5), (129, 6), (193, 6), (257, 7), (385, 7), (513, 8), (769, 8), (1025, 9),
  (1537, 9), (2049, 10), (3073, 10), (4097, 11), (6145, 11), (8193, 12), (12289, 12), (16385, 13),
  (24577, 13)]

def endOfBlock : Nat :=
  256

-- Appends a copy of what lies `distance` bytes back; the copy may run into itself.
def copy (distance : Nat) : (length : Nat) → Array UInt8 → Array UInt8
  | 0, out => out
  | length + 1, out => copy distance length (out.push (out.getD (out.size - distance) 0))

-- Reads a base by its symbol and the bits that are added to it.
def Progress.extended (p : Progress) (bases : List (Nat × Nat)) (s : Nat) :
    Except Stopped (Nat × Progress) :=
  match bases[s]? with
  | none => p.stop .corrupt
  | some (base, width) => (p.take width).map fun (n, p) => (base + n, p)

-- Unpacks the symbols of a block.
def block (literals distances : Huffman) : (fuel : Nat) → Progress → Except Stopped Progress
  | 0, p => p.stop .corrupt
  | fuel + 1, p => do
    let (s, p) ← p.symbol literals
    if s < endOfBlock then
      block literals distances fuel { p with output := p.output.push (UInt8.ofNat s) }
    else if s = endOfBlock then
      .ok p
    else
      let (length, p) ← p.extended lengthBases (s - endOfBlock - 1)
      let (s, p) ← p.symbol distances
      let (distance, p) ← p.extended distanceBases s
      if p.output.size < distance then p.stop .corrupt
      else block literals distances fuel { p with output := copy distance length p.output }

def standardLiteralLengths : List Nat :=
  List.replicate 144 8 ++ List.replicate 112 9 ++ List.replicate 24 7 ++ List.replicate 8 8

def standardDistanceLengths : List Nat :=
  List.replicate 32 5

-- The order in which the lengths of the words for lengths are given.
def lengthOrder : List Nat :=
  [16, 17, 18, 0, 8, 7, 9, 6, 10, 5, 11, 4, 12, 3, 13, 2, 14, 1, 15]

-- Reads lengths of words until there are `count`, the last one first; some symbols repeat a length.
def wordLengths (code : Huffman) (count : Nat) : (fuel : Nat) → List Nat → Progress →
    Except Stopped (List Nat × Progress)
  | 0, _, p => p.stop .corrupt
  | fuel + 1, known, p =>
    if count < known.length then p.stop .corrupt
    else if known.length = count then .ok (known.reverse, p)
    else do
      let (s, p) ← p.symbol code
      let repeated (width base length : Nat) := do
        let (n, p) ← p.take width
        wordLengths code count fuel (List.replicate (base + n) length ++ known) p
      if s < 16 then wordLengths code count fuel (s :: known) p
      else if s = 16 then
        match known with
        | [] => p.stop .corrupt
        | length :: _ => repeated 2 3 length
      else if s = 17 then repeated 3 3 0
      else repeated 7 11 0

def codeOf (p : Progress) (lengths : List Nat) : Except Stopped Huffman :=
  match Huffman.ofLengths? lengths with
  | some code => .ok code
  | none => p.stop .corrupt

-- Takes a list of numbers of three bits off.
def Progress.takeTriples : (count : Nat) → Progress → Except Stopped (List Nat × Progress)
  | 0, p => .ok ([], p)
  | count + 1, p => do
    let (n, p) ← p.take 3
    let (ns, p) ← p.takeTriples count
    .ok (n :: ns, p)

-- The codes that a block brings with it.
def ownCodes (p : Progress) : Except Stopped ((Huffman × Huffman) × Progress) := do
  let (literals, p) ← p.take 5
  let (distances, p) ← p.take 5
  let (triples, p) ← p.take 4
  let (lengths, p) ← p.takeTriples (triples + 4)
  let given := lengthOrder.zip lengths
  let code ← codeOf p ((List.range 19).map fun s => (given.lookup s).getD 0)
  let literals := literals + 257
  let count := literals + distances + 1
  let (all, p) ← wordLengths code count (count + 1) [] p
  let literalCode ← codeOf p (all.take literals)
  let distanceCode ← codeOf p (all.drop literals)
  .ok ((literalCode, distanceCode), p)

def stored (p : Progress) : Except Stopped Progress := do
  let p := { p with bits := p.bits.drop (p.bits.length % 8) }
  let (length, p) ← p.take 16
  let (complement, p) ← p.take 16
  if length + complement ≠ Nat.pow 2 16 - 1 then p.stop .corrupt
  else
    let bytes := Bits.toBytes (p.bits.take (8 * length))
    let p := { p with output := p.output ++ bytes.toArray, bits := p.bits.drop (8 * length) }
    if bytes.length < length then p.stop .ended else .ok p

-- Unpacks blocks up to the last one.
def blocks : (fuel : Nat) → Progress → Except Stopped Progress
  | 0, p => p.stop .corrupt
  | fuel + 1, p => do
    let (last, p) ← p.take 1
    let (kind, p) ← p.take 2
    let p ← match kind with
      | 0 => stored p
      | 1 => do
        let literals ← codeOf p standardLiteralLengths
        let distances ← codeOf p standardDistanceLengths
        block literals distances (p.bits.length + 1) p
      | 2 => do
        let ((literals, distances), p) ← ownCodes p
        block literals distances (p.bits.length + 1) p
      | _ => p.stop .corrupt
    if last = 1 then .ok p else blocks fuel p

def inflate (bs : Bytes) : Except Stopped (Array UInt8 × Bytes) := do
  let bits := Bits.ofBytes bs
  let p ← blocks (bits.length + 1) ⟨#[], bits⟩
  .ok (p.output, Bits.toBytes (p.bits.drop (p.bits.length % 8)))

end Inflate
end AccessReport
